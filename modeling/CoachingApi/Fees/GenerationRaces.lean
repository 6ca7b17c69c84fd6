import Mathlib.Data.List.Induction
import CoachingApi.Fees.PlanCoverage
import CoachingApi.Library.Runs

/-!
# Concurrent generations of one plan

Any number of generations of one plan take their steps in any order on one database. The
store answers an upsert in two steps: it looks for an invoice that matches, and inserts one
if there was none. The schema declares no unique index over the filter, so an insertion is
not refused when another call has stored such an invoice meanwhile. The invoices stay
single as long as no other call stores one of the same student, plan and label between the
two steps of an upsert, and where identities are drawn anew no longer.
-/

namespace CoachingApi

open TenantContextStore TenantPlugin FeesService WebhooksController Runs

/-- Where a generation stands: before its plan is read, before its students are, before or
within an upsert, or at its end. -/
inductive GenerationStep where
  | started
  | planned (plan : FeePlan)
  | seeking (plan : FeePlan) (pending : List (ObjectId × Installment)) (created : Nat)
  | writing (plan : FeePlan) (studentId : ObjectId) (inst : Installment) (status : InvoiceStatus)
      (matched : Bool) (pending : List (ObjectId × Installment)) (created : Nat)
  | returned (created : Nat)
  | threw (thrown : Thrown)

namespace GenerationRaces

/-- The find of an upsert: whether an invoice matches its filter. -/
def seekInvoice (ambient : Ambient) (plan : FeePlan) (studentId : ObjectId) (inst : Installment)
    (invoices : List FeeInvoice) : Except Thrown Bool :=
  match queryScope ambient "query" "FeeInvoice" with
  | .error message => .error (.error message)
  | .ok scope =>
    .ok (invoices.any (fun invoice => TenantModel.visible scope invoice &&
      decide (invoice.studentId = studentId ∧ invoice.feePlanId = plan.id ∧
        invoice.label = inst.label)))

/-- The insert of an upsert, when its find matched nothing. -/
def writeInvoice (ambient : Ambient) (generated : ObjectId) (status : InvoiceStatus)
    (plan : FeePlan) (studentId : ObjectId) (inst : Installment) (matched : Bool)
    (invoices : List FeeInvoice) : Except Thrown (Bool × List FeeInvoice) :=
  match queryScope ambient "query" "FeeInvoice" with
  | .error message => .error (.error message)
  | .ok scope =>
    if matched then .ok (false, invoices)
    else if invoices.any (fun invoice => decide (invoice.id = generated)) then
      .error .duplicateKey
    else
      .ok (true, invoices ++
        [{ id := generated, tenantId := scope.getD "", studentId := studentId,
           feePlanId := plan.id, label := inst.label, amountDue := inst.amount, amountPaid := 0,
           dueDate := inst.dueDate, status := status }])

/-- In a tenant's context the find tells whether an invoice has the key. -/
theorem seek_bound {ambient : Ambient} {tenantId : String} (bound : Bound ambient tenantId)
    (plan : FeePlan) (studentId : ObjectId) (inst : Installment) (invoices : List FeeInvoice) :
    seekInvoice ambient plan studentId inst invoices =
      .ok (decide ((tenantId, studentId, plan.id, inst.label) ∈
        invoices.map (fun invoice => invoice.terms.key))) := by
  simp only [seekInvoice, scope_bound bound]
  congr 1
  rw [Bool.eq_iff_iff, List.any_eq_true, decide_eq_true_iff, List.mem_map]
  simp only [TenantModel.visible, Bool.and_eq_true, decide_eq_true_eq, FeeInvoice.terms,
    InvoiceTerms.key, Prod.mk.injEq]
  exact Iff.rfl

/-- An upsert is its find and its insert at once. -/
theorem upsert_phases (ambient : Ambient) (generated : ObjectId) (now : Int) (plan : FeePlan)
    (studentId : ObjectId) (inst : Installment) (invoices : List FeeInvoice) :
    upsertInvoice ambient generated now plan studentId inst invoices =
      match seekInvoice ambient plan studentId inst invoices with
      | .error thrown => .error thrown
      | .ok matched =>
        writeInvoice ambient generated (computeInvoiceStatus inst.amount 0 inst.dueDate now) plan
          studentId inst matched invoices := by
  unfold upsertInvoice seekInvoice writeInvoice
  cases queryScope ambient "query" "FeeInvoice" with
  | error message => rfl
  | ok scope => rfl

/-- `generateInvoices` up to its next await. A step draws an identity and a clock reading. -/
def generationStep (ambient : Ambient) (planId : ObjectId) (request : GenerateInvoicesDto)
    (input : ObjectId × Int) (database : Database) : GenerationStep → Database × GenerationStep
  | .started =>
    match TenantModel.findById ambient planId database.plans with
    | .error thrown => (database, .threw thrown)
    | .ok none => (database, .threw (.notFound "Fee plan not found"))
    | .ok (some plan) =>
      if plan.installments.isEmpty then
        (database, .threw (.badRequest "Fee plan has no installments"))
      else (database, .planned plan)
  | .planned plan =>
    match generationStudents ambient plan request database with
    | .error thrown => (database, .threw thrown)
    | .ok studentIds => (database, .seeking plan (generationPairs plan studentIds) 0)
  | .seeking _ [] created => (database, .returned created)
  | .seeking plan ((studentId, inst) :: pending) created =>
    match seekInvoice ambient plan studentId inst database.invoices with
    | .error thrown => (database, .threw thrown)
    | .ok matched =>
      (database, .writing plan studentId inst
        (computeInvoiceStatus inst.amount 0 inst.dueDate input.2) matched pending created)
  | .writing plan studentId inst status matched pending created =>
    match writeInvoice ambient input.1 status plan studentId inst matched database.invoices with
    | .error thrown => (database, .threw thrown)
    | .ok (upserted, invoices) =>
      ({ database with invoices := invoices },
        .seeking plan pending (if upserted then created + 1 else created))
  | .returned created => (database, .returned created)
  | .threw thrown => (database, .threw thrown)

/-- One call on its own takes a step. -/
def alone (ambient : Ambient) (planId : ObjectId) (request : GenerateInvoicesDto)
    (state : Database × GenerationStep) (input : ObjectId × Int) : Database × GenerationStep :=
  generationStep ambient planId request input state.1 state.2

/-- Both steps of each upsert in turn. -/
def uninterrupted {ι : Type} (turns : List ι) : List ι := turns.flatMap (fun turn => [turn, turn])

section Alone

variable {ambient : Ambient} {planId : ObjectId} {request : GenerateInvoicesDto}

/-- A call that has thrown takes no further step. -/
theorem alone_threw (database : Database) (thrown : Thrown) (inputs : List (ObjectId × Int)) :
    run (alone ambient planId request) (database, .threw thrown) inputs =
      (database, .threw thrown) := by
  induction inputs with
  | nil => rfl
  | cons input rest inductionHypothesis => exact inductionHypothesis

/-- The upserts of a call on its own are the loop over students and installments.

Proof: by induction on the pairs that remain. -/
theorem alone_upserts (plan : FeePlan) (pairs : List (ObjectId × Installment))
    (draw : Nat → ObjectId × Int) (created : Nat) (database : Database) :
    run (alone ambient planId request) (database, .seeking plan pairs created)
        (uninterrupted ((List.range pairs.length).map draw)) =
      ({ database with
          invoices := (upsertInvoices ambient plan pairs draw created database.invoices).1 },
        match (upsertInvoices ambient plan pairs draw created database.invoices).2 with
        | .ok counted => .seeking plan [] counted
        | .error thrown => .threw thrown) := by
  induction pairs generalizing draw created database with
  | nil => rfl
  | cons pair pending inductionHypothesis =>
    obtain ⟨studentId, inst⟩ := pair
    rw [List.length_cons, List.range_succ_eq_map, List.map_cons, List.map_map, uninterrupted,
      List.flatMap_cons]
    have later := inductionHypothesis (fun i => draw (i + 1))
    simp only [uninterrupted] at later
    simp only [List.cons_append, List.nil_append, run_cons, alone, generationStep, upsertInvoices,
      upsert_phases]
    cases seekInvoice ambient plan studentId inst database.invoices with
    | error thrown => exact alone_threw _ _ _
    | ok matched =>
      simp only
      cases writeInvoice ambient (draw 0).1
          (computeInvoiceStatus inst.amount 0 inst.dueDate (draw 0).2) plan studentId inst matched
          database.invoices with
      | error thrown => exact alone_threw _ _ _
      | ok outcome => exact later _ { database with invoices := outcome.2 }

/-- A call on its own does what the whole generation does. -/
theorem alone_generates {plan : FeePlan} {studentIds : List ObjectId} {database : Database}
    (found : TenantModel.findById ambient planId database.plans = .ok (some plan))
    (divided : plan.installments ≠ [])
    (resolved : generationStudents ambient plan request database = .ok studentIds)
    (draw : Nat → ObjectId × Int) (first last : ObjectId × Int) :
    run (alone ambient planId request) (database, .started)
        (first :: first :: (uninterrupted ((List.range (generationPairs plan
          studentIds).length).map draw) ++ [last])) =
      ((generateInvoices ambient draw planId request database).1,
        match (generateInvoices ambient draw planId request database).2 with
        | .ok created => .returned created
        | .error thrown => .threw thrown) := by
  have filled : plan.installments.isEmpty = false := by simpa using divided
  simp only [run_cons, alone, generationStep, found, filled, resolved, Bool.false_eq_true, if_false]
  rw [run_append, alone_upserts]
  simp only [generateInvoices, found, filled, resolved, Bool.false_eq_true, if_false]
  rw [generationPairs]
  cases upsertInvoices ambient plan _ draw 0 database.invoices with
  | mk invoices outcome =>
    cases outcome with
    | error thrown => rfl
    | ok created => rfl

end Alone

/-- The key of the invoice that a step inserts. -/
def insertedKey (tenantId : String) (generated : ObjectId) (database : Database) :
    GenerationStep → Option (String × ObjectId × ObjectId × String)
  | .writing plan studentId inst _ false _ _ =>
    if database.invoices.any (fun invoice => decide (invoice.id = generated)) then none
    else some (tenantId, studentId, plan.id, inst.label)
  | _ => none

/-- A call that has read its plan read the one it was asked for. -/
def ForPlan (planId : ObjectId) : GenerationStep → Prop
  | .planned plan | .seeking plan .. | .writing plan .. => plan.id = planId
  | .started | .returned _ | .threw _ => True

section Steps

variable {ambient : Ambient} {tenantId : String} {planId : ObjectId} {request : GenerateInvoicesDto}
  {input : ObjectId × Int} {database : Database}

variable (planId request input database) in
/-- A step appends the invoice it inserts and keeps the rest. -/
theorem step_inserts (bound : Bound ambient tenantId) (step : GenerationStep) :
    ∃ added, (generationStep ambient planId request input database step).1.invoices =
        database.invoices ++ added ∧
      added.map (fun invoice => invoice.terms.key) =
        (insertedKey tenantId input.1 database step).toList := by
  cases step with
  | started =>
    refine ⟨[], ?_, rfl⟩
    simp only [generationStep]
    cases TenantModel.findById ambient planId database.plans with
    | error thrown => simp
    | ok found =>
      cases found with
      | none => simp
      | some plan =>
        simp only
        split <;> simp
  | planned plan =>
    refine ⟨[], ?_, rfl⟩
    simp only [generationStep]
    cases generationStudents ambient plan request database with
    | error thrown => simp
    | ok studentIds => simp
  | seeking plan pending created =>
    refine ⟨[], ?_, rfl⟩
    cases pending with
    | nil => simp [generationStep]
    | cons pair rest =>
      simp only [generationStep]
      cases seekInvoice ambient plan pair.1 pair.2 database.invoices with
      | error thrown => simp
      | ok matched => simp
  | writing plan studentId inst status matched pending created =>
    simp only [generationStep, writeInvoice, scope_bound bound]
    cases matched with
    | true => exact ⟨[], by simp, rfl⟩
    | false =>
      simp only [Bool.false_eq_true, if_false, insertedKey]
      by_cases used : database.invoices.any (fun invoice => decide (invoice.id = input.1)) = true
      · simp only [if_pos used]
        exact ⟨[], by simp, rfl⟩
      · simp only [if_neg used]
        exact ⟨_, rfl, rfl⟩
  | returned created => exact ⟨[], by simp [generationStep], rfl⟩
  | threw thrown => exact ⟨[], by simp [generationStep], rfl⟩

/-- A step keeps to the plan. -/
theorem step_for_plan (bound : Bound ambient tenantId) {step : GenerationStep}
    (forPlan : ForPlan planId step) :
    ForPlan planId (generationStep ambient planId request input database step).2 := by
  cases step with
  | started =>
    simp only [generationStep]
    cases found : TenantModel.findById ambient planId database.plans with
    | error thrown => trivial
    | ok result =>
      cases result with
      | none => trivial
      | some plan =>
        obtain ⟨_, _, same⟩ := TenantModel.find_one_owned bound found
        simp only
        cases plan.installments.isEmpty with
        | true => trivial
        | false =>
          have asked : plan.id = planId := of_decide_eq_true same
          exact asked
  | planned plan =>
    simp only [generationStep]
    cases generationStudents ambient plan request database with
    | error thrown => trivial
    | ok studentIds => exact forPlan
  | seeking plan pending created =>
    cases pending with
    | nil => trivial
    | cons pair rest =>
      simp only [generationStep]
      cases seekInvoice ambient plan pair.1 pair.2 database.invoices with
      | error thrown => trivial
      | ok matched => exact forPlan
  | writing plan studentId inst status matched pending created =>
    simp only [generationStep]
    cases writeInvoice ambient input.1 status plan studentId inst matched database.invoices with
    | error thrown => trivial
    | ok outcome => exact forPlan
  | returned created => trivial
  | threw thrown => trivial

/-- A call that comes to an insert has just looked for the invoice. -/
theorem writing_looked {plan : FeePlan} {studentId : ObjectId} {inst : Installment}
    {status : InvoiceStatus} {matched : Bool} {pending : List (ObjectId × Installment)}
    {created : Nat} {step : GenerationStep}
    (comes : (generationStep ambient planId request input database step).2 =
      .writing plan studentId inst status matched pending created) :
    step = .seeking plan ((studentId, inst) :: pending) created ∧
      seekInvoice ambient plan studentId inst database.invoices = .ok matched := by
  cases step with
  | started =>
    simp only [generationStep] at comes
    repeat' split at comes
    all_goals cases comes
  | planned read =>
    simp only [generationStep] at comes
    split at comes <;> cases comes
  | seeking read pairs counted =>
    cases pairs with
    | nil => cases comes
    | cons pair rest =>
      simp only [generationStep] at comes
      split at comes
      · cases comes
      · rename_i found looked
        cases comes
        exact ⟨rfl, looked⟩
  | writing read student listed computed found rest counted =>
    simp only [generationStep] at comes
    split at comes <;> cases comes
  | returned counted => cases comes
  | threw thrown => cases comes

/-- What a call inserts is the plan's. -/
theorem inserted_for_plan {step : GenerationStep} (forPlan : ForPlan planId step)
    {generated : ObjectId} {key : String × ObjectId × ObjectId × String}
    (inserted : insertedKey tenantId generated database step = some key) :
    ∃ studentId label, key = (tenantId, studentId, planId, label) := by
  unfold insertedKey at inserted
  split at inserted
  · rename_i plan studentId inst status pending created
    have same : plan.id = planId := forPlan
    split at inserted
    · simp at inserted
    · exact ⟨studentId, inst.label, by rw [← Option.some.inj inserted, same]⟩
  · simp at inserted

/-- A call is not between the two steps of an upsert, nor before it knows its students. -/
def Rests : GenerationStep → Prop
  | .planned _ | .writing .. => False
  | .started | .seeking .. | .returned _ | .threw _ => True

variable (planId request input database) in
/-- Two steps of a call in a row insert nothing that is there, and the call rests again.

Proof: by cases where the call rests. What an upsert writes its find has just missed. -/
theorem rests_twice (bound : Bound ambient tenantId) {step : GenerationStep} (rests : Rests step) :
    insertedKey tenantId input.1 database step = none ∧
    (∀ key, insertedKey tenantId input.1
        (generationStep ambient planId request input database step).1
        (generationStep ambient planId request input database step).2 = some key →
      key ∉ (generationStep ambient planId request input database step).1.invoices.map
        (fun invoice => invoice.terms.key)) ∧
    Rests (run (alone ambient planId request) (database, step) [input, input]).2 := by
  cases step with
  | planned plan => exact False.elim rests
  | writing plan studentId inst status matched pending created => exact False.elim rests
  | returned created => exact ⟨rfl, by simp [generationStep, insertedKey], trivial⟩
  | threw thrown => exact ⟨rfl, by simp [generationStep, insertedKey], trivial⟩
  | started =>
    refine ⟨rfl, ?_⟩
    simp only [run_cons, run_nil, alone, generationStep]
    cases TenantModel.findById ambient planId database.plans with
    | error thrown => simp [insertedKey, Rests]
    | ok result =>
      cases result with
      | none => simp [insertedKey, Rests]
      | some plan =>
        simp only
        split
        · simp [insertedKey, Rests]
        · simp only [insertedKey]
          cases generationStudents ambient plan request database with
          | error thrown => simp [Rests]
          | ok studentIds => simp [Rests]
  | seeking plan pending created =>
    refine ⟨rfl, ?_⟩
    cases pending with
    | nil => simp [alone, generationStep, insertedKey, Rests]
    | cons pair rest =>
      obtain ⟨studentId, inst⟩ := pair
      simp only [run_cons, run_nil, alone, generationStep, seek_bound bound]
      constructor
      · intro key inserted present
        cases matched : decide ((tenantId, studentId, plan.id, inst.label) ∈
            database.invoices.map (fun invoice => invoice.terms.key)) with
        | true =>
          rw [matched] at inserted
          simp [insertedKey] at inserted
        | false =>
          simp only [matched, insertedKey] at inserted
          split at inserted
          · simp at inserted
          · obtain rfl := Option.some.inj inserted
            exact of_decide_eq_false matched present
      · cases writeInvoice ambient input.1 _ plan studentId inst _ database.invoices with
        | error thrown => trivial
        | ok outcome => trivial

end Steps

/-- There is at most one invoice of the plan for each student and label. -/
def Single (tenantId : String) (planId : ObjectId) (invoices : List FeeInvoice) : Prop :=
  ∀ studentId label, (invoicesUnder (tenantId, studentId, planId, label) invoices).length ≤ 1

/-- The invoices under a key among those of two lists. -/
theorem under_append (key : String × ObjectId × ObjectId × String)
    (first second : List FeeInvoice) :
    invoicesUnder key (first ++ second) = invoicesUnder key first ++ invoicesUnder key second :=
  List.filter_append ..

/-- Nothing is under a key that no invoice has. -/
theorem under_nil {key : String × ObjectId × ObjectId × String} {invoices : List FeeInvoice} :
    invoicesUnder key invoices = [] ↔ key ∉ invoices.map (fun invoice => invoice.terms.key) := by
  simp [invoicesUnder, List.filter_eq_nil_iff]

/-- Invoices that are single were single before more were added. -/
theorem Single.before {tenantId : String} {planId : ObjectId} {invoices added : List FeeInvoice}
    (single : Single tenantId planId (invoices ++ added)) : Single tenantId planId invoices := by
  intro studentId label
  have bounded := single studentId label
  rw [under_append, List.length_append] at bounded
  omega

/-- An invoice more under a key of the plan keeps the invoices single exactly when there was
none under it. -/
theorem single_append {tenantId : String} {planId studentId : ObjectId} {label : String}
    {invoices : List FeeInvoice} {invoice : FeeInvoice}
    (single : Single tenantId planId invoices)
    (same : invoice.terms.key = (tenantId, studentId, planId, label)) :
    Single tenantId planId (invoices ++ [invoice]) ↔
      (tenantId, studentId, planId, label) ∉ invoices.map (fun stored => stored.terms.key) := by
  have own : invoicesUnder (tenantId, studentId, planId, label) [invoice] = [invoice] := by
    simp [invoicesUnder, same]
  constructor
  · intro still present
    have bounded := still studentId label
    rw [under_append, own, List.length_append, List.length_singleton] at bounded
    apply absurd present
    rw [← under_nil, ← List.length_eq_zero_iff]
    omega
  · intro absent other tag
    rw [under_append, List.length_append]
    by_cases equal : (tenantId, other, planId, tag) = (tenantId, studentId, planId, label)
    · rw [equal, under_nil.mpr absent, own]
      simp
    · have apart : invoicesUnder (tenantId, other, planId, tag) [invoice] = [] := by
        rw [under_nil, List.map_singleton, List.mem_singleton, same]
        exact equal
      rw [apart, List.length_nil, Nat.add_zero]
      exact single other tag

section Races

variable {π : Type} [DecidableEq π] (tenantId : String) (planId : ObjectId)
  (requests : π → GenerateInvoicesDto)

/-- One of the calls takes a step. -/
def act (call : π) (input : ObjectId × Int) (database : Database) (step : GenerationStep) :
    Database × GenerationStep :=
  generationStep (contextOf tenantId) planId (requests call) input database step

/-- Every call is about to start. -/
def opened (database : Database) : Configuration π Database GenerationStep :=
  ⟨database, fun _ => .started⟩

/-- The calls and the database after a schedule. -/
def reached (start : Database) (schedule : List (π × ObjectId × Int)) :
    Configuration π Database GenerationStep :=
  run (turn (act tenantId planId requests)) (opened start) schedule

/-- The condition on a schedule: between the find and the insert of an upsert, no other call
stores an invoice of that student, plan and label. What is stored under the key when the upsert
inserts is what was stored when it looked. -/
def Undisturbed (start : Database) (schedule : List (π × ObjectId × Int)) : Prop :=
  ∀ before call look between insert later plan studentId inst pending created,
    schedule = before ++ (call, look) :: between ++ (call, insert) :: later →
    (∀ input ∈ between, input.1 ≠ call) →
    (reached tenantId planId requests start before).locals call =
      .seeking plan ((studentId, inst) :: pending) created →
    invoicesUnder (tenantId, studentId, plan.id, inst.label)
        (reached tenantId planId requests start
          (before ++ (call, look) :: between)).shared.invoices =
      invoicesUnder (tenantId, studentId, plan.id, inst.label)
        (reached tenantId planId requests start before).shared.invoices

/-- A step draws an identity that no invoice has. -/
def Drawn (configuration : Configuration π Database GenerationStep)
    (turn : π × ObjectId × Int) : Prop :=
  ∀ invoice ∈ configuration.shared.invoices, invoice.id ≠ turn.2.1

/-- A step that inserts an invoice finds none stored for that student, plan and label. -/
def InTime (configuration : Configuration π Database GenerationStep)
    (turn : π × ObjectId × Int) : Prop :=
  ∀ key, insertedKey tenantId turn.2.1 configuration.shared (configuration.locals turn.1) =
      some key →
    key ∉ configuration.shared.invoices.map (fun invoice => invoice.terms.key)

variable {tenantId planId requests}

/-- Whether the identities of a run are drawn anew can be tested. -/
instance (configuration : Configuration π Database GenerationStep) (turn : π × ObjectId × Int) :
    Decidable (Drawn configuration turn) :=
  inferInstanceAs (Decidable (∀ invoice ∈ configuration.shared.invoices, invoice.id ≠ turn.2.1))

/-- One step keeps the invoices of the plan single exactly when it inserts in time. -/
theorem turn_single (bound : Bound (contextOf tenantId) tenantId)
    {configuration : Configuration π Database GenerationStep}
    (forPlan : ∀ call, ForPlan planId (configuration.locals call))
    (single : Single tenantId planId configuration.shared.invoices) (input : π × ObjectId × Int) :
    Single tenantId planId (turn (act tenantId planId requests) configuration input).shared.invoices ↔
      InTime tenantId configuration input := by
  obtain ⟨added, appended, keys⟩ := step_inserts planId (requests input.1) input.2
    configuration.shared bound (configuration.locals input.1)
  have result : (turn (act tenantId planId requests) configuration input).shared.invoices =
      configuration.shared.invoices ++ added := appended
  rw [result, InTime]
  cases inserted : insertedKey tenantId input.2.1 configuration.shared
      (configuration.locals input.1) with
  | none =>
    rw [inserted] at keys
    obtain rfl := List.map_eq_nil_iff.mp keys
    simpa using single
  | some key =>
    rw [inserted] at keys
    obtain ⟨invoice, rfl, same⟩ := List.map_eq_singleton_iff.mp keys
    obtain ⟨studentId, label, rfl⟩ := inserted_for_plan (forPlan input.1) inserted
    rw [single_append single same]
    constructor
    · rintro absent key ⟨rfl⟩
      exact absent
    · intro absent
      exact absent _ rfl

/-- Every call keeps to the plan after a step. -/
theorem turn_for_plan (bound : Bound (contextOf tenantId) tenantId)
    {configuration : Configuration π Database GenerationStep}
    (forPlan : ∀ call, ForPlan planId (configuration.locals call)) (input : π × ObjectId × Int)
    (call : π) :
    ForPlan planId
      ((turn (act tenantId planId requests) configuration input).locals call) := by
  by_cases acting : call = input.1
  · subst acting
    rw [turn_own (act tenantId planId requests) configuration input.1 input.2]
    exact step_for_plan bound (forPlan input.1)
  · rw [turn_other _ _ _ _ _ acting]
    exact forPlan call

variable (planId requests) in
/-- Runs append invoices. -/
theorem run_appends (bound : Bound (contextOf tenantId) tenantId)
    (configuration : Configuration π Database GenerationStep)
    (schedule : List (π × ObjectId × Int)) :
    ∃ added, (run (turn (act tenantId planId requests)) configuration schedule).shared.invoices =
      configuration.shared.invoices ++ added := by
  induction schedule generalizing configuration with
  | nil => exact ⟨[], (List.append_nil _).symm⟩
  | cons input rest inductionHypothesis =>
    obtain ⟨first, appended, _⟩ := step_inserts planId (requests input.1) input.2
      configuration.shared bound (configuration.locals input.1)
    have result : (turn (act tenantId planId requests) configuration input).shared.invoices =
        configuration.shared.invoices ++ first := appended
    obtain ⟨later, more⟩ :=
      inductionHypothesis (turn (act tenantId planId requests) configuration input)
    exact ⟨first ++ later, by rw [run_cons, more, result, List.append_assoc]⟩

/-- Invoices that are single after a run were single before it. -/
theorem Single.start (bound : Bound (contextOf tenantId) tenantId)
    {configuration : Configuration π Database GenerationStep}
    (schedule : List (π × ObjectId × Int))
    (single : Single tenantId planId
      (run (turn (act tenantId planId requests)) configuration schedule).shared.invoices) :
    Single tenantId planId configuration.shared.invoices := by
  obtain ⟨added, appended⟩ := run_appends planId requests bound configuration schedule
  rw [appended] at single
  exact single.before

/-- A run keeps the invoices of the plan single exactly when every insertion is in time.

Proof: by induction on the schedule. What was stored twice stays stored twice. -/
theorem run_single (bound : Bound (contextOf tenantId) tenantId)
    {configuration : Configuration π Database GenerationStep}
    (forPlan : ∀ call, ForPlan planId (configuration.locals call))
    (single : Single tenantId planId configuration.shared.invoices)
    (schedule : List (π × ObjectId × Int)) :
    Single tenantId planId
        (run (turn (act tenantId planId requests)) configuration schedule).shared.invoices ↔
      Along (turn (act tenantId planId requests)) (InTime tenantId) configuration schedule := by
  induction schedule generalizing configuration with
  | nil => exact ⟨fun _ => trivial, fun _ => single⟩
  | cons input rest inductionHypothesis =>
    rw [run_cons, Along, ← turn_single bound forPlan single input]
    constructor
    · intro final
      have next := Single.start bound rest final
      exact ⟨next, (inductionHypothesis (turn_for_plan bound forPlan input) next).mp final⟩
    · rintro ⟨next, later⟩
      exact (inductionHypothesis (turn_for_plan bound forPlan input) next).mpr later

/-- Upserts that no other step interrupts insert in time.

Proof: by induction on the turns, with every call at rest between them. -/
theorem uninterrupted_in_time (bound : Bound (contextOf tenantId) tenantId)
    {configuration : Configuration π Database GenerationStep}
    (rests : ∀ call, Rests (configuration.locals call)) (turns : List (π × ObjectId × Int)) :
    Along (turn (act tenantId planId requests)) (InTime tenantId) configuration
      (uninterrupted turns) := by
  induction turns generalizing configuration with
  | nil => trivial
  | cons input rest inductionHypothesis =>
    obtain ⟨nothing, inTime, still⟩ := rests_twice planId (requests input.1) input.2
      configuration.shared bound (rests input.1)
    refine ⟨?_, ?_, inductionHypothesis ?_⟩
    · intro key inserted
      rw [nothing] at inserted
      cases inserted
    · intro key inserted
      rw [turn_own (act tenantId planId requests) configuration input.1 input.2] at inserted
      exact inTime key inserted
    · intro call
      by_cases acting : call = input.1
      · subst acting
        rw [turn_own (act tenantId planId requests) _ input.1 input.2,
          turn_own (act tenantId planId requests) configuration input.1 input.2]
        exact still
      · rw [turn_other _ _ _ _ _ acting, turn_other _ _ _ _ _ acting]
        exact rests call

/-- A schedule after another goes on from where that one leads. -/
theorem reached_append (start : Database) (first second : List (π × ObjectId × Int)) :
    reached tenantId planId requests start (first ++ second) =
      run (turn (act tenantId planId requests)) (reached tenantId planId requests start first)
        second :=
  run_append _ _ first second

/-- Every call keeps to the plan. -/
theorem reached_for_plan (bound : Bound (contextOf tenantId) tenantId) (start : Database)
    (schedule : List (π × ObjectId × Int)) (call : π) :
    ForPlan planId ((reached tenantId planId requests start schedule).locals call) := by
  have started : ∀ call : π, ForPlan planId ((opened start).locals call) := fun _ => trivial
  exact run_invariant (fun configuration : Configuration π Database GenerationStep =>
      ∀ call, ForPlan planId (configuration.locals call))
    (fun _ input forPlan => turn_for_plan bound forPlan input) started schedule call

variable (tenantId planId requests) in
/-- A call that is about to insert looked for the invoice earlier in the schedule, and has taken
no step since.

Proof: by induction on the schedule, from its last step. -/
theorem find_before_insert {start : Database} {schedule : List (π × ObjectId × Int)} {call : π}
    {plan : FeePlan} {studentId : ObjectId} {inst : Installment} {status : InvoiceStatus}
    {matched : Bool} {pending : List (ObjectId × Installment)} {created : Nat}
    (stands : (reached tenantId planId requests start schedule).locals call =
      .writing plan studentId inst status matched pending created) :
    ∃ before look between, schedule = before ++ (call, look) :: between ∧
      (∀ input ∈ between, input.1 ≠ call) ∧
      (reached tenantId planId requests start before).locals call =
        .seeking plan ((studentId, inst) :: pending) created ∧
      seekInvoice (contextOf tenantId) plan studentId inst
        (reached tenantId planId requests start before).shared.invoices = .ok matched := by
  induction schedule using List.reverseRecOn with
  | nil => cases stands
  | append_singleton earlier last inductionHypothesis =>
    rw [reached, run_append, run_cons, run_nil] at stands
    by_cases acting : call = last.1
    · subst acting
      rw [turn_own (act tenantId planId requests) _ last.1 last.2] at stands
      obtain ⟨sought, looked⟩ := writing_looked stands
      exact ⟨earlier, last.2, [], rfl, by simp, sought, looked⟩
    · rw [turn_other (act tenantId planId requests) _ last.1 call last.2 acting] at stands
      obtain ⟨before, look, between, rfl, others, sought, looked⟩ := inductionHypothesis stands
      refine ⟨before, look, between ++ [last], by simp, ?_, sought, looked⟩
      intro input member
      rcases List.mem_append.mp member with old | new
      · exact others input old
      · rw [List.mem_singleton.mp new]
        exact Ne.symm acting

/-- Upserts that are not disturbed insert in time.

Proof: a call that inserts missed the invoice when it looked, and nothing came under the key
since. -/
theorem undisturbed_in_time (bound : Bound (contextOf tenantId) tenantId) {start : Database}
    {schedule : List (π × ObjectId × Int)}
    (undisturbed : Undisturbed tenantId planId requests start schedule) :
    Along (turn (act tenantId planId requests)) (InTime tenantId) (opened start) schedule := by
  rw [along_iff]
  rintro first ⟨call, insert⟩ later rfl key inserted
  cases stands : (reached tenantId planId requests start first).locals call with
  | writing plan studentId inst status matched pending created =>
    change insertedKey tenantId insert.1 _
      ((reached tenantId planId requests start first).locals call) = some key at inserted
    rw [stands] at inserted
    cases matched with
    | true => cases inserted
    | false =>
      obtain ⟨before, look, between, rfl, others, sought, looked⟩ :=
        find_before_insert tenantId planId requests stands
      have same := undisturbed before call look between insert later plan studentId inst pending
        created rfl others sought
      rw [seek_bound bound, Except.ok.injEq, decide_eq_false_iff_not] at looked
      rw [under_nil.mpr looked, under_nil] at same
      simp only [insertedKey] at inserted
      split at inserted
      · cases inserted
      · obtain rfl := Option.some.inj inserted
        exact same
  | _ =>
    change insertedKey tenantId insert.1 _
      ((reached tenantId planId requests start first).locals call) = some key at inserted
    rw [stands] at inserted
    cases inserted

/-- Where identities are drawn anew, an upsert of a schedule that leaves invoices single is not
disturbed.

Proof: where the find saw an invoice, another one would be a second one. Where it saw none the
upsert inserts one, in time, so none was stored in between. -/
theorem single_undisturbed (bound : Bound (contextOf tenantId) tenantId) {start : Database}
    {schedule : List (π × ObjectId × Int)}
    (opens : Single tenantId planId start.invoices)
    (drawn : Along (turn (act tenantId planId requests)) Drawn (opened start) schedule)
    (single : Single tenantId planId
      (reached tenantId planId requests start schedule).shared.invoices) :
    Undisturbed tenantId planId requests start schedule := by
  have started : ∀ call : π, ForPlan planId ((opened start).locals call) := fun _ => trivial
  have inTime := (run_single bound started opens schedule).mp single
  rintro before call look between insert later plan studentId inst pending created rfl others sought
  obtain ⟨added, grown⟩ := run_appends planId requests bound
    (reached tenantId planId requests start before) ((call, look) :: between)
  rw [← reached_append] at grown
  rw [grown, under_append]
  by_cases present : (tenantId, studentId, plan.id, inst.label) ∈
      (reached tenantId planId requests start before).shared.invoices.map
        (fun invoice => invoice.terms.key)
  · have read : ForPlan planId
        ((reached tenantId planId requests start before).locals call) :=
      reached_for_plan bound start before call
    rw [sought] at read
    have key : (tenantId, studentId, planId, inst.label) =
        (tenantId, studentId, plan.id, inst.label) := by rw [show plan.id = planId from read]
    rw [reached_append] at single
    have bounded := Single.start bound _ single studentId inst.label
    rw [key, grown, under_append, List.length_append] at bounded
    have some_ : (invoicesUnder (tenantId, studentId, plan.id, inst.label)
        (reached tenantId planId requests start before).shared.invoices).length ≠ 0 := by
      rw [ne_eq, List.length_eq_zero_iff, under_nil, not_not]
      exact present
    have none_ : invoicesUnder (tenantId, studentId, plan.id, inst.label) added = [] := by
      rw [← List.length_eq_zero_iff]
      omega
    rw [none_, List.append_nil]
  · have stands : ∃ status,
        (reached tenantId planId requests start (before ++ (call, look) :: between)).locals call =
          .writing plan studentId inst status false pending created := by
      rw [reached_append, run_cons, run_others (act tenantId planId requests) others,
        turn_own (act tenantId planId requests) _ call look, sought]
      simp only [act, generationStep, seek_bound bound, decide_eq_false present]
      exact ⟨_, rfl⟩
    obtain ⟨status, stands⟩ := stands
    have new := (along_iff _ _ _ _).mp drawn _ (call, insert) later rfl
    have insertion := (along_iff _ _ _ _).mp inTime _ (call, insert) later rfl
      (tenantId, studentId, plan.id, inst.label) (by
        change insertedKey tenantId insert.1 _
          ((reached tenantId planId requests start
            (before ++ (call, look) :: between)).locals call) = _
        rw [stands]
        refine if_neg ?_
        rw [List.any_eq_true]
        rintro ⟨invoice, stored, taken⟩
        exact new invoice stored (of_decide_eq_true taken))
    change _ ∉ (reached tenantId planId requests start
      (before ++ (call, look) :: between)).shared.invoices.map _ at insertion
    rw [grown, List.map_append, List.mem_append, not_or] at insertion
    rw [under_nil.mpr insertion.2, List.append_nil]

/-- Any number of generations of a plan, in any order of their steps, leave at most one invoice
for each student and label in every state reached, when no other call stores one between the find
and the insert of an upsert. Where identities are drawn anew they do so only then. They do when no
step of another call comes between the two; and the steps of a call on its own are what the
generation does.

Proof: an upsert that is not disturbed inserts in time, and invoices stay single exactly as long
as every insertion is in time. -/
theorem single_iff_undisturbed (tenantId : String) (named : tenantId ≠ "") (planId : ObjectId)
    (requests : π → GenerateInvoicesDto) (start : Database)
    (single : Single tenantId planId start.invoices) :
    (∀ schedule, Undisturbed tenantId planId requests start schedule →
      ∀ first later, schedule = first ++ later →
        Single tenantId planId (reached tenantId planId requests start first).shared.invoices) ∧
    (∀ schedule,
      Along (turn (act tenantId planId requests)) Drawn (opened start) schedule →
      (Single tenantId planId (reached tenantId planId requests start schedule).shared.invoices ↔
        Undisturbed tenantId planId requests start schedule)) ∧
    (∀ turns, Single tenantId planId
      (reached tenantId planId requests start (uninterrupted turns)).shared.invoices) ∧
    ∀ call (draw : Nat → ObjectId × Int) first last plan studentIds database,
      TenantModel.findById (contextOf tenantId) planId database.plans = .ok (some plan) →
      plan.installments ≠ [] →
      generationStudents (contextOf tenantId) plan (requests call) database = .ok studentIds →
      run (alone (contextOf tenantId) planId (requests call)) (database, .started)
          (first :: first :: (uninterrupted ((List.range (generationPairs plan
            studentIds).length).map draw) ++ [last])) =
        ((generateInvoices (contextOf tenantId) draw planId (requests call) database).1,
          match (generateInvoices (contextOf tenantId) draw planId (requests call) database).2 with
          | .ok created => .returned created
          | .error thrown => .threw thrown) := by
  have bound : Bound (contextOf tenantId) tenantId := bound_run tenantId named
  have started : ∀ call : π, ForPlan planId ((opened start).locals call) := fun _ => trivial
  refine ⟨?_, ?_, ?_, ?_⟩
  · rintro schedule undisturbed first later rfl
    have final := (run_single bound started single _).mpr (undisturbed_in_time bound undisturbed)
    rw [run_append] at final
    exact Single.start bound later final
  · intro schedule drawn
    constructor
    · exact single_undisturbed bound single drawn
    · intro undisturbed
      exact (run_single bound started single _).mpr (undisturbed_in_time bound undisturbed)
  · intro turns
    have resting : ∀ call : π, Rests ((opened start).locals call) := fun _ => trivial
    exact (run_single bound started single _).mpr (uninterrupted_in_time bound resting turns)
  · intro call draw first last plan studentIds database found divided resolved
    exact alone_generates found divided resolved draw first last

end Races

/-- A database with a plan of two installments. -/
def plannedTerm : Database := { plans := [PlanCoverage.twoInstallmentPlan "First" "Second"] }

/-- Two requests to bill the same student. -/
def sameStudent (_ : Bool) : GenerateInvoicesDto := { studentIds := some [.repeated '2'] }

/-- Both calls read the plan and the student, both look for the first invoice, and then both
insert it. -/
def crossedUpserts : List (Bool × ObjectId × Int) :=
  [(false, .repeated '0', 0), (true, .repeated '0', 0), (false, .repeated '0', 0),
    (true, .repeated '0', 0), (false, .repeated 'a', 0), (true, .repeated 'b', 0),
    (false, .repeated 'a', 0), (true, .repeated 'b', 0)]

/-- Two generations at once bill a student twice for one installment. -/
theorem crossed_upserts_bill_twice :
    (invoicesUnder ("institute-a", .repeated '2', .repeated '1', "First")
      (run (turn (act "institute-a" (.repeated '1') sameStudent)) (opened plannedTerm)
        crossedUpserts).shared.invoices).map FeeInvoice.amountDue = [500, 500] ∧
    ¬ Single "institute-a" (.repeated '1')
      (run (turn (act "institute-a" (.repeated '1') sameStudent)) (opened plannedTerm)
        crossedUpserts).shared.invoices := by
  constructor
  · decide +kernel
  · intro single
    have bounded := single (.repeated '2') "First"
    revert bounded
    decide +kernel

/-- The two calls take turns, an upsert each. -/
def alternatingUpserts : List (Bool × ObjectId × Int) :=
  [(false, .repeated '0', 0), (true, .repeated '0', 0), (false, .repeated 'a', 0),
    (true, .repeated 'b', 0), (true, .repeated 'c', 0), (false, .repeated 'd', 0)]

/-- Between them the calls store both invoices once: no upsert is disturbed. -/
theorem alternating_upserts_bill_once :
    (reached "institute-a" (.repeated '1') sameStudent plannedTerm
      (uninterrupted alternatingUpserts)).shared.invoices.map FeeInvoice.id =
        [.repeated 'a', .repeated 'c'] ∧
    Undisturbed "institute-a" (.repeated '1') sameStudent plannedTerm
      (uninterrupted alternatingUpserts) ∧
    Single "institute-a" (.repeated '1')
      (reached "institute-a" (.repeated '1') sameStudent plannedTerm
        (uninterrupted alternatingUpserts)).shared.invoices := by
  obtain ⟨keeps, exactly, apart, _⟩ := single_iff_undisturbed "institute-a" (by decide)
    (.repeated '1') sameStudent plannedTerm (fun _ _ => by simp [plannedTerm, invoicesUnder])
  have undisturbed := (exactly _ (by decide +kernel)).mp (apart alternatingUpserts)
  exact ⟨by decide +kernel, undisturbed, keeps _ undisturbed _ [] (List.append_nil _).symm⟩

end GenerationRaces

end CoachingApi
