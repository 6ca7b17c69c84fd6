import CoachingApi.Fees.CreditedInvoices
import CoachingApi.Fees.PlanCoverage
import CoachingApi.Fees.Routing

/-!
# Generating again

Runs of generations of one plan with payment orders and deliveries between them, one
operation at a time. Orders and deliveries change the terms of no invoice, so in terms a
run is one batch of upserts, for the students of all its generations. What it ends with
under a key is what was there at the start, and else the first installment under the label,
for every student who is listed somewhere in the run.
-/

namespace CoachingApi

open TenantContextStore TenantPlugin FeesService WebhooksController Upserts Runs

/-- A generation of the plan, an order for one of its invoices, or a delivery. -/
inductive RegenerationCall where
  | generate (draw : Nat → ObjectId × Int) (request : GenerateInvoicesDto)
  | order (live : OrderRequest → Except Thrown OrderReply) (generated invoiceId : ObjectId)
  | deliver (inputs : AwaitPoint → StepInput) (delivery : Delivery)

/-- The database with the number of invoices that generations said they created. -/
structure Regeneration where
  database : Database
  created : Nat := 0

namespace Regeneration

section Calls

variable (deployment : Deployment) (tenantId : String) (plan : FeePlan)

/-- A call as an operation of the plan's tenant. -/
def operation : RegenerationCall → FeeOperation
  | .generate draw request => .generateInvoices tenantId draw plan.id request
  | .order live generated invoiceId => .createPaymentOrder tenantId live generated invoiceId
  | .deliver inputs delivery => .deliver inputs delivery

/-- How many invoices a call says it created. -/
def createdBy (database : Database) : RegenerationCall → Nat
  | .generate draw request =>
    match (generateInvoices (contextOf tenantId) draw plan.id request database).2 with
    | .ok created => created
    | .error _ => 0
  | _ => 0

/-- Take a call and count what it created. -/
def regenerate (state : Regeneration) (call : RegenerationCall) : Regeneration :=
  { database := perform deployment state.database (operation tenantId plan call)
    created := state.created + createdBy tenantId plan state.database call }

/-- The students a call generates invoices for. -/
def listedBy (database : Database) : RegenerationCall → List ObjectId
  | .generate _ request =>
    match generationStudents (contextOf tenantId) plan request database with
    | .ok studentIds => studentIds
    | .error _ => []
  | _ => []

/-- The students a sequence of calls generates invoices for. -/
def listed (database : Database) (calls : List RegenerationCall) : List ObjectId :=
  calls.flatMap (listedBy tenantId plan database)

/-- The identities that a generation draws are new. -/
def Fresh (state : Regeneration) : RegenerationCall → Prop
  | .generate draw request =>
    FreshDraws draw
      (generationPairs plan (listedBy tenantId plan state.database (.generate draw request))).length
      state.database.invoices
  | _ => True

end Calls

/-- What calls do that generate for the students of a list: the plans and students stay, in
terms the invoices are upserted, and as many are new as were counted. -/
structure Regenerates (tenantId : String) (plan : FeePlan) (studentIds : List ObjectId)
    (before after : Regeneration) : Prop where
  well : WellFormed after.database
  plans : after.database.plans = before.database.plans
  students : after.database.students = before.database.students
  terms : after.database.invoices.map FeeInvoice.terms = upsertAll InvoiceTerms.key
    (before.database.invoices.map FeeInvoice.terms)
    ((generationPairs plan studentIds).map (askedTerms tenantId plan))
  identities : ∃ new : List ObjectId, after.database.invoices.map FeeInvoice.id =
    before.database.invoices.map FeeInvoice.id ++ new ∧ after.created = before.created + new.length

section Steps

variable {deployment : Deployment} {tenantId : String} {plan : FeePlan}

/-- A call that keeps terms and identities and creates nothing generates for nobody. -/
theorem keeps_regenerates {before after : Regeneration} (well : WellFormed after.database)
    (plans : after.database.plans = before.database.plans)
    (students : after.database.students = before.database.students)
    (terms : after.database.invoices.map FeeInvoice.terms =
      before.database.invoices.map FeeInvoice.terms)
    (identities : after.database.invoices.map FeeInvoice.id =
      before.database.invoices.map FeeInvoice.id)
    (created : after.created = before.created) :
    Regenerates tenantId plan [] before after :=
  { well := well, plans := plans, students := students, terms := terms
    identities := ⟨[], by simpa using identities, created⟩ }

/-- A generation generates for its students. -/
theorem generate_regenerates (bound : Bound (contextOf tenantId) tenantId)
    {state : Regeneration} (well : WellFormed state.database)
    (found : TenantModel.findById (contextOf tenantId) plan.id state.database.plans =
      .ok (some plan))
    {draw : Nat → ObjectId × Int} {request : GenerateInvoicesDto}
    (fresh : Fresh tenantId plan state (.generate draw request)) :
    Regenerates tenantId plan (listedBy tenantId plan state.database (.generate draw request)) state
      (regenerate deployment tenantId plan state (.generate draw request)) := by
  have kept : WellFormed (regenerate deployment tenantId plan state
      (.generate draw request)).database :=
    Routing.perform_well deployment well (operation tenantId plan (.generate draw request))
  have nothing (studentIds : List ObjectId) (thrown : Thrown)
      (pairs : generationPairs plan studentIds = [])
      (refused : generateInvoices (contextOf tenantId) draw plan.id request state.database =
        (state.database, .error thrown)) :
      Regenerates tenantId plan studentIds state
        (regenerate deployment tenantId plan state (.generate draw request)) := by
    refine ⟨kept, ?_, ?_, ?_, [], ?_, ?_⟩
    · simp only [regenerate, operation, perform, refused]
    · simp only [regenerate, operation, perform, refused]
    · simp only [regenerate, operation, perform, refused, pairs, List.map_nil, upsert_all_nil]
    · simp only [regenerate, operation, perform, refused, List.append_nil]
    · simp only [regenerate, createdBy, refused, List.length_nil]
  by_cases divided : plan.installments = []
  · apply nothing _ (.badRequest "Fee plan has no installments")
    · simp [generationPairs, divided]
    · simp [generateInvoices, found, divided]
  · cases resolved : generationStudents (contextOf tenantId) plan request state.database with
    | error thrown =>
      apply nothing _ thrown
      · simp [listedBy, resolved, generationPairs]
      · have filled : plan.installments.isEmpty = false := by simpa using divided
        simp only [generateInvoices, found, filled, resolved, Bool.false_eq_true, if_false]
    | ok studentIds =>
      simp only [Fresh, listedBy, resolved] at fresh ⊢
      obtain ⟨added, result, terms, _⟩ := generate_terms bound found divided resolved fresh
      refine ⟨kept, ?_, ?_, ?_, added.map FeeInvoice.id, ?_, ?_⟩
      · simp only [regenerate, operation, perform, result]
      · simp only [regenerate, operation, perform, result]
      · simp only [regenerate, operation, perform, result, terms]
      · simp only [regenerate, operation, perform, result, List.map_append]
      · simp only [regenerate, createdBy, result, List.length_map]

variable (deployment) in
/-- A call generates for the students it lists. -/
theorem call_regenerates (bound : Bound (contextOf tenantId) tenantId)
    {state : Regeneration} (well : WellFormed state.database)
    (found : TenantModel.findById (contextOf tenantId) plan.id state.database.plans =
      .ok (some plan))
    (call : RegenerationCall) (fresh : Fresh tenantId plan state call) :
    Regenerates tenantId plan (listedBy tenantId plan state.database call) state
      (regenerate deployment tenantId plan state call) := by
  cases call with
  | generate draw request => exact generate_regenerates bound well found fresh
  | order live generated invoiceId =>
    have effect := perform_effect deployment state.database
      (.createPaymentOrder tenantId live generated invoiceId)
    have kept := Routing.perform_well deployment well
      (.createPaymentOrder tenantId live generated invoiceId)
    simp only [regenerate, operation, createdBy, Nat.add_zero]
    generalize perform deployment state.database
      (.createPaymentOrder tenantId live generated invoiceId) = after at effect kept
    cases effect with
    | nothing _ => exact keeps_regenerates kept rfl rfl rfl rfl rfl
    | order => exact keeps_regenerates kept rfl rfl rfl rfl rfl
  | deliver inputs delivery =>
    obtain ⟨amount, effect⟩ := delivery_credit_effect deployment well inputs delivery
    have kept := Routing.perform_well deployment well (.deliver inputs delivery)
    have others := Routing.delivery_keeps deployment well inputs delivery
    exact keeps_regenerates kept others.1 others.2
      (effect.keeps well.invoices FeeInvoice.terms (fun _ _ _ _ => rfl))
      (effect.keeps well.invoices FeeInvoice.id (fun _ _ _ _ => rfl)) rfl

/-- What one stretch of calls does followed by another. -/
theorem Regenerates.trans {first second : List ObjectId} {before between after : Regeneration}
    (earlier : Regenerates tenantId plan first before between)
    (later : Regenerates tenantId plan second between after) :
    Regenerates tenantId plan (first ++ second) before after := by
  obtain ⟨new, ids, counted⟩ := earlier.identities
  obtain ⟨newer, laterIds, laterCounted⟩ := later.identities
  refine ⟨later.well, later.plans.trans earlier.plans, later.students.trans earlier.students, ?_,
    new ++ newer, ?_, ?_⟩
  · rw [later.terms, earlier.terms, generationPairs, generationPairs, generationPairs,
      List.flatMap_append, List.map_append, upsert_all_append]
  · rw [laterIds, ids, List.append_assoc]
  · rw [laterCounted, counted, List.length_append, Nat.add_assoc]

/-- A run generates for the students its calls list.

Proof: by induction on the calls. Nothing in a run changes whom a later call lists. -/
theorem run_regenerates (bound : Bound (contextOf tenantId) tenantId)
    (calls : List RegenerationCall) {start : Regeneration} (well : WellFormed start.database)
    (found : TenantModel.findById (contextOf tenantId) plan.id start.database.plans =
      .ok (some plan))
    (fresh : Along (regenerate deployment tenantId plan) (Fresh tenantId plan) start calls) :
    Regenerates tenantId plan (listed tenantId plan start.database calls) start
      (run (regenerate deployment tenantId plan) start calls) := by
  induction calls generalizing start with
  | nil => exact keeps_regenerates well rfl rfl rfl rfl rfl
  | cons call rest inductionHypothesis =>
    have first := call_regenerates deployment bound well found call fresh.1
    have same : listed tenantId plan
        (regenerate deployment tenantId plan start call).database rest =
        listed tenantId plan start.database rest := by
      unfold listed
      congr 1
      funext other
      cases other with
      | generate draw request => simp only [listedBy, generationStudents, first.students]
      | order live generated invoiceId => rfl
      | deliver inputs delivery => rfl
    have later := inductionHypothesis first.well (by rw [first.plans]; exact found) fresh.2
    rw [same] at later
    exact first.trans later

end Steps

/-- Under a key, the first upsert among those of a generation: the first installment under
the label, when the student is listed. -/
theorem asked_first (tenantId : String) (plan : FeePlan) (studentIds : List ObjectId)
    (sought : String × ObjectId × ObjectId × String) :
    ((generationPairs plan studentIds).map (askedTerms tenantId plan)).find?
        (fun terms => decide (terms.key = sought)) =
      if sought.1 = tenantId ∧ sought.2.1 ∈ studentIds ∧ sought.2.2.1 = plan.id then
        (plan.installments.find? (fun inst => decide (inst.label = sought.2.2.2))).map
          (fun inst => askedTerms tenantId plan (sought.2.1, inst))
      else none := by
  obtain ⟨soughtTenant, soughtStudent, soughtPlan, label⟩ := sought
  induction studentIds with
  | nil => simp [generationPairs]
  | cons studentId rest inductionHypothesis =>
    have head : ((plan.installments.map (fun inst => (studentId, inst))).map
        (askedTerms tenantId plan)).find?
          (fun terms => decide (terms.key = (soughtTenant, soughtStudent, soughtPlan, label))) =
        if soughtTenant = tenantId ∧ soughtStudent = studentId ∧ soughtPlan = plan.id then
          (plan.installments.find? (fun inst => decide (inst.label = label))).map
            (fun inst => askedTerms tenantId plan (studentId, inst))
        else none := by
      rw [List.map_map, List.find?_map]
      split
      · rename_i same
        obtain ⟨rfl, rfl, rfl⟩ := same
        simp [askedTerms, InvoiceTerms.key, Function.comp_def]
      · rename_i different
        rw [List.find?_eq_none.mpr]
        · rfl
        · intro inst _ keyed
          have same := of_decide_eq_true keyed
          simp only [InvoiceTerms.key, Prod.mk.injEq] at same
          exact different ⟨same.1.symm, same.2.1.symm, same.2.2.1.symm⟩
    have tail := inductionHypothesis
    simp only [generationPairs] at tail
    rw [generationPairs, List.flatMap_cons, List.map_append, List.find?_append, head, tail]
    by_cases same : soughtStudent = studentId
    · subst same
      by_cases owned : soughtTenant = tenantId ∧ soughtPlan = plan.id
      · cases plan.installments.find? (fun inst => decide (inst.label = label)) with
        | none => simp
        | some inst => simp [owned.1, owned.2]
      · have apart (listed : Prop) :
            ¬ (soughtTenant = tenantId ∧ listed ∧ soughtPlan = plan.id) :=
          fun all => owned ⟨all.1, all.2.2⟩
        simp only [if_neg (apart _), Option.none_or]
    · simp [same]

/-- Under a key are as many invoices as at the start, and where there was none, one when the
student is listed and the label is the plan's. -/
theorem Regenerates.under {tenantId : String} {plan : FeePlan} {studentIds : List ObjectId}
    {before after : Regeneration} (regenerates : Regenerates tenantId plan studentIds before after)
    (studentId : ObjectId) (label : String) :
    (invoicesUnder (tenantId, studentId, plan.id, label) after.database.invoices).length =
      if invoicesUnder (tenantId, studentId, plan.id, label) before.database.invoices = [] then
        if studentId ∈ studentIds ∧ label ∈ plan.installments.map Installment.label then 1 else 0
      else (invoicesUnder (tenantId, studentId, plan.id, label) before.database.invoices).length := by
  have occupied : (tenantId, studentId, plan.id, label) ∈
      (before.database.invoices.map FeeInvoice.terms).map InvoiceTerms.key ↔
        invoicesUnder (tenantId, studentId, plan.id, label) before.database.invoices ≠ [] := by
    simp only [invoicesUnder, ne_eq, List.filter_eq_nil_iff, List.map_map, List.mem_map,
      Function.comp_apply, decide_eq_true_eq, not_forall, not_not, exists_prop]
  rw [under_length, regenerates.terms, upsert_all_under]
  by_cases empty : invoicesUnder (tenantId, studentId, plan.id, label) before.database.invoices = []
  · rw [if_neg (fun held => occupied.mp held empty), if_pos empty, asked_first]
    simp only [true_and, and_true]
    by_cases student : studentId ∈ studentIds
    · cases found : plan.installments.find? (fun inst => decide (inst.label = label)) with
      | none =>
        have absent : label ∉ plan.installments.map Installment.label := by
          intro member
          obtain ⟨inst, stored, same⟩ := List.mem_map.mp member
          simpa [same] using List.find?_eq_none.mp found inst stored
        rw [if_pos student, if_neg (fun both => absent both.2)]
        rfl
      | some inst =>
        have member : label ∈ plan.installments.map Installment.label :=
          List.mem_map.mpr ⟨inst, List.mem_of_find?_eq_some found, by
            simpa using List.find?_some found⟩
        rw [if_pos student, if_pos ⟨student, member⟩]
        rfl
    · rw [if_neg student, if_neg (fun both => student both.1)]
      rfl
  · rw [if_pos (occupied.mpr empty), if_neg empty, under_length]

/-- Stretches of calls from one start that list the same students end with the same terms. -/
theorem Regenerates.agree {tenantId : String} {plan : FeePlan} {first second : List ObjectId}
    {start after other : Regeneration} (regenerates : Regenerates tenantId plan first start after)
    (again : Regenerates tenantId plan second start other)
    (same : ∀ studentId, studentId ∈ first ↔ studentId ∈ second) (terms : InvoiceTerms) :
    terms ∈ after.database.invoices.map FeeInvoice.terms ↔
      terms ∈ other.database.invoices.map FeeInvoice.terms := by
  rw [regenerates.terms, again.terms]
  apply upsert_all_same
  intro sought
  simp only [asked_first, same]

/-- The invoices under identities that were not there are as many as were counted. -/
theorem Regenerates.counts {tenantId : String} {plan : FeePlan} {studentIds : List ObjectId}
    {before after : Regeneration} (regenerates : Regenerates tenantId plan studentIds before after) :
    after.created = before.created + (after.database.invoices.filter (fun invoice =>
      decide (invoice.id ∉ before.database.invoices.map FeeInvoice.id))).length := by
  obtain ⟨new, ids, counted⟩ := regenerates.identities
  have distinct : (before.database.invoices.map FeeInvoice.id ++ new).Nodup :=
    ids ▸ regenerates.well.invoices
  have apart := (List.nodup_append.mp distinct).2.2
  have read : (after.database.invoices.filter (fun invoice =>
      decide (invoice.id ∉ before.database.invoices.map FeeInvoice.id))).map FeeInvoice.id =
      (before.database.invoices.map FeeInvoice.id ++ new).filter (fun id =>
        decide (id ∉ before.database.invoices.map FeeInvoice.id)) := by
    rw [← ids, List.filter_map]
    rfl
  rw [counted, ← List.length_map FeeInvoice.id, read, List.filter_append,
    List.filter_eq_nil_iff.mpr (by simp), List.nil_append, List.filter_eq_self.mpr]
  intro id member
  simp only [decide_eq_true_eq]
  exact fun held => apart id held id member rfl

/-- Generating a plan again and again, with orders and deliveries in between. Under each key
there is what was there at the start, and otherwise one invoice for a student listed in some
call and a label of the plan; what is billed depends only on who is listed; the counts add up
to the invoices that are new; and a further generation changes no invoice that is there.

Proof: a run is one batch of upserts, read under each key. -/
theorem regeneration_converges (deployment : Deployment) (tenantId : String) (plan : FeePlan)
    (start : Regeneration) (well : WellFormed start.database)
    (found : TenantModel.findById (contextOf tenantId) plan.id start.database.plans =
      .ok (some plan))
    (calls : List RegenerationCall)
    (fresh : Along (regenerate deployment tenantId plan) (Fresh tenantId plan) start calls) :
    (∀ studentId label,
      (invoicesUnder (tenantId, studentId, plan.id, label)
          (run (regenerate deployment tenantId plan) start calls).database.invoices).length =
        if invoicesUnder (tenantId, studentId, plan.id, label) start.database.invoices = [] then
          if studentId ∈ listed tenantId plan start.database calls ∧
              label ∈ plan.installments.map Installment.label then 1 else 0
        else (invoicesUnder (tenantId, studentId, plan.id, label) start.database.invoices).length) ∧
    (∀ others, Along (regenerate deployment tenantId plan) (Fresh tenantId plan) start others →
      (∀ studentId, studentId ∈ listed tenantId plan start.database calls ↔
        studentId ∈ listed tenantId plan start.database others) →
      ∀ terms, terms ∈ (run (regenerate deployment tenantId plan) start calls).database.invoices.map
          FeeInvoice.terms ↔
        terms ∈ (run (regenerate deployment tenantId plan) start others).database.invoices.map
          FeeInvoice.terms) ∧
    (run (regenerate deployment tenantId plan) start calls).created =
      start.created + ((run (regenerate deployment tenantId plan) start
        calls).database.invoices.filter (fun invoice =>
          decide (invoice.id ∉ start.database.invoices.map FeeInvoice.id))).length ∧
    ∀ draw request, ∃ added,
      (generateInvoices (contextOf tenantId) draw plan.id request
          (run (regenerate deployment tenantId plan) start calls).database).1.invoices =
        (run (regenerate deployment tenantId plan) start calls).database.invoices ++ added := by
  have bound : Bound (contextOf tenantId) tenantId := by
    rcases context_bound tenantId with bound | unbound
    · exact bound
    · obtain ⟨thrown, failed⟩ := TenantModel.find_one_unbound unbound
        (fun stored : FeePlan => decide (TenantModel.id stored = plan.id)) start.database.plans
      rw [TenantModel.findById, failed] at found
      cases found
  have regenerates := run_regenerates bound calls well found fresh
  refine ⟨regenerates.under, ?_, regenerates.counts, ?_⟩
  · intro others othersFresh same
    exact regenerates.agree (run_regenerates bound others well found othersFresh) same
  · intro draw request
    obtain ⟨added, result, _⟩ := generate_appends bound draw plan.id request
      (run (regenerate deployment tenantId plan) start calls).database
    exact ⟨added, by rw [result]⟩

/-- A student is billed and pays the first invoice in full; then the plan is generated for
another student, listed twice, and for the first again. -/
def overlappingCalls : List RegenerationCall :=
  [.generate PlanCoverage.letterDraws { studentIds := some [.repeated '2'] },
    .order (fun _ => .error .storage) (.repeated '3') (.repeated 'a'),
    .deliver (fun _ => { now := 1, notification := .repeated '4' })
      { body :=
          { event := some "payment.captured"
            entity := some { id := some "pay_1"
                             orderId := some "order_stub_aaaaaaaaaaaaaaaaaaaaaaaa_0"
                             amount := some 50000 } } },
    .generate (fun i => (.repeated (Char.ofNat (48 + i)), 2))
      { studentIds := some [.repeated '7', .repeated '2', .repeated '7'] }]

/-- Both students have both invoices, and what was paid stays paid. -/
theorem overlapping_generations :
    (run (regenerate CaptureRaces.stubDeployment "institute-a"
        (PlanCoverage.twoInstallmentPlan "First" "Second"))
      { database := { plans := [PlanCoverage.twoInstallmentPlan "First" "Second"] } }
      overlappingCalls).database.invoices.map FeeInvoice.amountPaid = [500, 0, 0, 0] ∧
    (invoicesUnder ("institute-a", .repeated '7', .repeated '1', "Second")
      (run (regenerate CaptureRaces.stubDeployment "institute-a"
          (PlanCoverage.twoInstallmentPlan "First" "Second"))
        { database := { plans := [PlanCoverage.twoInstallmentPlan "First" "Second"] } }
        overlappingCalls).database.invoices).length = 1 := by
  refine ⟨by decide +kernel, ?_⟩
  have billed := (regeneration_converges CaptureRaces.stubDeployment "institute-a"
    (PlanCoverage.twoInstallmentPlan "First" "Second")
    { database := { plans := [PlanCoverage.twoInstallmentPlan "First" "Second"] } }
    ⟨List.nodup_nil, List.nodup_nil, by simp⟩ (by decide +kernel) overlappingCalls
    ⟨⟨by decide +kernel, by decide +kernel⟩, trivial, trivial,
      ⟨by decide +kernel, by decide +kernel⟩, trivial⟩).1 (.repeated '7') "Second"
  exact billed.trans (by decide +kernel)

end Regeneration

end CoachingApi
