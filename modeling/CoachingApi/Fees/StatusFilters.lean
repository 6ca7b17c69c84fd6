import CoachingApi.Fees.PlanCoverage
import CoachingApi.Fees.Routing

/-!
# Stored statuses and the clock

Runs of plan creations, generations, payment orders and deliveries, one operation at a time
and failing or not. An invoice is stored with a status computed at the time of its last write
from the amounts and the due date it is stored with. Nothing computes it again, so a listing
by status is the one by the status of its own time until a due date passes over an invoice
that is stored as pending.
-/

namespace CoachingApi

open TenantContextStore TenantPlugin FeesService WebhooksController Runs

namespace StatusFilters

/-- The status of an invoice at a time. -/
def statusAt (now : Int) (invoice : FeeInvoice) : InvoiceStatus :=
  computeInvoiceStatus invoice.amountDue invoice.amountPaid invoice.dueDate now

/-- The status of an invoice was computed by a time, from what is stored with it. -/
def ComputedBy (now : Int) (invoice : FeeInvoice) : Prop :=
  ∃ earlier ≤ now, invoice.status = statusAt earlier invoice

/-- The clock readings from which an operation computes statuses are at most a time. -/
def ReadBy (now : Int) : FeeOperation → Prop
  | .generateInvoices _ draw _ _ => ∀ i, (draw i).2 ≤ now
  | .deliver inputs _ => (inputs .invoiceRead).now ≤ now
  | .createPlan .. | .createPaymentOrder .. => True

/-- What holds of the stored invoices and of every one that the loop can insert holds of all
invoices after it.

Proof: by induction on the students and installments that remain. -/
theorem upserts_keep {ambient : Ambient} {plan : FeePlan} (holds : FeeInvoice → Prop)
    (pairs : List (ObjectId × Installment)) (draw : Nat → ObjectId × Int) (created : Nat)
    (invoices : List FeeInvoice) (stored : ∀ invoice ∈ invoices, holds invoice)
    (inserted : ∀ i tenantId studentId (inst : Installment), holds
      { id := (draw i).1, tenantId := tenantId, studentId := studentId, feePlanId := plan.id,
        label := inst.label, amountDue := inst.amount, amountPaid := 0, dueDate := inst.dueDate,
        status := computeInvoiceStatus inst.amount 0 inst.dueDate (draw i).2 }) :
    ∀ invoice ∈ (upsertInvoices ambient plan pairs draw created invoices).1, holds invoice := by
  induction pairs generalizing draw created invoices with
  | nil => exact stored
  | cons pair rest inductionHypothesis =>
    obtain ⟨studentId, inst⟩ := pair
    unfold upsertInvoices
    cases result : upsertInvoice ambient (draw 0).1 (draw 0).2 plan studentId inst invoices with
    | error thrown => exact stored
    | ok outcome =>
      obtain ⟨upserted, updated⟩ := outcome
      apply inductionHypothesis
      · unfold upsertInvoice at result
        simp only at result
        split at result
        · simp at result
        · split at result
          · obtain ⟨_, rfl⟩ := Prod.mk.inj (Except.ok.inj result)
            exact stored
          · split at result
            · simp at result
            · obtain ⟨_, rfl⟩ := Prod.mk.inj (Except.ok.inj result)
              intro invoice member
              rcases List.mem_append.mp member with held | new
              · exact stored invoice held
              · obtain rfl := List.mem_singleton.mp new
                exact inserted 0 _ _ _
      · exact fun i => inserted (i + 1)

/-- A generation whose draws are read by a time keeps that statuses were computed by then. -/
theorem generate_computed {ambient : Ambient} {now : Int} {draw : Nat → ObjectId × Int}
    (readings : ∀ i, (draw i).2 ≤ now) (planId : ObjectId) (dto : GenerateInvoicesDto)
    {database : Database} (computed : ∀ invoice ∈ database.invoices, ComputedBy now invoice) :
    ∀ invoice ∈ (generateInvoices ambient draw planId dto database).1.invoices,
      ComputedBy now invoice := by
  unfold generateInvoices
  split
  · exact computed
  · exact computed
  · split
    · exact computed
    · split
      · exact computed
      · apply upserts_keep (ComputedBy now) _ draw 0 database.invoices computed
        intro i tenantId studentId inst
        exact ⟨(draw i).2, readings i, rfl⟩

/-- The invoice a call holds: as it was loaded, and as it is in memory. -/
def held : CaptureStep → Option (FeeInvoice × FeeInvoice)
  | .rendering _ loaded current _ | .storingReceipt _ _ loaded current _
  | .crediting _ _ loaded current _ => some (loaded, current)
  | _ => none

/-- A call while every status was computed by a time, in the database and in memory. The
invoice in memory was loaded as it is stored. -/
structure CreditsBy (now : Int) (database : Database) (step : CaptureStep) : Prop where
  distinct : Records.Distinct FeeInvoice.id database.invoices
  computed : ∀ invoice ∈ database.invoices, ComputedBy now invoice
  memory : ∀ loaded current, held step = some (loaded, current) →
    loaded ∈ database.invoices ∧ current.id = loaded.id ∧ ComputedBy now current

/-- A step that writes no invoice and holds none keeps every status computed by then. -/
theorem CreditsBy.releases {now : Int} {database after : Database} {step next : CaptureStep}
    (credits : CreditsBy now database step) (same : after.invoices = database.invoices)
    (nothing : held next = none) : CreditsBy now after next := by
  refine ⟨by rw [same]; exact credits.distinct, by rw [same]; exact credits.computed, ?_⟩
  intro loaded current holds
  simp [nothing] at holds

/-- A step that writes no invoice and loads none keeps every status computed by then. -/
theorem CreditsBy.retains {now : Int} {database after : Database} {step next : CaptureStep}
    (credits : CreditsBy now database step) (same : after.invoices = database.invoices)
    (retains : ∀ loaded current, held next = some (loaded, current) →
      ∃ earlier, held step = some (loaded, earlier) ∧ current.id = earlier.id ∧
        (ComputedBy now earlier → ComputedBy now current)) : CreditsBy now after next := by
  refine ⟨by rw [same]; exact credits.distinct, by rw [same]; exact credits.computed, ?_⟩
  intro loaded current holds
  obtain ⟨earlier, held, sameId, keeps⟩ := retains loaded current holds
  obtain ⟨stored, loadedId, computed⟩ := credits.memory loaded earlier held
  exact ⟨by rw [same]; exact stored, sameId.trans loadedId, keeps computed⟩

section Call

variable {deployment : Deployment} {ambient : Ambient} {params : CaptureParams}
  {inputs : AwaitPoint → StepInput} {tenantId : String} {now : Int}

/-- Saving an invoice stores it as it is in memory. -/
theorem save_computed (bound : Bound ambient tenantId) {database : Database}
    {loaded current invoice : FeeInvoice} {invoices : List FeeInvoice}
    (distinct : Records.Distinct FeeInvoice.id database.invoices)
    (computed : ∀ other ∈ database.invoices, ComputedBy now other)
    (stored : loaded ∈ database.invoices) (same : current.id = loaded.id)
    (currently : ComputedBy now current)
    (saved : TenantModel.save ambient loaded current database.invoices = .ok (invoice, invoices)) :
    Records.Distinct FeeInvoice.id invoices ∧ ∀ other ∈ invoices, ComputedBy now other := by
  obtain ⟨stamped, rewritten⟩ := TenantModel.save_bound bound saved
  have sameId : invoice.id = loaded.id := by
    rw [stamped]
    exact same
  have replaced : invoices =
      Records.modify FeeInvoice.id loaded.id (fun _ => invoice) database.invoices := by
    rw [rewritten]
    apply Records.modify_agree
    intro other member matching
    rw [Records.same_record distinct member stored matching]
    exact invoice_written sameId
  subst replaced
  refine ⟨Records.replace_distinct sameId distinct, ?_⟩
  intro other member
  rcases Records.mem_replace member with rfl | ⟨elsewhere, _⟩
  · obtain ⟨earlier, before, status⟩ := currently
    rw [stamped]
    exact ⟨earlier, before, status⟩
  · exact computed other elsewhere

/-- Every step of a call that reads its invoice by a time keeps that statuses were computed
by then.

Proof: a credit computes the status from the reading of the invoice's lookup, and the invoice
save stores it with the paid amount it was computed from. -/
theorem credits_step (bound : Bound ambient tenantId) (reading : (inputs .invoiceRead).now ≤ now)
    (point : AwaitPoint) (database : Database) (step : CaptureStep)
    (stands : step.point = some point) (credits : CreditsBy now database step) :
    CreditsBy now (captureStep deployment ambient params (inputs point) database step).1
      (captureStep deployment ambient params (inputs point) database step).2 := by
  by_cases claimed : ∃ payment, step = .claimed payment
  · obtain ⟨payment, rfl⟩ := claimed
    obtain rfl : AwaitPoint.invoiceRead = point := Option.some.inj stands
    simp only [captureStep]
    split
    · exact credits.releases rfl rfl
    · split
      · exact credits.releases rfl rfl
      · exact credits.releases rfl rfl
      · rename_i invoice found
        split
        · exact credits.releases rfl rfl
        · rename_i paid _
          obtain ⟨stored, _, _⟩ := TenantModel.find_one_owned bound found
          refine ⟨credits.distinct, credits.computed, ?_⟩
          rintro loaded current ⟨⟩
          exact ⟨stored, rfl, (inputs .invoiceRead).now, reading, rfl⟩
  · have transition := capture_step_transition deployment ambient params (inputs point) database
      step
    generalize (captureStep deployment ambient params (inputs point) database step).1 = next
      at transition ⊢
    generalize (captureStep deployment ambient params (inputs point) database step).2 = nextStep
      at transition ⊢
    cases transition with
    | failed step thrown unfinished => exact credits.releases rfl rfl
    | recorded existing found => exact credits.releases rfl rfl
    | unrecorded absent => exact credits.releases rfl rfl
    | nonePending absent => exact credits.releases rfl rfl
    | pending payment now found => exact credits.releases rfl rfl
    | lostClaim loaded current refused => exact credits.releases rfl rfl
    | claims loaded current payment payments saved => exact credits.releases rfl rfl
    | withoutInvoice payment absent => exact credits.releases rfl rfl
    | reads payment invoice paid now found applies => exact False.elim (claimed ⟨payment, rfl⟩)
    | renders payment loaded current invalid receiptUrl =>
      refine credits.retains rfl ?_
      rintro _ _ ⟨⟩
      exact ⟨current, rfl, rfl, id⟩
    | rendersNothing payment loaded current invalid =>
      refine credits.retains rfl ?_
      rintro _ _ ⟨⟩
      exact ⟨current, rfl, rfl, id⟩
    | storesReceipt payment stored receiptUrl loaded current invalid payments saved =>
      refine credits.retains rfl ?_
      rintro _ _ ⟨⟩
      exact ⟨current, rfl, rfl, id⟩
    | credits payment receiptUrl loaded current invoice invoices saved =>
      obtain ⟨stored, same, computed⟩ := credits.memory loaded current rfl
      obtain ⟨distinct, each⟩ := save_computed bound credits.distinct credits.computed stored same
        computed saved
      refine ⟨distinct, each, ?_⟩
      rintro _ _ ⟨⟩
    | notifies payment receiptUrl invoice notifications pushes => exact credits.releases rfl rfl
    | notifyFails payment receiptUrl invoice notifications pushes thrown => exact credits.releases rfl rfl
    | ended step finished => exact credits

/-- A delivery that reads its invoice by a time keeps that statuses were computed by then. -/
theorem delivery_computed {database : Database} (well : WellFormed database)
    (reading : (inputs .invoiceRead).now ≤ now) (delivery : Delivery)
    (computed : ∀ invoice ∈ database.invoices, ComputedBy now invoice) :
    ∀ invoice ∈ (handle deployment inputs delivery database).1.invoices,
      ComputedBy now invoice := by
  cases asks : captureOf deployment delivery with
  | none =>
    rw [handle_routes, asks]
    exact computed
  | some params =>
    cases found : routedPayment params.gatewayOrderId database.payments with
    | none =>
      rw [handle_unrouted inputs asks found]
      exact computed
    | some routed =>
      rw [handle_routed inputs asks found]
      have opened : CreditsBy now database .started :=
        ⟨well.invoices, computed, by rintro _ _ ⟨⟩⟩
      have settled : CreditsBy now
          (applyCapturedPayment deployment (contextOf routed.tenantId) params inputs database).1
          (applyCapturedPayment deployment (contextOf routed.tenantId) params inputs database).2 :=
        settle_preserves (credits_step (routed_bound well found) reading) 8 database .started opened
      exact settled.computed

end Call

/-- Every operation that reads the clock by a time keeps that statuses were computed by then. -/
theorem perform_computed (deployment : Deployment) {now : Int} {database : Database}
    (well : WellFormed database) (computed : ∀ invoice ∈ database.invoices, ComputedBy now invoice)
    {operation : FeeOperation} (readings : ReadBy now operation) :
    ∀ invoice ∈ (perform deployment database operation).invoices, ComputedBy now invoice := by
  cases operation with
  | generateInvoices tenantId draw planId dto => exact generate_computed readings planId dto computed
  | deliver inputs delivery => exact delivery_computed well readings delivery computed
  | createPlan tenantId generated read dto =>
    have effect := perform_effect deployment database (.createPlan tenantId generated read dto)
    generalize perform deployment database (.createPlan tenantId generated read dto) = after
      at effect ⊢
    cases effect with
    | nothing _ => exact computed
    | plans tenantId generated read dto added created => exact computed
  | createPaymentOrder tenantId live generated invoiceId =>
    have effect :=
      perform_effect deployment database (.createPaymentOrder tenantId live generated invoiceId)
    generalize perform deployment database (.createPaymentOrder tenantId live generated invoiceId)
      = after at effect ⊢
    cases effect with
    | nothing _ => exact computed
    | order tenantId live generated invoiceId named payment invoice stored owned unpaid fresh
        ordered => exact computed

/-- After operations that read the clock by a time every status was computed by then. -/
theorem run_computed (deployment : Deployment) {now : Int} {start : Database}
    (noInvoices : start.invoices = []) (noPayments : start.payments = [])
    {operations : List FeeOperation} (readings : ∀ operation ∈ operations, ReadBy now operation) :
    ∀ invoice ∈ (run (perform deployment) start operations).invoices, ComputedBy now invoice := by
  have along : Along (perform deployment) (fun _ operation => ReadBy now operation) start
      operations := by
    apply (along_iff _ _ _ _).mpr
    rintro first operation rest rfl
    exact readings operation (by simp)
  have opened : WellFormed start ∧ ∀ invoice ∈ start.invoices, ComputedBy now invoice :=
    ⟨well_opened noPayments noInvoices, by simp [noInvoices]⟩
  have preserved (database : Database) (operation : FeeOperation)
      (kept : WellFormed database ∧ ∀ invoice ∈ database.invoices, ComputedBy now invoice)
      (read : ReadBy now operation) : WellFormed (perform deployment database operation) ∧
        ∀ invoice ∈ (perform deployment database operation).invoices, ComputedBy now invoice :=
    ⟨Routing.perform_well deployment kept.1 operation,
      perform_computed deployment kept.1 kept.2 read⟩
  exact (run_preserves preserved opened along).2

/-- A tenant's listings by status are those by the status at a time. -/
def FiltersAgree (tenantId : String) (now : Int) (database : Database) : Prop :=
  ∀ status, ∃ listed,
    listInvoices (contextOf tenantId) { status := some status } database = .ok listed ∧
      listed.Perm (database.invoices.filter (fun invoice =>
        decide (invoice.tenantId = tenantId ∧ statusAt now invoice = status)))

/-- A listing by status returns the tenant's invoices that are stored with it. -/
theorem list_by_status {tenantId : String} (named : tenantId ≠ "") (status : InvoiceStatus)
    (database : Database) :
    ∃ listed, listInvoices (contextOf tenantId) { status := some status } database = .ok listed ∧
      listed.Perm (database.invoices.filter (fun invoice =>
        decide (invoice.tenantId = tenantId ∧ invoice.status = status))) := by
  have bound : Bound (contextOf tenantId) tenantId := bound_run tenantId named
  have found : TenantModel.find (contextOf tenantId)
      (fun invoice : FeeInvoice => decide ((∀ id ∈ (none : Option ObjectId), invoice.studentId = id) ∧
        ∀ wanted ∈ some status, invoice.status = wanted)) database.invoices =
      .ok (database.invoices.filter (fun invoice =>
        decide (invoice.tenantId = tenantId ∧ invoice.status = status))) := by
    rw [TenantModel.find_bound bound]
    congr 1
    apply List.filter_congr
    intro invoice _
    simp [TenantModel.tenantId]
  refine ⟨_, congrArg (Except.map _) found, List.mergeSort_perm _ _⟩

/-- A tenant's listings agree with a time exactly when every stored status of its invoices is
the one at that time. -/
theorem filters_agree_iff {tenantId : String} (named : tenantId ≠ "") (now : Int)
    (database : Database) :
    FiltersAgree tenantId now database ↔
      ∀ invoice ∈ database.invoices, invoice.tenantId = tenantId →
        invoice.status = statusAt now invoice := by
  constructor
  · intro agree invoice stored owned
    obtain ⟨listed, result, asked⟩ := agree (statusAt now invoice)
    obtain ⟨again, sameResult, kept⟩ := list_by_status named (statusAt now invoice) database
    obtain rfl : listed = again := Except.ok.inj (result.symm.trans sameResult)
    have member : invoice ∈ listed := asked.mem_iff.mpr (by simp [stored, owned])
    have tested := (List.mem_filter.mp (kept.mem_iff.mp member)).2
    exact (of_decide_eq_true tested).2
  · intro current status
    obtain ⟨listed, result, kept⟩ := list_by_status named status database
    refine ⟨listed, result, kept.trans (List.Perm.of_eq ?_)⟩
    apply List.filter_congr
    intro invoice stored
    apply decide_eq_decide.mpr
    constructor
    · rintro ⟨owned, rfl⟩
      exact ⟨owned, (current invoice stored owned).symm⟩
    · rintro ⟨owned, rfl⟩
      exact ⟨owned, current invoice stored owned⟩

/-- In every state reached from a database without invoices and payments by operations that
read the clock by a time, a tenant's listings by status are those by the status at that time
exactly when no invoice of the tenant that is stored as pending is past its due date.

Proof: every stored status was computed from the invoice's amounts as they are, at an earlier
reading of the clock. Time turns a pending invoice overdue and changes no other status. -/
theorem status_filters_iff (deployment : Deployment) (start : Database)
    (noInvoices : start.invoices = []) (noPayments : start.payments = [])
    (operations : List FeeOperation) (now : Int)
    (readings : ∀ operation ∈ operations, ReadBy now operation) (tenantId : String)
    (named : tenantId ≠ "") :
    FiltersAgree tenantId now (run (perform deployment) start operations) ↔
      ∀ invoice ∈ (run (perform deployment) start operations).invoices,
        invoice.tenantId = tenantId → invoice.status = .pending → now ≤ invoice.dueDate := by
  have computed := run_computed deployment noInvoices noPayments readings
  rw [filters_agree_iff named]
  refine forall₂_congr fun invoice stored => imp_congr_right fun _ => ?_
  obtain ⟨earlier, before, status⟩ := computed invoice stored
  rw [status]
  exact status_later_iff invoice.amountDue invoice.amountPaid invoice.dueDate before

/-- A plan of two installments is invoiced before either is due, and the second is ordered and
paid. -/
def secondPaid : List FeeOperation :=
  [.createPlan "institute-a" (.repeated '1') 0
      { name := "Term", totalAmount := 1000,
        installments := some [{ label := "First", amount := 500, dueDate := 10 },
          { label := "Second", amount := 500, dueDate := 30 }] },
    .generateInvoices "institute-a" PlanCoverage.letterDraws (.repeated '1')
      { studentIds := some [.repeated '2'] },
    .createPaymentOrder "institute-a" (fun _ => .error .storage) (.repeated '4') (.repeated 'b'),
    .deliver (fun _ => { now := 5, notification := .repeated '5' })
      { body :=
          { event := some "payment.captured"
            entity := some { id := some "pay_1"
                             orderId := some "order_stub_bbbbbbbbbbbbbbbbbbbbbbbb_0"
                             amount := some 50000 } } }]

/-- The clock is read at the start and at 5. -/
theorem second_paid_readings {now : Int} (later : 5 ≤ now) :
    ∀ operation ∈ secondPaid, ReadBy now operation := by
  have started : 0 ≤ now := by omega
  simp [secondPaid, ReadBy, PlanCoverage.letterDraws, later, started]

/-- After the first due date the unpaid invoice is overdue; it is listed as pending, and nothing
is listed as overdue. -/
theorem unpaid_listed_pending :
    (run (perform CaptureRaces.stubDeployment) {} secondPaid).invoices.map
        (fun invoice => (invoice.label, invoice.status, statusAt 20 invoice)) =
      [("First", .pending, .overdue), ("Second", .paid, .paid)] ∧
    (∃ listed, listInvoices (contextOf "institute-a") { status := some .overdue }
        (run (perform CaptureRaces.stubDeployment) {} secondPaid) = .ok listed ∧ listed = []) ∧
    (∃ listed, listInvoices (contextOf "institute-a") { status := some .pending }
        (run (perform CaptureRaces.stubDeployment) {} secondPaid) = .ok listed ∧
      listed.map FeeInvoice.label = ["First"]) ∧
    ¬ FiltersAgree "institute-a" 20
      (run (perform CaptureRaces.stubDeployment) {} secondPaid) := by
  refine ⟨by decide +kernel, ?_, ?_, ?_⟩
  · obtain ⟨listed, result, kept⟩ := list_by_status (by decide : "institute-a" ≠ "") .overdue
      (run (perform CaptureRaces.stubDeployment) {} secondPaid)
    refine ⟨listed, result, List.Perm.eq_nil (kept.trans (List.Perm.of_eq ?_))⟩
    decide +kernel
  · obtain ⟨listed, result, kept⟩ := list_by_status (by decide : "institute-a" ≠ "") .pending
      (run (perform CaptureRaces.stubDeployment) {} secondPaid)
    refine ⟨listed, result, List.perm_singleton.mp ((kept.map FeeInvoice.label).trans
      (List.Perm.of_eq ?_))⟩
    decide +kernel
  · rw [filters_agree_iff (by decide)]
    decide +kernel

/-- Until the first due date the listings agree with the clock. -/
theorem listed_until_due :
    FiltersAgree "institute-a" 10
      (run (perform CaptureRaces.stubDeployment) {} secondPaid) :=
  (status_filters_iff CaptureRaces.stubDeployment {} rfl rfl secondPaid 10
    (second_paid_readings (by decide)) "institute-a" (by decide)).mpr (by decide +kernel)

end StatusFilters

end CoachingApi
