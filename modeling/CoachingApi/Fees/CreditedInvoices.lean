import CoachingApi.Fees.SerialCapture

/-!
# What a delivery does to the invoices

A delivery, failing or not, writes the invoices at most once: it credits one of them, and
its status is computed from the amounts that are stored with it. Until then the call holds
the invoice as it is stored, since nothing else writes it meanwhile.
-/

namespace CoachingApi

open TenantContextStore TenantPlugin FeesService WebhooksController

/-- The invoices after a capture of an amount: as they were, or with one of them credited. -/
inductive CreditEffect (amount : Option ℚ) (before : List FeeInvoice) : List FeeInvoice → Prop where
  | nothing : CreditEffect amount before before
  | credits (invoice : FeeInvoice) (stored : invoice ∈ before) (now : Int) (paid : ℚ)
      (receiptUrl : Option String)
      (applies : applyPayment invoice.amountDue invoice.amountPaid amount = .ok (some paid)) :
      CreditEffect amount before (Records.modify FeeInvoice.id invoice.id
        (fun _ => { credit now (some paid) invoice with receiptUrl := receiptUrl }) before)

/-- A call that is in no way to disturb the invoices other than by its credit. -/
def Undisturbed (tenantId : String) (amount : Option ℚ) (before : List FeeInvoice)
    (database : Database) : CaptureStep → Prop
  | .rendering _ loaded current invalid | .storingReceipt _ _ loaded current invalid
  | .crediting _ _ loaded current invalid =>
    database.invoices = before ∧ loaded ∈ before ∧ loaded.tenantId = tenantId ∧
      (invalid = false → ∃ now paid receiptUrl,
        applyPayment loaded.amountDue loaded.amountPaid amount = .ok (some paid) ∧
        current = { credit now (some paid) loaded with receiptUrl := receiptUrl })
  | .notifying .. | .returned .. | .threw _ => CreditEffect amount before database.invoices
  | .started | .noneRecorded | .claiming .. | .claimed _ => database.invoices = before

section Call

variable {deployment : Deployment} {ambient : Ambient} {params : CaptureParams}
  {inputs : AwaitPoint → StepInput} {tenantId : String}

/-- A call that stops before it credits has disturbed nothing. -/
theorem Undisturbed.stops {amount : Option ℚ} {before : List FeeInvoice} {database : Database}
    {step : CaptureStep} (undisturbed : Undisturbed tenantId amount before database step) :
    CreditEffect amount before database.invoices := by
  cases step with
  | notifying payment receiptUrl invoice => exact undisturbed
  | returned result payment => exact undisturbed
  | threw thrown => exact undisturbed
  | rendering payment loaded current invalid =>
    obtain ⟨rfl, _⟩ := undisturbed
    exact .nothing
  | storingReceipt payment receiptUrl loaded current invalid =>
    obtain ⟨rfl, _⟩ := undisturbed
    exact .nothing
  | crediting payment receiptUrl loaded current invalid =>
    obtain ⟨rfl, _⟩ := undisturbed
    exact .nothing
  | started =>
    obtain rfl := undisturbed
    exact .nothing
  | noneRecorded =>
    obtain rfl := undisturbed
    exact .nothing
  | claiming loaded current =>
    obtain rfl := undisturbed
    exact .nothing
  | claimed payment =>
    obtain rfl := undisturbed
    exact .nothing

/-- Saving the credited document of a stored invoice credits it. -/
theorem save_credits (bound : Bound ambient tenantId) {amount : Option ℚ}
    {before invoices : List FeeInvoice} (distinct : Records.Distinct FeeInvoice.id before)
    {loaded saved : FeeInvoice} (stored : loaded ∈ before) (owned : loaded.tenantId = tenantId)
    {now : Int} {paid : ℚ} {receiptUrl : Option String}
    (applies : applyPayment loaded.amountDue loaded.amountPaid amount = .ok (some paid))
    (result : TenantModel.save ambient loaded
      { credit now (some paid) loaded with receiptUrl := receiptUrl } before =
        .ok (saved, invoices)) :
    CreditEffect amount before invoices := by
  obtain ⟨stamped, rewritten⟩ := TenantModel.save_bound bound result
  have whole : saved = { credit now (some paid) loaded with receiptUrl := receiptUrl } := by
    rw [stamped, ← owned]
    rfl
  have replaced : invoices = Records.modify FeeInvoice.id loaded.id
      (fun _ => { credit now (some paid) loaded with receiptUrl := receiptUrl }) before := by
    rw [rewritten, whole]
    apply Records.modify_agree
    intro other member same
    rw [Records.same_record distinct member stored same]
    exact invoice_written rfl
  rw [replaced]
  exact .credits loaded stored now paid receiptUrl applies

/-- Every step of a call leaves the invoices undisturbed but for its credit.

Proof: by cases over the transitions. Only the invoice save writes invoices. -/
theorem undisturbed_step (bound : Bound ambient tenantId) {before : List FeeInvoice}
    (distinct : Records.Distinct FeeInvoice.id before) (point : AwaitPoint)
    (database : Database) (step : CaptureStep)
    (undisturbed : Undisturbed tenantId params.amount before database step) :
    Undisturbed tenantId params.amount before
      (captureStep deployment ambient params (inputs point) database step).1
      (captureStep deployment ambient params (inputs point) database step).2 := by
  have transition := capture_step_transition deployment ambient params (inputs point) database step
  generalize (captureStep deployment ambient params (inputs point) database step).1 = next
    at transition ⊢
  generalize (captureStep deployment ambient params (inputs point) database step).2 = nextStep
    at transition ⊢
  cases transition with
  | failed step thrown unfinished => exact undisturbed.stops
  | recorded existing found => exact undisturbed.stops
  | unrecorded absent => exact undisturbed
  | nonePending absent => exact undisturbed.stops
  | pending payment now found => exact undisturbed
  | lostClaim loaded current refused => exact undisturbed.stops
  | claims loaded current payment payments saved => exact undisturbed
  | withoutInvoice payment absent => exact undisturbed.stops
  | reads payment invoice paid now found applies =>
    obtain rfl : database.invoices = before := undisturbed
    obtain ⟨stored, owned, _⟩ := TenantModel.find_one_owned bound found
    refine ⟨rfl, stored, owned, fun valid => ?_⟩
    cases paid with
    | none => simp at valid
    | some paid => exact ⟨now, paid, invoice.receiptUrl, applies, rfl⟩
  | renders payment loaded current invalid receiptUrl =>
    obtain ⟨same, stored, owned, holds⟩ := undisturbed
    refine ⟨same, stored, owned, fun valid => ?_⟩
    obtain ⟨now, paid, _, applies, rfl⟩ := holds valid
    exact ⟨now, paid, some receiptUrl, applies, rfl⟩
  | rendersNothing payment loaded current invalid => exact undisturbed
  | storesReceipt payment stored receiptUrl loaded current invalid payments saved =>
    exact undisturbed
  | credits payment receiptUrl loaded current invoice invoices saved =>
    obtain ⟨rfl, stored, owned, holds⟩ := undisturbed
    obtain ⟨now, paid, receipt, applies, rfl⟩ := holds rfl
    exact save_credits bound distinct stored owned applies saved
  | notifies payment receiptUrl invoice notifications pushes => exact undisturbed
  | notifyFails payment receiptUrl invoice notifications pushes thrown => exact undisturbed
  | ended step finished => exact undisturbed

/-- A serial call credits at most one invoice and writes no other. -/
theorem capture_credit_effect (bound : Bound ambient tenantId) {database : Database}
    (distinct : Records.Distinct FeeInvoice.id database.invoices) :
    CreditEffect params.amount database.invoices
      (applyCapturedPayment deployment ambient params inputs database).1.invoices := by
  have settled : Undisturbed tenantId params.amount database.invoices
      (applyCapturedPayment deployment ambient params inputs database).1
      (applyCapturedPayment deployment ambient params inputs database).2 :=
    settle_preserves (fun point current step _ => undisturbed_step bound distinct point current step)
      8 database .started rfl
  exact settled.stops

end Call

/-- A delivery credits at most one invoice, by the amount it carries, and writes no other. -/
theorem delivery_credit_effect (deployment : Deployment) {database : Database}
    (well : WellFormed database) (inputs : AwaitPoint → StepInput) (delivery : Delivery) :
    ∃ amount, CreditEffect amount database.invoices
      (handle deployment inputs delivery database).1.invoices := by
  cases asks : captureOf deployment delivery with
  | none =>
    rw [handle_routes, asks]
    exact ⟨none, .nothing⟩
  | some params =>
    cases found : routedPayment params.gatewayOrderId database.payments with
    | none =>
      rw [handle_unrouted inputs asks found]
      exact ⟨none, .nothing⟩
    | some routed =>
      rw [handle_routed inputs asks found]
      exact ⟨params.amount, capture_credit_effect (routed_bound well found) well.invoices⟩

/-- A credit keeps what nothing changes of an invoice. -/
theorem CreditEffect.keeps {amount : Option ℚ} {before after : List FeeInvoice}
    (effect : CreditEffect amount before after) (distinct : Records.Distinct FeeInvoice.id before)
    {β : Type} (reading : FeeInvoice → β)
    (unread : ∀ now paid receiptUrl invoice,
      reading { credit now (some paid) invoice with receiptUrl := receiptUrl } = reading invoice) :
    after.map reading = before.map reading := by
  cases effect with
  | nothing => rfl
  | credits invoice stored now paid receiptUrl applies =>
    exact (Records.replace_reading_iff reading distinct stored).mpr (unread now paid receiptUrl invoice)

end CoachingApi
