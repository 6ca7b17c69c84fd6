import CoachingApi.Fees.SerialCapture

/-!
# Captures that fail half-way and are redelivered

The claim on the payment is stored before the invoice is read, and nothing undoes it. A
delivery that fails up to its claiming save leaves the database as it was, so its
redelivery is a first delivery. One that fails after it leaves the payment captured: its
redelivery finds the gateway payment id recorded and stops, so the amount is credited
exactly when there was nothing to credit. A rejected amount is found out after the claim,
so such a delivery leaves the payment as it was exactly when it claims none.
-/

namespace CoachingApi

open TenantContextStore TenantPlugin FeesService WebhooksController

namespace CaptureFailures

/-- What is compared of a payment. -/
def paymentOutcome (payment : Payment) : ObjectId × PaymentStatus × Option String :=
  (payment.id, payment.status, payment.gatewayPaymentId)

/-- What is compared of an invoice. -/
def invoiceOutcome (invoice : FeeInvoice) : ObjectId × InvoiceStatus × ℚ :=
  (invoice.id, invoice.status, invoice.amountPaid)

/-- The payments have the same status and gateway payment id, and the invoices the same
status and paid amount. -/
structure SameOutcome (first second : Database) : Prop where
  payments : first.payments.map paymentOutcome = second.payments.map paymentOutcome
  invoices : first.invoices.map invoiceOutcome = second.invoices.map invoiceOutcome

/-- One awaited operation fails, and no other one. -/
def FailsAt (failing : AwaitPoint) (inputs : AwaitPoint → StepInput) : Prop :=
  ∀ point, point ≠ .receiptRendering → (inputs point).fails = decide (point = failing)

/-- The operations up to the claiming save. -/
def upToClaim : AwaitPoint → Bool
  | .recordedLookup | .pendingLookup | .claimingSave => true
  | _ => false

/-- Crediting the amount leaves the payment's invoice as it is: its paid amount and status
come out the same, or the credited invoice does not pass its validators. -/
def NothingToCredit (tenantId : String) (params : CaptureParams) (now : Int) (payment : Payment)
    (invoices : List FeeInvoice) : Prop :=
  ∀ invoice ∈ invoices, invoice.id = payment.invoiceId → invoice.tenantId = tenantId →
    ∀ paid, applyPayment invoice.amountDue invoice.amountPaid params.amount = .ok (some paid) →
      TenantModel.refusedPath (credit now (some paid) invoice) ≠ none ∨
        credit now (some paid) invoice = invoice

/-- The condition under which a failure is made up for: a delivery that has a payment to
claim fails up to its claiming save, or has nothing to credit. -/
def Recoverable (params : CaptureParams) (failing : AwaitPoint) (now : Int)
    (database : Database) : Prop :=
  ∀ routed, routedPayment params.gatewayOrderId database.payments = some routed →
    ∀ payment, Claims routed.tenantId params database.payments payment →
      upToClaim failing = true ∨
        NothingToCredit routed.tenantId params now payment database.invoices

variable {deployment : Deployment} {delivery : Delivery} {params : CaptureParams}

/-- Payments with the standing of well-formed ones are well-formed. -/
theorem standing_well {before after : Database} (well : WellFormed before)
    (payments : after.payments.map standing = before.payments.map standing)
    (invoices : after.invoices = before.invoices) : WellFormed after := by
  refine ⟨?_, invoices ▸ well.invoices, ?_⟩
  · have ids : after.payments.map Payment.id = before.payments.map Payment.id :=
      Records.determined_reading (fun _ _ equal => congrArg (fun reading => reading.1.1) equal)
        payments
    exact Records.same_keys_distinct ids well.payments
  · intro payment stored
    obtain ⟨original, member, same⟩ := Records.reading_stored payments stored
    have tenant : original.tenantId = payment.tenantId :=
      congrArg (fun reading => reading.1.2.1) same
    rw [← tenant]
    exact well.owned original member

/-- Payments of one standing have one outcome. -/
theorem standing_outcome {first second : List Payment}
    (same : first.map standing = second.map standing) :
    first.map paymentOutcome = second.map paymentOutcome := by
  have reading (payments : List Payment) : payments.map paymentOutcome =
      (payments.map standing).map (fun reading => (reading.1.1, reading.2.2, reading.2.1)) := by
    simp [Function.comp_def, paymentOutcome, standing, facts]
  rw [reading, reading, same]

/-- A claim leaves payments of the same standing whenever it happens. -/
theorem claimed_standing (payments : List Payment) (payment : Payment) (first second : Int) :
    (Records.modify Payment.id payment.id (fun _ => claim params first payment) payments).map
        standing =
      (Records.modify Payment.id payment.id (fun _ => claim params second payment) payments).map
        standing := by
  simp only [Records.modify, List.map_map]
  apply List.map_congr_left
  intro row _
  by_cases touched : row.id = payment.id
  · simp only [Function.comp_apply, if_pos touched]
    rfl
  · simp only [Function.comp_apply, if_neg touched]

/-- A delivery that fails up to its claiming save leaves the database as it was. -/
theorem early_failure {inputs : AwaitPoint → StepInput} {failing : AwaitPoint}
    (fails : FailsAt failing inputs) (early : upToClaim failing = true) {database : Database}
    (well : WellFormed database) (asks : captureOf deployment delivery = some params) :
    (handle deployment inputs delivery database).1 = database := by
  cases found : routedPayment params.gatewayOrderId database.payments with
  | none => rw [handle_unrouted inputs asks found]
  | some routed =>
    rw [handle_routed inputs asks found]
    refine (capture_unclaimed (routed_bound well found) well.payments (.inr ?_)).1
    cases failing with
    | recordedLookup => exact .inl (fails .recordedLookup (by decide))
    | pendingLookup => exact .inr (.inl (fails .pendingLookup (by decide)))
    | claimingSave => exact .inr (.inr (fails .claimingSave (by decide)))
    | invoiceRead => simp [upToClaim] at early
    | receiptRendering => simp [upToClaim] at early
    | receiptSave => simp [upToClaim] at early
    | invoiceSave => simp [upToClaim] at early
    | notification => simp [upToClaim] at early

/-- A delivery that claims a payment and does not fail up to then leaves the payments in
the standing of the claim. -/
theorem claimed_delivery {inputs : AwaitPoint → StepInput} {database : Database}
    (well : WellFormed database) (asks : captureOf deployment delivery = some params)
    {routed payment : Payment}
    (found : routedPayment params.gatewayOrderId database.payments = some routed)
    (claims : Claims routed.tenantId params database.payments payment)
    (works : ∀ point, upToClaim point = true → (inputs point).fails = false) :
    (handle deployment inputs delivery database).1.payments.map standing =
        (Records.modify Payment.id payment.id (fun _ => claim params 0 payment)
          database.payments).map standing ∧
      ((inputs .notification).fails = false →
        (handle deployment inputs delivery database).2 = some (.threw .storage) →
        (handle deployment inputs delivery database).1.invoices = database.invoices) := by
  have bound := routed_bound well found
  obtain ⟨_, owned, _, _⟩ := pending_payment_some claims.pending
  rw [handle_routed inputs asks found,
    capture_claims bound well.payments claims (works _ rfl) (works _ rfl) (works _ rfl)]
  obtain ⟨standings, invoices⟩ := settle_claimed deployment params bound inputs 5
    { database with
      payments := Records.modify Payment.id payment.id
        (fun _ => claim params (inputs .pendingLookup).now payment) database.payments }
    (claim params (inputs .pendingLookup).now payment) owned
  refine ⟨standings.trans (claimed_standing _ _ _ _), ?_⟩
  intro sends threw
  exact invoices sends (Option.some.inj threw)

/-- A credit that computes the stored amount and status is none. -/
theorem credit_fixed {now : Int} {paid : Option ℚ} {invoice : FeeInvoice}
    (samePaid : (credit now paid invoice).amountPaid = invoice.amountPaid)
    (sameStatus : (credit now paid invoice).status = invoice.status) :
    credit now paid invoice = invoice := by
  have fields : credit now paid invoice =
      { invoice with
        amountPaid := (credit now paid invoice).amountPaid
        status := (credit now paid invoice).status } := rfl
  rw [fields, samePaid, sameStatus]

/-- A delivery without failures that claims a payment leaves the invoices' outcomes as they
are exactly when it has nothing to credit.

Proof: it saves the credited invoice unless that does not pass its validators, and no
other invoice. -/
theorem delivered_invoices {inputs : AwaitPoint → StepInput} (works : FailureFree inputs)
    {database : Database} (well : WellFormed database)
    (asks : captureOf deployment delivery = some params) {routed payment : Payment}
    (found : routedPayment params.gatewayOrderId database.payments = some routed)
    (claims : Claims routed.tenantId params database.payments payment) {amount : ℚ}
    (given : params.amount = some amount) (nonnegative : 0 ≤ amount) :
    (handle deployment inputs delivery database).1.invoices.map invoiceOutcome =
        database.invoices.map invoiceOutcome ↔
      NothingToCredit routed.tenantId params (inputs .invoiceRead).now payment
        database.invoices := by
  have bound := routed_bound well found
  rw [handle_routed inputs asks found]
  by_cases present_ : ∃ invoice ∈ database.invoices, invoice.id = payment.invoiceId ∧
      invoice.tenantId = routed.tenantId
  · obtain ⟨invoice, stored, target, owned⟩ := present_
    have applies : applyPayment invoice.amountDue invoice.amountPaid params.amount =
        .ok (some (min invoice.amountDue (Rounding.toHundredths (invoice.amountPaid + amount)))) := by
      simp only [applyPayment, given, if_neg (not_lt.mpr nonnegative)]
    have alone (other : FeeInvoice) (member : other ∈ database.invoices)
        (same : other.id = payment.invoiceId) : other = invoice :=
      Records.same_record well.invoices member stored (same.trans target.symm)
    cases refused : TenantModel.refusedPath (credit (inputs .invoiceRead).now
        (some (min invoice.amountDue (Rounding.toHundredths (invoice.amountPaid + amount))))
        invoice) with
    | some path =>
      have untouched := capture_refuses deployment bound works well.payments claims well.invoices
        stored target owned applies refused
      constructor
      · intro _ other member same _ paid others
        obtain rfl := alone other member same
        rw [applies, Except.ok.injEq] at others
        rw [← others, refused]
        exact .inl (by simp)
      · intro _
        rw [untouched]
    | none =>
      obtain ⟨receiptUrl, paymentReceipt, invoiceReceipt, credits⟩ :=
        capture_credits deployment bound works well.payments claims well.invoices stored target
          owned applies refused
      rw [credits, (notifying_keeps _ _ _ _ _).2.1,
        Records.replace_reading_iff invoiceOutcome well.invoices stored]
      constructor
      · intro same other member target' _ paid others
        obtain rfl := alone other member target'
        rw [applies, Except.ok.injEq] at others
        rw [← others]
        obtain ⟨sameStatus, samePaid⟩ := Prod.mk.inj (Prod.mk.inj same).2
        exact .inr (credit_fixed samePaid sameStatus)
      · intro nothing
        rcases nothing invoice stored target owned _ applies with refuses | fixed
        · exact False.elim (refuses refused)
        · have same := congrArg invoiceOutcome fixed
          exact same
  · have absent : ∀ invoice ∈ database.invoices, invoice.id = payment.invoiceId →
        invoice.tenantId ≠ routed.tenantId :=
      fun invoice stored target owned => present_ ⟨invoice, stored, target, owned⟩
    have untouched := capture_unread deployment bound works well.payments claims absent
    constructor
    · intro _ invoice stored target owned
      exact False.elim (absent invoice stored target owned)
    · intro _
      rw [untouched]

/-- A delivery that claims a payment and then fails before the notification leaves the
payment captured and the invoices as they were. -/
theorem late_failure {inputs : AwaitPoint → StepInput} {failing : AwaitPoint}
    (fails : FailsAt failing inputs) (late : upToClaim failing = false)
    (unsent : failing ≠ .notification) {database : Database} (well : WellFormed database)
    (asks : captureOf deployment delivery = some params) {routed payment : Payment}
    (found : routedPayment params.gatewayOrderId database.payments = some routed)
    (claims : Claims routed.tenantId params database.payments payment)
    (threw : (handle deployment inputs delivery database).2 = some (.threw .storage)) :
    (handle deployment inputs delivery database).1.payments.map standing =
        (Records.modify Payment.id payment.id (fun _ => claim params 0 payment)
          database.payments).map standing ∧
      (handle deployment inputs delivery database).1.invoices = database.invoices := by
  have works : ∀ point, upToClaim point = true → (inputs point).fails = false := by
    intro point early
    rw [fails point (by rintro rfl; simp [upToClaim] at early), decide_eq_false_iff_not]
    rintro rfl
    simp [early] at late
  have sends : (inputs .notification).fails = false := by
    rw [fails .notification (by simp), decide_eq_false_iff_not]
    exact Ne.symm unsent
  obtain ⟨standings, invoices⟩ := claimed_delivery well asks found claims works
  exact ⟨standings, invoices sends threw⟩

/-- After such a failure the database is well-formed and the gateway payment id recorded. -/
theorem claimed_recorded {before after : Database} (well : WellFormed before) {tenantId : String}
    {payment : Payment} (claims : Claims tenantId params before.payments payment)
    (payments : after.payments.map standing =
      (Records.modify Payment.id payment.id (fun _ => claim params 0 payment)
        before.payments).map standing)
    (invoices : after.invoices = before.invoices) :
    WellFormed after ∧
      ∃ held ∈ after.payments, held.gatewayPaymentId = some params.gatewayPaymentId := by
  have claimed : WellFormed
      { before with
        payments := Records.modify Payment.id payment.id (fun _ => claim params 0 payment)
          before.payments } := by
    refine ⟨Records.replace_distinct rfl well.payments, well.invoices, ?_⟩
    intro row member
    rcases Records.mem_replace member with rfl | ⟨stored, _⟩
    · exact well.owned payment claims.stored
    · exact well.owned row stored
  refine ⟨standing_well claimed payments invoices, ?_⟩
  have row : claim params 0 payment ∈
      Records.modify Payment.id payment.id (fun _ => claim params 0 payment) before.payments :=
    Records.modify_same claims.stored
  obtain ⟨held, stored, same⟩ := Records.reading_stored payments.symm row
  exact ⟨held, stored, congrArg (fun reading => reading.2.1) same⟩

/-- A database has the outcome of itself. -/
theorem same_outcome_refl (database : Database) : SameOutcome database database := ⟨rfl, rfl⟩

/-- A redelivery makes up for a failure exactly under the condition; without it nothing
delivered later for the same payment changes the database.

Proof: up to the claiming save nothing is stored. After it the gateway payment id is
recorded, so every redelivery stops at its first lookup and the invoices stay as they
were; a delivery without failures changes them exactly when there is something to credit. -/
theorem redelivery_recovers_iff (asks : captureOf deployment delivery = some params)
    {database : Database} (well : WellFormed database) {amount : ℚ}
    (given : params.amount = some amount) (nonnegative : 0 ≤ amount) {failing : AwaitPoint}
    (unsent : failing ≠ .notification) {first retry : AwaitPoint → StepInput}
    (fails : FailsAt failing first) (works : FailureFree retry)
    (threw : (handle deployment first delivery database).2 = some (.threw .storage)) :
    (SameOutcome
        (handle deployment retry delivery (handle deployment first delivery database).1).1
        (handle deployment retry delivery database).1 ↔
      Recoverable params failing (retry .invoiceRead).now database) ∧
    (¬ Recoverable params failing (retry .invoiceRead).now database →
      ∀ inputs, (handle deployment inputs delivery
          (handle deployment first delivery database).1).1 =
        (handle deployment first delivery database).1) := by
  have unchanged (same : (handle deployment first delivery database).1 = database)
      (recoverable : Recoverable params failing (retry .invoiceRead).now database) :
      (SameOutcome
          (handle deployment retry delivery (handle deployment first delivery database).1).1
          (handle deployment retry delivery database).1 ↔
        Recoverable params failing (retry .invoiceRead).now database) ∧
      (¬ Recoverable params failing (retry .invoiceRead).now database →
        ∀ inputs, (handle deployment inputs delivery
            (handle deployment first delivery database).1).1 =
          (handle deployment first delivery database).1) := by
    rw [same]
    exact ⟨⟨fun _ => recoverable, fun _ => same_outcome_refl _⟩,
      fun contrary => False.elim (contrary recoverable)⟩
  cases early : upToClaim failing with
  | true =>
    exact unchanged (early_failure fails early well asks) (fun _ _ _ _ => .inl early)
  | false =>
    by_cases claiming : ∃ routed, routedPayment params.gatewayOrderId database.payments =
        some routed ∧ ∃ payment, Claims routed.tenantId params database.payments payment
    · obtain ⟨routed, found, payment, claims⟩ := claiming
      obtain ⟨payments, invoices⟩ := late_failure fails early unsent well asks found claims threw
      obtain ⟨stillWell, held, stored, recorded⟩ := claimed_recorded well claims payments invoices
      have stuck (inputs : AwaitPoint → StepInput) :=
        handle_recorded inputs stillWell asks stored recorded
      refine ⟨?_, fun _ => stuck⟩
      have delivered := (claimed_delivery well asks found claims
        (fun point earlyPoint => works point (by rintro rfl; simp [upToClaim] at earlyPoint))).1
      have credited := delivered_invoices works well asks found claims given nonnegative
      rw [stuck retry]
      constructor
      · rintro ⟨_, sameInvoices⟩ other otherFound claimed otherClaims
        obtain rfl : routed = other := Option.some.inj (found.symm.trans otherFound)
        obtain rfl : payment = claimed :=
          Option.some.inj (claims.pending.symm.trans otherClaims.pending)
        exact .inr (credited.mp (sameInvoices.symm.trans (congrArg _ invoices)))
      · intro recoverable
        rcases recoverable routed found payment claims with early_ | nothing
        · simp [early] at early_
        · refine ⟨standing_outcome (payments.trans delivered.symm), ?_⟩
          rw [credited.mpr nothing, invoices]
    · have nothing : ∀ routed, routedPayment params.gatewayOrderId database.payments =
          some routed → ∀ payment, ¬ Claims routed.tenantId params database.payments payment :=
        fun routed found payment claims => claiming ⟨routed, found, payment, claims⟩
      exact unchanged (handle_unclaimed first well asks nothing)
        (fun routed found payment claims => False.elim (nothing routed found payment claims))

/-- A delivery without failures, whatever its amount, leaves payments and invoices as they
were exactly when it claims no payment. -/
theorem rejected_unchanged_iff (asks : captureOf deployment delivery = some params)
    {database : Database} (well : WellFormed database) {inputs : AwaitPoint → StepInput}
    (works : FailureFree inputs) :
    (handle deployment inputs delivery database).1.payments = database.payments ∧
        (handle deployment inputs delivery database).1.invoices = database.invoices ↔
      ∀ routed, routedPayment params.gatewayOrderId database.payments = some routed →
        ∀ payment, ¬ Claims routed.tenantId params database.payments payment := by
  constructor
  · rintro ⟨samePayments, _⟩ routed found payment claims
    have delivered := (claimed_delivery well asks found claims
      (fun point earlyPoint => works point (by rintro rfl; simp [upToClaim] at earlyPoint))).1
    rw [samePayments] at delivered
    have kept := (Records.replace_reading_iff standing well.payments claims.stored).mp
      delivered.symm
    obtain ⟨_, _, _, created⟩ := pending_payment_some claims.pending
    have status : PaymentStatus.captured = payment.status :=
      congrArg (fun reading => reading.2.2) kept
    rw [created] at status
    exact PaymentStatus.noConfusion status
  · intro nothing
    rw [handle_unclaimed inputs well asks nothing]
    exact ⟨rfl, rfl⟩

/-- A delivery that comes to the service returns or throws. -/
theorem handle_ends (deployment : Deployment) (delivery : Delivery)
    (inputs : AwaitPoint → StepInput) (database : Database) :
    ∀ step ∈ (handle deployment inputs delivery database).2, step.point = none := by
  intro step ended
  unfold handle at ended
  split at ended
  · cases ended
  · split at ended
    · obtain rfl := Option.mem_some_iff.mp ended
      rfl
    · cases ended
    · obtain rfl := Option.mem_some_iff.mp ended
      exact (point_remaining _).mpr (capture_ends _ _ _ inputs database)

/-- A failing delivery and its redelivery, over every well-formed database: the failure is
made up for exactly under the condition, and without it no later delivery of the same
payment changes the database. A delivery of a rejected amount leaves the payments and
the invoices as they were exactly when it claims no payment. And every delivery ends.

Proof: up to the claim a failing call writes nothing, and from the claim on a redelivery finds
the payment captured. So what the failing call had not yet written stays unwritten. -/
theorem failures_recovered_iff (deployment : Deployment) (delivery : Delivery)
    {params : CaptureParams} (asks : captureOf deployment delivery = some params)
    (database : Database) (well : WellFormed database) :
    (∀ amount, params.amount = some amount → 0 ≤ amount →
      ∀ failing first retry, failing ≠ .notification → FailsAt failing first →
        FailureFree retry →
        (handle deployment first delivery database).2 = some (.threw .storage) →
        (SameOutcome
            (handle deployment retry delivery (handle deployment first delivery database).1).1
            (handle deployment retry delivery database).1 ↔
          Recoverable params failing (retry .invoiceRead).now database) ∧
        (¬ Recoverable params failing (retry .invoiceRead).now database →
          ∀ inputs, (handle deployment inputs delivery
              (handle deployment first delivery database).1).1 =
            (handle deployment first delivery database).1)) ∧
    ((∀ amount, params.amount = some amount → amount < 0) →
      ∀ inputs, FailureFree inputs →
        ((handle deployment inputs delivery database).1.payments = database.payments ∧
            (handle deployment inputs delivery database).1.invoices = database.invoices ↔
          ∀ routed, routedPayment params.gatewayOrderId database.payments = some routed →
            ∀ payment, ¬ Claims routed.tenantId params database.payments payment)) ∧
    ∀ inputs, ∀ step ∈ (handle deployment inputs delivery database).2, step.point = none := by
  refine ⟨?_, ?_, fun inputs => handle_ends deployment delivery inputs database⟩
  · intro amount given nonnegative failing first retry unsent fails works threw
    exact redelivery_recovers_iff asks well given nonnegative unsent fails works threw
  · intro _ inputs works
    exact rejected_unchanged_iff asks well works

/-- A webhook of the open order, for an amount in paisa. -/
def orderWebhook (paisa : Option ℚ) : Delivery :=
  { body :=
      { event := some "payment.captured"
        entity := some { id := some "pay_1", orderId := some "order_1", amount := paisa } } }

/-- What the outside supplies when one operation fails, or none. -/
def supplying (failing : Option AwaitPoint) (point : AwaitPoint) : StepInput :=
  { now := 1, receiptUrl := some "https://receipts/1", notification := .repeated 'a',
    fails := decide (some point = failing) }

/-- The database of the open order is well-formed. -/
theorem open_order_well : WellFormed CaptureRaces.openOrder where
  payments := by simp [Records.Distinct, CaptureRaces.openOrder]
  invoices := by simp [Records.Distinct, CaptureRaces.openOrder]
  owned := by decide +kernel

/-- A delivery whose claiming save fails is made up for by its redelivery. -/
theorem failed_claim_recovers :
    SameOutcome
      (handle CaptureRaces.stubDeployment (supplying none) (orderWebhook (some 40000))
        (handle CaptureRaces.stubDeployment (supplying (some .claimingSave))
          (orderWebhook (some 40000)) CaptureRaces.openOrder).1).1
      (handle CaptureRaces.stubDeployment (supplying none) (orderWebhook (some 40000))
        CaptureRaces.openOrder).1 := by
  have asks : captureOf CaptureRaces.stubDeployment (orderWebhook (some 40000)) =
      some { gatewayOrderId := "order_1", gatewayPaymentId := "pay_1", amount := some 400 } := by
    decide +kernel
  refine (((failures_recovered_iff CaptureRaces.stubDeployment (orderWebhook (some 40000)) asks
    CaptureRaces.openOrder open_order_well).1 400 rfl (by norm_num) .claimingSave
    (supplying (some .claimingSave)) (supplying none) (by decide) ?_ ?_ ?_).1).mpr ?_
  · intro point _
    simp [supplying]
  · intro point _
    simp [supplying]
  · decide +kernel
  · exact fun _ _ _ _ => .inl rfl

/-- When the invoice read, the receipt save or the invoice save fails, the redelivery does
not credit the 400 rupees that one delivery credits, and the payment is captured. A
negative or missing amount captures the payment too. -/
theorem failed_captures_lose_credit :
    (∀ failing ∈ [AwaitPoint.invoiceRead, .receiptSave, .invoiceSave],
      (handle CaptureRaces.stubDeployment (supplying (some failing)) (orderWebhook (some 40000))
          CaptureRaces.openOrder).2 = some (.threw .storage) ∧
        ¬ SameOutcome
          (handle CaptureRaces.stubDeployment (supplying none) (orderWebhook (some 40000))
            (handle CaptureRaces.stubDeployment (supplying (some failing))
              (orderWebhook (some 40000)) CaptureRaces.openOrder).1).1
          (handle CaptureRaces.stubDeployment (supplying none) (orderWebhook (some 40000))
            CaptureRaces.openOrder).1) ∧
      ∀ rejected ∈ [some (-100), none],
        (handle CaptureRaces.stubDeployment (supplying none) (orderWebhook rejected)
          CaptureRaces.openOrder).1.payments ≠ CaptureRaces.openOrder.payments := by
  constructor
  · intro failing listed
    refine ⟨?_, fun same => ?_⟩
    · revert failing
      decide +kernel
    · have different : ∀ failing ∈ [AwaitPoint.invoiceRead, .receiptSave, .invoiceSave],
          (handle CaptureRaces.stubDeployment (supplying none) (orderWebhook (some 40000))
            (handle CaptureRaces.stubDeployment (supplying (some failing))
              (orderWebhook (some 40000)) CaptureRaces.openOrder).1).1.invoices.map
                invoiceOutcome ≠
            (handle CaptureRaces.stubDeployment (supplying none) (orderWebhook (some 40000))
              CaptureRaces.openOrder).1.invoices.map invoiceOutcome := by
        decide +kernel
      exact different failing listed same.invoices
  · decide +kernel

end CaptureFailures

end CoachingApi
