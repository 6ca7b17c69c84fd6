import CoachingApi.Fees.FeesService

/-!
# Applying a captured payment, await by await

The call advances from one awaited operation to the next. A step performs the awaited
operation on the database and then everything up to the next await, so interleavings
of calls are interleavings of steps. The state of a call holds the documents it has in
memory. An awaited operation may be made to fail, which throws and stores nothing; the
receipt service catches its own failures and answers with no url.

A serial call takes its steps one after the other until it has returned or thrown.
-/

namespace CoachingApi

open TenantContextStore TenantPlugin

/-- The arguments of `applyCapturedPayment`. An amount that is not a number is absent. -/
structure CaptureParams where
  gatewayOrderId : String
  gatewayPaymentId : String
  gatewaySignature : Option String := none
  amount : Option ℚ
  deriving DecidableEq

/-- The result of `applyCapturedPayment`. -/
structure CaptureResult where
  applied : Bool
  invoiceId : Option ObjectId := none
  deriving DecidableEq

/-- Where a call stands: before which awaited operation, or how it ended. An invoice in
memory is `invalid` after an assignment that could not be cast. -/
inductive CaptureStep where
  | started
  | noneRecorded
  | claiming (loaded current : Payment)
  | claimed (payment : Payment)
  | rendering (payment : Payment) (loaded current : FeeInvoice) (invalid : Bool)
  | storingReceipt (payment : Payment) (receiptUrl : String) (loaded current : FeeInvoice)
      (invalid : Bool)
  | crediting (payment : Payment) (receiptUrl : Option String) (loaded current : FeeInvoice)
      (invalid : Bool)
  | notifying (payment : Payment) (receiptUrl : Option String) (invoice : FeeInvoice)
  | returned (result : CaptureResult) (payment : Option Payment)
  | threw (thrown : Thrown)
  deriving DecidableEq

/-- The awaited operations of a call. -/
inductive AwaitPoint where
  | recordedLookup | pendingLookup | claimingSave | invoiceRead | receiptRendering
  | receiptSave | invoiceSave | notification
  deriving DecidableEq

/-- The awaited operation a call stands before; none when it has ended. -/
def CaptureStep.point : CaptureStep → Option AwaitPoint
  | .started => some .recordedLookup
  | .noneRecorded => some .pendingLookup
  | .claiming .. => some .claimingSave
  | .claimed .. => some .invoiceRead
  | .rendering .. => some .receiptRendering
  | .storingReceipt .. => some .receiptSave
  | .crediting .. => some .invoiceSave
  | .notifying .. => some .notification
  | .returned .. => none
  | .threw .. => none

/-- What the outside supplies to a step: the clock, the receipt's url, the identity a
notification is created under, and whether the awaited operation fails. -/
structure StepInput where
  now : Int
  receiptUrl : Option String := none
  notification : ObjectId
  fails : Bool := false

namespace FeesService

/-- The confirmation a capture sends. -/
def paidNotification (invoice : FeeInvoice) (receiptUrl : Option String) : NotifyInput :=
  { userId := .id invoice.studentId
    type := "invoice_paid"
    title := "Payment received"
    body := s!"We received your payment for \"{invoice.label}\"."
    data := some [("invoiceId", invoice.id.hex), ("receiptUrl", receiptUrl.getD "")] }

/-- The payment as the call claims it in memory. -/
def claim (params : CaptureParams) (now : Int) (payment : Payment) : Payment :=
  { payment with
    gatewayPaymentId := some params.gatewayPaymentId
    gatewaySignature := params.gatewaySignature
    status := .captured
    paidAt := some now }

/-- The invoice as the call credits it in memory: an amount that is not a number cannot
be cast and leaves the paid amount as it was. -/
def credit (now : Int) (paid : Option ℚ) (invoice : FeeInvoice) : FeeInvoice :=
  { invoice with
    amountPaid := paid.getD invoice.amountPaid
    status := computeInvoiceStatus invoice.amountDue (paid.getD invoice.amountPaid)
      invoice.dueDate now }

/-- One step of `applyCapturedPayment`. -/
def captureStep (deployment : Deployment) (ambient : Ambient) (params : CaptureParams)
    (input : StepInput) (database : Database) : CaptureStep → Database × CaptureStep
  | .started =>
    if input.fails then (database, .threw .storage)
    else
      match TenantModel.findOne ambient
          (fun payment => decide (payment.gatewayPaymentId = some params.gatewayPaymentId))
          database.payments with
      | .error thrown => (database, .threw thrown)
      | .ok (some existing) => (database, .returned ⟨false, some existing.invoiceId⟩ none)
      | .ok none => (database, .noneRecorded)
  | .noneRecorded =>
    if input.fails then (database, .threw .storage)
    else
      match TenantModel.findOne ambient
          (fun payment => decide (payment.gatewayOrderId = params.gatewayOrderId ∧
            payment.status = .created)) database.payments with
      | .error thrown => (database, .threw thrown)
      | .ok none => (database, .returned ⟨false, none⟩ none)
      | .ok (some payment) => (database, .claiming payment (claim params input.now payment))
  | .claiming loaded current =>
    if input.fails then (database, .threw .storage)
    else
      match TenantModel.save ambient loaded current database.payments with
      | .error .duplicateKey =>
        (database, .returned ⟨false, some current.invoiceId⟩ (some current))
      | .error thrown => (database, .threw thrown)
      | .ok (payment, payments) => ({ database with payments := payments }, .claimed payment)
  | .claimed payment =>
    if input.fails then (database, .threw .storage)
    else
      match TenantModel.findById ambient payment.invoiceId database.invoices with
      | .error thrown => (database, .threw thrown)
      | .ok none => (database, .returned ⟨true, some payment.invoiceId⟩ (some payment))
      | .ok (some invoice) =>
        match applyPayment invoice.amountDue invoice.amountPaid params.amount with
        | .error thrown => (database, .threw thrown)
        | .ok paid =>
          (database, .rendering payment invoice (credit input.now paid invoice) paid.isNone)
  | .rendering payment loaded current invalid =>
    match present (if input.fails then none else input.receiptUrl) with
    | some receiptUrl =>
      (database, .storingReceipt payment receiptUrl loaded
        { current with receiptUrl := some receiptUrl } invalid)
    | none => (database, .crediting payment none loaded current invalid)
  | .storingReceipt payment receiptUrl loaded current invalid =>
    if input.fails then (database, .threw .storage)
    else
      match TenantModel.save ambient payment { payment with receiptUrl := some receiptUrl }
          database.payments with
      | .error thrown => (database, .threw thrown)
      | .ok (stored, payments) =>
        ({ database with payments := payments },
          .crediting stored (some receiptUrl) loaded current invalid)
  | .crediting payment receiptUrl loaded current invalid =>
    if input.fails then (database, .threw .storage)
    else if invalid then (database, .threw (.validation "amountPaid"))
    else
      match TenantModel.save ambient loaded current database.invoices with
      | .error thrown => (database, .threw thrown)
      | .ok (invoice, invoices) =>
        ({ database with invoices := invoices }, .notifying payment receiptUrl invoice)
  | .notifying payment receiptUrl invoice =>
    if input.fails then (database, .threw .storage)
    else
      match NotificationsService.notify ambient deployment.push input.notification input.now
          (paidNotification invoice receiptUrl) database with
      | (notified, .error thrown) => (notified, .threw thrown)
      | (notified, .ok _) => (notified, .returned ⟨true, some payment.invoiceId⟩ (some payment))
  | .returned result payment => (database, .returned result payment)
  | .threw thrown => (database, .threw thrown)

/-- Take the next step with the input supplied for its await point. -/
def advance (deployment : Deployment) (ambient : Ambient) (params : CaptureParams)
    (inputs : AwaitPoint → StepInput) (database : Database) (step : CaptureStep) :
    Database × CaptureStep :=
  match step.point with
  | none => (database, step)
  | some point => captureStep deployment ambient params (inputs point) database step

/-- Take a number of steps. -/
def settle (deployment : Deployment) (ambient : Ambient) (params : CaptureParams)
    (inputs : AwaitPoint → StepInput) : Nat → Database → CaptureStep → Database × CaptureStep
  | 0, database, step => (database, step)
  | fuel + 1, database, step =>
    let next := advance deployment ambient params inputs database step
    settle deployment ambient params inputs fuel next.1 next.2

/-- A serial call of `applyCapturedPayment`, from its start to its end. -/
def applyCapturedPayment (deployment : Deployment) (ambient : Ambient) (params : CaptureParams)
    (inputs : AwaitPoint → StepInput) (database : Database) : Database × CaptureStep :=
  settle deployment ambient params inputs 8 database .started

end FeesService

/-- How many steps a call may still take. -/
def CaptureStep.remaining : CaptureStep → Nat
  | .started => 8
  | .noneRecorded => 7
  | .claiming .. => 6
  | .claimed .. => 5
  | .rendering .. => 4
  | .storingReceipt .. => 3
  | .crediting .. => 2
  | .notifying .. => 1
  | .returned .. => 0
  | .threw .. => 0

namespace FeesService

variable (deployment : Deployment) (ambient : Ambient) (params : CaptureParams)

/-- Every step of a call that has not ended brings it closer to its end. -/
theorem capture_step_progress (input : StepInput) (database : Database) (step : CaptureStep)
    (unfinished : 0 < step.remaining) :
    (captureStep deployment ambient params input database step).2.remaining < step.remaining := by
  cases step with
  | started =>
    simp only [captureStep]
    split
    · simp [CaptureStep.remaining]
    · split <;> simp [CaptureStep.remaining]
  | noneRecorded =>
    simp only [captureStep]
    split
    · simp [CaptureStep.remaining]
    · split <;> simp [CaptureStep.remaining]
  | claiming loaded current =>
    simp only [captureStep]
    split
    · simp [CaptureStep.remaining]
    · split <;> simp [CaptureStep.remaining]
  | claimed payment =>
    simp only [captureStep]
    split
    · simp [CaptureStep.remaining]
    · split
      · simp [CaptureStep.remaining]
      · simp [CaptureStep.remaining]
      · split <;> simp [CaptureStep.remaining]
  | rendering payment loaded current invalid =>
    simp only [captureStep]
    split <;> simp [CaptureStep.remaining]
  | storingReceipt payment receiptUrl loaded current invalid =>
    simp only [captureStep]
    split
    · simp [CaptureStep.remaining]
    · split <;> simp [CaptureStep.remaining]
  | crediting payment receiptUrl loaded current invalid =>
    simp only [captureStep]
    split
    · simp [CaptureStep.remaining]
    · split
      · simp [CaptureStep.remaining]
      · split <;> simp [CaptureStep.remaining]
  | notifying payment receiptUrl invoice =>
    simp only [captureStep]
    split
    · simp [CaptureStep.remaining]
    · split <;> simp [CaptureStep.remaining]
  | returned result payment => simp [CaptureStep.remaining] at unfinished
  | threw thrown => simp [CaptureStep.remaining] at unfinished

/-- A call stands before an awaited operation exactly while steps remain. -/
theorem point_remaining (step : CaptureStep) : step.point = none ↔ step.remaining = 0 := by
  cases step <;> simp [CaptureStep.point, CaptureStep.remaining]

/-- With as many steps as remain a call ends. -/
theorem settle_ends (inputs : AwaitPoint → StepInput) (fuel : Nat) (database : Database)
    (step : CaptureStep) (enough : step.remaining ≤ fuel) :
    (settle deployment ambient params inputs fuel database step).2.remaining = 0 := by
  induction fuel generalizing database step with
  | zero => exact Nat.le_zero.mp enough
  | succ fuel inductionHypothesis =>
    apply inductionHypothesis
    unfold advance
    cases point : step.point with
    | none =>
      have ended := (point_remaining step).mp point
      simp only
      omega
    | some await =>
      have unfinished : step.remaining ≠ 0 := by
        intro ended
        simp [(point_remaining step).mpr ended] at point
      have progress := capture_step_progress deployment ambient params (inputs await) database step
        (by omega)
      simp only
      omega

/-- A serial call always returns or throws. -/
theorem capture_ends (inputs : AwaitPoint → StepInput) (database : Database) :
    (applyCapturedPayment deployment ambient params inputs database).2.remaining = 0 :=
  settle_ends deployment ambient params inputs 8 database .started (by decide)

/-- A call that has ended takes no more steps. -/
theorem settle_final (inputs : AwaitPoint → StepInput) (fuel : Nat) (database : Database)
    (step : CaptureStep) (ended : step.point = none) :
    settle deployment ambient params inputs fuel database step = (database, step) := by
  induction fuel with
  | zero => rfl
  | succ fuel inductionHypothesis =>
    simp only [settle, advance, ended]
    exact inductionHypothesis

end FeesService

end CoachingApi
