import CoachingApi.Fees.Webhooks

/-!
# The transitions of a capture

Every step of a call is one of the transitions listed here, each with the database
operation that allows it and what it writes. Invariants of interleavings and of
serial runs are proved by cases over them instead of unfolding the step.
-/

namespace CoachingApi

open TenantContextStore TenantPlugin

namespace FeesService

/-- What no capture changes of a payment. -/
def facts (payment : Payment) : ObjectId × String × String × ObjectId :=
  (payment.id, payment.tenantId, payment.gatewayOrderId, payment.invoiceId)

/-- Payments that agree in these agree in each of them. -/
theorem facts_same {one other : Payment} (same : facts one = facts other) :
    one.id = other.id ∧ one.tenantId = other.tenantId ∧
      one.gatewayOrderId = other.gatewayOrderId ∧ one.invoiceId = other.invoiceId := by
  simpa only [facts, Prod.mk.injEq] using same

/-- What a receipt changes nothing of. -/
def standing (payment : Payment) :
    (ObjectId × String × String × ObjectId) × Option String × PaymentStatus :=
  (facts payment, payment.gatewayPaymentId, payment.status)

/-- What one step of a call does. -/
inductive CaptureTransition (deployment : Deployment) (ambient : Ambient)
    (params : CaptureParams) :
    Database → CaptureStep → Database → CaptureStep → Prop where
  | failed (database : Database) (step : CaptureStep) (thrown : Thrown)
      (unfinished : step.point ≠ none) :
      CaptureTransition deployment ambient params database step database (.threw thrown)
  | recorded (database : Database) (existing : Payment)
      (found : TenantModel.findOne ambient
        (fun payment => decide (payment.gatewayPaymentId = some params.gatewayPaymentId))
        database.payments = .ok (some existing)) :
      CaptureTransition deployment ambient params database .started database
        (.returned ⟨false, some existing.invoiceId⟩ none)
  | unrecorded (database : Database)
      (absent : TenantModel.findOne ambient
        (fun payment => decide (payment.gatewayPaymentId = some params.gatewayPaymentId))
        database.payments = .ok none) :
      CaptureTransition deployment ambient params database .started database .noneRecorded
  | nonePending (database : Database)
      (absent : TenantModel.findOne ambient
        (fun payment => decide (payment.gatewayOrderId = params.gatewayOrderId ∧
          payment.status = .created)) database.payments = .ok none) :
      CaptureTransition deployment ambient params database .noneRecorded database
        (.returned ⟨false, none⟩ none)
  | pending (database : Database) (payment : Payment) (now : Int)
      (found : TenantModel.findOne ambient
        (fun payment => decide (payment.gatewayOrderId = params.gatewayOrderId ∧
          payment.status = .created)) database.payments = .ok (some payment)) :
      CaptureTransition deployment ambient params database .noneRecorded database
        (.claiming payment (claim params now payment))
  | lostClaim (database : Database) (loaded current : Payment)
      (refused : TenantModel.save ambient loaded current database.payments =
        .error .duplicateKey) :
      CaptureTransition deployment ambient params database (.claiming loaded current) database
        (.returned ⟨false, some current.invoiceId⟩ (some current))
  | claims (database : Database) (loaded current payment : Payment) (payments : List Payment)
      (saved : TenantModel.save ambient loaded current database.payments =
        .ok (payment, payments)) :
      CaptureTransition deployment ambient params database (.claiming loaded current)
        { database with payments := payments } (.claimed payment)
  | withoutInvoice (database : Database) (payment : Payment)
      (absent : TenantModel.findById ambient payment.invoiceId database.invoices = .ok none) :
      CaptureTransition deployment ambient params database (.claimed payment) database
        (.returned ⟨true, some payment.invoiceId⟩ (some payment))
  | reads (database : Database) (payment : Payment) (invoice : FeeInvoice) (paid : Option ℚ)
      (now : Int)
      (found : TenantModel.findById ambient payment.invoiceId database.invoices =
        .ok (some invoice))
      (applies : applyPayment invoice.amountDue invoice.amountPaid params.amount = .ok paid) :
      CaptureTransition deployment ambient params database (.claimed payment) database
        (.rendering payment invoice (credit now paid invoice) paid.isNone)
  | renders (database : Database) (payment : Payment) (loaded current : FeeInvoice)
      (invalid : Bool) (receiptUrl : String) :
      CaptureTransition deployment ambient params database
        (.rendering payment loaded current invalid) database
        (.storingReceipt payment receiptUrl loaded
          { current with receiptUrl := some receiptUrl } invalid)
  | rendersNothing (database : Database) (payment : Payment) (loaded current : FeeInvoice)
      (invalid : Bool) :
      CaptureTransition deployment ambient params database
        (.rendering payment loaded current invalid) database
        (.crediting payment none loaded current invalid)
  | storesReceipt (database : Database) (payment stored : Payment) (receiptUrl : String)
      (loaded current : FeeInvoice) (invalid : Bool) (payments : List Payment)
      (saved : TenantModel.save ambient payment { payment with receiptUrl := some receiptUrl }
        database.payments = .ok (stored, payments)) :
      CaptureTransition deployment ambient params database
        (.storingReceipt payment receiptUrl loaded current invalid)
        { database with payments := payments }
        (.crediting stored (some receiptUrl) loaded current invalid)
  | credits (database : Database) (payment : Payment) (receiptUrl : Option String)
      (loaded current invoice : FeeInvoice) (invoices : List FeeInvoice)
      (saved : TenantModel.save ambient loaded current database.invoices =
        .ok (invoice, invoices)) :
      CaptureTransition deployment ambient params database
        (.crediting payment receiptUrl loaded current false)
        { database with invoices := invoices } (.notifying payment receiptUrl invoice)
  | notifies (database : Database) (payment : Payment) (receiptUrl : Option String)
      (invoice : FeeInvoice) (notifications : List Notification) (pushes : List Push) :
      CaptureTransition deployment ambient params database (.notifying payment receiptUrl invoice)
        { database with notifications := notifications, pushes := pushes }
        (.returned ⟨true, some payment.invoiceId⟩ (some payment))
  | notifyFails (database : Database) (payment : Payment) (receiptUrl : Option String)
      (invoice : FeeInvoice) (notifications : List Notification) (pushes : List Push)
      (thrown : Thrown) :
      CaptureTransition deployment ambient params database (.notifying payment receiptUrl invoice)
        { database with notifications := notifications, pushes := pushes } (.threw thrown)
  | ended (database : Database) (step : CaptureStep) (finished : step.point = none) :
      CaptureTransition deployment ambient params database step database step

/-- Every step is one of the transitions. -/
theorem capture_step_transition (deployment : Deployment) (ambient : Ambient)
    (params : CaptureParams) (input : StepInput) (database : Database) (step : CaptureStep) :
    CaptureTransition deployment ambient params database step
      (captureStep deployment ambient params input database step).1
      (captureStep deployment ambient params input database step).2 := by
  cases step with
  | started =>
    simp only [captureStep]
    split
    · exact .failed database _ _ (by simp [CaptureStep.point])
    · split
      · exact .failed database _ _ (by simp [CaptureStep.point])
      · rename_i existing found
        exact .recorded database existing found
      · rename_i absent
        exact .unrecorded database absent
  | noneRecorded =>
    simp only [captureStep]
    split
    · exact .failed database _ _ (by simp [CaptureStep.point])
    · split
      · exact .failed database _ _ (by simp [CaptureStep.point])
      · rename_i absent
        exact .nonePending database absent
      · rename_i payment found
        exact .pending database payment input.now found
  | claiming loaded current =>
    simp only [captureStep]
    split
    · exact .failed database _ _ (by simp [CaptureStep.point])
    · split
      · rename_i refused
        exact .lostClaim database loaded current refused
      · exact .failed database _ _ (by simp [CaptureStep.point])
      · rename_i payment payments saved
        exact .claims database loaded current payment payments saved
  | claimed payment =>
    simp only [captureStep]
    split
    · exact .failed database _ _ (by simp [CaptureStep.point])
    · split
      · exact .failed database _ _ (by simp [CaptureStep.point])
      · rename_i absent
        exact .withoutInvoice database payment absent
      · rename_i invoice found
        split
        · exact .failed database _ _ (by simp [CaptureStep.point])
        · rename_i paid applies
          exact .reads database payment invoice paid input.now found applies
  | rendering payment loaded current invalid =>
    simp only [captureStep]
    split
    · rename_i receiptUrl _
      exact .renders database payment loaded current invalid receiptUrl
    · exact .rendersNothing database payment loaded current invalid
  | storingReceipt payment receiptUrl loaded current invalid =>
    simp only [captureStep]
    split
    · exact .failed database _ _ (by simp [CaptureStep.point])
    · split
      · exact .failed database _ _ (by simp [CaptureStep.point])
      · rename_i stored payments saved
        exact .storesReceipt database payment stored receiptUrl loaded current invalid payments saved
  | crediting payment receiptUrl loaded current invalid =>
    simp only [captureStep]
    split
    · exact .failed database _ _ (by simp [CaptureStep.point])
    · cases invalid with
      | true => exact .failed database _ _ (by simp [CaptureStep.point])
      | false =>
        simp only [Bool.false_eq_true, if_false]
        split
        · exact .failed database _ _ (by simp [CaptureStep.point])
        · rename_i invoice invoices saved
          exact .credits database payment receiptUrl loaded current invoice invoices saved
  | notifying payment receiptUrl invoice =>
    simp only [captureStep]
    split
    · exact .failed database _ _ (by simp [CaptureStep.point])
    · obtain ⟨notifications, pushes, writes⟩ := NotificationsService.notify_writes ambient
        deployment.push input.notification input.now (paidNotification invoice receiptUrl) database
      split
      · rename_i notified thrown outcome
        rw [outcome] at writes
        rw [writes]
        exact .notifyFails database payment receiptUrl invoice notifications pushes thrown
      · rename_i notified _ outcome
        rw [outcome] at writes
        rw [writes]
        exact .notifies database payment receiptUrl invoice notifications pushes
  | returned result payment => exact .ended database _ rfl
  | threw thrown => exact .ended database _ rfl

end FeesService

end CoachingApi
