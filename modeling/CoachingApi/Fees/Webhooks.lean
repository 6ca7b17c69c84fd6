import CoachingApi.Fees.CapturedPayment

/-!
# The gateway webhook

A delivery is verified, filtered to captures that name an order and a payment, routed
to the tenant of the first payment with its order id, and applied in that tenant's
context. The body is read with optional chaining, so every field may be missing.
-/

namespace CoachingApi

open TenantContextStore TenantPlugin

/-- The payment entity of a webhook body; the amount is in paisa. -/
structure WebhookEntity where
  id : Option String := none
  orderId : Option String := none
  amount : Option ℚ := none
  signature : Option String := none
  deriving DecidableEq

/-- A webhook body. -/
structure RazorpayWebhookBody where
  event : Option String := none
  entity : Option WebhookEntity := none
  deriving DecidableEq

/-- A delivery: the body, its raw text and the signature header. -/
structure Delivery where
  body : RazorpayWebhookBody
  rawBody : String := ""
  signature : Option String := none
  deriving DecidableEq

namespace WebhooksController

/-- The capture a delivery asks for, when it passes the signature and names an order
and a payment. Paisa become rupees. -/
def captureOf (deployment : Deployment) (delivery : Delivery) : Option CaptureParams :=
  if RazorpayGateway.verifyWebhookSignature deployment delivery.rawBody delivery.signature then
    if delivery.body.event = some "payment.captured" then
      match delivery.body.entity with
      | none => none
      | some entity =>
        match present entity.orderId, present entity.id with
        | some orderId, some id =>
          some { gatewayOrderId := orderId, gatewayPaymentId := id,
                 gatewaySignature := entity.signature, amount := entity.amount.map (· / 100) }
        | _, _ => none
    else none
  else none

/-- The context a bypass under the webhook's own actor binds. -/
def webhookBypass : Ambient := some { bypass := some true, bypassActor := some "system:webhook" }

/-- The context of a tenant. -/
def contextOf (tenantId : String) : Ambient := some { tenantId := some tenantId }

/-- Handle a delivery; how its capture ended, when it came to one. -/
def handle (deployment : Deployment) (inputs : AwaitPoint → StepInput) (delivery : Delivery)
    (database : Database) : Database × Option CaptureStep :=
  match captureOf deployment delivery with
  | none => (database, none)
  | some params =>
    match TenantModel.findOne webhookBypass
        (fun payment => decide (payment.gatewayOrderId = params.gatewayOrderId))
        database.payments with
    | .error thrown => (database, some (.threw thrown))
    | .ok none => (database, none)
    | .ok (some payment) =>
      let outcome := FeesService.applyCapturedPayment deployment (contextOf payment.tenantId)
        params inputs database
      (outcome.1, some outcome.2)

/-- The response to a delivery: whether this delivery applied the payment. -/
def razorpay (deployment : Deployment) (inputs : AwaitPoint → StepInput) (delivery : Delivery)
    (database : Database) : Database × Except Thrown Bool :=
  let outcome := handle deployment inputs delivery database
  (outcome.1, match outcome.2 with
    | some (.returned result _) => .ok result.applied
    | some (.threw thrown) => .error thrown
    | _ => .ok false)

/-- The first payment with an order id, whatever its tenant. -/
def routedPayment (orderId : String) (payments : List Payment) : Option Payment :=
  payments.find? (fun payment => decide (payment.gatewayOrderId = orderId))

/-- A delivery without a capture does nothing, one for an unknown order does nothing,
and every other one is applied in the tenant of the order's first payment. -/
theorem handle_routes (deployment : Deployment) (inputs : AwaitPoint → StepInput)
    (delivery : Delivery) (database : Database) :
    handle deployment inputs delivery database =
      match captureOf deployment delivery with
      | none => (database, none)
      | some params =>
        match routedPayment params.gatewayOrderId database.payments with
        | none => (database, none)
        | some payment =>
          ((FeesService.applyCapturedPayment deployment (contextOf payment.tenantId) params inputs
              database).1,
            some (FeesService.applyCapturedPayment deployment (contextOf payment.tenantId) params
              inputs database).2) := by
  unfold handle
  cases captureOf deployment delivery with
  | none => rfl
  | some params =>
    simp only [webhookBypass, TenantModel.find_one_bypass, routedPayment]
    cases database.payments.find?
      (fun payment => decide (payment.gatewayOrderId = params.gatewayOrderId)) with
    | none => rfl
    | some payment => rfl

end WebhooksController

end CoachingApi
