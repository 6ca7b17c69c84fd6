import CoachingApi.Fees.FeeCalc
import CoachingApi.Notifications.NotificationsService

/-!
# The payment gateway

With both keys set the gateway creates live orders; otherwise it answers with an
order derived from the receipt. The answer of the live service is an input. Webhooks
are verified by their keyed digest when a secret is configured. The digest and the
decimal printing of numbers belong to the platform and are parts of the deployment.
-/

namespace CoachingApi

open TenantPlugin

/-- The configuration and platform functions the fee services run with. -/
structure Deployment where
  keyId : Option String := none
  keySecret : Option String := none
  webhookSecret : Option String := none
  hmac : String → String → String
  numberToString : ℚ → String
  push : PushApp := none

/-- A gateway order, in rupees. -/
structure GatewayOrder where
  gatewayOrderId : String
  amount : ℚ
  currency : String
  deriving DecidableEq

/-- A request for a live order, in paisa. -/
structure OrderRequest where
  amount : Int
  currency : String
  receipt : String
  notes : List (String × String)
  deriving DecidableEq

/-- The live service's answer to a request: its order id, paisa and currency. -/
structure OrderReply where
  id : String
  amount : ℚ
  currency : String
  deriving DecidableEq

namespace RazorpayGateway

/-- The live service is used when both keys are set. -/
def enabled (deployment : Deployment) : Bool :=
  (present deployment.keyId).isSome && (present deployment.keySecret).isSome

/-- Create an order for an amount in rupees. -/
def createOrder (deployment : Deployment) (live : OrderRequest → Except Thrown OrderReply)
    (amount : ℚ) (receipt : String) (notes : List (String × String)) :
    Except Thrown GatewayOrder :=
  let amountPaisa : Int := round (amount * 100)
  if enabled deployment then
    match live { amount := amountPaisa, currency := "INR", receipt := receipt, notes := notes } with
    | .error thrown => .error thrown
    | .ok order =>
      .ok { gatewayOrderId := order.id, amount := order.amount / 100, currency := order.currency }
  else
    .ok { gatewayOrderId := s!"order_stub_{receipt}", amount := amount, currency := "INR" }

/-- Verify a webhook. Without a configured secret everything passes. -/
def verifyWebhookSignature (deployment : Deployment) (rawBody : String)
    (signature : Option String) : Bool :=
  match present deployment.webhookSecret with
  | none => true
  | some secret =>
    match present signature with
    | none => false
    | some supplied => decide (deployment.hmac secret rawBody = supplied)

end RazorpayGateway

end CoachingApi
