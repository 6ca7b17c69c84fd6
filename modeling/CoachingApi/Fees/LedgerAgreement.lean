import CoachingApi.Fees.Tally

/-!
# The invoices and the payments agree

Orders are created for unpaid invoices and deliveries carry the amounts of their orders.
Several orders may be open for one invoice, each for the balance at its creation, so the
captured payments of an invoice can come to more than its amount due. The paid amount is
their sum up to the amount due. An amount due with a fraction of a paisa is outside: its
order is rounded by the gateway, its payment is not.
-/

namespace CoachingApi

open TenantContextStore TenantPlugin FeesService WebhooksController Rounding Runs Tally

namespace LedgerAgreement

/-- What a payment counts for an invoice: its amount, once it is captured. -/
def capturedAmount (invoiceId : ObjectId) (payment : Payment) : ℚ :=
  if payment.status = .captured ∧ payment.invoiceId = invoiceId then payment.amount else 0

/-- The sum of the amounts of an invoice's captured payments. -/
def capturedSum (payments : List Payment) (invoiceId : ObjectId) : ℚ :=
  Records.total (capturedAmount invoiceId) payments

/-- The condition on one operation: it creates an order, or it delivers without failures,
with an unused identity for its notification, the amount in paisa of the order it names. -/
def Exact (deployment : Deployment) (database : Database) : FeeOperation → Prop
  | .createPaymentOrder .. => True
  | .deliver inputs delivery =>
    FailureFree inputs ∧
      (∀ stored ∈ database.notifications, stored.id ≠ (inputs .notification).notification) ∧
      ∀ params, captureOf deployment delivery = some params →
        ∀ payment ∈ database.payments, payment.gatewayOrderId = params.gatewayOrderId →
          params.amount = some (toHundredths payment.amount)
  | _ => False

/-- Invoices as their generation leaves them, due for a whole amount of paisa. -/
structure Unpaid (invoice : FeeInvoice) : Prop where
  labelled : invoice.label ≠ ""
  due : 0 ≤ invoice.amountDue
  whole : Whole invoice.amountDue
  unpaid : invoice.amountPaid = 0
  open_ : invoice.status ≠ .paid

/-- The invariant of such runs: the database is sound over the captured sums, and the
payments are for whole amounts. -/
structure Agreeing (database : Database) : Prop where
  sound : Sound (capturedSum database.payments) database
  amounts : ∀ payment ∈ database.payments, 0 ≤ payment.amount ∧ Whole payment.amount

/-- A payment that is not captured counts for no invoice. -/
theorem created_amount {payment : Payment} (created : payment.status = .created)
    (invoiceId : ObjectId) : capturedAmount invoiceId payment = 0 := by
  simp [capturedAmount, created]

/-- A new order counts for no invoice. -/
theorem ordered_sum {payments : List Payment} {payment : Payment}
    (created : payment.status = .created) :
    capturedSum (payments ++ [payment]) = capturedSum payments := by
  funext invoiceId
  rw [capturedSum, Records.total_append, created_amount created, add_zero, capturedSum]

/-- Capturing a payment adds its amount to its invoice. -/
theorem captured_sum {payments : List Payment} {payment claimed : Payment}
    (distinct : Records.Distinct Payment.id payments) (stored : payment ∈ payments)
    (created : payment.status = .created) (captured : claimed.status = .captured)
    (target : claimed.invoiceId = payment.invoiceId) (amount : claimed.amount = payment.amount) :
    capturedSum (Records.modify Payment.id payment.id (fun _ => claimed) payments) =
      Function.update (capturedSum payments) payment.invoiceId
        (capturedSum payments payment.invoiceId + payment.amount) := by
  funext invoiceId
  have exchange := Records.total_modify (capturedAmount invoiceId) distinct stored
    (fun _ => claimed)
  rw [created_amount created, add_zero] at exchange
  unfold capturedSum
  rw [exchange]
  by_cases same : payment.invoiceId = invoiceId
  · subst same
    rw [Function.update_self]
    simp [capturedAmount, captured, target, amount]
  · rw [Function.update_of_ne (Ne.symm same)]
    simp [capturedAmount, target, same]

/-- A delivery of the amount of its order keeps the ledgers in agreement.

Proof: a delivery for an order nobody has changes nothing. The captured payment is one of
the order, so the amount delivered is the payment's own. -/
theorem delivery_agrees {deployment : Deployment} {database : Database}
    (agreeing : Agreeing database) {inputs : AwaitPoint → StepInput} {delivery : Delivery}
    (exact_ : Exact deployment database (.deliver inputs delivery)) :
    Agreeing (handle deployment inputs delivery database).1 := by
  obtain ⟨works, unsent, amounts⟩ := exact_
  cases asks : captureOf deployment delivery with
  | none =>
    rw [handle_routes, asks]
    exact agreeing
  | some params =>
    cases found : routedPayment params.gatewayOrderId database.payments with
    | none =>
      rw [handle_unrouted inputs asks found]
      exact agreeing
    | some routed =>
      have exactAmount (payment : Payment) (stored : payment ∈ database.payments)
          (order : payment.gatewayOrderId = params.gatewayOrderId) :
          params.amount = some payment.amount := by
        rw [amounts params asks payment stored order,
          to_hundredths_fixed (agreeing.amounts payment stored).2]
      obtain ⟨nonnegative, whole⟩ := agreeing.amounts routed (routed_stored found)
      have given := exactAmount routed (routed_stored found) (routed_order found)
      rcases agreeing.sound.delivery works unsent asks given nonnegative whole with
        ⟨same, _⟩ | ⟨payment, claimed, invoice, captures, _, sound, _⟩
      · rw [same]
        exact agreeing
      · obtain ⟨now, receiptUrl, result⟩ := captures.result
        have sameAmount : routed.amount = payment.amount :=
          Option.some.inj (given.symm.trans
            (exactAmount payment captures.stored captures.order))
        have sums : capturedSum (handle deployment inputs delivery database).1.payments =
            Function.update (capturedSum database.payments) payment.invoiceId
              (capturedSum database.payments payment.invoiceId + routed.amount) := by
          rw [captures.payments, sameAmount]
          exact captured_sum agreeing.sound.paymentIds captures.stored captures.created
            (by rw [result]; rfl) (by rw [result]; rfl) (by rw [result]; rfl)
        refine ⟨by rw [sums]; exact sound, ?_⟩
        rw [captures.payments]
        intro other member
        rcases Records.mem_replace member with rfl | ⟨held, _⟩
        · rw [result]
          exact agreeing.amounts payment captures.stored
        · exact agreeing.amounts other held

/-- An operation that meets the condition keeps the ledgers in agreement. -/
theorem perform_agrees {deployment : Deployment} (database : Database) (operation : FeeOperation)
    (agreeing : Agreeing database) (exact_ : Exact deployment database operation) :
    Agreeing (perform deployment database operation) := by
  have effect := perform_effect deployment database operation
  cases operation with
  | createPlan tenantId generated now dto => exact False.elim exact_
  | generateInvoices tenantId draw planId dto => exact False.elim exact_
  | deliver inputs delivery => exact delivery_agrees agreeing exact_
  | createPaymentOrder tenantId live generated invoiceId =>
    generalize perform deployment database
      (.createPaymentOrder tenantId live generated invoiceId) = after at effect
    cases effect with
    | nothing _ => exact agreeing
    | order _ _ _ _ named payment invoice stored owned unpaid fresh ordered =>
      have tallied := agreeing.sound.tallied invoice stored
      refine ⟨?_, ?_⟩
      · rw [ordered_sum ordered.created]
        exact agreeing.sound.order stored ordered.target (owned.trans ordered.owned.symm)
          (ordered.owned ▸ named) fresh
      · intro other member
        rcases List.mem_append.mp member with held | new
        · exact agreeing.amounts other held
        · obtain rfl := List.mem_singleton.mp new
          rw [ordered.balance, tallied.paid]
          exact ⟨sub_nonneg.mpr (min_le_left _ _),
            tallied.dueWhole.sub (tallied.dueWhole.min tallied.whole)⟩

/-- The invoices and the payments agree. Start from unpaid invoices due for whole amounts of
paisa, without payments, and run any orders and deliveries that meet the condition. Then
every invoice's paid amount is the amount due or the sum of the amounts of its captured
payments, whichever is less.

Proof: the captured sums are a tally of the invoices at the start, and every operation
keeps them one. -/
theorem ledgers_agree (deployment : Deployment) (start : Database)
    (unordered : start.payments = [])
    (distinct : Records.Distinct FeeInvoice.id start.invoices)
    (unpaid : ∀ invoice ∈ start.invoices, Unpaid invoice) (operations : List FeeOperation)
    (exact_ : Along (perform deployment) (Exact deployment) start operations) :
    ∀ invoice ∈ (run (perform deployment) start operations).invoices,
      invoice.amountPaid = min invoice.amountDue
        (capturedSum (run (perform deployment) start operations).payments invoice.id) := by
  have opened : Agreeing start := by
    refine ⟨⟨by simp [Records.Distinct, unordered], distinct, by simp [unordered],
      by simp [unordered], ?_⟩, by simp [unordered]⟩
    intro invoice stored
    have generated := unpaid invoice stored
    have nothing : capturedSum start.payments invoice.id = 0 := by
      simp [capturedSum, unordered, Records.total]
    rw [nothing]
    refine ⟨generated.labelled, generated.due, generated.whole, le_refl _, whole_zero, ?_, ?_⟩
    · rw [generated.unpaid, min_eq_right generated.due]
    · exact fun paid => False.elim (generated.open_ paid)
  have final : Agreeing (run (perform deployment) start operations) :=
    run_preserves perform_agrees opened exact_
  exact fun invoice stored => (final.sound.tallied invoice stored).paid

/-- A deployment with a live gateway. -/
def liveDeployment : Deployment :=
  { CaptureRaces.stubDeployment with keyId := some "key", keySecret := some "secret" }

/-- An order for the invoice of the institute, which the gateway gives an id. -/
def orderedAs (orderId : String) (generated : ObjectId) : FeeOperation :=
  .createPaymentOrder "institute-a"
    (fun request => .ok { id := orderId, amount := request.amount, currency := "INR" })
    generated (.repeated '1')

/-- A delivery of an order's amount in paisa. -/
def deliveredAs (orderId paymentId : String) (paisa : ℚ) (notification : ObjectId) :
    FeeOperation :=
  .deliver (fun _ => { now := 1, notification := notification })
    { body :=
        { event := some "payment.captured"
          entity := some { id := some paymentId, orderId := some orderId,
                           amount := some paisa } } }

/-- An unpaid invoice of the institute. -/
def unpaidInvoice (amountDue : ℚ) : FeeInvoice :=
  { CaptureRaces.thousandInvoice with amountDue := amountDue }

/-- Two orders are created before either is captured. -/
def twoCaptures : List FeeOperation :=
  [orderedAs "order_1" (.repeated '4'), orderedAs "order_2" (.repeated '5'),
    deliveredAs "order_1" "pay_1" 100000 (.repeated '6'),
    deliveredAs "order_2" "pay_2" 100000 (.repeated '7')]

/-- One order, captured. -/
def oneCapture (paisa : ℚ) : List FeeOperation :=
  [orderedAs "order_1" (.repeated '4'), deliveredAs "order_1" "pay_1" paisa (.repeated '6')]

/-- A delivery for an order at a database meets the condition when the order's payments are
for that amount. -/
theorem delivered_exact {database : Database} {orderId paymentId : String} {paisa : ℚ}
    {notification : ObjectId} (ordered : orderId ≠ "") (identified : paymentId ≠ "")
    (unsent : ∀ stored ∈ database.notifications, stored.id ≠ notification)
    (amounts : ∀ payment ∈ database.payments, payment.gatewayOrderId = orderId →
      paisa / 100 = toHundredths payment.amount) :
    Exact liveDeployment database (deliveredAs orderId paymentId paisa notification) := by
  refine ⟨fun _ _ => rfl, unsent, ?_⟩
  intro params asks payment stored order
  obtain rfl : params =
      { gatewayOrderId := orderId, gatewayPaymentId := paymentId,
        gatewaySignature := none, amount := some (paisa / 100) } := by
    simpa [captureOf, RazorpayGateway.verifyWebhookSignature, liveDeployment,
      CaptureRaces.stubDeployment, present, ordered, identified] using asks.symm
  exact congrArg some (amounts payment stored order)

/-- The run with two open orders meets the condition, so its ledgers agree up to the
amount due. -/
theorem two_captures_agree :
    (run (perform liveDeployment) { invoices := [unpaidInvoice 1000] }
        twoCaptures).invoices.length = 1 ∧
      ∀ invoice ∈ (run (perform liveDeployment) { invoices := [unpaidInvoice 1000] }
          twoCaptures).invoices,
        invoice.amountPaid = min invoice.amountDue
          (capturedSum (run (perform liveDeployment) { invoices := [unpaidInvoice 1000] }
            twoCaptures).payments invoice.id) := by
  refine ⟨by decide +kernel, ledgers_agree liveDeployment { invoices := [unpaidInvoice 1000] } rfl
    (by simp [Records.Distinct]) ?_ twoCaptures
    ⟨trivial, trivial, delivered_exact (by decide) (by decide) (by decide +kernel)
      (by decide +kernel), delivered_exact (by decide) (by decide) (by decide +kernel)
      (by decide +kernel), trivial⟩⟩
  intro invoice stored
  obtain rfl := List.mem_singleton.mp stored
  exact ⟨by decide, by decide +kernel, ⟨100000, by norm_num [unpaidInvoice]⟩, rfl, by decide⟩

/-- Two orders of 1000 rupees open at once for an invoice of 1000 rupees are both captured,
and the invoice's paid amount is half of what was captured. And when the amount due has a
fraction of a paisa, the one capture of its order leaves the paid amount below the captured
payment's amount. -/
theorem captured_rupees_dropped :
    (Along (perform liveDeployment) (Exact liveDeployment) { invoices := [unpaidInvoice 1000] }
        twoCaptures ∧
      (run (perform liveDeployment) { invoices := [unpaidInvoice 1000] }
          twoCaptures).invoices.map FeeInvoice.amountPaid = [1000] ∧
      capturedSum (run (perform liveDeployment) { invoices := [unpaidInvoice 1000] }
        twoCaptures).payments (unpaidInvoice 1000).id = 2000) ∧
    (Along (perform liveDeployment) (Exact liveDeployment)
        { invoices := [unpaidInvoice (10004 / 1000)] } (oneCapture 1000) ∧
      (run (perform liveDeployment) { invoices := [unpaidInvoice (10004 / 1000)] }
          (oneCapture 1000)).invoices.map FeeInvoice.amountPaid = [10] ∧
      capturedSum (run (perform liveDeployment) { invoices := [unpaidInvoice (10004 / 1000)] }
        (oneCapture 1000)).payments (unpaidInvoice (10004 / 1000)).id = 10004 / 1000) := by
  refine ⟨⟨⟨trivial, trivial, delivered_exact (by decide) (by decide) (by decide +kernel)
    (by decide +kernel), delivered_exact (by decide) (by decide) (by decide +kernel)
    (by decide +kernel), trivial⟩, ?_, ?_⟩, ⟨trivial, delivered_exact (by decide) (by decide)
    (by decide +kernel) (by decide +kernel), trivial⟩, ?_, ?_⟩
  all_goals decide +kernel

end LedgerAgreement

end CoachingApi
