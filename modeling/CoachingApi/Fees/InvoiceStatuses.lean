import CoachingApi.Fees.CreditedInvoices
import CoachingApi.Fees.PlanCoverage
import CoachingApi.Fees.Routing

/-!
# What a status says of the balance

Runs of plan creations, generations, payment orders and deliveries, one operation at a time
and failing or not. An invoice is stored with the status that was computed from the amounts
stored with it. The computation asks for a positive amount due before it says paid. So with a
positive amount due an invoice is paid exactly when nothing is outstanding, and a payment
ordered for it is over a positive amount. An invoice over nothing, which a split of a few paisa
gives, is never paid. The live service is asked for whole paisa, so an order over less than half
of one is placed for nothing.
-/

namespace CoachingApi

open TenantPlugin FeesService WebhooksController Runs

namespace InvoiceStatuses

/-- The status is the one its amounts compute to, as far as paid is concerned. -/
def Told (invoice : FeeInvoice) : Prop :=
  invoice.status = .paid ↔ invoice.amountDue ≤ invoice.amountPaid ∧ 0 < invoice.amountDue

/-- The invariant of such runs: the plans are over no negative amounts, neither are the
invoices, and their statuses tell of their amounts. -/
structure Truthful (database : Database) : Prop where
  well : WellFormed database
  plans : ∀ plan ∈ database.plans, ∀ inst ∈ plan.installments, 0 ≤ inst.amount
  dues : ∀ invoice ∈ database.invoices, 0 ≤ invoice.amountDue
  told : ∀ invoice ∈ database.invoices, Told invoice

/-- A credited invoice has the status of its amounts. -/
theorem credit_told (now : Int) (paid : ℚ) (receiptUrl : Option String) (invoice : FeeInvoice) :
    Told { credit now (some paid) invoice with receiptUrl := receiptUrl } :=
  status_paid_iff invoice.amountDue paid invoice.dueDate now

/-- A generated invoice is not paid, and neither do its amounts say so. -/
theorem generated_told {tenantId : String} {plans : List FeePlan} {invoice : FeeInvoice}
    (generated : Generated tenantId plans invoice) : Told invoice := by
  constructor
  · intro paid
    exact False.elim (generated.open_ paid)
  · rintro ⟨covered, positive⟩
    rw [generated.unpaid] at covered
    linarith

/-- A credit keeps statuses truthful. -/
theorem credit_truthful {database after : Database} (truthful : Truthful database)
    (well : WellFormed after) (plans : after.plans = database.plans) {amount : Option ℚ}
    (effect : CreditEffect amount database.invoices after.invoices) : Truthful after := by
  have dues : after.invoices.map FeeInvoice.amountDue =
      database.invoices.map FeeInvoice.amountDue :=
    effect.keeps truthful.well.invoices FeeInvoice.amountDue (fun _ _ _ _ => rfl)
  refine ⟨well, by rw [plans]; exact truthful.plans, ?_, ?_⟩
  · intro invoice member
    obtain ⟨original, stored, same⟩ := Records.reading_stored dues member
    exact same ▸ truthful.dues original stored
  · generalize after.invoices = invoices at effect
    intro invoice member
    cases effect with
    | nothing => exact truthful.told invoice member
    | credits loaded stored now paid receiptUrl applies =>
      rcases Records.mem_replace member with rfl | ⟨held, _⟩
      · exact credit_told now paid receiptUrl loaded
      · exact truthful.told invoice held

/-- Every operation keeps statuses truthful.

Proof: by cases over the effects. A generated invoice is unpaid, an order writes no invoice,
and a delivery credits at most one. -/
theorem perform_truthful (deployment : Deployment) {database : Database}
    (truthful : Truthful database) (operation : FeeOperation) :
    Truthful (perform deployment database operation) := by
  have well := Routing.perform_well deployment truthful.well operation
  have effect := perform_effect deployment database operation
  generalize perform deployment database operation = after at effect well
  cases effect with
  | nothing _ => exact truthful
  | plans tenantId generated now dto added created =>
    refine { truthful with well := well, plans := ?_ }
    intro plan member
    rcases List.mem_append.mp member with held | new
    · exact truthful.plans plan held
    · intro inst listed
      exact (valid_installments (created plan new).valid inst listed).2
  | invoices tenantId draw planId dto named added distinct generated =>
    refine { truthful with well := well, dues := ?_, told := ?_ }
    · intro invoice member
      rcases List.mem_append.mp member with held | new
      · exact truthful.dues invoice held
      · obtain ⟨plan, stored, _, inst, listed, _, due⟩ := (generated invoice new).source
        rw [due]
        exact truthful.plans plan stored inst listed
    · intro invoice member
      rcases List.mem_append.mp member with held | new
      · exact truthful.told invoice held
      · exact generated_told (generated invoice new)
  | order tenantId live generated invoiceId named payment invoice stored owned unpaid fresh
      ordered => exact { truthful with well := well }
  | delivered inputs delivery =>
    obtain ⟨amount, credited⟩ := delivery_credit_effect deployment truthful.well inputs delivery
    have plans := (Routing.delivery_keeps deployment truthful.well inputs delivery).1
    exact credit_truthful truthful well plans credited

/-- An order over an amount was placed with the live service, where that is used, for the
rounding of the amount to paisa. That is positive from half a paisa on. -/
def PlacedFor (deployment : Deployment) (live : OrderRequest → Except Thrown OrderReply)
    (amount : ℚ) (order : PaymentOrder) : Prop :=
  RazorpayGateway.enabled deployment = true →
    ∃ request reply, live request = .ok reply ∧ order.gatewayOrderId = reply.id ∧
      request.amount = round (amount * 100) ∧ (0 < request.amount ↔ 1 / 200 ≤ amount)

/-- An order is for the balance of its invoice, which is positive when the amount due is. -/
theorem order_positive {deployment : Deployment} {database after : Database}
    (truthful : Truthful database) {tenantId : String}
    {live : OrderRequest → Except Thrown OrderReply} {generated invoiceId : ObjectId}
    {order : PaymentOrder}
    (placed : createPaymentOrder deployment (contextOf tenantId) live generated invoiceId database =
      (after, .ok order)) :
    ∃ payment, after.payments = database.payments ++ [payment] ∧ order.amount = payment.amount ∧
      PlacedFor deployment live payment.amount order ∧
      ∃ invoice ∈ database.invoices, invoice.id = invoiceId ∧
        (0 < invoice.amountDue → 0 < payment.amount) := by
  rcases order_cases deployment (order_bound placed) live generated invoiceId database with
    ⟨thrown, refused⟩ | ⟨payment, invoice, answer, result, ⟨sameOrder, sameAmount⟩, stored, same, _,
      unpaid, _, created⟩
  · rw [refused] at placed
    simp at placed
  · rw [result] at placed
    obtain ⟨rfl, answered⟩ := Prod.mk.inj placed
    obtain rfl := Except.ok.inj answered
    refine ⟨payment, rfl, sameAmount, ?_, invoice, stored, same, fun positive => ?_⟩
    · intro enabled
      rcases created.order with ⟨_, request, reply, answered, named, paisa⟩ | ⟨stubbed, _⟩
      · exact ⟨request, reply, answered, sameOrder.trans named, paisa,
          paisa ▸ Rounding.round_hundredths_pos payment.amount⟩
      · rw [enabled] at stubbed
        cases stubbed
    have uncovered : ¬ invoice.amountDue ≤ invoice.amountPaid :=
      fun covered => unpaid ((truthful.told invoice stored).mpr ⟨covered, positive⟩)
    rw [created.balance]
    linarith

/-- In every state reached from a database without plans, invoices and payments, an invoice
over a positive amount is paid exactly when its paid amount covers it, and otherwise has a
positive balance; an invoice over nothing is not paid; the payment that is ordered for an invoice
over a positive amount is over a positive amount; and its order is placed with the gateway for the
rounding of that amount to paisa.

Proof: every operation keeps the statuses truthful, because each writes a status with the amounts
that it was computed from. An invoice is only ordered for while it is not paid. -/
theorem statuses_tell_balance (deployment : Deployment) (start : Database)
    (noPlans : start.plans = []) (noInvoices : start.invoices = [])
    (noPayments : start.payments = []) (operations : List FeeOperation) :
    (∀ invoice ∈ (run (perform deployment) start operations).invoices,
      0 ≤ invoice.amountDue ∧
      (0 < invoice.amountDue →
        (invoice.status = .paid ↔ invoice.amountDue ≤ invoice.amountPaid) ∧
        (invoice.status ≠ .paid → 0 < invoice.amountDue - invoice.amountPaid)) ∧
      (invoice.amountDue = 0 → invoice.status ≠ .paid)) ∧
    ∀ tenantId live generated invoiceId after order,
      createPaymentOrder deployment (contextOf tenantId) live generated invoiceId
          (run (perform deployment) start operations) = (after, .ok order) →
      ∃ payment, after.payments = (run (perform deployment) start operations).payments ++ [payment] ∧
        order.amount = payment.amount ∧ PlacedFor deployment live payment.amount order ∧
        ∃ invoice ∈ (run (perform deployment) start operations).invoices, invoice.id = invoiceId ∧
          (0 < invoice.amountDue → 0 < payment.amount) := by
  have opened : Truthful start := by
    constructor
    · exact well_opened noPayments noInvoices
    · simp [noPlans]
    · simp [noInvoices]
    · simp [noInvoices]
  have reached : Truthful (run (perform deployment) start operations) :=
    run_invariant Truthful
      (fun _ operation truthful => perform_truthful deployment truthful operation) opened operations
  refine ⟨?_, fun _ _ _ _ _ _ placed => order_positive reached placed⟩
  intro invoice member
  have told := reached.told invoice member
  refine ⟨reached.dues invoice member, ?_, ?_⟩
  · intro positive
    have settled : invoice.status = .paid ↔ invoice.amountDue ≤ invoice.amountPaid :=
      told.trans (and_iff_left positive)
    refine ⟨settled, fun unpaid => ?_⟩
    have uncovered : ¬ invoice.amountDue ≤ invoice.amountPaid :=
      fun covered => unpaid (settled.mpr covered)
    linarith
  · intro nothing paid
    have positive := (told.mp paid).2
    linarith

/-- A total of two paisa is split into three installments and invoiced; an order is placed for
the third invoice. -/
def paisaSplit : List FeeOperation :=
  [.createPlan "institute-a" (.repeated '1') 0
      { name := "Term", totalAmount := 1 / 50, splitInto := some 3 },
    .generateInvoices "institute-a" PlanCoverage.letterDraws (.repeated '1')
      { studentIds := some [.repeated '2'] },
    .createPaymentOrder "institute-a" (fun _ => .error .storage) (.repeated '3') (.repeated 'c')]

/-- A plan of one installment of 0.004 rupees, invoiced. -/
def fractionPlan : List FeeOperation :=
  [.createPlan "institute-a" (.repeated '1') 0
      { name := "Term", totalAmount := 1 / 250,
        installments := some [{ label := "Fee", amount := 1 / 250, dueDate := 0 }] },
    .generateInvoices "institute-a" PlanCoverage.letterDraws (.repeated '1')
      { studentIds := some [.repeated '2'] }]

/-- A live service that accepts orders over nothing only. -/
def acceptsNothing (request : OrderRequest) : Except Thrown OrderReply :=
  if request.amount = 0 then .ok { id := "order_1", amount := 0, currency := "INR" }
  else .error .storage

/-- The third invoice is over nothing: its balance is covered, it is not paid, and its order is
over nothing. The order of the live service for the balance of 0.004 rupees is for no paisa. -/
theorem split_leaves_nothing_unpaid :
    (run (perform CaptureRaces.stubDeployment) {} paisaSplit).invoices.map
        (fun invoice => (invoice.status, invoice.amountDue, invoice.amountPaid)) =
      [(.pending, 1 / 100, 0), (.pending, 1 / 100, 0), (.pending, 0, 0)] ∧
    (run (perform CaptureRaces.stubDeployment) {} paisaSplit).payments.map Payment.amount = [0] ∧
    (¬ ∀ invoice ∈ (run (perform CaptureRaces.stubDeployment) {} paisaSplit).invoices,
      (invoice.status = .paid ↔ invoice.amountDue ≤ invoice.amountPaid)) ∧
    (createPaymentOrder { CaptureRaces.stubDeployment with
          keyId := some "key", keySecret := some "secret" }
        (contextOf "institute-a") acceptsNothing (.repeated '3') (.repeated 'a')
        (run (perform CaptureRaces.stubDeployment) {} fractionPlan)).2.toOption.map
          PaymentOrder.gatewayOrderId = some "order_1" := by
  refine ⟨by decide +kernel, by decide +kernel, by decide +kernel, by decide +kernel⟩

/-- Then the first invoice is ordered and paid. -/
def paisaPaid : List FeeOperation :=
  paisaSplit ++
    [.createPaymentOrder "institute-a" (fun _ => .error .storage) (.repeated '4') (.repeated 'a'),
      .deliver (fun _ => { now := 1, notification := .repeated '5' })
        { body :=
            { event := some "payment.captured"
              entity := some { id := some "pay_1"
                               orderId := some "order_stub_aaaaaaaaaaaaaaaaaaaaaaaa_0"
                               amount := some 1 } } }]

/-- The first invoice is paid, and every status over a positive amount tells of its balance. -/
theorem paisa_statuses :
    (run (perform CaptureRaces.stubDeployment) {} paisaPaid).invoices.map FeeInvoice.status =
      [.paid, .pending, .pending] ∧
    ∀ invoice ∈ (run (perform CaptureRaces.stubDeployment) {} paisaPaid).invoices,
      0 < invoice.amountDue →
        (invoice.status = .paid ↔ invoice.amountDue ≤ invoice.amountPaid) := by
  refine ⟨by decide +kernel, fun invoice member positive => ?_⟩
  exact (((statuses_tell_balance CaptureRaces.stubDeployment {} rfl rfl rfl paisaPaid).1 invoice
    member).2.1 positive).1

end InvoiceStatuses

end CoachingApi
