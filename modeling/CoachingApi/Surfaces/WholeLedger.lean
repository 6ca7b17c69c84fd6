import CoachingApi.Fees.Ledger
import CoachingApi.Fees.LedgerAgreement
import CoachingApi.Reports.FeesSummary
import CoachingApi.Surfaces.RouteRoles

/-!
# The money of the whole

The calls of all institutes' members and the deliveries of the gateway, in any order. Plans are
split automatically, and deliveries carry the amounts of their orders and meet no failure. Only
plans, generations, orders and deliveries touch money, so in every state reached the paid amount
of each invoice is what its captured payments come to, up to the amount due, and the fees report
of each institute adds these up.
-/

namespace CoachingApi

open TenantModel TenantPlugin TenantContextStore LedgerAgreement

namespace LedgerAgreement

/-- Invoices agree with payments whatever else is stored. -/
theorem Agreeing.same {before after : Database} (agreeing : Agreeing before)
    (payments : after.payments = before.payments) (invoices : after.invoices = before.invoices) :
    Agreeing after := by
  obtain ⟨⟨paymentIds, invoiceIds, named, targets, tallied⟩, amounts⟩ := agreeing
  constructor
  · rw [payments]
    constructor
    · rw [payments]
      exact paymentIds
    · rw [invoices]
      exact invoiceIds
    · rw [payments]
      exact named
    · rw [payments, invoices]
      exact targets
    · rw [invoices]
      exact tallied
  · rw [payments]
    exact amounts

/-- Generated invoices agree with the payments: none is for them yet. -/
theorem Agreeing.generated {database : Database} (agreeing : Agreeing database)
    (billable : ∀ plan ∈ database.plans, ∀ inst ∈ plan.installments, Ledger.Billable inst)
    {tenantId : String} {added : List FeeInvoice}
    (distinct : Records.Distinct FeeInvoice.id (database.invoices ++ added))
    (generated : ∀ invoice ∈ added, FeesService.Generated tenantId database.plans invoice) :
    Agreeing { database with invoices := database.invoices ++ added } := by
  refine ⟨agreeing.sound.invoices distinct ?_, agreeing.amounts⟩
  intro invoice new
  have nothing : capturedSum database.payments invoice.id = 0 := by
    apply List.sum_eq_zero
    intro amount counted
    obtain ⟨payment, stored, rfl⟩ := List.mem_map.mp counted
    obtain ⟨target, held, same, _⟩ := agreeing.sound.targets payment stored
    have apart : payment.invoiceId ≠ invoice.id := by
      intro equal
      simp only [Records.Distinct, List.map_append] at distinct
      exact (List.nodup_append.mp distinct).2.2 target.id (List.mem_map.mpr ⟨target, held, rfl⟩)
        invoice.id (List.mem_map.mpr ⟨invoice, new, rfl⟩) (same.trans equal)
    exact if_neg (fun counts => apart counts.2)
  rw [nothing]
  exact Ledger.generated_tallied (generated invoice new) billable

end LedgerAgreement

namespace TenantApi

/-- What happens to the whole: a call of a member, or a delivery of the gateway. -/
inductive Event where
  | call (call : Call)
  | delivery (inputs : AwaitPoint → StepInput) (delivery : Delivery)

/-- The whole after what happens. -/
def take (deployment : TenantApiDeployment) (campus : Campus) : Event → Campus
  | .call call => after deployment campus call
  | .delivery inputs delivery =>
    { campus with
      database :=
        (WebhooksController.handle deployment.fees inputs delivery campus.database).1 }

/-- A plan is split automatically. -/
def TenantRequest.Splits : TenantRequest → Prop
  | .createPlan _ _ dto => dto.installments.getD [] = []
  | _ => True

/-- The condition on what happens: plans are split automatically, and deliveries meet no failure
and carry the amounts of their orders. -/
def Orderly (deployment : TenantApiDeployment) (campus : Campus) : Event → Prop
  | .call call => TenantRequest.Splits call.request
  | .delivery inputs delivery =>
    Exact deployment.fees campus.database (.deliver inputs delivery)

/-- Invoices agree with payments, and every plan can be billed. -/
structure Reconciled (campus : Campus) : Prop where
  agreeing : Agreeing campus.database
  plans : ∀ plan ∈ campus.database.plans, ∀ inst ∈ plan.installments, Ledger.Billable inst

/-- What writes neither plans nor invoices nor payments keeps the money reconciled. -/
theorem Reconciled.kept {before after : Campus} (reconciled : Reconciled before)
    {holdings : List Holding} (written : Written holdings before after)
    (noPlans : Holding.plans ∉ holdings) (noInvoices : Holding.invoices ∉ holdings)
    (noPayments : Holding.payments ∉ holdings) : Reconciled after := by
  have plans : after.database.plans = before.database.plans := written.same noPlans
  have invoices : after.database.invoices = before.database.invoices := written.same noInvoices
  have payments : after.database.payments = before.database.payments := written.same noPayments
  constructor
  · exact reconciled.agreeing.same payments invoices
  · rw [plans]
    exact reconciled.plans

/-- A call of a member keeps the money reconciled.

Proof: requests that write neither plans nor invoices nor payments leave it as it is. -/
theorem after_reconciled (deployment : TenantApiDeployment) {campus : Campus} {call : Call}
    (splits : TenantRequest.Splits call.request) (reconciled : Reconciled campus) :
    Reconciled (after deployment campus call) := by
  cases admits : admitted deployment call with
  | error thrown =>
    have same : after deployment campus call = campus := by simp only [after, handle, admits]
    exact same.symm ▸ reconciled
  | ok user =>
    have bound := admitted_bound admits
    have served : after deployment campus call =
        (serve deployment (intercept user.tenantId) user campus call.request).1 := by
      simp only [after, handle, admits]
    rw [served]
    have written := serve_writes deployment (intercept user.tenantId) user campus call.request
    cases request : call.request with
    | createPlan generated now dto =>
      rw [request] at splits
      obtain ⟨added, creates, created⟩ := FeesService.create_plan_appends deployment.fees bound
        generated now dto campus.database
      simp only [serve, stored, creates]
      refine ⟨reconciled.agreeing.same rfl rfl, ?_⟩
      intro plan member
      rcases List.mem_append.mp member with held | new
      · exact reconciled.plans plan held
      · exact Ledger.split_billable (created plan new) splits
    | generateInvoices draw id dto =>
      simp only [serve]
      split
      · exact reconciled
      · rename_i planId _
        obtain ⟨added, generates, distinct, generated⟩ := FeesService.generate_appends bound draw
          planId dto campus.database
        simp only [stored, generates]
        exact ⟨reconciled.agreeing.generated reconciled.plans
          (distinct reconciled.agreeing.sound.invoiceIds) generated, reconciled.plans⟩
    | createOrder live generated invoiceId =>
      rcases FeesService.order_cases deployment.fees bound live generated invoiceId.id
        campus.database with ⟨thrown, refused⟩ |
          ⟨payment, invoice, order, placed, _, held, _, owned, _, fresh, ordered⟩
      · simp only [serve, stored, refused]
        exact reconciled
      · simp only [serve, stored, placed]
        have tallied := reconciled.agreeing.sound.tallied invoice held
        refine ⟨⟨?_, ?_⟩, reconciled.plans⟩
        · rw [ordered_sum ordered.created]
          exact reconciled.agreeing.sound.order held ordered.target
            (owned.trans ordered.owned.symm) (ordered.owned ▸ bound.nonempty) fresh
        · intro other member
          rcases List.mem_append.mp member with earlier | new
          · exact reconciled.agreeing.amounts other earlier
          · obtain rfl := List.mem_singleton.mp new
            rw [ordered.balance, tallied.paid]
            exact ⟨sub_nonneg.mpr (min_le_left _ _),
              tallied.dueWhole.sub (tallied.dueWhole.min tallied.whole)⟩
    | _ =>
      rw [request] at written
      apply reconciled.kept written <;> simp [TenantRequest.writes]

/-- What deliveries write. -/
def billing : List Holding := [.invoices, .payments, .notifications, .pushes]

/-- A delivery writes invoices, payments, notifications and pushes at most. -/
theorem delivery_writes (deployment : Deployment) (inputs : AwaitPoint → StepInput)
    (delivery : Delivery) (campus : Campus) :
    Written billing campus
      { campus with
        database := (WebhooksController.handle deployment inputs delivery campus.database).1 } := by
  rw [WebhooksController.handle_routes]
  cases WebhooksController.captureOf deployment delivery with
  | none => exact .nothing
  | some params =>
    simp only
    cases WebhooksController.routedPayment params.gatewayOrderId campus.database.payments with
    | none => exact .nothing
    | some routed =>
      have each : ∀ point (current : Database) step, CaptureStep.point step = some point →
          Written billing campus { campus with database := current } →
            Written billing campus
              { campus with
                database := (FeesService.captureStep deployment
                  (WebhooksController.contextOf routed.tenantId) params (inputs point) current
                  step).1 } := by
        intro point current step _ written
        have told (notifications : List Notification) (pushes : List Push) :
            Written billing campus { campus with database :=
              { current with notifications := notifications, pushes := pushes } } :=
          .more .pushes pushes (by simp [billing])
            (.more .notifications notifications (by simp [billing]) written)
        have transition := FeesService.capture_step_transition deployment
          (WebhooksController.contextOf routed.tenantId) params (inputs point) current step
        generalize (FeesService.captureStep deployment (WebhooksController.contextOf routed.tenantId)
          params (inputs point) current step).1 = next at transition ⊢
        generalize (FeesService.captureStep deployment (WebhooksController.contextOf routed.tenantId)
          params (inputs point) current step).2 = nextStep at transition
        cases transition <;> first
          | exact written
          | exact .more .payments _ (by simp [billing]) written
          | exact .more .invoices _ (by simp [billing]) written
          | exact told _ _
      exact @FeesService.settle_preserves _ _ _ _
        (fun current _ => Written billing campus
          { campus with database := current }) each 8 campus.database .started .nothing

/-- What happens under the condition keeps the money reconciled. -/
theorem take_reconciled (deployment : TenantApiDeployment) {campus : Campus} {event : Event}
    (reconciled : Reconciled campus) (orderly : Orderly deployment campus event) :
    Reconciled (take deployment campus event) := by
  cases event with
  | call call => exact after_reconciled deployment orderly reconciled
  | delivery inputs delivery =>
    refine ⟨delivery_agrees reconciled.agreeing orderly, ?_⟩
    have plans : (take deployment campus (.delivery inputs delivery)).database.plans =
        campus.database.plans :=
      (delivery_writes deployment.fees inputs delivery campus).same
        (show Holding.plans ∉ billing by decide)
    rw [plans]
    exact reconciled.plans

/-- After any run of calls and deliveries that meets the condition, every invoice is paid with what
its captured payments come to, up to its amount due, and the fees report of an institute adds up
what its own invoices are due and paid: nothing is outstanding below zero, and what members of
other institutes asked for does not count.

Proof: the money is reconciled at the start, and whatever happens keeps it so. -/
theorem money_reported (deployment : TenantApiDeployment) {start : Campus} {events : List Event}
    (reconciled : Reconciled start)
    (orderly : Runs.Along (take deployment) (Orderly deployment) start events) {ambient : Ambient}
    {tenantId : String} (bound : Bound ambient tenantId)
    {arrange : List ReportsService.StatusRow → List ReportsService.StatusRow}
    (arranges : ∀ rows, (arrange rows).Perm rows) :
    let ended := (Runs.run (take deployment) start events).database
    let own := ended.invoices.filter (fun invoice => decide (invoice.tenantId = tenantId))
    (∀ invoice ∈ ended.invoices,
      invoice.amountPaid = min invoice.amountDue (capturedSum ended.payments invoice.id)) ∧
    ∃ summary, ReportsService.feesSummary ambient arrange ended = .ok summary ∧
      summary.billed = (own.map FeeInvoice.amountDue).sum ∧
      summary.collected = (own.map (fun invoice =>
        min invoice.amountDue (capturedSum ended.payments invoice.id))).sum ∧
      summary.outstanding = summary.billed - summary.collected ∧ 0 ≤ summary.outstanding := by
  intro ended own
  have final : Reconciled (Runs.run (take deployment) start events) :=
    Runs.run_preserves (fun _ _ kept met => take_reconciled deployment kept met) reconciled orderly
  have paid : ∀ invoice ∈ ended.invoices,
      invoice.amountPaid = min invoice.amountDue (capturedSum ended.payments invoice.id) :=
    fun invoice stored => (final.agreeing.sound.tallied invoice stored).paid
  have ownPaid : ∀ invoice ∈ own,
      invoice.amountPaid = min invoice.amountDue (capturedSum ended.payments invoice.id) :=
    fun invoice member => paid invoice (List.mem_filter.mp member).1
  refine ⟨paid, ReportsService.ledgerSummary own,
    ReportsService.fees_summary_ledger bound arranges ended, rfl, ?_,
    (ReportsService.ledger_outstanding own).symm, ?_⟩
  · exact congrArg List.sum (List.map_congr_left ownPaid)
  · apply ReportsService.outstanding_nonneg
    intro invoice member
    rw [ownPaid invoice member]
    exact min_le_left _ _

/-- An institute's admin makes a plan in two installments, bills a student and orders the first
installment; the gateway delivers what was paid, and an unrelated lead is recorded. -/
def termEvents : List Event :=
  [.call (callOf "institute-a" .admin (.repeated '1')
      (.createPlan (.repeated 'a') 0 { name := "Term", totalAmount := 1000, splitInto := some 2 })),
    .call (callOf "institute-a" .admin (.repeated '1')
      (.generateInvoices (fun i => (.repeated (if i = 0 then 'c' else 'd'), 0))
        (ObjectId.hex (.repeated 'a')) { studentIds := some [.repeated '2'] })),
    .call (callOf "institute-a" .student (.repeated '2')
      (.createOrder (fun _ => .error .storage) (.repeated '3') (.ofId (.repeated 'c')))),
    .call (leadOf "institute-b" "Bela" (.repeated 'b')),
    .delivery (fun _ => { now := 1, notification := .repeated '4' })
      { body :=
          { event := some "payment.captured"
            entity := some { id := some "pay_1"
                             orderId := some "order_stub_cccccccccccccccccccccccc_0"
                             amount := some 50000 } } }]

/-- The first installment is reported as collected. -/
theorem term_money_reported :
    ∃ summary, ReportsService.feesSummary (some { tenantId := some "institute-a" }) List.reverse
        (Runs.run (take quiet) {} termEvents).database = .ok summary ∧
      summary.billed = 1000 ∧ summary.collected = 500 ∧ summary.outstanding = 500 := by
  have opened : Reconciled {} := by
    constructor
    · constructor
      · constructor <;> simp [Records.Distinct]
      · simp
    · simp
  have orderly : Runs.Along (take quiet) (Orderly quiet) {} termEvents := by
    refine ⟨rfl, trivial, trivial, trivial, ⟨fun _ _ => rfl, by decide +kernel, ?_⟩, trivial⟩
    intro params asks
    obtain rfl : params =
        { gatewayOrderId := "order_stub_cccccccccccccccccccccccc_0", gatewayPaymentId := "pay_1",
          gatewaySignature := none, amount := some (50000 / 100) } := by
      simpa [WebhooksController.captureOf, RazorpayGateway.verifyWebhookSignature, quiet, present]
        using asks.symm
    decide +kernel
  obtain ⟨_, summary, answered, billed, collected, outstanding, _⟩ := money_reported quiet opened
    orderly (bound_run "institute-a" (by decide)) List.reverse_perm
  have due : summary.billed = 1000 := by
    rw [billed]
    decide +kernel
  have paid : summary.collected = 500 := by
    rw [collected]
    decide +kernel
  refine ⟨summary, answered, due, paid, ?_⟩
  rw [outstanding, due, paid]
  norm_num

end TenantApi

end CoachingApi
