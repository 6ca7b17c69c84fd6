import CoachingApi.Fees.Routing
import CoachingApi.Surfaces.WholeApi

/-!
# What changes bills and credentials

Bills and credentials are also written without an account: invoices and payments by deliveries of
the gateway, and credentials by invitations that are accepted. A stored invoice changes only by a
delivery that passes the signature, for an order of the invoice, and a stored payment only by one
for its own order. A stored user changes, but for devices, only by the acceptance of its own
invitation, with the token that was made for it and before it is over. Whether clients forge
tokens does not matter for either.
-/

namespace CoachingApi

open TenantModel TenantPlugin TenantContextStore WebhooksController

/-- Other records do not touch the identities of bills. -/
theorem well_unchanged {before after : Database} (well : WellFormed before)
    (invoices : after.invoices = before.invoices) (payments : after.payments = before.payments) :
    WellFormed after where
  payments := payments ▸ well.payments
  invoices := invoices ▸ well.invoices
  owned := payments ▸ well.owned

namespace TenantApi

/-- A call of a member keeps distinct identities and payments with a tenant. -/
theorem after_well (deployment : TenantApiDeployment) {campus : Campus}
    (well : WellFormed campus.database) (call : Call) :
    WellFormed (after deployment campus call).database := by
  cases admits : admitted deployment call with
  | error thrown =>
    have same : after deployment campus call = campus := by simp only [after, handle, admits]
    exact same.symm ▸ well
  | ok principal =>
    have bound := admitted_bound admits
    have served : after deployment campus call =
        (serve deployment (intercept principal.tenantId) principal campus call.request).1 := by
      simp only [after, handle, admits]
    rw [served]
    have written := serve_writes deployment (intercept principal.tenantId) principal campus
      call.request
    by_cases billing : Holding.invoices ∈ call.request.writes ∨
        Holding.payments ∈ call.request.writes
    · cases request : call.request with
      | generateInvoices draw id dto =>
        simp only [serve]
        split
        · exact well
        · rename_i planId _
          obtain ⟨added, generates, distinct, _⟩ := FeesService.generate_appends bound draw planId
            dto campus.database
          simp only [stored, generates]
          exact ⟨well.payments, distinct well.invoices, well.owned⟩
      | createOrder live generated invoiceId =>
        rcases FeesService.order_cases deployment.fees bound live generated invoiceId.id
            campus.database with ⟨thrown, refused⟩ | ⟨payment, invoice, order, orders, _, _, _, _,
              _, fresh, ordered⟩
        · simp only [serve, stored, refused]
          exact well
        · simp only [serve, stored, orders]
          refine ⟨Records.append_distinct well.payments fresh, well.invoices, ?_⟩
          intro other member
          rcases List.mem_append.mp member with old | new
          · exact well.owned other old
          · obtain rfl := List.mem_singleton.mp new
            rw [ordered.owned]
            exact bound.nonempty
      | _ => simp [request, TenantRequest.writes] at billing
    · rw [not_or] at billing
      exact well_unchanged well (written.same billing.1) (written.same billing.2)

end TenantApi

namespace World

variable {deployment : WholeDeployment} {world : World}

/-- A delivery that passes the signature captures the order of a stored payment, which is still
open. -/
def Captures (deployment : WholeDeployment) (sought : Payment → Prop) (world : World)
    (event : ApiEvent) : Prop :=
  ∃ inputs delivery params, event = .delivery inputs delivery ∧
    WebhooksController.captureOf deployment.tenant.fees delivery = some params ∧
    ∃ payment ∈ world.estate.database.payments,
      payment.gatewayOrderId = params.gatewayOrderId ∧ payment.status = .created ∧ sought payment

/-- What reaches the API keeps identities distinct and payments with a tenant, and keeps every
stored invoice and payment unless it captures an order for it. -/
theorem take_keeps_bills (deployment : WholeDeployment) {world : World}
    (distinct : Records.Distinct Tenant.id world.estate.database.tenants)
    (well : WellFormed world.estate.database) (event : ApiEvent) :
    WellFormed (take deployment world event).estate.database ∧
      (∀ invoice ∈ world.estate.database.invoices,
        invoice ∈ (take deployment world event).estate.database.invoices ∨
          Captures deployment (fun payment => payment.invoiceId = invoice.id) world event) ∧
      ∀ payment ∈ world.estate.database.payments,
        payment ∈ (take deployment world event).estate.database.payments ∨
          Captures deployment (fun other => other.id = payment.id) world event := by
  have unchanged {after : Database}
      (invoices : after.invoices = world.estate.database.invoices)
      (payments : after.payments = world.estate.database.payments) :
      WellFormed after ∧
        (∀ invoice ∈ world.estate.database.invoices, invoice ∈ after.invoices ∨
          Captures deployment (fun payment => payment.invoiceId = invoice.id) world event) ∧
        ∀ payment ∈ world.estate.database.payments, payment ∈ after.payments ∨
          Captures deployment (fun other => other.id = payment.id) world event := by
    refine ⟨well_unchanged well invoices payments, ?_, ?_⟩
    · exact fun invoice stored => .inl (invoices ▸ stored)
    · exact fun payment stored => .inl (payments ▸ stored)
  cases event with
  | member call =>
    have billed := TenantApi.after_billed deployment.tenant world.estate.campus call
    obtain ⟨invoices, moreInvoices, _⟩ := billed.invoices
    obtain ⟨payments, morePayments, _⟩ := billed.payments
    refine ⟨TenantApi.after_well deployment.tenant well call, ?_, ?_⟩
    · intro invoice stored
      left
      exact moreInvoices ▸ List.mem_append_left invoices stored
    · intro payment stored
      left
      exact morePayments ▸ List.mem_append_left payments stored
  | staff call =>
    have carried := (PlatformApi.after_carried deployment.platform distinct call).2
    exact unchanged (carried.members .invoices (by simp)) (carried.members .payments (by simp))
  | acceptInvite draws subdomain dto =>
    obtain ⟨users, written, _⟩ := TenantAuthService.accept_invite_writes deployment.tenant.auth
      draws subdomain dto world.estate.database
    simp only [take, written]
    exact unchanged rfl rfl
  | delivery inputs delivery =>
    refine ⟨Routing.perform_well deployment.tenant.fees well (.deliver inputs delivery), ?_⟩
    rcases Routing.delivery_confined deployment.tenant.fees well inputs delivery with
      same | ⟨params, captured, asks, held, ordered, open_, confined⟩
    · have kept : (take deployment world (.delivery inputs delivery)).estate.database =
          world.estate.database := same
      rw [kept]
      exact ⟨fun _ stored => .inl stored, fun _ stored => .inl stored⟩
    · constructor
      · intro invoice stored
        by_cases billed : invoice.id = captured.invoiceId
        · exact .inr ⟨inputs, delivery, params, rfl, asks, captured, held, ordered, open_,
            billed.symm⟩
        · left
          obtain ⟨change, _, written⟩ := confined.invoices
          have kept : (take deployment world (.delivery inputs delivery)).estate.database.invoices =
              Records.modify FeeInvoice.id captured.invoiceId change
                world.estate.database.invoices := written
          rw [kept]
          exact Records.mem_modify.mpr ⟨invoice, stored, if_neg billed⟩
      · intro payment stored
        by_cases own : payment.id = captured.id
        · exact .inr ⟨inputs, delivery, params, rfl, asks, captured, held, ordered, open_,
            own.symm⟩
        · left
          obtain ⟨change, _, written⟩ := confined.payments
          have kept : (take deployment world (.delivery inputs delivery)).estate.database.payments =
              Records.modify Payment.id captured.id change world.estate.database.payments := written
          rw [kept]
          exact Records.mem_modify.mpr ⟨payment, stored, if_neg own⟩
  | _ => exact unchanged rfl rfl

/-- In every run of the whole API, whoever calls with whatever tokens, every stored invoice and
every stored payment is stored at the end as it was, unless a delivery that passed the signature
captured an open order for that invoice, or that payment's own order while it was open.

Proof: what reaches the API keeps the identities of institutes and bills distinct, and keeps a bill
unless it captures. -/
theorem bills_changed_by_captures (deployment : WholeDeployment) {start : World}
    (distinct : Records.Distinct Tenant.id start.estate.database.tenants)
    (well : WellFormed start.estate.database) (events : List ApiEvent) :
    let ended := (Runs.run (take deployment) start events).estate.database
    (∀ invoice ∈ start.estate.database.invoices, invoice ∈ ended.invoices ∨
      Runs.Somewhere (take deployment)
        (Captures deployment (fun payment => payment.invoiceId = invoice.id)) start events) ∧
    ∀ payment ∈ start.estate.database.payments, payment ∈ ended.payments ∨
      Runs.Somewhere (take deployment)
        (Captures deployment (fun other => other.id = payment.id)) start events := by
  intro ended
  have always : Runs.Along (take deployment) (fun _ _ => True) start events :=
    Runs.along_always (fun _ _ => trivial) start events
  have sound (world : World) (event : ApiEvent)
      (kept : Records.Distinct Tenant.id world.estate.database.tenants ∧
        WellFormed world.estate.database) :
      Records.Distinct Tenant.id (take deployment world event).estate.database.tenants ∧
        WellFormed (take deployment world event).estate.database :=
    ⟨take_distinct deployment kept.1 event, (take_keeps_bills deployment kept.1 kept.2 event).1⟩
  constructor
  · intro invoice stored
    exact @Runs.run_keeps_unless _ _ (take deployment) (fun _ _ => True) _ _
      (fun world => invoice ∈ world.estate.database.invoices)
      (fun world event kept _ => sound world event kept)
      (fun world event kept _ => (take_keeps_bills deployment kept.1 kept.2 event).2.1 invoice)
      start events ⟨distinct, well⟩ stored always
  · intro payment stored
    exact @Runs.run_keeps_unless _ _ (take deployment) (fun _ _ => True) _ _
      (fun world => payment ∈ world.estate.database.payments)
      (fun world event kept _ => sound world event kept)
      (fun world event kept _ => (take_keeps_bills deployment kept.1 kept.2 event).2.2 payment)
      start events ⟨distinct, well⟩ stored always

/-- A student who is invited. -/
def invited : User :=
  { id := .repeated '5', tenantId := (ObjectId.repeated '1').hex, role := .student,
    name := "Chitra", email := "chitra@bright.test", inviteTokenHash := some "sha256:invite",
    inviteExpiresAt := some 1000 }

/-- An invoice for the student. -/
def owed : FeeInvoice :=
  { id := .repeated '3', tenantId := (ObjectId.repeated '1').hex, studentId := .repeated '5',
    feePlanId := .repeated '6', label := "Installment 1", amountDue := 500, dueDate := 0 }

/-- The student is stored, with the invoice and an order for it. -/
def billed : World :=
  opened.store
    { opened.estate.database with
      users := opened.estate.database.users ++ [invited]
      invoices := [owed]
      payments :=
        [{ id := .repeated '4', tenantId := (ObjectId.repeated '1').hex, invoiceId := .repeated '3',
           studentId := .repeated '5', amount := 500, gatewayOrderId := "order_1" }] }

/-- The institute is suspended, and the gateway delivers for an order that nobody has. -/
def suspendedWithoutCapture : List ApiEvent :=
  leadThenSuspension ++
    [.delivery (fun _ => { now := 1, notification := .repeated 'b' })
      { body :=
          { event := some "payment.captured"
            entity := some { id := some "pay_1", orderId := some "order_2", amount := some 50000 } } }]

/-- The invoice is stored as it was: no order for it was captured. -/
theorem unpaid_invoice_kept :
    owed ∈ (Runs.run (take twoRealms) billed suspendedWithoutCapture).estate.database.invoices := by
  have distinct : Records.Distinct Tenant.id billed.estate.database.tenants := by decide
  have well : WellFormed billed.estate.database := by
    constructor <;> decide
  have kept := bills_changed_by_captures twoRealms distinct well suspendedWithoutCapture
  rcases kept.1 owed (by decide) with stored | captured
  · exact stored
  · -- Only the last event is a delivery, and no payment that is then stored is of its order.
    exfalso
    rcases captured with ⟨_, _, _, other, _⟩ | ⟨_, _, _, other, _⟩ | ⟨_, _, _, other, _⟩ |
      ⟨_, _, _, other, _⟩ | ⟨_, _, params, same, asks, payment, held, ordered, _⟩ | nothing
    · cases other
    · cases other
    · cases other
    · cases other
    · cases same
      obtain rfl : params =
          { gatewayOrderId := "order_2", gatewayPaymentId := "pay_1", gatewaySignature := none,
            amount := some (50000 / 100) } := by
        simpa [WebhooksController.captureOf, RazorpayGateway.verifyWebhookSignature, twoRealms,
          TenantApi.quiet, present] using asks.symm
      have unordered : ∀ payment ∈
          (Runs.run (take twoRealms) billed leadThenSuspension).estate.database.payments,
          payment.gatewayOrderId ≠ "order_2" := by decide +kernel
      exact unordered payment held ordered
    · exact nothing

/-- The invitation of a user is accepted, with the token that was made for it and before it is
over, and the acceptance is answered. -/
def Redeems (deployment : WholeDeployment) (id : ObjectId) (world : World) (event : ApiEvent) :
    Prop :=
  ∃ draws subdomain dto, event = .acceptInvite draws subdomain dto ∧
    (TenantAuthService.acceptInvite deployment.tenant.auth draws subdomain dto
      world.estate.database).2.isOk = true ∧
    ∃ user ∈ world.estate.database.users, user.id = id ∧
      user.inviteTokenHash = some (deployment.tenant.auth.sha256 dto.token) ∧
      TenantAuthService.inviteOver draws.now user = false

/-- What reaches the API keeps every stored user but for devices, unless it redeems the user's
invitation. -/
theorem take_keeps_credentials (deployment : WholeDeployment) {world : World}
    (distinct : Records.Distinct Tenant.id world.estate.database.tenants) (event : ApiEvent)
    {user : User}
    (stored : user.withoutDevices ∈ world.estate.database.users.map User.withoutDevices) :
    user.withoutDevices ∈
        (take deployment world event).estate.database.users.map User.withoutDevices ∨
      Redeems deployment user.id world event := by
  cases event with
  | member call =>
    obtain ⟨added, users, _⟩ := TenantApi.after_users deployment.tenant world.estate.campus call
    left
    have kept : (take deployment world (.member call)).estate.database.users.map
        User.withoutDevices = (world.estate.database.users ++ added).map User.withoutDevices := users
    rw [kept, List.map_append]
    exact List.mem_append_left _ stored
  | staff call =>
    have carried := (PlatformApi.after_carried deployment.platform distinct call).2
    obtain ⟨seeded, users, _⟩ := carried.users
    left
    have kept : (take deployment world (.staff call)).estate.database.users =
        world.estate.database.users ++ seeded := users
    rw [kept, List.map_append]
    exact List.mem_append_left _ stored
  | acceptInvite draws subdomain dto =>
    cases ended : TenantAuthService.acceptInvite deployment.tenant.auth draws subdomain dto
        world.estate.database with
    | mk after answer =>
      cases answer with
      | error thrown =>
        left
        have same : after = world.estate.database :=
          TenantAuthService.accept_invite_thrown ended
        simp only [take, ended, same]
        exact stored
      | ok tokens =>
        obtain ⟨tenant, redeemed, _, found, current, rfl, _⟩ :=
          TenantAuthService.accept_invite_ok ended
        obtain ⟨held, _, matched⟩ := TenantAuthService.first_of_some found
        by_cases own : redeemed.id = user.id
        · exact .inr ⟨draws, subdomain, dto, rfl, by rw [ended]; rfl, redeemed, held, own,
            of_decide_eq_true matched, current⟩
        · left
          obtain ⟨other, there, same⟩ := List.mem_map.mp stored
          have sameId := congrArg User.id same
          have apart : other.id ≠ redeemed.id := fun equal => own (equal.symm.trans sameId)
          simp only [take, ended]
          exact List.mem_map.mpr
            ⟨other, Records.mem_modify.mpr ⟨other, there, if_neg apart⟩, same⟩
  | delivery inputs delivery =>
    left
    have kept : (take deployment world (.delivery inputs delivery)).estate.database.users =
        world.estate.database.users :=
      (TenantApi.delivery_writes deployment.tenant.fees inputs delivery
        world.estate.campus).same (show Holding.users ∉ _ by decide)
    rw [kept]
    exact stored
  | _ => exact .inl stored

/-- In every run of the whole API, whoever calls with whatever tokens, every stored user is stored
at the end as it was but for devices, unless its own invitation was accepted, with the token that
was made for it and before it was over, in a call that was answered.

Proof: only the acceptance of an invitation writes a stored user's other fields, and it writes
those of the user who holds its token. -/
theorem credentials_changed_by_acceptances (deployment : WholeDeployment) {start : World}
    (distinct : Records.Distinct Tenant.id start.estate.database.tenants)
    (events : List ApiEvent) :
    ∀ user ∈ start.estate.database.users,
      (∃ kept ∈ (Runs.run (take deployment) start events).estate.database.users,
        kept.withoutDevices = user.withoutDevices) ∨
      Runs.Somewhere (take deployment) (Redeems deployment user.id) start events := by
  intro user stored
  have always : Runs.Along (take deployment) (fun _ _ => True) start events :=
    Runs.along_always (fun _ _ => trivial) start events
  have ended := @Runs.run_keeps_unless _ _ (take deployment) (fun _ _ => True)
    (Redeems deployment user.id)
    (fun world => Records.Distinct Tenant.id world.estate.database.tenants)
    (fun world => user.withoutDevices ∈ world.estate.database.users.map User.withoutDevices)
    (fun _ event kept _ => take_distinct deployment kept event)
    (fun _ event kept _ held => take_keeps_credentials deployment kept event held)
    start events distinct (List.mem_map_of_mem stored) always
  exact ended.imp_left List.mem_map.mp

/-- The student has the credentials that it had: no invitation was accepted. -/
theorem credentials_kept :
    ∃ kept ∈ (Runs.run (take twoRealms) billed suspendedWithoutCapture).estate.database.users,
      kept.withoutDevices = invited.withoutDevices := by
  have distinct : Records.Distinct Tenant.id billed.estate.database.tenants := by decide
  have kept := credentials_changed_by_acceptances twoRealms distinct suspendedWithoutCapture
  rcases kept invited (by decide) with stored | redeemed
  · exact stored
  · exfalso
    rcases redeemed with ⟨_, _, _, other, _⟩ | ⟨_, _, _, other, _⟩ | ⟨_, _, _, other, _⟩ |
      ⟨_, _, _, other, _⟩ | ⟨_, _, _, other, _⟩ | nothing
    · cases other
    · cases other
    · cases other
    · cases other
    · cases other
    · exact nothing

end World

end CoachingApi
