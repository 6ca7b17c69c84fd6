import CoachingApi.Fees.FeeOperations
import CoachingApi.Surfaces.RouteRoles

/-!
# What requests leave of accounts and of bills

The tenant surface never changes a stored user but by device tokens, and a user's device tokens
only by requests in the user's own name: roles, passwords, states and invitations of stored users
are not its to write. Nor does it credit anything: invoices and payments that are stored stay as
they are, new invoices are unpaid, and new payments are open orders for what an invoice still
has outstanding.
-/

namespace CoachingApi

open TenantModel TenantPlugin TenantContextStore

namespace TenantApi

/-- A call that the guard admits registers a device token in the name of a user. -/
def Registers (deployment : TenantApiDeployment) (user : User) (token : String) (call : Call) :
    Prop :=
  ∃ principal, admitted deployment call = .ok principal ∧ call.request = .fcmToken token ∧
    principal.tenantId = user.tenantId ∧ ObjectId.cast principal.userId = some user.id

/-- A user with more device tokens. -/
def withTokens (user : User) (tokens : List String) : User :=
  { user with fcmTokens := user.fcmTokens ++ tokens }

/-- A registration adds at most its token. -/
theorem register_token_adds (token : String) (user : User) :
    TenantAuthService.registerToken token user = withTokens user [] ∨
      TenantAuthService.registerToken token user = withTokens user [token] := by
  unfold TenantAuthService.registerToken BulkUpdates.addToSet withTokens
  split
  · left
    rw [List.append_nil]
  · exact .inr rfl

/-- An invitation leaves the users as they are, or adds one under an identity of its own. -/
theorem invite_adds (deployment : AuthDeployment) (ambient : Ambient) (draws : Draws)
    (dto : InviteUserDto) (database : Database) :
    (TenantAuthService.invite deployment ambient draws dto database).1 = database ∨
      ∃ invited, (TenantAuthService.invite deployment ambient draws dto database).1 =
          { database with users := database.users ++ [invited] } ∧
        ∀ user ∈ database.users, user.id ≠ invited.id := by
  unfold TenantAuthService.invite
  split
  · exact .inl rfl
  · exact .inl rfl
  · split
    · exact .inl rfl
    · rename_i invited users created
      obtain ⟨_, rfl, fresh⟩ := create_ok created
      exact .inr ⟨invited, rfl, fun user stored => (fresh user stored).1⟩

/-- A call leaves a stored user's account with more device tokens at most, each of them
registered in the user's name, and keeps identities distinct. -/
theorem after_account (deployment : TenantApiDeployment) {campus : Campus} (call : Call)
    (distinct : Records.Distinct User.id campus.database.users) :
    Records.Distinct User.id (after deployment campus call).database.users ∧
      ∀ user ∈ campus.database.users, ∃ tokens,
        withTokens user tokens ∈ (after deployment campus call).database.users ∧
          ∀ token ∈ tokens, Registers deployment user token call := by
  have unchanged : ∀ {users : List User}, users = campus.database.users →
      Records.Distinct User.id users ∧ ∀ user ∈ campus.database.users, ∃ tokens,
        withTokens user tokens ∈ users ∧
          ∀ token ∈ tokens, Registers deployment user token call := by
    rintro users rfl
    refine ⟨distinct, fun user stored => ⟨[], ?_, by simp⟩⟩
    rw [withTokens, List.append_nil]
    exact stored
  cases admits : admitted deployment call with
  | error thrown =>
    apply unchanged
    simp only [after, handle, admits]
  | ok principal =>
    have served : after deployment campus call =
        (serve deployment (intercept principal.tenantId) principal campus call.request).1 := by
      simp only [after, handle, admits]
    rw [served]
    by_cases written : Holding.users ∈ call.request.writes
    · cases request : call.request with
      | invite draws dto =>
        rcases invite_adds deployment.auth (intercept principal.tenantId) draws dto
          campus.database with same | ⟨invited, added, fresh⟩
        · apply unchanged
          simp only [serve, stored, same]
        · simp only [serve, stored, added]
          refine ⟨Records.append_distinct distinct fresh, fun user stored => ⟨[], ?_, by simp⟩⟩
          rw [withTokens, List.append_nil]
          exact List.mem_append_left _ stored
      | fcmToken token =>
        have bound := admitted_bound admits
        simp only [serve, stored, TenantAuthService.addFcmToken]
        cases updates : findByTextAndUpdate (intercept principal.tenantId) principal.userId
            (TenantAuthService.registerToken token) campus.database.users with
        | error thrown => exact unchanged rfl
        | ok ended =>
          obtain ⟨found, users⟩ := ended
          cases found with
          | none =>
            exact unchanged (find_by_text_and_update_none bound updates)
          | some changed =>
            obtain ⟨record, member, owned, casts, _, rfl⟩ :=
              find_by_text_and_update_ok bound updates
            refine ⟨Records.modify_distinct (fun _ => rfl) distinct, ?_⟩
            intro user stored
            by_cases touched : user.id = record.id
            · obtain rfl := Records.same_record distinct stored member touched
              have rewritten : TenantAuthService.registerToken token user ∈
                  Records.modify TenantModel.id (TenantModel.id user)
                    (TenantAuthService.registerToken token) campus.database.users :=
                Records.mem_modify.mpr ⟨user, stored, if_pos rfl⟩
              rcases register_token_adds token user with same | added
              · exact ⟨[], same ▸ rewritten, by simp⟩
              · refine ⟨[token], added ▸ rewritten, ?_⟩
                intro registered there
                obtain rfl := List.mem_singleton.mp there
                exact ⟨principal, admits, request, owned.symm, casts⟩
            · refine ⟨[], ?_, by simp⟩
              rw [withTokens, List.append_nil]
              exact Records.mem_modify.mpr ⟨user, stored, if_neg touched⟩
      | _ => simp [request, TenantRequest.writes] at written
    · apply unchanged
      exact (serve_writes deployment _ principal campus call.request).same written

/-- In every run of calls of the tenant surface, whoever makes them and in whatever roles, every
stored user keeps its account but for device tokens, each of which one of the calls registered
in the user's name.

Proof: by induction on the calls; the tokens of the later calls come after those of the first. -/
theorem accounts_kept (deployment : TenantApiDeployment) {start : Campus}
    (distinct : Records.Distinct User.id start.database.users) (calls : List Call) :
    ∀ user ∈ start.database.users, ∃ tokens,
      withTokens user tokens ∈ (Runs.run (after deployment) start calls).database.users ∧
        ∀ token ∈ tokens, ∃ call ∈ calls, Registers deployment user token call := by
  induction calls generalizing start with
  | nil =>
    intro user stored
    refine ⟨[], ?_, by simp⟩
    rw [withTokens, List.append_nil]
    exact stored
  | cons call rest inductionHypothesis =>
    intro user stored
    obtain ⟨kept, accounts⟩ := after_account deployment call distinct
    obtain ⟨first, member, own⟩ := accounts user stored
    obtain ⟨later, final, registered⟩ := inductionHypothesis kept _ member
    refine ⟨first ++ later, ?_, ?_⟩
    · have joined : withTokens user (first ++ later) = withTokens (withTokens user first) later := by
        simp only [withTokens, List.append_assoc]
      rw [joined]
      exact final
    · intro token there
      rcases List.mem_append.mp there with early | late
      · exact ⟨call, List.mem_cons_self, own token early⟩
      · obtain ⟨registering, made, registers⟩ := registered token late
        exact ⟨registering, List.mem_cons_of_mem call made, registers⟩

/-- A parent of an institute. -/
def parentUser : User :=
  { id := .repeated 'c', tenantId := "institute-a", role := .parent, name := "Chitra",
    email := "chitra@example.com", status := .active }

/-- A parent registers a device, and a teacher one of its own. -/
theorem parent_account_kept :
    ∃ tokens, withTokens parentUser tokens ∈
        (Runs.run (after quiet) { database := { users := [parentUser] } }
          [callOf "institute-a" .parent (.repeated 'c') (.fcmToken "phone"),
            callOf "institute-a" .teacher (.repeated '1') (.fcmToken "tablet")]).database.users ∧
      ∀ token ∈ tokens, ∃ call ∈
          [callOf "institute-a" .parent (.repeated 'c') (.fcmToken "phone"),
            callOf "institute-a" .teacher (.repeated '1') (.fcmToken "tablet")],
        Registers quiet parentUser token call := by
  have distinct : Records.Distinct User.id [parentUser] := by decide
  have stored : parentUser ∈ [parentUser] := List.mem_singleton_self _
  exact @accounts_kept quiet { database := { users := [parentUser] } } distinct _ parentUser stored

/-- A payment is an open order for what a stored invoice of its tenant has outstanding. -/
structure OpenOrder (campus : Campus) (payment : Payment) : Prop where
  created : payment.status = .created
  uncaptured : payment.gatewayPaymentId = none
  source : ∃ invoice ∈ campus.database.invoices, invoice.id = payment.invoiceId ∧
    invoice.tenantId = payment.tenantId ∧ invoice.status ≠ .paid ∧
    payment.amount = invoice.amountDue - invoice.amountPaid

/-- Stored invoices and payments stay as they are; what is added is unpaid or an open order. -/
structure Billed (before after : Campus) : Prop where
  invoices : ∃ added, after.database.invoices = before.database.invoices ++ added ∧
    ∀ invoice ∈ added, invoice.amountPaid = 0 ∧ invoice.status ≠ .paid
  payments : ∃ added, after.database.payments = before.database.payments ++ added ∧
    ∀ payment ∈ added, OpenOrder after payment

/-- An open order stays one while invoices are only added. -/
theorem OpenOrder.extended {before after : Campus} {payment : Payment}
    (order : OpenOrder before payment) {added : List FeeInvoice}
    (extended : after.database.invoices = before.database.invoices ++ added) :
    OpenOrder after payment where
  created := order.created
  uncaptured := order.uncaptured
  source := by
    obtain ⟨invoice, stored, outstanding⟩ := order.source
    exact ⟨invoice, extended ▸ List.mem_append_left added stored, outstanding⟩

/-- Nothing changed is billed. -/
theorem billed_same {before after : Campus}
    (invoices : after.database.invoices = before.database.invoices)
    (payments : after.database.payments = before.database.payments) : Billed before after where
  invoices := ⟨[], by rw [invoices, List.append_nil], by simp⟩
  payments := ⟨[], by rw [payments, List.append_nil], by simp⟩

/-- Billing goes on. -/
theorem Billed.trans {first second third : Campus} (one : Billed first second)
    (other : Billed second third) : Billed first third := by
  obtain ⟨earlyInvoices, secondInvoices, earlyUnpaid⟩ := one.invoices
  obtain ⟨lateInvoices, thirdInvoices, lateUnpaid⟩ := other.invoices
  obtain ⟨earlyPayments, secondPayments, earlyOpen⟩ := one.payments
  obtain ⟨latePayments, thirdPayments, lateOpen⟩ := other.payments
  constructor
  · refine ⟨earlyInvoices ++ lateInvoices, ?_, ?_⟩
    · rw [thirdInvoices, secondInvoices, List.append_assoc]
    · intro invoice member
      rcases List.mem_append.mp member with early | late
      · exact earlyUnpaid invoice early
      · exact lateUnpaid invoice late
  · refine ⟨earlyPayments ++ latePayments, ?_, ?_⟩
    · rw [thirdPayments, secondPayments, List.append_assoc]
    · intro payment member
      rcases List.mem_append.mp member with early | late
      · exact (earlyOpen payment early).extended thirdInvoices
      · exact lateOpen payment late

/-- A call leaves bills as they are, or adds unpaid invoices or an open order. -/
theorem after_billed (deployment : TenantApiDeployment) (campus : Campus) (call : Call) :
    Billed campus (after deployment campus call) := by
  cases admits : admitted deployment call with
  | error thrown =>
    have same : after deployment campus call = campus := by simp only [after, handle, admits]
    rw [same]
    exact billed_same rfl rfl
  | ok principal =>
    have bound := admitted_bound admits
    have served : after deployment campus call =
        (serve deployment (intercept principal.tenantId) principal campus call.request).1 := by
      simp only [after, handle, admits]
    rw [served]
    have writes := serve_writes deployment (intercept principal.tenantId) principal campus
      call.request
    by_cases billing : Holding.invoices ∈ call.request.writes ∨
        Holding.payments ∈ call.request.writes
    · cases request : call.request with
      | generateInvoices draw id dto =>
        simp only [serve]
        split
        · exact billed_same rfl rfl
        · rename_i planId _
          obtain ⟨added, generates, _, generated⟩ := FeesService.generate_appends bound draw planId
            dto campus.database
          simp only [stored, generates]
          refine ⟨⟨added, rfl, ?_⟩, ⟨[], by rw [List.append_nil], by simp⟩⟩
          intro invoice member
          exact ⟨(generated invoice member).unpaid, (generated invoice member).open_⟩
      | createOrder live generated invoiceId =>
        rcases FeesService.order_cases deployment.fees bound live generated invoiceId.id
            campus.database with ⟨thrown, refused⟩ | ⟨payment, invoice, order, orders, _, held,
              same, owned, unpaid, _, ordered⟩
        · simp only [serve, stored, refused]
          exact billed_same rfl rfl
        · simp only [serve, stored, orders]
          refine ⟨⟨[], by rw [List.append_nil], by simp⟩, ⟨[payment], rfl, ?_⟩⟩
          intro other member
          obtain rfl := List.mem_singleton.mp member
          exact ⟨ordered.created, ordered.uncaptured, invoice, held, ordered.target.symm,
            owned.trans ordered.owned.symm, unpaid, ordered.balance⟩
      | _ => simp [request, TenantRequest.writes] at billing
    · rw [not_or] at billing
      exact billed_same (writes.same billing.1) (writes.same billing.2)

/-- In every run of calls of the tenant surface nothing is credited: stored invoices and payments
stay as they are, added invoices are unpaid, and added payments are open orders for what an
invoice has outstanding.

Proof: by induction on the calls. -/
theorem nothing_credited (deployment : TenantApiDeployment) (start : Campus) (calls : List Call) :
    Billed start (Runs.run (after deployment) start calls) := by
  induction calls generalizing start with
  | nil => exact billed_same rfl rfl
  | cons call rest inductionHypothesis =>
    rw [Runs.run_cons]
    exact (after_billed deployment start call).trans
      (inductionHypothesis (after deployment start call))

end TenantApi

end CoachingApi
