import CoachingApi.Surfaces.WholeApi

/-!
# Tokens and the accounts behind them

Every token that the API hands out names an account that is stored: a tenant's token a user of a
stored institute, a platform token a member of the staff, and a role in it is the role of that
account. Accounts keep their roles, so this holds of all tokens that were ever handed out. Where
clients forge no tokens, whoever the guards admit acts for a stored account in its stored role.
-/

namespace CoachingApi

open TenantModel TenantPlugin TenantContextStore

/-- A token names a stored account, in its role if in any. -/
def Backed (estate : Estate) (token : Jwt) : Prop :=
  match token.payload.realm with
  | .tenant =>
    ∃ user ∈ estate.database.users, token.payload.sub = user.id.hex ∧
      token.payload.tenantId = some user.tenantId ∧ ∀ role ∈ token.payload.role, role = user.role
  | .platform =>
    ∃ account ∈ estate.staff, token.payload.sub = account.id.hex ∧
      ∀ role ∈ token.payload.superRole, role = account.superRole

/-- A token stays backed while accounts are only added. -/
theorem Backed.grown {before after : Estate} {token : Jwt} (backed : Backed before token)
    (grown : Grown before after) : Backed after token := by
  unfold Backed at backed ⊢
  cases realm : token.payload.realm with
  | tenant =>
    simp only [realm] at backed
    obtain ⟨user, stored, sub, tenant, role⟩ := backed
    obtain ⟨kept, held, same⟩ := grown.user stored
    obtain ⟨sameId, sameRest⟩ := Prod.mk.inj same
    obtain ⟨sameTenant, sameRole⟩ := Prod.mk.inj sameRest
    exact ⟨kept, held, sameId.symm ▸ sub, sameTenant.symm ▸ tenant, sameRole.symm ▸ role⟩
  | platform =>
    simp only [realm] at backed
    rw [grown.staff]
    exact backed

/-- The tokens issued for a stored user are backed. -/
theorem tenant_tokens_backed (deployment : AuthDeployment) (now : Int) {estate : Estate}
    {user : User} (stored : user ∈ estate.database.users) {params : TenantTokenParams}
    (named : params.userId = user.id.hex) (owned : params.tenantId = user.tenantId)
    (role : params.role = user.role) :
    ∀ token ∈ (TokenService.issueTenantTokens deployment now params).all, Backed estate token := by
  intro token issued
  simp only [AuthTokens.all, TokenService.issueTenantTokens, Option.toList_some, List.mem_cons,
    List.not_mem_nil, or_false] at issued
  rcases issued with rfl | rfl
  · refine ⟨user, stored, named, congrArg some owned, ?_⟩
    intro held carried
    exact (Option.some.inj carried).symm.trans role
  · exact ⟨user, stored, named, congrArg some owned, by simp⟩

/-- The tokens issued for a member of the staff are backed. -/
theorem platform_tokens_backed (deployment : RealmDeployment) (now : Int) {estate : Estate}
    {account : StaffAccount} (stored : account ∈ estate.staff) {params : PlatformTokenParams}
    (named : params.platformUserId = account.id.hex) (role : params.superRole = account.superRole) :
    ∀ token ∈ (TokenService.issuePlatformTokens deployment now params).all,
      Backed estate token := by
  intro token issued
  simp only [AuthTokens.all, TokenService.issuePlatformTokens, Option.toList_some, List.mem_cons,
    List.not_mem_nil, or_false] at issued
  rcases issued with rfl | rfl
  · refine ⟨account, stored, named, ?_⟩
    intro held carried
    exact (Option.some.inj carried).symm.trans role
  · exact ⟨account, stored, named, by simp⟩

/-- Institutes have distinct identities, users are of stored institutes, and every token that was
handed out is backed. -/
structure Founded (world : World) : Prop where
  distinct : Records.Distinct Tenant.id world.estate.database.tenants
  housed : ∀ user ∈ world.estate.database.users,
    ∃ tenant ∈ world.estate.database.tenants, user.tenantId = tenant.id.hex
  backed : ∀ token ∈ world.issued, Backed world.estate token

/-- While accounts are only added and tokens handed out are backed, the world stays founded. -/
theorem Founded.grow {before after : World} (founded : Founded before)
    (distinct : Records.Distinct Tenant.id after.estate.database.tenants)
    (grown : Grown before.estate after.estate) {handed : List Jwt}
    (issued : after.issued = before.issued ++ handed)
    (backed : ∀ token ∈ handed, Backed after.estate token) : Founded after where
  distinct := distinct
  housed := by
    obtain ⟨added, accounts, institutes⟩ := grown.users
    intro user stored
    have member := List.mem_map_of_mem (f := User.account) stored
    rw [accounts] at member
    rcases List.mem_append.mp member with old | new
    · obtain ⟨earlier, held, same⟩ := List.mem_map.mp old
      obtain ⟨tenant, there, named⟩ := founded.housed earlier held
      obtain ⟨kept, remains, sameId⟩ := grown.tenants tenant there
      have owner : earlier.tenantId = user.tenantId := (Prod.mk.inj (Prod.mk.inj same).2).1
      exact ⟨kept, remains, by rw [← owner, named, sameId]⟩
    · obtain ⟨other, held, same⟩ := List.mem_map.mp new
      obtain ⟨tenant, there, named⟩ := institutes other held
      have owner : other.tenantId = user.tenantId := (Prod.mk.inj (Prod.mk.inj same).2).1
      exact ⟨tenant, there, owner ▸ named⟩
  backed := by
    rw [issued]
    intro token member
    rcases List.mem_append.mp member with old | new
    · exact (founded.backed token old).grown grown
    · exact backed token new

section Admission

variable {deployment : WholeDeployment} {world : World}

/-- A call of a member that the guard admits is made for a stored user, in the user's role. -/
theorem member_backed (founded : Founded world) {call : TenantApi.Call}
    (unforged : World.Unforged deployment world (.member call)) {principal : TenantPrincipal}
    (admits : TenantApi.admitted deployment.tenant call = .ok principal) :
    ∃ user ∈ world.estate.database.users, principal.userId = user.id.hex ∧
      principal.tenantId = user.tenantId ∧ ∀ role ∈ principal.role, role = user.role := by
  obtain ⟨⟨token, presented, accepted⟩, _⟩ := TenantApi.admitted_ok.mp admits
  obtain ⟨signed, _, realm, named, sub, role, _⟩ := TenantJwtStrategy.authenticate_ok.mp accepted
  have issued : token ∈ world.issued := by
    apply unforged token presented
    rw [signed]
    simp [WholeDeployment.secrets]
  have backed := founded.backed token issued
  simp only [Backed, realm] at backed
  obtain ⟨user, stored, same, owner, held⟩ := backed
  have own : principal.tenantId = user.tenantId := by
    have claimed := (present_some named).1
    rw [owner] at claimed
    exact (Option.some.inj claimed).symm
  exact ⟨user, stored, sub.trans same, own, role ▸ held⟩

/-- A call of the staff that the guard admits is made for a stored account, in its role. -/
theorem staff_backed (founded : Founded world) {call : PlatformApi.Call}
    (unforged : World.Unforged deployment world (.staff call)) {actor : PlatformPrincipal}
    (admits : PlatformApi.admitted deployment.platform call = .ok actor) :
    ∃ account ∈ world.estate.staff, actor.platformUserId = account.id.hex ∧
      ∀ role ∈ actor.superRole, role = account.superRole := by
  obtain ⟨⟨token, presented, accepted⟩, _⟩ := PlatformAuthGuard.can_activate_ok.mp admits
  obtain ⟨signed, _, realm, sub, role⟩ := PlatformJwtStrategy.authenticate_ok.mp accepted
  have issued : token ∈ world.issued := by
    apply unforged token presented
    rw [signed]
    simp [WholeDeployment.secrets, WholeDeployment.platform, WholeDeployment.realms]
  have backed := founded.backed token issued
  simp only [Backed, realm] at backed
  obtain ⟨account, stored, same, held⟩ := backed
  exact ⟨account, stored, sub.trans same, role ▸ held⟩

end Admission

namespace PlatformApi

/-- What is answered was answered before it was rewritten. -/
theorem mapped_ok {α β : Type} {rewrite : α → β} {ended : Except Thrown α} {answer : β}
    (answered : ended.map rewrite = .ok answer) :
    ∃ found, ended = .ok found ∧ rewrite found = answer := by
  cases ended with
  | error thrown => cases answered
  | ok found => exact ⟨found, rfl, Except.ok.inj answered⟩

/-- The tokens that the surface hands out are those of an impersonation. -/
theorem serve_hands (deployment : PlatformApiDeployment) (actor : PlatformPrincipal)
    (estate : Estate) (request : PlatformRequest) {tokens : AuthTokens}
    (answered : (serve deployment actor estate request).2 = .ok (.tokens tokens)) :
    ∃ draws id, (SupportService.impersonate deployment.auth.toAuthDeployment draws
      actor.platformUserId id estate.database).2 = .ok tokens := by
  cases request with
  | impersonate draws id =>
    obtain ⟨handed, ended, same⟩ := mapped_ok answered
    exact ⟨draws, id, PlatformAnswer.tokens.inj same ▸ ended⟩
  | getTenant | provision | setStatus | updateFlags | createPlan | updatePlan =>
    obtain ⟨_, _, impossible⟩ := mapped_ok answered
    cases impossible
  | overview =>
    simp only [serve, stored] at answered
    obtain ⟨_, _, impossible⟩ := mapped_ok answered
    cases impossible
  | listTenants | listPlans | subscriptions | mrr | auditLog => simp [serve] at answered

end PlatformApi

namespace World

variable {deployment : WholeDeployment} {world : World}

/-- What is handed out with an answer is handed out with tokens that were granted. -/
theorem granted_all {answer : Except Thrown AuthTokens} {holds : Jwt → Prop}
    (each : ∀ tokens, answer = .ok tokens → ∀ token ∈ tokens.all, holds token) :
    ∀ token ∈ granted answer, holds token := by
  cases answer with
  | error thrown => simp [granted]
  | ok tokens => exact each tokens rfl

/-- What a login of a member hands out is backed. -/
theorem login_backed (deployment : AuthDeployment) (now : Int) (dto : TenantLoginDto)
    (estate : Estate) :
    ∀ token ∈ granted (TenantAuthService.login deployment now dto estate.database),
      Backed estate token := by
  apply granted_all
  intro tokens answered
  obtain ⟨tenant, user, _, _, _, found, _, _, _, rfl⟩ := TenantAuthService.login_ok.mp answered
  obtain ⟨stored, owned, _⟩ := TenantAuthService.first_of_some found
  exact tenant_tokens_backed deployment now stored rfl owned.symm rfl

/-- What a refresh of a member hands out is backed. -/
theorem refresh_backed (deployment : AuthDeployment) (now : Int) (dto : RefreshDto)
    (estate : Estate) :
    ∀ token ∈ granted (TenantAuthService.refresh deployment now dto estate.database),
      Backed estate token := by
  apply granted_all
  intro tokens answered
  obtain ⟨_, tenantId, _, user, _, _, _, _, found, _, rfl⟩ :=
    TenantAuthService.refresh_ok.mp answered
  obtain ⟨stored, owned, _⟩ := TenantAuthService.first_of_some found
  exact tenant_tokens_backed deployment now stored rfl owned.symm rfl

/-- What an acceptance hands out is backed. -/
theorem accept_invite_backed (deployment : AuthDeployment) (draws : Draws) (subdomain : String)
    (dto : AcceptInviteDto) (estate : Estate) :
    ∀ token ∈ granted
        (TenantAuthService.acceptInvite deployment draws subdomain dto estate.database).2,
      Backed estate token := by
  apply granted_all
  intro tokens answered
  obtain ⟨tenant, user, _, found, _, _, rfl⟩ :=
    TenantAuthService.accept_invite_ok (Prod.ext rfl answered)
  obtain ⟨stored, owned, _⟩ := TenantAuthService.first_of_some found
  exact tenant_tokens_backed deployment draws.now stored rfl owned.symm rfl

/-- What a login of the staff hands out is backed. -/
theorem staff_login_backed (deployment : RealmDeployment) (now : Int) (dto : PlatformLoginDto)
    (estate : Estate) :
    ∀ token ∈ granted (PlatformAuthService.login deployment now dto estate.staff),
      Backed estate token := by
  apply granted_all
  intro tokens answered
  unfold PlatformAuthService.login at answered
  cases found : PlatformAuthService.findByEmail deployment dto.email estate.staff with
  | none => simp [found] at answered
  | some account =>
    simp only [found] at answered
    split at answered
    · cases answered
    · cases answered
    · rw [← Except.ok.inj answered]
      exact platform_tokens_backed deployment now (Records.lookup_some found).1 rfl rfl

/-- What a refresh of the staff hands out is backed, whatever token was taken for it. -/
theorem staff_refresh_backed (deployment : RealmDeployment) (now : Int) (dto : RefreshDto)
    (estate : Estate) :
    ∀ token ∈ granted (PlatformAuthService.refresh deployment now dto
        (estate.staff.map StaffAccount.toPlatformUser)), Backed estate token := by
  apply granted_all
  intro tokens answered
  unfold PlatformAuthService.refresh at answered
  split at answered
  · cases answered
  · split at answered
    · cases answered
    · cases answered
    · rename_i claims _ user found
      have looked : user ∈ estate.staff.map StaffAccount.toPlatformUser := by
        unfold PlatformAuthService.findById at found
        split at found
        · cases found
        · exact (Records.lookup_some (Except.ok.inj found)).1
      obtain ⟨account, stored, rfl⟩ := List.mem_map.mp looked
      rw [← Except.ok.inj answered]
      exact platform_tokens_backed deployment now stored rfl rfl

/-- What an impersonation hands out is backed, by the administrator that it names. -/
theorem impersonation_backed {deployment : AuthDeployment} {draws : Draws} {actor id : String}
    {estate : Estate} {tokens : AuthTokens}
    (answered : (SupportService.impersonate deployment draws actor id estate.database).2 =
      .ok tokens) : ∀ token ∈ tokens.all, Backed estate token := by
  obtain ⟨_, admin, _, _, found, rfl⟩ := SupportService.impersonate_ok.mp answered
  unfold SupportService.firstAdmin at found
  have stored := List.mem_of_find?_eq_some found
  have tested := List.find?_some found
  obtain ⟨owned, role⟩ : admin.tenantId = id ∧ admin.role = .admin := of_decide_eq_true tested
  have issued := @tenant_tokens_backed deployment draws.now estate admin stored
    { userId := admin.id.hex, tenantId := id, role := .admin, impersonatedBy := some actor,
      accessExpires := some (deployment.impersonationExpires.getD "10m") } rfl owned.symm role.symm
  intro token member
  apply issued
  rw [List.mem_singleton.mp member]
  exact List.mem_cons_self

/-- What the platform surface hands out is backed. -/
theorem staff_backs (deployment : PlatformApiDeployment) (estate : Estate)
    (call : PlatformApi.Call) :
    ∀ token ∈ handedOut (PlatformApi.handle deployment estate call).2, Backed estate token := by
  unfold PlatformApi.handle
  cases admits : PlatformApi.admitted deployment call with
  | error thrown => simp [handedOut]
  | ok actor =>
    simp only
    cases answered : (PlatformApi.serve deployment actor estate call.request).2 with
    | error thrown => simp [handedOut]
    | ok answer =>
      cases answer with
      | tokens tokens =>
        obtain ⟨draws, id, impersonated⟩ :=
          PlatformApi.serve_hands deployment actor estate call.request answered
        exact impersonation_backed impersonated
      | _ => simp [handedOut]

/-- What reaches the API only adds accounts. -/
theorem take_grown (founded : Founded world) {event : ApiEvent}
    (unforged : Unforged deployment world event) :
    Grown world.estate (take deployment world event).estate := by
  cases event with
  | member call =>
    obtain ⟨added, users, owned⟩ :=
      TenantApi.after_users deployment.tenant world.estate.campus call
    have tenants : (TenantApi.after deployment.tenant world.estate.campus call).database.tenants =
        world.estate.database.tenants :=
      TenantApi.after_unwritten deployment.tenant world.estate.campus call
        (show Holding.tenants.writers = some [] from rfl)
    refine ⟨?_, ⟨added, List.map_append ▸ same_accounts users, ?_⟩, rfl⟩
    · intro tenant stored
      exact ⟨tenant, tenants ▸ stored, rfl⟩
    · intro user member
      obtain ⟨principal, admits, named⟩ := owned user member
      obtain ⟨acting, stored, _, same, _⟩ := member_backed founded unforged admits
      obtain ⟨tenant, there, owner⟩ := founded.housed acting stored
      exact ⟨tenant, tenants ▸ there, by rw [named, same, owner]⟩
  | staff call =>
    have carried := (PlatformApi.after_carried deployment.platform founded.distinct call).2
    obtain ⟨seeded, users, admins, _⟩ := carried.users
    refine ⟨fun tenant stored => carried.tenant stored, ⟨seeded, ?_, ?_⟩, carried.staff⟩
    · rw [← List.map_append]
      exact congrArg (List.map User.account) users
    · intro user member
      obtain ⟨_, _, tenant, there, named, _⟩ := admins user member
      exact ⟨tenant, there, named⟩
  | acceptInvite draws subdomain dto =>
    obtain ⟨users, written, accounts⟩ := TenantAuthService.accept_invite_writes
      deployment.tenant.auth draws subdomain dto world.estate.database
    simp only [take, written]
    exact grown_same rfl accounts rfl
  | delivery inputs delivery =>
    have written := TenantApi.delivery_writes deployment.tenant.fees inputs delivery
      world.estate.campus
    exact grown_same (written.same (show Holding.tenants ∉ _ by decide))
      (congrArg (List.map User.account) (written.same (show Holding.users ∉ _ by decide))) rfl
  | _ => exact grown_same rfl rfl rfl

/-- What reaches the API keeps the world founded. -/
theorem take_founded (founded : Founded world) {event : ApiEvent}
    (unforged : Unforged deployment world event) : Founded (take deployment world event) := by
  have distinct := take_distinct deployment founded.distinct event
  have grown := take_grown founded unforged
  cases event with
  | member call => exact founded.grow distinct grown (List.append_nil _).symm (by simp)
  | login now dto =>
    exact founded.grow distinct grown rfl
      (login_backed deployment.tenant.auth now dto world.estate)
  | refresh now dto =>
    exact founded.grow distinct grown rfl
      (refresh_backed deployment.tenant.auth now dto world.estate)
  | acceptInvite draws subdomain dto =>
    refine founded.grow distinct grown rfl ?_
    intro token handed
    exact (accept_invite_backed deployment.tenant.auth draws subdomain dto world.estate token
      handed).grown grown
  | staff call =>
    refine founded.grow distinct grown rfl ?_
    intro token handed
    exact (staff_backs deployment.platform world.estate call token handed).grown grown
  | staffLogin now dto =>
    exact founded.grow distinct grown rfl
      (staff_login_backed deployment.realms now dto world.estate)
  | staffRefresh now dto =>
    exact founded.grow distinct grown rfl
      (staff_refresh_backed deployment.realms now dto world.estate)
  | delivery inputs delivery =>
    exact founded.grow distinct grown (List.append_nil _).symm (by simp)

/-- In every run of the whole API by clients who forge no tokens, every token that was handed out
names a stored account in its stored role, and every user is of a stored institute.

Proof: what reaches the API only adds accounts, and hands out tokens for stored ones. -/
theorem tokens_backed {start : World} {events : List ApiEvent} (founded : Founded start)
    (unforged : Runs.Along (take deployment) (Unforged deployment) start events) :
    Founded (Runs.run (take deployment) start events) := by
  apply Runs.run_preserves _ founded unforged
  intro world event kept met
  exact take_founded kept met

/-- The world is founded. -/
theorem opened_founded : Founded opened where
  distinct := List.nodup_singleton _
  housed := by simp [opened, Estate.database]
  backed := by simp [opened]

/-- The tokens of the administrator and of the owner are backed by their accounts. -/
theorem lead_tokens_backed : Founded (Runs.run (take twoRealms) opened leadThenSuspension) :=
  tokens_backed opened_founded (by decide)

end World

end CoachingApi
