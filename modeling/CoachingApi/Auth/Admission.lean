import CoachingApi.Auth.TenantAuthService
import CoachingApi.Support.SupportService
import CoachingApi.Tenants.TenantsService
import CoachingApi.Library.Runs

/-!
# Who is admitted to a tenant session

Four calls hand out tenant tokens, each with an admission check of its own. A grant is
entitled when the institute exists and is not suspended and the user is one of its
active users. A login checks all of it. A refresh never reads the institute, an
acceptance never reads its standing, and an impersonation never reads the standing of
the administrator; each of these is entitled exactly when what it leaves out holds.
-/

namespace CoachingApi

open TenantAuthService SupportService

/-- A call that may hand out tenant tokens. -/
inductive SessionCall where
  | login (dto : TenantLoginDto)
  | refresh (dto : RefreshDto)
  | acceptInvite (subdomain : String) (dto : AcceptInviteDto)
  | impersonate (actor tenantId : String)
  deriving DecidableEq

/-- A session holds a tenant-realm token for a user of a tenant. -/
def AuthTokens.Grants (tokens : AuthTokens) (userId tenantId : String) : Prop :=
  ∃ token ∈ tokens.all, token.payload.realm = .tenant ∧ token.payload.sub = userId ∧
    token.payload.tenantId = some tenantId

namespace SessionCall

variable (deployment : AuthDeployment) (draws : Draws)

/-- Make the call. -/
def perform (call : SessionCall) (database : Database) : Database × Except Thrown AuthTokens :=
  match call with
  | .login dto => (database, TenantAuthService.login deployment draws.now dto database)
  | .refresh dto => (database, TenantAuthService.refresh deployment draws.now dto database)
  | .acceptInvite subdomain dto =>
    TenantAuthService.acceptInvite deployment draws subdomain dto database
  | .impersonate actor tenantId =>
    SupportService.impersonate deployment draws actor tenantId database

/-- The tenant id names a stored institute that is not suspended. -/
def Standing (database : Database) (tenantId : String) : Prop :=
  ∃ tenant ∈ database.tenants, ObjectId.cast tenantId = some tenant.id ∧ tenant.status ≠ .suspended

/-- Every grant of the call is to an active user of an institute in standing. -/
def EntitledOnly (call : SessionCall) (database : Database) : Prop :=
  ∀ tokens userId tenantId, (call.perform deployment draws database).2 = .ok tokens →
    tokens.Grants userId tenantId →
      Standing database tenantId ∧
        ∃ user ∈ (call.perform deployment draws database).1.users,
          user.id.hex = userId ∧ user.tenantId = tenantId ∧ user.status = .active

/-- What the call's own check leaves out: the institute behind a refresh, the standing of
the institute behind an acceptance, the status of an impersonated administrator. -/
def Admissible (database : Database) : SessionCall → Prop
  | .login _ => True
  | .refresh dto =>
    ∀ claims tenantId sub user,
      dto.refreshToken.bind (TokenService.verifyTenantRefresh deployment draws.now) = some claims →
      claims.tenantId = some tenantId → tenantId ≠ "" → ObjectId.cast claims.sub = some sub →
      firstOf tenantId (fun other => decide (other.id = sub)) database.users = some user →
      user.status = .active → Standing database tenantId
  | .acceptInvite subdomain dto =>
    ∀ tenant user, instituteOf deployment subdomain database = some tenant →
      firstOf tenant.id.hex
        (fun other => decide (other.inviteTokenHash = some (deployment.sha256 dto.token)))
        database.users = some user →
      inviteOver draws.now user = false → tenant.status ≠ .suspended
  | .impersonate _ tenantId =>
    ∀ tenant admin, Tenant.findById tenantId database.tenants = .ok (some tenant) →
      tenant.status = .active → firstAdmin tenantId database.users = some admin →
      admin.status = .active

end SessionCall

open SessionCall

/-- Issued tokens grant to the user and the tenant they were issued for. -/
theorem issued_grants {deployment : AuthDeployment} {now : Int} {params : TenantTokenParams}
    {userId tenantId : String} :
    (TokenService.issueTenantTokens deployment now params).Grants userId tenantId ↔
      params.userId = userId ∧ params.tenantId = tenantId := by
  simp [AuthTokens.Grants, AuthTokens.all, TokenService.issueTenantTokens]

/-- An impersonation grants to the administrator in the tenant it names. -/
theorem impersonation_grants {deployment : AuthDeployment} {draws : Draws}
    {actor named userId tenantId : String} {admin : User} :
    (impersonationTokens deployment draws actor named admin).Grants userId tenantId ↔
      admin.id.hex = userId ∧ named = tenantId := by
  simp [AuthTokens.Grants, AuthTokens.all, impersonationTokens, TokenService.issueTenantTokens]

/-- A stored institute that is not suspended is in standing under its printed identity. -/
theorem standing_stored {database : Database} {tenant : Tenant} (stored : tenant ∈ database.tenants)
    (active : tenant.status ≠ .suspended) : Standing database tenant.id.hex :=
  ⟨tenant, stored, ObjectId.cast_hex tenant.id, active⟩

/-- A login grants to entitled users only. -/
theorem login_entitled (deployment : AuthDeployment) (draws : Draws) (dto : TenantLoginDto)
    (database : Database) : EntitledOnly deployment draws (.login dto) database := by
  intro tokens userId tenantId granted grants
  obtain ⟨tenant, user, _, institute, active, found, _, activeUser, _, rfl⟩ := login_ok.mp granted
  obtain ⟨rfl, rfl⟩ := issued_grants.mp grants
  obtain ⟨stored, owned, _⟩ := first_of_some found
  exact ⟨standing_stored (Tenant.find_by_subdomain_some institute).1 active,
    user, stored, rfl, owned, activeUser⟩

/-- A refresh grants to entitled users only exactly when the institute that an active
user's token names is in standing. -/
theorem refresh_entitled_iff (deployment : AuthDeployment) (draws : Draws) (dto : RefreshDto)
    (database : Database) :
    EntitledOnly deployment draws (.refresh dto) database ↔
      Admissible deployment draws database (.refresh dto) := by
  constructor
  · intro entitled claims tenantId sub user verified claimed nonempty casts found active
    have granted := refresh_ok.mpr
      ⟨claims, tenantId, sub, user, verified, claimed, nonempty, casts, found, active, rfl⟩
    exact (entitled _ _ _ granted (issued_grants.mpr ⟨rfl, rfl⟩)).1
  · intro admissible tokens userId tenantId granted grants
    obtain ⟨claims, named, sub, user, verified, claimed, nonempty, casts, found, active, rfl⟩ :=
      refresh_ok.mp granted
    obtain ⟨rfl, rfl⟩ := issued_grants.mp grants
    obtain ⟨stored, owned, _⟩ := first_of_some found
    exact ⟨admissible claims named sub user verified claimed nonempty casts found active,
      user, stored, rfl, owned, active⟩

/-- An acceptance at an institute that is not suspended grants to its user, who is active
when the call returns. -/
theorem accept_invite_entitled {deployment : AuthDeployment} {draws : Draws} {subdomain : String}
    {dto : AcceptInviteDto} {database : Database}
    (admissible : Admissible deployment draws database (.acceptInvite subdomain dto)) :
    EntitledOnly deployment draws (.acceptInvite subdomain dto) database := by
  intro tokens userId tenantId granted grants
  obtain ⟨tenant, user, institute, found, valid, after, rfl⟩ :=
    accept_invite_ok (Prod.ext rfl granted)
  obtain ⟨rfl, rfl⟩ := issued_grants.mp grants
  obtain ⟨stored, owned, _⟩ := first_of_some found
  refine ⟨standing_stored (Tenant.find_by_subdomain_some institute).1
    (admissible tenant user institute found valid),
    acceptedUser (deployment.passwords.hash draws.salt dto.password) user, ?_, rfl, owned, rfl⟩
  have written_ : TenantModel.writeBack user
      (acceptedUser (deployment.passwords.hash draws.salt dto.password) user) user ∈
      Records.modify User.id user.id (TenantModel.writeBack user
        (acceptedUser (deployment.passwords.hash draws.salt dto.password) user))
        database.users := Records.modify_same stored
  rw [accepted_written] at written_
  have users : ((SessionCall.acceptInvite subdomain dto).perform deployment draws database).1.users =
      _ := congrArg Database.users after
  rw [users]
  exact written_

/-- With the indexes and validators kept, an acceptance that is granted at a suspended
institute is not entitled. -/
theorem accept_invite_admissible {deployment : AuthDeployment} {draws : Draws} {subdomain : String}
    {dto : AcceptInviteDto} {database : Database} (kept : Kept database)
    (entitled : EntitledOnly deployment draws (.acceptInvite subdomain dto) database) :
    Admissible deployment draws database (.acceptInvite subdomain dto) := by
  intro tenant user institute found valid
  have granted : (TenantAuthService.acceptInvite deployment draws subdomain dto database).2 = _ :=
    congrArg Prod.snd (accept_invite_accepts kept institute found valid)
  obtain ⟨other, stored, casts, active⟩ :=
    (entitled _ _ _ granted (issued_grants.mpr ⟨rfl, rfl⟩)).1
  have same : tenant.id = other.id := by simpa using casts
  rwa [Records.same_record kept.tenantIds (Tenant.find_by_subdomain_some institute).1 stored same]

/-- An institute found by the text of its identity is in standing unless it is suspended. -/
theorem standing_found {database : Database} {tenantId : String} {tenant : Tenant}
    (found : Tenant.findById tenantId database.tenants = .ok (some tenant))
    (active : tenant.status ≠ .suspended) : Standing database tenantId := by
  unfold Tenant.findById at found
  cases casts : castId "Tenant" tenantId with
  | error thrown => simp [casts] at found
  | ok id =>
    simp only [casts, Except.ok.injEq] at found
    obtain ⟨stored, rfl⟩ := Records.lookup_some found
    exact ⟨tenant, stored, cast_id_ok.mp casts, active⟩

/-- An impersonation whose administrator is active grants to that administrator. -/
theorem impersonate_entitled {deployment : AuthDeployment} {draws : Draws} {actor named : String}
    {database : Database}
    (admissible : Admissible deployment draws database (.impersonate actor named)) :
    EntitledOnly deployment draws (.impersonate actor named) database := by
  intro tokens userId tenantId granted grants
  obtain ⟨tenant, admin, institute, active, first, rfl⟩ := impersonate_ok.mp granted
  obtain ⟨rfl, rfl⟩ := impersonation_grants.mp grants
  have tested := List.find?_some first
  simp only [decide_eq_true_eq] at tested
  refine ⟨standing_found institute (by simp [active]), admin, ?_, rfl, tested.1,
    admissible tenant admin institute active first⟩
  have users : ((SessionCall.impersonate actor named).perform deployment draws database).1.users =
      database.users := (impersonate_keeps deployment draws actor named database).2
  rw [users]
  exact List.mem_of_find?_eq_some first

/-- With distinct identities an impersonation that is entitled has an active administrator. -/
theorem impersonate_admissible {deployment : AuthDeployment} {draws : Draws} {actor named : String}
    {database : Database} (kept : Kept database)
    (entitled : EntitledOnly deployment draws (.impersonate actor named) database) :
    Admissible deployment draws database (.impersonate actor named) := by
  intro tenant admin institute active first
  have granted : (SupportService.impersonate deployment draws actor named database).2 =
      .ok (impersonationTokens deployment draws actor named admin) :=
    impersonate_ok.mpr ⟨tenant, admin, institute, active, first, rfl⟩
  obtain ⟨user, stored, same, _, activeUser⟩ :=
    (entitled _ _ _ granted (impersonation_grants.mpr ⟨rfl, rfl⟩)).2
  have users : ((SessionCall.impersonate actor named).perform deployment draws database).1.users =
      database.users := (impersonate_keeps deployment draws actor named database).2
  rw [users] at stored
  rwa [Records.same_record kept.userIds (List.mem_of_find?_eq_some first) stored
    (ObjectId.hex_injective same).symm]

/-- No session call changes an institute. -/
theorem perform_keeps_tenants (deployment : AuthDeployment) (draws : Draws) (call : SessionCall)
    (database : Database) :
    (call.perform deployment draws database).1.tenants = database.tenants := by
  cases call with
  | login dto => rfl
  | refresh dto => rfl
  | acceptInvite subdomain dto =>
    exact accept_invite_keeps_tenants deployment draws subdomain dto database
  | impersonate actor tenantId => exact (impersonate_keeps deployment draws actor tenantId database).1

/-- The store after a session call. -/
def sessionStep (deployment : AuthDeployment) (database : Database) (input : Draws × SessionCall) :
    Database :=
  (input.2.perform deployment input.1 database).1

/-- A run of session calls changes no institute. -/
theorem sessions_keep_tenants (deployment : AuthDeployment) (database : Database)
    (calls : List (Draws × SessionCall)) :
    (Runs.run (sessionStep deployment) database calls).tenants = database.tenants := by
  induction calls generalizing database with
  | nil => rfl
  | cons input rest inductionHypothesis =>
    rw [Runs.run_cons, inductionHypothesis]
    exact perform_keeps_tenants deployment input.1 input.2 database

/-- After a suspension the suspended institute is not in standing. -/
theorem suspension_ends_standing {actor : String} {draws : Draws} {id tenantId : String}
    {database suspended : Database} {tenant : Tenant}
    (answered : TenantsService.setStatus actor draws id .suspended database =
      (suspended, .ok tenant))
    (same : ObjectId.cast tenantId = ObjectId.cast id) : ¬ Standing suspended tenantId := by
  obtain ⟨target, casts, _, tenants, _⟩ := TenantsService.set_status_ok answered
  rintro ⟨other, stored, named, active⟩
  rw [same, casts, Option.some.injEq] at named
  rw [tenants] at stored
  obtain ⟨original, _, rfl⟩ := Records.mem_modify.mp stored
  by_cases touched : original.id = target
  · simp [touched] at active
  · simp [touched] at named
    exact touched named.symm

/-- A call is entitled when what its own check leaves out holds, and only then where the
indexes and validators are kept. -/
theorem entitled_of_admissible {deployment : AuthDeployment} {draws : Draws} {call : SessionCall}
    {database : Database} (admissible : Admissible deployment draws database call) :
    EntitledOnly deployment draws call database := by
  cases call with
  | login dto => exact login_entitled deployment draws dto database
  | refresh dto => exact (refresh_entitled_iff deployment draws dto database).mpr admissible
  | acceptInvite subdomain dto => exact accept_invite_entitled admissible
  | impersonate actor tenantId => exact impersonate_entitled admissible

namespace Admission

/-- Every session call grants to entitled users only exactly when what its own check leaves
out holds; and whatever session calls follow a suspension, one for which it holds grants no
token of the suspended institute.

Proof: each call's answer is inverted once. A run of session calls keeps the institutes,
so the suspended one stays out of standing. -/
theorem sessions_entitled_iff (deployment : AuthDeployment) :
    (∀ draws call database, Admissible deployment draws database call →
      EntitledOnly deployment draws call database) ∧
    (∀ draws call database, Kept database →
      (EntitledOnly deployment draws call database ↔ Admissible deployment draws database call)) ∧
    ∀ actor draws id database suspended tenant,
      TenantsService.setStatus actor draws id .suspended database = (suspended, .ok tenant) →
      ∀ earlier later call,
        Admissible deployment later (Runs.run (sessionStep deployment) suspended earlier) call →
        ∀ tokens userId tenantId,
          (call.perform deployment later (Runs.run (sessionStep deployment) suspended earlier)).2 =
            .ok tokens →
          tokens.Grants userId tenantId → ObjectId.cast tenantId ≠ ObjectId.cast id := by
  refine ⟨fun _ _ _ => entitled_of_admissible, fun draws call database kept => ⟨?_, ?_⟩, ?_⟩
  · intro entitled
    cases call with
    | login dto => trivial
    | refresh dto => exact (refresh_entitled_iff deployment draws dto database).mp entitled
    | acceptInvite subdomain dto => exact accept_invite_admissible kept entitled
    | impersonate actor tenantId => exact impersonate_admissible kept entitled
  · exact entitled_of_admissible
  · intro actor draws id database suspended tenant answered earlier later call admissible
      tokens userId tenantId granted grants same
    obtain ⟨other, stored, named, active⟩ :=
      (entitled_of_admissible admissible tokens userId tenantId granted grants).1
    apply suspension_ends_standing answered same
    exact ⟨other, sessions_keep_tenants deployment suspended earlier ▸ stored, named, active⟩

/-- What the calls of a demonstration draw. -/
def drawsAt (now : Int) (inviteToken : String) (userId auditId : Char) : Draws :=
  { now := now, salt := "salt", inviteToken := inviteToken, tenantId := .repeated '1',
    userId := .repeated userId, auditId := .repeated auditId }

/-- The institute of a demonstration. -/
def bright : CreateTenantDto :=
  { name := "Bright", subdomain := "bright", adminName := "Head", adminEmail := "admin@bright.test",
    adminPassword := "bright-pass-1" }

/-- An institute with its administrator and an invited teacher. -/
def openInstitute : Database :=
  (TenantAuthService.invite .marking (contextOf (some (ObjectId.repeated '1').hex))
    (drawsAt 1 "token" '3' '5') { email := "teacher@bright.test", name := "Teacher", role := .teacher }
    (TenantsService.provision .marking "owner" (drawsAt 0 "" '2' '4') bright {}).1).1

/-- The institute after its suspension. -/
def suspendedInstitute : Database :=
  (TenantsService.setStatus "owner" (drawsAt 2 "" '6' '6') (ObjectId.repeated '1').hex .suspended
    openInstitute).1

/-- The institute with its administrator disabled. -/
def disabledInstitute : Database :=
  { openInstitute with
    users := openInstitute.users.map (fun user => { user with status := .disabled }) }

/-- The refresh token of the administrator's session. -/
def adminRefresh : RefreshDto :=
  { refreshToken := some
      { payload :=
          { realm := .tenant, sub := (ObjectId.repeated '2').hex,
            tenantId := some (ObjectId.repeated '1').hex }
        secret := "refresh", issuedAt := 1, expiresIn := "7d" } }

/-- The administrator's login hands out that refresh token. -/
example : (TenantAuthService.login .marking 1
    { subdomain := "Bright", email := "Admin@bright.test", password := "bright-pass-1" }
    openInstitute).toOption.bind AuthTokens.refreshToken = adminRefresh.refreshToken := by
  decide +kernel

/-- The administrator's refresh token is renewed after the suspension. -/
theorem suspended_refresh_unentitled :
    ¬ EntitledOnly .marking (drawsAt 3 "" '7' '7') (.refresh adminRefresh) suspendedInstitute := by
  intro entitled
  have suspended : ∀ tenant ∈ suspendedInstitute.tenants, tenant.status = .suspended := by
    decide +kernel
  have granted : (SessionCall.perform .marking (drawsAt 3 "" '7' '7') (.refresh adminRefresh)
      suspendedInstitute).2 = .ok (TokenService.issueTenantTokens .marking 3
        { userId := (ObjectId.repeated '2').hex, tenantId := (ObjectId.repeated '1').hex,
          role := .admin }) := by decide +kernel
  obtain ⟨⟨tenant, stored, _, active⟩, _⟩ := entitled _ _ _ granted (issued_grants.mpr ⟨rfl, rfl⟩)
  exact active (suspended tenant stored)

/-- The invited teacher joins after the suspension. -/
theorem suspended_acceptance_unentitled :
    ¬ EntitledOnly .marking (drawsAt 3 "" '7' '7')
      (.acceptInvite "bright" { token := "token", password := "teacher-pass" })
      suspendedInstitute := by
  intro entitled
  have suspended : ∀ tenant ∈ suspendedInstitute.tenants, tenant.status = .suspended := by
    decide +kernel
  have granted : (SessionCall.perform .marking (drawsAt 3 "" '7' '7')
      (.acceptInvite "bright" { token := "token", password := "teacher-pass" })
      suspendedInstitute).2 = .ok (TokenService.issueTenantTokens .marking 3
        { userId := (ObjectId.repeated '3').hex, tenantId := (ObjectId.repeated '1').hex,
          role := .teacher }) := by decide +kernel
  obtain ⟨⟨tenant, stored, _, active⟩, _⟩ := entitled _ _ _ granted (issued_grants.mpr ⟨rfl, rfl⟩)
  exact active (suspended tenant stored)

/-- The disabled administrator is impersonated. -/
theorem disabled_impersonation_unentitled :
    ¬ EntitledOnly .marking (drawsAt 3 "" '7' '7')
      (.impersonate "support" (ObjectId.repeated '1').hex) disabledInstitute := by
  intro entitled
  have disabled : ∀ user ∈ (SessionCall.perform .marking (drawsAt 3 "" '7' '7')
      (.impersonate "support" (ObjectId.repeated '1').hex) disabledInstitute).1.users,
      user.status = .disabled := by decide +kernel
  have granted : (SessionCall.perform .marking (drawsAt 3 "" '7' '7')
      (.impersonate "support" (ObjectId.repeated '1').hex) disabledInstitute).2 =
      .ok (impersonationTokens .marking (drawsAt 3 "" '7' '7') "support" (ObjectId.repeated '1').hex
        (TenantsService.provisionedAdmin .marking (drawsAt 0 "" '2' '4') bright)) := by
    decide +kernel
  obtain ⟨_, user, stored, _, _, active⟩ :=
    entitled _ _ _ granted (impersonation_grants.mpr ⟨rfl, rfl⟩)
  simp [disabled user stored] at active

/-- Tokens are granted for a suspended institute by a refresh and by an acceptance, and for
a disabled administrator by an impersonation. -/
theorem unentitled_sessions :
    ¬ EntitledOnly .marking (drawsAt 3 "" '7' '7') (.refresh adminRefresh) suspendedInstitute ∧
    ¬ EntitledOnly .marking (drawsAt 3 "" '7' '7')
      (.acceptInvite "bright" { token := "token", password := "teacher-pass" })
      suspendedInstitute ∧
    ¬ EntitledOnly .marking (drawsAt 3 "" '7' '7')
      (.impersonate "support" (ObjectId.repeated '1').hex) disabledInstitute :=
  ⟨suspended_refresh_unentitled, suspended_acceptance_unentitled,
    disabled_impersonation_unentitled⟩

/-- The suspended institute's store keeps the indexes and validators. -/
theorem suspended_institute_kept : Kept suspendedInstitute := by decide +kernel

/-- In the suspended institute the administrator's refresh is not admissible, and a login
after it, which is, grants no token of the institute. -/
theorem suspended_institute_sessions :
    ¬ Admissible .marking (drawsAt 3 "" '7' '7') suspendedInstitute (.refresh adminRefresh) ∧
      ∀ tokens userId tenantId,
        (SessionCall.perform .marking (drawsAt 3 "" '7' '7')
          (.login { subdomain := "bright", email := "admin@bright.test", password := "bright-pass-1" })
          (Runs.run (sessionStep .marking) suspendedInstitute
            [(drawsAt 2 "" '7' '7', .refresh adminRefresh)])).2 = .ok tokens →
        tokens.Grants userId tenantId →
        ObjectId.cast tenantId ≠ ObjectId.cast (ObjectId.repeated '1').hex := by
  obtain ⟨_, exactly, later⟩ := sessions_entitled_iff .marking
  have answered : TenantsService.setStatus "owner" (drawsAt 2 "" '6' '6')
      (ObjectId.repeated '1').hex .suspended openInstitute =
      (suspendedInstitute, .ok
        { TenantsService.provisionedTenant .marking (drawsAt 0 "" '2' '4') bright with
          status := .suspended }) := Prod.ext rfl (by decide +kernel)
  refine ⟨fun admissible => ?_, ?_⟩
  · exact suspended_refresh_unentitled ((exactly _ _ _ suspended_institute_kept).mpr admissible)
  · exact later "owner" (drawsAt 2 "" '6' '6') _ openInstitute suspendedInstitute _ answered
      [(drawsAt 2 "" '7' '7', .refresh adminRefresh)] _ _ trivial

end Admission

end CoachingApi
