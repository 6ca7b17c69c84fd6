import CoachingApi.Surfaces.MemberRecords
import CoachingApi.Surfaces.PlatformWrites
import CoachingApi.Surfaces.WholeLedger

/-!
# The whole API

Both surfaces with their public routes, and the deliveries of the gateway. What is kept is what is
stored and which tokens were handed out; tokens themselves are stored nowhere. A client presents a
token that was handed out or one that no secret of the deployment signed. What the API leaves of
institutes, users and staff is that they are there: under the same identity, and users and staff in
the same role.
-/

namespace CoachingApi

open TenantModel TenantPlugin TenantContextStore

/-- What the outside has of the whole. -/
structure WholeDeployment where
  tenant : TenantApiDeployment
  platformJwt : RealmJwtConfig
  mixed : MixedPath Flags

/-- The configuration of both realms. -/
def WholeDeployment.realms (deployment : WholeDeployment) : RealmDeployment :=
  { deployment.tenant.auth with platformJwt := deployment.platformJwt }

/-- What the outside has of the platform surface. -/
def WholeDeployment.platform (deployment : WholeDeployment) : PlatformApiDeployment :=
  { auth := deployment.realms, mixed := deployment.mixed }

/-- The secrets that tokens are signed with. -/
def WholeDeployment.secrets (deployment : WholeDeployment) : List String :=
  [deployment.tenant.auth.tenantJwt.accessSecret, deployment.tenant.auth.tenantJwt.refreshSecret,
    deployment.platformJwt.accessSecret, deployment.platformJwt.refreshSecret]

/-- What reaches the API: a request on a guarded route of either surface, on a public one, or a
delivery. -/
inductive ApiEvent where
  | member (call : TenantApi.Call)
  | login (now : Int) (dto : TenantLoginDto)
  | refresh (now : Int) (dto : RefreshDto)
  | acceptInvite (draws : Draws) (subdomain : String) (dto : AcceptInviteDto)
  | staff (call : PlatformApi.Call)
  | staffLogin (now : Int) (dto : PlatformLoginDto)
  | staffRefresh (now : Int) (dto : RefreshDto)
  | delivery (inputs : AwaitPoint → StepInput) (delivery : Delivery)

/-- The tokens that are presented. -/
def ApiEvent.presents : ApiEvent → Option Jwt
  | .member call => call.bearer
  | .staff call => call.bearer
  | .refresh _ dto | .staffRefresh _ dto => dto.refreshToken
  | _ => none

/-- What is stored, and the tokens that were handed out. -/
structure World where
  estate : Estate := {}
  issued : List Jwt := []

namespace World

/-- Other records of institutes. -/
def store (database : Database) (world : World) : World :=
  { world with
    estate := { world.estate with campus := { world.estate.campus with database := database } } }

/-- The tokens that an answer hands out. -/
def granted : Except Thrown AuthTokens → List Jwt
  | .ok tokens => tokens.all
  | .error _ => []

/-- The tokens that an answer of the platform surface hands out. -/
def handedOut : Except Thrown PlatformAnswer → List Jwt
  | .ok (.tokens tokens) => tokens.all
  | _ => []

/-- More tokens were handed out. -/
def grant (tokens : List Jwt) (world : World) : World :=
  { world with issued := world.issued ++ tokens }

/-- What an event leaves, and the tokens that it hands out. -/
def take (deployment : WholeDeployment) (world : World) : ApiEvent → World
  | .member call =>
    { world with
      estate := { world.estate with
        campus := TenantApi.after deployment.tenant world.estate.campus call } }
  | .login now dto =>
    world.grant (granted (TenantAuthService.login deployment.tenant.auth now dto
      world.estate.database))
  | .refresh now dto =>
    world.grant (granted (TenantAuthService.refresh deployment.tenant.auth now dto
      world.estate.database))
  | .acceptInvite draws subdomain dto =>
    let ended := TenantAuthService.acceptInvite deployment.tenant.auth draws subdomain dto
      world.estate.database
    (world.store ended.1).grant (granted ended.2)
  | .staff call =>
    let ended := PlatformApi.handle deployment.platform world.estate call
    { estate := ended.1, issued := world.issued ++ handedOut ended.2 }
  | .staffLogin now dto =>
    world.grant (granted (PlatformAuthService.login deployment.realms now dto world.estate.staff))
  | .staffRefresh now dto =>
    world.grant (granted (PlatformAuthService.refresh deployment.realms now dto
      (world.estate.staff.map StaffAccount.toPlatformUser)))
  | .delivery inputs delivery =>
    world.store
      (WebhooksController.handle deployment.tenant.fees inputs delivery world.estate.database).1

/-- A token that is presented was handed out, if a secret of the deployment signed it. -/
def Unforged (deployment : WholeDeployment) (world : World) (event : ApiEvent) : Prop :=
  ∀ token ∈ event.presents, token.secret ∈ deployment.secrets → token ∈ world.issued

/-- Whether a presented token is unforged can be tested. -/
instance (deployment : WholeDeployment) (world : World) (event : ApiEvent) :
    Decidable (Unforged deployment world event) :=
  inferInstanceAs (Decidable
    (∀ token ∈ event.presents, token.secret ∈ deployment.secrets → token ∈ world.issued))

end World

/-- A user but for the tokens of devices. -/
def User.withoutDevices (user : User) : User := { user with fcmTokens := [] }

/-- What of a user no route changes. -/
def User.account (user : User) : ObjectId × String × UserRole := (user.id, user.tenantId, user.role)

/-- Users that are the same but for devices have the same accounts. -/
theorem same_accounts {before after : List User}
    (same : after.map User.withoutDevices = before.map User.withoutDevices) :
    after.map User.account = before.map User.account := by
  have accounts := congrArg (List.map User.account) same
  rw [List.map_map, List.map_map] at accounts
  exact accounts

/-- Institutes and users are only added, users to institutes that are there, and the staff is the
same. -/
structure Grown (before after : Estate) : Prop where
  tenants : ∀ tenant ∈ before.database.tenants, ∃ kept ∈ after.database.tenants, kept.id = tenant.id
  users : ∃ added : List User, after.database.users.map User.account =
      before.database.users.map User.account ++ added.map User.account ∧
    ∀ user ∈ added, ∃ tenant ∈ after.database.tenants, user.tenantId = tenant.id.hex
  staff : after.staff = before.staff

/-- Users that have the same accounts, of the same institutes. -/
theorem grown_same {before after : Estate}
    (tenants : after.database.tenants = before.database.tenants)
    (users : after.database.users.map User.account = before.database.users.map User.account)
    (staff : after.staff = before.staff) : Grown before after where
  tenants := fun tenant stored => ⟨tenant, tenants ▸ stored, rfl⟩
  users := ⟨[], by rw [users, List.map_nil, List.append_nil], by simp⟩
  staff := staff

/-- A stored user is stored afterwards, with the same account. -/
theorem Grown.user {before after : Estate} (grown : Grown before after) {user : User}
    (stored : user ∈ before.database.users) :
    ∃ kept ∈ after.database.users, kept.account = user.account := by
  obtain ⟨added, accounts, _⟩ := grown.users
  have member : user.account ∈ after.database.users.map User.account := by
    rw [accounts]
    exact List.mem_append_left _ (List.mem_map_of_mem stored)
  exact List.mem_map.mp member

namespace TenantAuthService

/-- An acceptance that fails writes nothing. -/
theorem accept_invite_thrown {deployment : AuthDeployment} {draws : Draws} {subdomain : String}
    {dto : AcceptInviteDto} {database after : Database} {thrown : Thrown}
    (ended : acceptInvite deployment draws subdomain dto database = (after, .error thrown)) :
    after = database := by
  unfold acceptInvite at ended
  repeat' split at ended
  all_goals simp_all

/-- An acceptance writes users at most, and leaves their accounts. -/
theorem accept_invite_writes (deployment : AuthDeployment) (draws : Draws) (subdomain : String)
    (dto : AcceptInviteDto) (database : Database) :
    ∃ users, (acceptInvite deployment draws subdomain dto database).1 =
        { database with users := users } ∧
      users.map User.account = database.users.map User.account := by
  cases ended : acceptInvite deployment draws subdomain dto database with
  | mk after answer =>
    cases answer with
    | ok tokens =>
      obtain ⟨tenant, user, _, _, _, rfl, _⟩ := accept_invite_ok ended
      refine ⟨_, rfl, Records.modify_reading User.account ?_⟩
      intro other _ same
      simp [User.account, TenantModel.writeBack, acceptedUser, written]
    | error thrown => exact ⟨database.users, accept_invite_thrown ended, rfl⟩

end TenantAuthService

namespace TenantApi

/-- A collection that no role writes is the same after a call of a member. -/
theorem after_unwritten (deployment : TenantApiDeployment) (campus : Campus) (call : Call)
    {holding : Holding} (unwritten : holding.writers = some []) :
    holding.Same campus (after deployment campus call) := by
  by_contra changed
  obtain ⟨_, _, role, nobody, _⟩ := after_authorized deployment unwritten changed
  cases nobody

/-- A call of a member leaves users but for their devices, and adds one at most, to the institute
that it is admitted for. -/
theorem after_users (deployment : TenantApiDeployment) (campus : Campus) (call : Call) :
    ∃ added : List User, (after deployment campus call).database.users.map User.withoutDevices =
        (campus.database.users ++ added).map User.withoutDevices ∧
      ∀ user ∈ added, ∃ principal, admitted deployment call = .ok principal ∧
        user.tenantId = principal.tenantId := by
  have unchanged {users : List User} (same : users = campus.database.users) :
      ∃ added : List User, users.map User.withoutDevices =
          (campus.database.users ++ added).map User.withoutDevices ∧
        ∀ user ∈ added, ∃ principal, admitted deployment call = .ok principal ∧
          user.tenantId = principal.tenantId :=
    ⟨[], by rw [same, List.append_nil], by simp⟩
  cases admits : admitted deployment call with
  | error thrown =>
    rw [admits] at unchanged
    apply unchanged
    simp only [after, handle, admits]
  | ok principal =>
    have bound := admitted_bound admits
    have served : after deployment campus call =
        (serve deployment (intercept principal.tenantId) principal campus call.request).1 := by
      simp only [after, handle, admits]
    rw [admits] at unchanged
    rw [served]
    by_cases written : Holding.users ∈ call.request.writes
    · cases request : call.request with
      | invite draws dto =>
        simp only [serve, stored, TenantAuthService.invite]
        split
        · exact unchanged rfl
        · exact unchanged rfl
        · split
          · exact unchanged rfl
          · rename_i invited users created
            obtain ⟨valid, rfl, _⟩ := TenantModel.create_ok created
            refine ⟨[invited], rfl, ?_⟩
            intro user member
            obtain rfl := List.mem_singleton.mp member
            obtain ⟨stamped, _⟩ := validate_ok bound valid
            refine ⟨principal, rfl, ?_⟩
            rw [stamped]
            rfl
      | fcmToken token =>
        simp only [serve, stored, TenantAuthService.addFcmToken]
        cases updates : findByTextAndUpdate (intercept principal.tenantId) principal.userId
            (TenantAuthService.registerToken token) campus.database.users with
        | error thrown => exact unchanged rfl
        | ok ended =>
          obtain ⟨found, users⟩ := ended
          cases found with
          | none => exact unchanged (find_by_text_and_update_none bound updates)
          | some changed =>
            obtain ⟨record, _, _, _, _, rfl⟩ := find_by_text_and_update_ok bound updates
            refine ⟨[], ?_, by simp⟩
            rw [List.append_nil]
            exact Records.modify_reading User.withoutDevices (fun _ _ _ => rfl)
      | _ => simp [request, TenantRequest.writes] at written
    · apply unchanged
      exact (serve_writes deployment _ principal campus call.request).same written

end TenantApi

namespace World

/-- What reaches the API keeps the identities of institutes distinct. -/
theorem take_distinct (deployment : WholeDeployment) {world : World}
    (distinct : Records.Distinct Tenant.id world.estate.database.tenants) (event : ApiEvent) :
    Records.Distinct Tenant.id (take deployment world event).estate.database.tenants := by
  cases event with
  | member call =>
    have tenants : (take deployment world (.member call)).estate.database.tenants =
        world.estate.database.tenants :=
      TenantApi.after_unwritten deployment.tenant world.estate.campus call
        (show Holding.tenants.writers = some [] from rfl)
    exact tenants ▸ distinct
  | staff call => exact (PlatformApi.after_carried deployment.platform distinct call).1
  | acceptInvite draws subdomain dto =>
    obtain ⟨users, written, _⟩ := TenantAuthService.accept_invite_writes deployment.tenant.auth
      draws subdomain dto world.estate.database
    simp only [take, written]
    exact distinct
  | delivery inputs delivery =>
    have written := TenantApi.delivery_writes deployment.tenant.fees inputs delivery
      world.estate.campus
    have tenants : (take deployment world (.delivery inputs delivery)).estate.database.tenants =
        world.estate.database.tenants := written.same (show Holding.tenants ∉ _ by decide)
    exact tenants ▸ distinct
  | _ => exact distinct

/-- A world of one institute and its administrator, and one owner on the staff. -/
def opened : World where
  estate :=
    { campus :=
        { database :=
            { tenants := [{ id := .repeated '1', name := "Bright", subdomain := "bright",
                            status := .active }]
              users := [{ id := .repeated '2', tenantId := (ObjectId.repeated '1').hex,
                          role := .admin, name := "Asha", email := "asha@bright.test",
                          passwordHash := some "$argon2id$secret-words", status := .active }] } }
      staff := [{ id := .repeated '7', superRole := .owner, email := "owner@platform.test",
                  passwordHash := "$argon2id$owner-words" }] }

/-- Secrets of its own in each realm. -/
def twoRealms : WholeDeployment where
  tenant := TenantApi.quiet
  platformJwt := PlatformApi.desk.auth.platformJwt
  mixed := .always

/-- The administrator logs in and records a lead; the owner logs in and suspends the institute. -/
def leadThenSuspension : List ApiEvent :=
  [.login 0 { subdomain := "bright", email := "asha@bright.test", password := "secret-words" },
    .member (TenantApi.callOf (ObjectId.repeated '1').hex .admin (.repeated '2')
      (.createLead (.repeated 'a') { name := "Bela", phone := "+91 98000 00000" })),
    .staffLogin 0 { email := "owner@platform.test", password := "owner-words" },
    .staff (PlatformApi.callOf .owner
      (.setStatus (PlatformApi.drawsOf '3') (ObjectId.repeated '1').hex .suspended))]

end World

end CoachingApi
