import CoachingApi.Auth.TenantAuthService
import CoachingApi.Library.CredentialRegistry
import CoachingApi.Library.Runs
import CoachingApi.Tenants.TenantsService

/-!
# Credential calls and what they are for

The five calls that write or read credentials, as one step of the store and as one step
of the registry of credentials. The registry's step is written from what each call is
for; it decides on its own whether the call succeeds. Subdomains and emails are names
and addresses in the form the schemas store, tenants are their printed identities.
-/

namespace CoachingApi

open TenantAuthService CredentialRegistry

/-- A result is a success when it has an answer. -/
theorem is_ok_iff {ε α : Type} {result : Except ε α} :
    result.isOk = true ↔ ∃ answer, result = .ok answer := by
  cases result <;> simp [Except.isOk, Except.toBool]

/-- A call on credentials; an invitation runs in its caller's tenant. -/
inductive CredentialCall where
  | provision (actor : String) (dto : CreateTenantDto)
  | invite (tenantId : String) (dto : InviteUserDto)
  | acceptInvite (subdomain : String) (dto : AcceptInviteDto)
  | setStatus (actor id : String) (status : TenantStatus)
  | login (dto : TenantLoginDto)
  deriving DecidableEq

/-- The registry of credentials: subdomains, tenant ids, emails, tokens and passwords. -/
abbrev Credentials := Registry String String String String String

namespace CredentialCall

variable (deployment : AuthDeployment) (draws : Draws)

/-- Make the call: the store after it, and whether it succeeded. -/
def perform (call : CredentialCall) (database : Database) : Database × Bool :=
  match call with
  | .provision actor dto =>
    let outcome := TenantsService.provision deployment actor draws dto database
    (outcome.1, outcome.2.isOk)
  | .invite tenantId dto =>
    let outcome := TenantAuthService.invite deployment (contextOf (some tenantId)) draws dto database
    (outcome.1, outcome.2.isOk)
  | .acceptInvite subdomain dto =>
    let outcome := TenantAuthService.acceptInvite deployment draws subdomain dto database
    (outcome.1, outcome.2.isOk)
  | .setStatus actor id status =>
    let outcome := TenantsService.setStatus actor draws id status database
    (outcome.1, outcome.2.isOk)
  | .login dto =>
    (database, (TenantAuthService.login deployment draws.now dto database).isOk)

/-- The tenant a call acts on; a login acts on none. -/
def tenantOf (call : CredentialCall) (database : Database) : Option String :=
  match call with
  | .provision _ _ => some draws.tenantId.hex
  | .invite tenantId _ => some tenantId
  | .acceptInvite subdomain _ =>
    (instituteOf deployment subdomain database).map (fun tenant => tenant.id.hex)
  | .setStatus _ id _ => (ObjectId.cast id).map ObjectId.hex
  | .login _ => none

/-- What a provisioning is for: a free subdomain names a new tenant, and the administrator's
email gets the password. A refused administrator leaves the tenant. -/
def specifyProvision (dto : CreateTenantDto) (registry : Credentials) : Credentials × Bool :=
  let name := queryKey deployment dto.subdomain
  let address := queryKey deployment dto.adminEmail
  if (registry.tenants name).isSome ∨ Text.trim dto.name = "" ∨ name = "" then (registry, false)
  else if Text.trim dto.adminName = "" ∨ address = "" then
    (registry.opened name draws.tenantId.hex, false)
  else
    ((registry.opened name draws.tenantId.hex).enrolled draws.tenantId.hex address
      dto.adminPassword, true)

/-- What an invitation is for: an address that is no member yet gets a token for a week. -/
def specifyInvite (tenantId : String) (dto : InviteUserDto) (registry : Credentials) :
    Credentials × Bool :=
  let address := queryKey deployment dto.email
  if tenantId = "" ∨ registry.members tenantId address = true ∨ Text.trim dto.name = "" ∨
      address = "" then (registry, false)
  else
    (registry.invited tenantId address draws.inviteToken (draws.now + INVITE_LIFETIME), true)

/-- What an acceptance is for: a token that its tenant redeems sets the password of the
invited address. -/
def specifyAcceptInvite (subdomain : String) (dto : AcceptInviteDto) (registry : Credentials) :
    Credentials × Bool :=
  match registry.tenants (queryKey deployment subdomain) with
  | none => (registry, false)
  | some tenantId =>
    match registry.redeemable tenantId dto.token draws.now with
    | none => (registry, false)
    | some invitation => (registry.redeemed dto.token invitation dto.password, true)

/-- What a change of standing is for: an open tenant is suspended or not. -/
def specifySetStatus (id : String) (status : TenantStatus) (registry : Credentials) :
    Credentials × Bool :=
  match ObjectId.cast id with
  | none => (registry, false)
  | some target =>
    if (registry.suspended target.hex).isSome then
      (registry.standing target.hex (decide (status = .suspended)), true)
    else (registry, false)

/-- What each call is for: the registry after it, and whether it succeeds. -/
def specify (call : CredentialCall) (registry : Credentials) : Credentials × Bool :=
  match call with
  | .provision _ dto => specifyProvision deployment draws dto registry
  | .invite tenantId dto => specifyInvite deployment draws tenantId dto registry
  | .acceptInvite subdomain dto => specifyAcceptInvite deployment draws subdomain dto registry
  | .setStatus _ id status => specifySetStatus id status registry
  | .login dto =>
    (registry, registry.admits (queryKey deployment dto.subdomain)
      (queryKey deployment dto.email) dto.password)

/-- What a call may do to the registry, and whether it succeeds. -/
inductive Effect (deployment : AuthDeployment) (draws : Draws) (registry : Credentials) :
    CredentialCall → Credentials → Bool → Prop where
  | refused (call : CredentialCall) : Effect deployment draws registry call registry false
  | opened (actor : String) (dto : CreateTenantDto)
      (free : registry.tenants (queryKey deployment dto.subdomain) = none) :
      Effect deployment draws registry (.provision actor dto)
        (registry.opened (queryKey deployment dto.subdomain) draws.tenantId.hex) false
  | enrolled (actor : String) (dto : CreateTenantDto)
      (free : registry.tenants (queryKey deployment dto.subdomain) = none) :
      Effect deployment draws registry (.provision actor dto)
        ((registry.opened (queryKey deployment dto.subdomain) draws.tenantId.hex).enrolled
          draws.tenantId.hex (queryKey deployment dto.adminEmail) dto.adminPassword) true
  | invited (tenantId : String) (dto : InviteUserDto) :
      Effect deployment draws registry (.invite tenantId dto)
        (registry.invited tenantId (queryKey deployment dto.email) draws.inviteToken
          (draws.now + INVITE_LIFETIME)) true
  | redeemed (subdomain : String) (dto : AcceptInviteDto) (tenantId : String)
      (invitation : Invitation String String)
      (resolved : registry.tenants (queryKey deployment subdomain) = some tenantId)
      (redeems : registry.redeemable tenantId dto.token draws.now = some invitation) :
      Effect deployment draws registry (.acceptInvite subdomain dto)
        (registry.redeemed dto.token invitation dto.password) true
  | standing (actor id : String) (status : TenantStatus) (target : ObjectId)
      (casts : ObjectId.cast id = some target) :
      Effect deployment draws registry (.setStatus actor id status)
        (registry.standing target.hex (decide (status = .suspended))) true
  | admitted (dto : TenantLoginDto) : Effect deployment draws registry (.login dto) registry true

/-- Each call's specification has one of the effects. -/
theorem specify_effect (call : CredentialCall) (registry : Credentials) :
    Effect deployment draws registry call (call.specify deployment draws registry).1
      (call.specify deployment draws registry).2 := by
  cases call with
  | provision actor dto =>
    simp only [specify, specifyProvision]
    split
    · exact .refused _
    · rename_i valid
      have free : registry.tenants (queryKey deployment dto.subdomain) = none := by
        simpa using (not_or.mp valid).1
      split
      · exact .opened actor dto free
      · exact .enrolled actor dto free
  | invite tenantId dto =>
    simp only [specify, specifyInvite]
    split
    · exact .refused _
    · exact .invited tenantId dto
  | acceptInvite subdomain dto =>
    simp only [specify, specifyAcceptInvite]
    cases resolved : registry.tenants (queryKey deployment subdomain) with
    | none => exact .refused _
    | some tenantId =>
      cases redeems : registry.redeemable tenantId dto.token draws.now with
      | none => simpa [redeems] using Effect.refused _
      | some invitation =>
        simpa [redeems] using Effect.redeemed subdomain dto tenantId invitation resolved redeems
  | setStatus actor id status =>
    simp only [specify, specifySetStatus]
    cases casts : ObjectId.cast id with
    | none => exact .refused _
    | some target =>
      dsimp only
      split
      · exact .standing actor id status target casts
      · exact .refused _
  | login dto =>
    simp only [specify]
    cases registry.admits (queryKey deployment dto.subdomain) (queryKey deployment dto.email)
        dto.password with
    | false => exact .refused _
    | true => exact .admitted dto

/-- What the calls of a run draw is fresh where they use it: identities, and invite tokens
that were not issued before. The tokens a run mentions are those of a given set. -/
def Fresh (tokens : Set String) (database : Database) (registry : Credentials) :
    CredentialCall → Prop
  | .provision _ _ =>
    (∀ tenant ∈ database.tenants, tenant.id ≠ draws.tenantId) ∧
      ∀ user ∈ database.users, user.id ≠ draws.userId ∧ user.tenantId ≠ draws.tenantId.hex
  | .invite _ _ =>
    (∀ user ∈ database.users, user.id ≠ draws.userId) ∧ draws.inviteToken ∈ tokens ∧
      registry.invitations draws.inviteToken = none
  | .acceptInvite _ dto => dto.token ∈ tokens
  | .setStatus _ _ _ => True
  | .login _ => True

end CredentialCall

/-- The store after a call. -/
def credentialStep (deployment : AuthDeployment) (database : Database)
    (input : Draws × CredentialCall) : Database :=
  (input.2.perform deployment input.1 database).1

/-- The registry after a call. -/
def registryStep (deployment : AuthDeployment) (registry : Credentials)
    (input : Draws × CredentialCall) : Credentials :=
  (input.2.specify deployment input.1 registry).1

/-- The store that calls reach from the empty one. -/
def reached (deployment : AuthDeployment) (calls : List (Draws × CredentialCall)) : Database :=
  Runs.run (credentialStep deployment) {} calls

/-- The registry that calls reach from the empty one. -/
def registered (deployment : AuthDeployment) (calls : List (Draws × CredentialCall)) :
    Credentials :=
  Runs.run (registryStep deployment) Registry.empty calls

end CoachingApi
