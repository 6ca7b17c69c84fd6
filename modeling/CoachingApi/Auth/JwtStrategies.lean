import CoachingApi.Auth.TokenService

/-!
# The bearer strategies of both realms

The token library verifies a bearer token with the realm's access secret and its lifetime.
What the strategy then makes of the payload is the realm's own: both look at the realm, and
the tenant's at the tenant as well. The tenant's guard then looks at the role.
-/

namespace CoachingApi

open TenantPlugin

/-- Who a tenant's request comes from. -/
structure TenantPrincipal where
  userId : String
  tenantId : String
  role : Option UserRole
  impersonatedBy : Option String
  deriving DecidableEq

/-- Who a platform request comes from. -/
structure PlatformPrincipal where
  platformUserId : String
  superRole : Option SuperRole
  deriving DecidableEq

/-- The token library's part of a strategy: the payload of a bearer token of a secret that
still lives. -/
def verifyBearer (deployment : AuthDeployment) (secretOrKey : String) (now : Int) (token : Jwt) :
    Except Thrown JwtPayload :=
  if token.secret = secretOrKey ∧ deployment.lives token.issuedAt token.expiresIn now = true then
    .ok token.payload
  else .error (.unauthorized "Unauthorized")

namespace TenantJwtStrategy

/-- `validate`. -/
def validate (payload : JwtPayload) : Except Thrown TenantPrincipal :=
  match payload.realm, present payload.tenantId with
  | .tenant, some tenantId =>
    .ok { userId := payload.sub, tenantId := tenantId, role := payload.role,
          impersonatedBy := payload.impersonatedBy }
  | _, _ => .error (.unauthorized "Not a tenant-realm token")

/-- What the tenant surface takes a bearer token for. -/
def authenticate (deployment : AuthDeployment) (now : Int) (token : Jwt) :
    Except Thrown TenantPrincipal :=
  match verifyBearer deployment deployment.tenantJwt.accessSecret now token with
  | .error thrown => .error thrown
  | .ok payload => validate payload

/-- A bearer token is accepted when it is of the access secret, lives, is of the tenant realm
and names a tenant. -/
theorem authenticate_ok {deployment : AuthDeployment} {now : Int} {token : Jwt}
    {principal : TenantPrincipal} :
    authenticate deployment now token = .ok principal ↔
      token.secret = deployment.tenantJwt.accessSecret ∧
        deployment.lives token.issuedAt token.expiresIn now = true ∧
        token.payload.realm = .tenant ∧ present token.payload.tenantId = some principal.tenantId ∧
        principal.userId = token.payload.sub ∧ principal.role = token.payload.role ∧
        principal.impersonatedBy = token.payload.impersonatedBy := by
  obtain ⟨userId, tenantId, role, impersonatedBy⟩ := principal
  unfold authenticate verifyBearer
  by_cases verified : token.secret = deployment.tenantJwt.accessSecret ∧
      deployment.lives token.issuedAt token.expiresIn now = true
  · rw [if_pos verified]
    unfold validate
    obtain ⟨signed, lives⟩ := verified
    cases realm : token.payload.realm with
    | platform => simp [realm]
    | tenant =>
      cases named : present token.payload.tenantId with
      | none => simp [realm, named]
      | some tenant =>
        simp only [realm, named, Except.ok.injEq, TenantPrincipal.mk.injEq, signed, lives, true_and,
          Option.some.injEq]
        constructor
        · rintro ⟨rfl, rfl, rfl, rfl⟩
          exact ⟨rfl, rfl, rfl, rfl⟩
        · rintro ⟨rfl, rfl, rfl, rfl⟩
          exact ⟨rfl, rfl, rfl, rfl⟩
  · rw [if_neg verified]
    constructor
    · intro accepted
      cases accepted
    · rintro ⟨signed, lives, _⟩
      exact False.elim (verified ⟨signed, lives⟩)

end TenantJwtStrategy

namespace TenantAuthGuard

/-- `handleRequest`: what the strategy answered, on a route that requires roles. -/
def handleRequest (requiredRoles : List UserRole) (user : Except Thrown TenantPrincipal) :
    Except Thrown TenantPrincipal :=
  match user with
  | .error _ => .error (.unauthorized "Invalid or missing tenant token")
  | .ok principal =>
    if requiredRoles ≠ [] ∧ principal.role.any (fun role => requiredRoles.contains role) = false then
      .error (.forbidden "Insufficient role for this resource")
    else .ok principal

/-- `canActivate` of a route that is not public. -/
def canActivate (deployment : AuthDeployment) (now : Int) (requiredRoles : List UserRole)
    (bearer : Option Jwt) : Except Thrown TenantPrincipal :=
  handleRequest requiredRoles
    (match bearer with
    | none => .error (.unauthorized "No auth token")
    | some token => TenantJwtStrategy.authenticate deployment now token)

end TenantAuthGuard

namespace PlatformJwtStrategy

/-- `validate`. -/
def validate (payload : JwtPayload) : Except Thrown PlatformPrincipal :=
  match payload.realm with
  | .platform => .ok { platformUserId := payload.sub, superRole := payload.superRole }
  | .tenant => .error (.unauthorized "Not a platform-realm token")

/-- What the platform surface takes a bearer token for. -/
def authenticate (deployment : RealmDeployment) (now : Int) (token : Jwt) :
    Except Thrown PlatformPrincipal :=
  match verifyBearer deployment.toAuthDeployment deployment.platformJwt.accessSecret now token with
  | .error thrown => .error thrown
  | .ok payload => validate payload

/-- A bearer token that is accepted is of the platform realm. -/
theorem authenticate_realm {deployment : RealmDeployment} {now : Int} {token : Jwt}
    {principal : PlatformPrincipal} (accepted : authenticate deployment now token = .ok principal) :
    token.payload.realm = .platform := by
  unfold authenticate verifyBearer at accepted
  split at accepted
  · cases accepted
  · rename_i payload verified
    split at verified
    · obtain rfl := Except.ok.inj verified
      unfold validate at accepted
      cases realm : token.payload.realm with
      | platform => rfl
      | tenant => simp [realm] at accepted
    · cases verified

end PlatformJwtStrategy

end CoachingApi
