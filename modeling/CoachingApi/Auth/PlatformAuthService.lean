import CoachingApi.Auth.JwtStrategies
import CoachingApi.Schemas.Platform

/-!
# Sessions of the platform's staff

A login compares the password with the one hash of the account under its email, and grants
tokens in the role that the account has. The second factor is not looked at. The guard takes an
access token of the platform for who it names, in the role that it carries, and refuses a role
that its route does not list.
-/

namespace CoachingApi

open TenantPlugin

/-- The body of a login; the code of a second factor is read by nothing. -/
structure PlatformLoginDto where
  email : String
  password : String

namespace PlatformAuthService

/-- The account under an email. -/
def findByEmail (deployment : RealmDeployment) (email : String) (staff : List StaffAccount) :
    Option StaffAccount :=
  Records.lookup StaffAccount.email
    (queryKey deployment.toAuthDeployment email) staff

/-- `login`. -/
def login (deployment : RealmDeployment) (now : Int) (dto : PlatformLoginDto)
    (staff : List StaffAccount) : Except Thrown AuthTokens :=
  match findByEmail deployment dto.email staff with
  | none => .error (.unauthorized "Invalid credentials")
  | some user =>
    match deployment.passwords.verify user.passwordHash dto.password with
    | .error thrown => .error thrown
    | .ok false => .error (.unauthorized "Invalid credentials")
    | .ok true =>
      .ok (TokenService.issuePlatformTokens deployment now
        { platformUserId := user.id.hex, superRole := user.superRole,
          twoFactor := some (present user.twoFactorSecret).isSome })

end PlatformAuthService

namespace PlatformJwtStrategy

/-- A bearer token is accepted when it is of the platform's access secret, lives and is of the
platform realm. -/
theorem authenticate_ok {deployment : RealmDeployment} {now : Int} {token : Jwt}
    {principal : PlatformPrincipal} :
    authenticate deployment now token = .ok principal ↔
      token.secret = deployment.platformJwt.accessSecret ∧
        deployment.lives token.issuedAt token.expiresIn now = true ∧
        token.payload.realm = .platform ∧ principal.platformUserId = token.payload.sub ∧
        principal.superRole = token.payload.superRole := by
  obtain ⟨platformUserId, superRole⟩ := principal
  unfold authenticate verifyBearer
  by_cases verified : token.secret = deployment.platformJwt.accessSecret ∧
      deployment.lives token.issuedAt token.expiresIn now = true
  · rw [if_pos verified]
    unfold validate
    obtain ⟨signed, lives⟩ := verified
    cases realm : token.payload.realm with
    | tenant => simp [realm]
    | platform =>
      simp only [realm, Except.ok.injEq, PlatformPrincipal.mk.injEq, signed, lives, true_and]
      constructor
      · rintro ⟨rfl, rfl⟩
        exact ⟨rfl, rfl⟩
      · rintro ⟨rfl, rfl⟩
        exact ⟨rfl, rfl⟩
  · rw [if_neg verified]
    constructor
    · intro accepted
      cases accepted
    · rintro ⟨signed, lives, _⟩
      exact False.elim (verified ⟨signed, lives⟩)

end PlatformJwtStrategy

namespace PlatformAuthGuard

/-- `handleRequest`: what the strategy answered, on a route that requires roles. -/
def handleRequest (requiredRoles : List SuperRole) (user : Except Thrown PlatformPrincipal) :
    Except Thrown PlatformPrincipal :=
  match user with
  | .error _ => .error (.unauthorized "Invalid or missing platform token")
  | .ok principal =>
    if requiredRoles ≠ [] ∧
        principal.superRole.any (fun role => requiredRoles.contains role) = false then
      .error (.forbidden "Insufficient super role for this resource")
    else .ok principal

/-- `canActivate` of a route that is not public. -/
def canActivate (deployment : RealmDeployment) (now : Int) (requiredRoles : List SuperRole)
    (bearer : Option Jwt) : Except Thrown PlatformPrincipal :=
  handleRequest requiredRoles
    (match bearer with
    | none => .error (.unauthorized "No auth token")
    | some token => PlatformJwtStrategy.authenticate deployment now token)

/-- An admitted request has the principal of a token that the strategy accepts, in a role that its
route lists, if it lists any. -/
theorem can_activate_ok {deployment : RealmDeployment} {now : Int} {requiredRoles : List SuperRole}
    {bearer : Option Jwt} {principal : PlatformPrincipal} :
    canActivate deployment now requiredRoles bearer = .ok principal ↔
      (∃ token, bearer = some token ∧
        PlatformJwtStrategy.authenticate deployment now token = .ok principal) ∧
      (requiredRoles = [] ∨ ∃ role ∈ requiredRoles, principal.superRole = some role) := by
  unfold canActivate handleRequest
  cases bearer with
  | none => simp
  | some token =>
    simp only [Option.some.injEq, exists_eq_left']
    cases accepted : PlatformJwtStrategy.authenticate deployment now token with
    | error thrown => simp
    | ok found =>
      simp only [Except.ok.injEq]
      split
      · rename_i refused
        obtain ⟨required, unmet⟩ := refused
        constructor
        · intro impossible
          cases impossible
        · rintro ⟨rfl, unguarded | ⟨role, listed, held⟩⟩
          · exact absurd unguarded required
          · simp [held, listed] at unmet
      · rename_i permitted
        rw [Except.ok.injEq]
        constructor
        · rintro rfl
          refine ⟨rfl, ?_⟩
          by_cases unguarded : requiredRoles = []
          · exact .inl unguarded
          · right
            have held : found.superRole.any (fun role => requiredRoles.contains role) = true := by
              rw [← Bool.not_eq_false]
              exact fun unmet => permitted ⟨unguarded, unmet⟩
            cases role : found.superRole with
            | none =>
              rw [role] at held
              cases held
            | some own =>
              rw [role] at held
              exact ⟨own, List.contains_iff_mem.mp held, rfl⟩
        · exact fun same => same.1

end PlatformAuthGuard

end CoachingApi
