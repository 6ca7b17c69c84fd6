import CoachingApi.Auth.JwtStrategies
import CoachingApi.Auth.TenantAuthService

/-!
# Tokens of one realm on the surface of the other

Four verifiers meet the tokens of both realms, under any four signing secrets. Both bearer
strategies look at the realm. The tenant's refresh looks at the tenant its token names, which
no platform token does. The platform's refresh looks at the secret only, so it takes a
tenant's token exactly when that was signed with its secret and names one of its users.
-/

namespace CoachingApi

open TenantContextStore TenantPlugin

/-- A member of the platform's staff. -/
structure PlatformUser where
  id : ObjectId
  superRole : SuperRole := .support
  deriving DecidableEq

namespace PlatformAuthService

/-- `findById` of a platform user. -/
def findById (text : String) (platformUsers : List PlatformUser) :
    Except Thrown (Option PlatformUser) :=
  match castId "PlatformUser" text with
  | .error thrown => .error thrown
  | .ok id => .ok (Records.lookup PlatformUser.id id platformUsers)

/-- `refresh`: the realm of the token is not looked at. -/
def refresh (deployment : RealmDeployment) (now : Int) (dto : RefreshDto)
    (platformUsers : List PlatformUser) : Except Thrown AuthTokens :=
  match dto.refreshToken.bind (TokenService.verifyPlatformRefresh deployment now) with
  | none => .error (.unauthorized "Invalid refresh token")
  | some claims =>
    match findById claims.sub platformUsers with
    | .error thrown => .error thrown
    | .ok none => .error (.unauthorized "Platform user no longer exists")
    | .ok (some user) =>
      .ok (TokenService.issuePlatformTokens deployment now
        { platformUserId := user.id.hex, superRole := user.superRole })

/-- A refresh is refused exactly when its token is not of the refresh secret, does not live,
or names no platform user. -/
theorem refresh_refused_iff (deployment : RealmDeployment) (now : Int) (token : Jwt)
    (platformUsers : List PlatformUser) :
    (∀ tokens, refresh deployment now { refreshToken := some token } platformUsers ≠ .ok tokens) ↔
      ¬ (token.secret = deployment.platformJwt.refreshSecret ∧
        deployment.lives token.issuedAt token.expiresIn now = true ∧
        ∃ user ∈ platformUsers, ObjectId.cast token.payload.sub = some user.id) := by
  unfold refresh
  simp only [Option.bind_some, TokenService.verifyPlatformRefresh]
  by_cases verified : token.secret = deployment.platformJwt.refreshSecret ∧
      deployment.lives token.issuedAt token.expiresIn now = true
  · obtain ⟨signed, lives⟩ := verified
    simp only [if_pos (And.intro signed lives), findById, castId]
    cases casts : ObjectId.cast token.payload.sub with
    | none => simp
    | some id =>
      simp only
      cases found : Records.lookup PlatformUser.id id platformUsers with
      | none =>
        have missed := List.find?_eq_none.mp found
        simp only [ne_eq, reduceCtorEq, not_false_eq_true, implies_true, true_iff, not_and]
        rintro _ _ ⟨user, stored, same⟩
        exact missed user stored (decide_eq_true (Option.some.inj same).symm)
      | some user =>
        obtain ⟨stored, same⟩ := Records.lookup_some found
        constructor
        · intro refused
          exact False.elim (refused _ rfl)
        · intro unmet
          exact False.elim (unmet ⟨signed, lives, user, stored, by rw [same]⟩)
  · rw [if_neg verified]
    constructor
    · rintro _ ⟨signed, lives, _⟩
      exact verified ⟨signed, lives⟩
    · intro _ tokens
      simp

end PlatformAuthService

namespace RealmSeparation

section Realms

variable (deployment : RealmDeployment) (database : Database) (platformUsers : List PlatformUser)
  (issuedAt now : Int) (tenantParams : TenantTokenParams) (platformParams : PlatformTokenParams)

/-- The tenant's tokens are accepted by neither verifier of the platform. -/
def TenantTokensRejected : Prop :=
  ∀ token ∈ (TokenService.issueTenantTokens deployment.toAuthDeployment issuedAt tenantParams).all,
    (∀ principal, PlatformJwtStrategy.authenticate deployment now token ≠ .ok principal) ∧
      ∀ tokens, PlatformAuthService.refresh deployment now { refreshToken := some token }
        platformUsers ≠ .ok tokens

/-- The platform's tokens are accepted by neither verifier of the tenant. -/
def PlatformTokensRejected : Prop :=
  ∀ token ∈ (TokenService.issuePlatformTokens deployment issuedAt platformParams).all,
    (∀ principal, TenantJwtStrategy.authenticate deployment.toAuthDeployment now token ≠
        .ok principal) ∧
      ∀ tokens, TenantAuthService.refresh deployment.toAuthDeployment now
        { refreshToken := some token } database ≠ .ok tokens

/-- One of the tenant's secrets is the platform's refresh secret, and a token of it lives. -/
def SharedSecret : Prop :=
  (deployment.tenantJwt.accessSecret = deployment.platformJwt.refreshSecret ∧
    deployment.lives issuedAt
      (tenantParams.accessExpires.getD deployment.tenantJwt.accessExpires) now = true) ∨
  (deployment.tenantJwt.refreshSecret = deployment.platformJwt.refreshSecret ∧
    deployment.lives issuedAt deployment.tenantJwt.refreshExpires now = true)

variable {deployment database platformUsers issuedAt now tenantParams platformParams}

/-- Every token that is issued to a tenant's user is of the tenant realm. -/
theorem issued_tenant_realm {token : Jwt}
    (issued : token ∈ (TokenService.issueTenantTokens deployment.toAuthDeployment issuedAt
      tenantParams).all) : token.payload.realm = .tenant ∧ token.payload.sub = tenantParams.userId := by
  simp only [AuthTokens.all, TokenService.issueTenantTokens, Option.toList_some, List.mem_cons,
    List.not_mem_nil, or_false] at issued
  rcases issued with rfl | rfl
  · exact ⟨rfl, rfl⟩
  · exact ⟨rfl, rfl⟩

/-- Every token that is issued to a platform user is of the platform realm and names no
tenant. -/
theorem issued_platform_realm {token : Jwt}
    (issued : token ∈ (TokenService.issuePlatformTokens deployment issuedAt platformParams).all) :
    token.payload.realm = .platform ∧ token.payload.tenantId = none := by
  simp only [AuthTokens.all, TokenService.issuePlatformTokens, Option.toList_some, List.mem_cons,
    List.not_mem_nil, or_false] at issued
  rcases issued with rfl | rfl
  · exact ⟨rfl, rfl⟩
  · exact ⟨rfl, rfl⟩

/-- A refresh by a token that names no tenant is refused: the read of its user has no tenant
to be scoped by. -/
theorem refresh_unnamed {deployment : AuthDeployment} {now : Int} {token : Jwt}
    (unnamed : token.payload.tenantId = none) (database : Database) (tokens : AuthTokens) :
    TenantAuthService.refresh deployment now { refreshToken := some token } database ≠
      .ok tokens := by
  intro answered
  obtain ⟨claims, tenantId, _, _, verified, claimed, _⟩ := TenantAuthService.refresh_ok.mp answered
  simp only [Option.bind_some, TokenService.verifyTenantRefresh] at verified
  split at verified
  · obtain rfl := Option.some.inj verified
    rw [unnamed] at claimed
    cases claimed
  · cases verified

variable (deployment database issuedAt now platformParams) in
/-- The tenant's verifiers reject every platform token. -/
theorem platform_tokens_rejected :
    PlatformTokensRejected deployment database issuedAt now platformParams := by
  intro token issued
  obtain ⟨realm, unnamed⟩ := issued_platform_realm issued
  refine ⟨?_, fun tokens => refresh_unnamed unnamed database tokens⟩
  intro principal accepted
  obtain ⟨_, _, tenantRealm, _⟩ := TenantJwtStrategy.authenticate_ok.mp accepted
  rw [realm] at tenantRealm
  cases tenantRealm

/-- The platform's bearer strategy rejects every tenant token. -/
theorem tenant_bearer_rejected {token : Jwt}
    (issued : token ∈ (TokenService.issueTenantTokens deployment.toAuthDeployment issuedAt
      tenantParams).all) (principal : PlatformPrincipal) :
    PlatformJwtStrategy.authenticate deployment now token ≠ .ok principal := by
  intro accepted
  have realm := PlatformJwtStrategy.authenticate_realm accepted
  rw [(issued_tenant_realm issued).1] at realm
  cases realm

/-- Some tenant token is of the platform's refresh secret and lives exactly when a secret is
shared. -/
theorem shared_secret_iff :
    SharedSecret deployment issuedAt now tenantParams ↔
      ∃ token ∈ (TokenService.issueTenantTokens deployment.toAuthDeployment issuedAt
          tenantParams).all,
        token.secret = deployment.platformJwt.refreshSecret ∧
          deployment.lives token.issuedAt token.expiresIn now = true := by
  simp [SharedSecret, AuthTokens.all, TokenService.issueTenantTokens]

end Realms

/-- Under any secrets, stores and parameters, the tokens of each realm are rejected by the
verifiers of the other, except that the platform's refresh takes a tenant token: exactly when
a tenant secret is its own, the token lives, and it names a platform user.

Proof: the bearer strategies find the other realm, and the tenant's refresh no tenant. The
platform's refresh takes a token of its secret whose subject is one of its users. -/
theorem realms_separated_iff (deployment : RealmDeployment) (database : Database)
    (platformUsers : List PlatformUser) (issuedAt now : Int) (tenantParams : TenantTokenParams)
    (platformParams : PlatformTokenParams) :
    (TenantTokensRejected deployment platformUsers issuedAt now tenantParams ∧
        PlatformTokensRejected deployment database issuedAt now platformParams ↔
      ¬ (SharedSecret deployment issuedAt now tenantParams ∧
        ∃ user ∈ platformUsers, ObjectId.cast tenantParams.userId = some user.id)) ∧
    PlatformTokensRejected deployment database issuedAt now platformParams ∧
    ∀ token ∈ (TokenService.issueTenantTokens deployment.toAuthDeployment issuedAt
        tenantParams).all, ∀ principal,
      PlatformJwtStrategy.authenticate deployment now token ≠ .ok principal := by
  have platform := platform_tokens_rejected deployment database issuedAt now platformParams
  refine ⟨?_, platform, fun token issued principal => tenant_bearer_rejected issued principal⟩
  rw [shared_secret_iff]
  constructor
  · rintro ⟨rejected, _⟩ ⟨⟨token, issued, signed, lives⟩, user, stored, casts⟩
    apply (PlatformAuthService.refresh_refused_iff deployment now token platformUsers).mp
      (rejected token issued).2
    exact ⟨signed, lives, user, stored, (issued_tenant_realm issued).2 ▸ casts⟩
  · intro apart
    refine ⟨fun token issued => ⟨tenant_bearer_rejected issued, ?_⟩, platform⟩
    apply (PlatformAuthService.refresh_refused_iff deployment now token platformUsers).mpr
    rintro ⟨signed, lives, user, stored, casts⟩
    exact apart ⟨⟨token, issued, signed, lives⟩, user, stored, (issued_tenant_realm issued).2 ▸ casts⟩

/-- A deployment whose refresh tokens are signed with one secret in both realms. -/
def oneRefreshSecret : RealmDeployment :=
  { AuthDeployment.marking with
    platformJwt :=
      { accessSecret := "platform-access", accessExpires := "15m", refreshSecret := "refresh",
        refreshExpires := "7d" } }

/-- A tenant's user, with the identity of a platform user. -/
def memberParams : TenantTokenParams :=
  { userId := "111111111111111111111111", tenantId := "aaaaaaaaaaaaaaaaaaaaaaaa", role := .student }

/-- The refresh token of a tenant's student is taken for one of the platform's owner. -/
theorem tenant_refresh_taken :
    PlatformAuthService.refresh oneRefreshSecret 1
        { refreshToken :=
            (TokenService.issueTenantTokens AuthDeployment.marking 0 memberParams).refreshToken }
        [{ id := .repeated '1', superRole := .owner }] =
      .ok (TokenService.issuePlatformTokens oneRefreshSecret 1
        { platformUserId := "111111111111111111111111", superRole := .owner }) ∧
    ¬ TenantTokensRejected oneRefreshSecret [{ id := .repeated '1', superRole := .owner }] 0 1
      memberParams := by
  have taken : PlatformAuthService.refresh oneRefreshSecret 1
      { refreshToken :=
          (TokenService.issueTenantTokens AuthDeployment.marking 0 memberParams).refreshToken }
      [{ id := .repeated '1', superRole := .owner }] =
      .ok (TokenService.issuePlatformTokens oneRefreshSecret 1
        { platformUserId := "111111111111111111111111", superRole := .owner }) := by
    decide +kernel
  refine ⟨taken, fun rejected => ?_⟩
  exact (rejected _ (List.mem_cons_of_mem _ (List.mem_singleton_self _))).2 _ taken

end RealmSeparation

end CoachingApi
