import CoachingApi.Schemas.Fees

/-!
# Tokens and passwords

A signed token is the term that its signature seals: its payload, the secret it was
signed with, when, and for how long. Verification compares the secret and asks the
token library whether the token still lives. Payloads are the objects both realms
sign, with the fields one of them lacks absent. Password hashing is salted; which
hashes it refuses to verify is left to the library.
-/

namespace CoachingApi

/-- A token payload. -/
structure JwtPayload where
  realm : Realm
  sub : String
  tenantId : Option String := none
  role : Option UserRole := none
  impersonatedBy : Option String := none
  superRole : Option SuperRole := none
  twoFactor : Option Bool := none
  deriving DecidableEq

/-- A signed token. -/
structure Jwt where
  payload : JwtPayload
  secret : String
  issuedAt : Int
  expiresIn : String
  deriving DecidableEq

/-- The signing configuration of one realm. -/
structure RealmJwtConfig where
  accessSecret : String
  accessExpires : String
  refreshSecret : String
  refreshExpires : String

/-- What a session is granted; an empty refresh token is absent. -/
structure AuthTokens where
  accessToken : Jwt
  refreshToken : Option Jwt
  deriving DecidableEq

/-- The tokens of a session. -/
def AuthTokens.all (tokens : AuthTokens) : List Jwt :=
  tokens.accessToken :: tokens.refreshToken.toList

/-- Salted password hashing. A verification accepts exactly the hashed password. -/
structure PasswordService where
  hash : (salt plain : String) → String
  verify : (hash plain : String) → Except Thrown Bool
  verifies : ∀ salt plain candidate, verify (hash salt plain) candidate = .ok (decide (candidate = plain))
  nonempty : ∀ salt plain, hash salt plain ≠ ""

/-- The runtime's and the libraries' part of the auth services, and their configuration. -/
structure AuthDeployment where
  toLowerCase : Text.CaseFolding
  passwords : PasswordService
  sha256 : String → String
  /-- Whether a token of an age and a lifetime still lives, which the token library decides. -/
  lives : (issuedAt : Int) → (expiresIn : String) → (now : Int) → Bool
  tenantJwt : RealmJwtConfig
  impersonationExpires : Option String := none

/-- A deployment with the signing configuration of the platform realm. Nothing keeps the four
secrets apart. -/
structure RealmDeployment extends AuthDeployment where
  platformJwt : RealmJwtConfig

/-- What a query for a text in lower case compares with: it passes the setters too,
as the text of a stored document did. -/
def queryKey (deployment : AuthDeployment) (text : String) : String :=
  deployment.toLowerCase.canonical (deployment.toLowerCase.fold text)

/-- A password service that marks and does not salt. -/
def PasswordService.marking : PasswordService where
  hash := fun _ plain => "$argon2id$" ++ plain
  verify := fun hash plain => .ok (decide (hash = "$argon2id$" ++ plain))
  verifies := by
    intro _ plain candidate
    have same : "$argon2id$" ++ plain = "$argon2id$" ++ candidate ↔ candidate = plain := by
      rw [← String.toList_inj, String.toList_append, String.toList_append, List.append_cancel_left_eq,
        String.toList_inj, eq_comm]
    simp only [same]
  nonempty := by
    intro _ plain empty
    have letters := congrArg String.toList empty
    simp at letters

/-- A deployment in basic Latin whose hashes mark what they hash. -/
def AuthDeployment.marking : AuthDeployment where
  toLowerCase := Text.latin
  passwords := PasswordService.marking
  sha256 := fun text => "sha256:" ++ text
  lives := fun issuedAt _ now => decide (now < issuedAt + 60000)
  tenantJwt :=
    { accessSecret := "access", accessExpires := "15m", refreshSecret := "refresh",
      refreshExpires := "7d" }

/-- What a call draws: clock reading, salt, random token and generated identities. -/
structure Draws where
  now : Int
  salt : String
  inviteToken : String
  tenantId : ObjectId
  userId : ObjectId
  auditId : ObjectId

/-- The parameters of tenant tokens. -/
structure TenantTokenParams where
  userId : String
  tenantId : String
  role : UserRole
  impersonatedBy : Option String := none
  accessExpires : Option String := none

/-- The parameters of platform tokens. -/
structure PlatformTokenParams where
  platformUserId : String
  superRole : SuperRole
  twoFactor : Option Bool := none

namespace TokenService

/-- `issueTenantTokens`. -/
def issueTenantTokens (deployment : AuthDeployment) (now : Int) (params : TenantTokenParams) :
    AuthTokens :=
  { accessToken :=
      { payload :=
          { realm := .tenant, sub := params.userId, tenantId := some params.tenantId,
            role := some params.role, impersonatedBy := TenantPlugin.present params.impersonatedBy }
        secret := deployment.tenantJwt.accessSecret
        issuedAt := now
        expiresIn := params.accessExpires.getD deployment.tenantJwt.accessExpires }
    refreshToken := some
      { payload := { realm := .tenant, sub := params.userId, tenantId := some params.tenantId }
        secret := deployment.tenantJwt.refreshSecret
        issuedAt := now
        expiresIn := deployment.tenantJwt.refreshExpires } }

/-- `verifyTenantRefresh`: the payload of a token of the refresh secret that still lives. -/
def verifyTenantRefresh (deployment : AuthDeployment) (now : Int) (token : Jwt) :
    Option JwtPayload :=
  if token.secret = deployment.tenantJwt.refreshSecret ∧
      deployment.lives token.issuedAt token.expiresIn now = true then some token.payload
  else none

/-- `issuePlatformTokens`. -/
def issuePlatformTokens (deployment : RealmDeployment) (now : Int) (params : PlatformTokenParams) :
    AuthTokens :=
  { accessToken :=
      { payload :=
          { realm := .platform, sub := params.platformUserId, superRole := some params.superRole,
            twoFactor := some (params.twoFactor.getD false) }
        secret := deployment.platformJwt.accessSecret
        issuedAt := now
        expiresIn := deployment.platformJwt.accessExpires }
    refreshToken := some
      { payload := { realm := .platform, sub := params.platformUserId }
        secret := deployment.platformJwt.refreshSecret
        issuedAt := now
        expiresIn := deployment.platformJwt.refreshExpires } }

/-- `verifyPlatformRefresh`: the payload of a token of the refresh secret that still lives. -/
def verifyPlatformRefresh (deployment : RealmDeployment) (now : Int) (token : Jwt) :
    Option JwtPayload :=
  if token.secret = deployment.platformJwt.refreshSecret ∧
      deployment.lives token.issuedAt token.expiresIn now = true then some token.payload
  else none

end TokenService

end CoachingApi
