import CoachingApi.Auth.JwtStrategies
import CoachingApi.Auth.TenantAuthService
import CoachingApi.Library.Runs
import CoachingApi.Support.SupportService
import CoachingApi.Tenants.TenantsService

/-!
# What an impersonating client comes to hold

A client of the tenant surface starts with nothing and impersonates. It keeps the tokens and
the invite tokens it is answered and the passwords it sets, and presents them to any route as
often as it likes; no signature is forged and no secret guessed. An impersonation hands out
one stamped token of a short life, which a refresh does not take. An invitation is taken from
any administrator's token: who makes one under the stamp and accepts it holds the session of
the invited user, which carries no stamp and lasts.
-/

namespace CoachingApi

open TenantAuthService SupportService

/-- A route behind the tenant's guard that answers no token: the roles it requires, and what
it does to the store for its caller. -/
structure GuardedRoute where
  requiredRoles : List UserRole
  handle : TenantPrincipal → Database → Database
  keeps : ∀ principal database, Kept database → Kept (handle principal database)

namespace Impersonation

/-- What a client holds, and when it last impersonated. -/
structure Holdings where
  tokens : List Jwt := []
  inviteTokens : List String := []
  passwords : List String := []
  impersonatedAt : Option Int := none

namespace Holdings

variable (client : Holdings)

/-- The tokens of an answer are kept. -/
def granted : Except Thrown AuthTokens → Holdings
  | .error _ => client
  | .ok tokens => { client with tokens := tokens.all ++ client.tokens }

/-- The tokens of an impersonation are kept, and its time. -/
def impersonated (now : Int) : Except Thrown AuthTokens → Holdings
  | .error _ => client
  | .ok tokens =>
    { client with tokens := tokens.all ++ client.tokens, impersonatedAt := some now }

/-- The raw token of an invitation is kept. -/
def invited : Except Thrown InviteResult → Holdings
  | .error _ => client
  | .ok result => { client with inviteTokens := result.inviteToken :: client.inviteTokens }

/-- The tokens of an acceptance are kept, and the password that it set. -/
def accepted (password : String) : Except Thrown AuthTokens → Holdings
  | .error _ => client
  | .ok tokens =>
    { client with
      tokens := tokens.all ++ client.tokens
      passwords := password :: client.passwords }

end Holdings

/-- The store, and what the client holds. -/
structure Surface where
  database : Database
  client : Holdings := {}

/-- A call of the client. Impersonations are made by a platform user, under its identity. -/
inductive ClientCall where
  | impersonate (actor : ObjectId) (tenantId : String)
  | refresh (dto : RefreshDto)
  | invite (bearer : Option Jwt) (dto : InviteUserDto)
  | acceptInvite (subdomain : String) (dto : AcceptInviteDto)
  | login (dto : TenantLoginDto)
  | guarded (bearer : Option Jwt) (route : GuardedRoute)

section Steps

variable (deployment : AuthDeployment)

/-- Make a call. A guarded route runs for who passes the guard, in that principal's tenant. -/
def step (surface : Surface) (input : Draws × ClientCall) : Surface :=
  let ⟨draws, call⟩ := input
  let ⟨database, client⟩ := surface
  match call with
  | .impersonate actor tenantId =>
    let outcome := SupportService.impersonate deployment draws actor.hex tenantId database
    { database := outcome.1, client := client.impersonated draws.now outcome.2 }
  | .refresh dto =>
    { database, client := client.granted (TenantAuthService.refresh deployment draws.now dto database) }
  | .invite bearer dto =>
    match TenantAuthGuard.canActivate deployment draws.now [.admin] bearer with
    | .error _ => { database, client }
    | .ok principal =>
      let outcome := TenantAuthService.invite deployment (contextOf (some principal.tenantId)) draws
        dto database
      { database := outcome.1, client := client.invited outcome.2 }
  | .acceptInvite subdomain dto =>
    let outcome := TenantAuthService.acceptInvite deployment draws subdomain dto database
    { database := outcome.1, client := client.accepted dto.password outcome.2 }
  | .login dto =>
    { database, client := client.granted (TenantAuthService.login deployment draws.now dto database) }
  | .guarded bearer route =>
    match TenantAuthGuard.canActivate deployment draws.now route.requiredRoles bearer with
    | .error _ => { database, client }
    | .ok principal => { database := route.handle principal database, client }

/-- A token of one of the realm's secrets is one that the client was answered. -/
def Unforged (client : Holdings) (token : Jwt) : Prop :=
  token.secret = deployment.tenantJwt.accessSecret ∨
    token.secret = deployment.tenantJwt.refreshSecret → token ∈ client.tokens

/-- What a client can do: its tokens are not forged, a password that a stored hash verifies is
one it set, an invite token that is stored is one it was answered, and the clock does not go
back between impersonations. -/
def WithinMeans (surface : Surface) (input : Draws × ClientCall) : Prop :=
  match input.2 with
  | .impersonate _ _ => ∀ last, surface.client.impersonatedAt = some last → last ≤ input.1.now
  | .refresh dto => ∀ token, dto.refreshToken = some token → Unforged deployment surface.client token
  | .invite bearer _ => ∀ token, bearer = some token → Unforged deployment surface.client token
  | .guarded bearer _ => ∀ token, bearer = some token → Unforged deployment surface.client token
  | .acceptInvite _ dto =>
    ∀ user ∈ surface.database.users, user.inviteTokenHash = some (deployment.sha256 dto.token) →
      dto.token ∈ surface.client.inviteTokens
  | .login dto =>
    ∀ user ∈ surface.database.users, ∀ passwordHash, user.passwordHash = some passwordHash →
      deployment.passwords.verify passwordHash dto.password = .ok true →
      dto.password ∈ surface.client.passwords

/-- The step redeems an invitation. -/
def Redeems (surface : Surface) (input : Draws × ClientCall) : Prop :=
  match input.2 with
  | .acceptInvite subdomain dto =>
    Redeemable deployment input.1.now subdomain dto surface.database
  | _ => False

/-- The lifetime of an impersonation. -/
def impersonationTtl : String := deployment.impersonationExpires.getD "10m"

/-- Every tenant token that the client holds is stamped, and at no time lives longer than one
of the last impersonation. -/
def Confined (client : Holdings) : Prop :=
  ∀ token ∈ client.tokens, token.payload.realm = .tenant →
    token.payload.impersonatedBy.isSome = true ∧
      ∃ last, client.impersonatedAt = some last ∧
        ∀ now, deployment.lives token.issuedAt token.expiresIn now = true →
          deployment.lives last (impersonationTtl deployment) now = true

/-- In every state that the calls reach, the client's tokens are confined. -/
def NeverStanding (database : Database) (calls : List (Draws × ClientCall)) : Prop :=
  ∀ reached, reached <+: calls →
    Confined deployment (Runs.run (step deployment) { database := database } reached).client

/-- What the client's steps keep while none redeems: its tokens are access tokens of
impersonations up to the last one, and no stored password is its own. -/
structure Impersonating (client : Holdings) : Prop where
  tokens : ∀ token ∈ client.tokens, token.secret = deployment.tenantJwt.accessSecret ∧
    token.payload.impersonatedBy.isSome = true ∧ token.expiresIn = impersonationTtl deployment ∧
    ∃ last, client.impersonatedAt = some last ∧ token.issuedAt ≤ last
  passwords : client.passwords = []

variable {deployment}

/-- Every call keeps the indexes and validators. -/
theorem step_kept {surface : Surface} (kept : Kept surface.database)
    (input : Draws × ClientCall) : Kept (step deployment surface input).database := by
  obtain ⟨draws, call⟩ := input
  cases call with
  | impersonate actor tenantId =>
    obtain ⟨tenants, users⟩ :=
      impersonate_keeps deployment draws actor.hex tenantId surface.database
    exact kept.same tenants users
  | refresh dto => exact kept
  | invite bearer dto =>
    simp only [step]
    cases TenantAuthGuard.canActivate deployment draws.now [.admin] bearer with
    | error thrown => exact kept
    | ok principal => exact invite_kept kept deployment _ draws dto
  | acceptInvite subdomain dto => exact accept_invite_kept kept deployment draws subdomain dto
  | login dto => exact kept
  | guarded bearer route =>
    simp only [step]
    cases TenantAuthGuard.canActivate deployment draws.now route.requiredRoles bearer with
    | error thrown => exact kept
    | ok principal => exact route.keeps principal surface.database kept

/-- An impersonation answers one access token, stamped and of an impersonation's lifetime. -/
theorem impersonation_token {draws : Draws} {actor : ObjectId} {tenantId : String} {admin : User}
    {token : Jwt}
    (granted : token ∈ (impersonationTokens deployment draws actor.hex tenantId admin).all) :
    token.secret = deployment.tenantJwt.accessSecret ∧
      token.payload.impersonatedBy.isSome = true ∧ token.expiresIn = impersonationTtl deployment ∧
      token.issuedAt = draws.now := by
  simp only [AuthTokens.all, impersonationTokens, Option.toList_none, List.mem_singleton] at granted
  subst granted
  refine ⟨rfl, ?_, rfl, rfl⟩
  simp [TokenService.issueTenantTokens, TenantPlugin.present_nonempty actor.hex_nonempty]

/-- No token that the client holds passes as a refresh token. -/
theorem refresh_refused
    (distinct : deployment.tenantJwt.accessSecret ≠ deployment.tenantJwt.refreshSecret)
    {client : Holdings} (holding : Impersonating deployment client) {now : Int} {dto : RefreshDto}
    (unforged : ∀ token, dto.refreshToken = some token → Unforged deployment client token)
    (database : Database) (tokens : AuthTokens) :
    TenantAuthService.refresh deployment now dto database ≠ .ok tokens := by
  intro answered
  obtain ⟨claims, _, _, _, verified, _⟩ := refresh_ok.mp answered
  obtain ⟨token, presented, taken⟩ := Option.bind_eq_some_iff.mp verified
  have signed : token.secret = deployment.tenantJwt.refreshSecret := by
    unfold TokenService.verifyTenantRefresh at taken
    split at taken
    · rename_i verifies
      exact verifies.1
    · cases taken
  have held := unforged token presented (.inr signed)
  exact distinct ((holding.tokens token held).1.symm.trans signed)

/-- Without a password of its own the client is not logged in. -/
theorem login_refused {client : Holdings} (unset : client.passwords = []) {now : Int}
    {dto : TenantLoginDto} {database : Database}
    (unguessed : ∀ user ∈ database.users, ∀ passwordHash, user.passwordHash = some passwordHash →
      deployment.passwords.verify passwordHash dto.password = .ok true →
      dto.password ∈ client.passwords) (tokens : AuthTokens) :
    TenantAuthService.login deployment now dto database ≠ .ok tokens := by
  intro answered
  obtain ⟨_, user, passwordHash, _, _, found, hashed, _, verified, _⟩ := login_ok.mp answered
  have known := unguessed user (first_of_some found).1 passwordHash
    (TenantPlugin.present_some hashed).1 verified
  rw [unset] at known
  cases known

/-- A call within the client's means that redeems no invitation leaves it with tokens of
impersonations only.

Proof: the cases are the calls. An impersonation is the latest; no refresh, acceptance or login
is answered; an invitation and a guarded route answer no token. -/
theorem impersonating_step
    (distinct : deployment.tenantJwt.accessSecret ≠ deployment.tenantJwt.refreshSecret)
    {surface : Surface} {input : Draws × ClientCall}
    (holding : Impersonating deployment surface.client)
    (means : WithinMeans deployment surface input) (unredeemed : ¬ Redeems deployment surface input) :
    Impersonating deployment (step deployment surface input).client := by
  obtain ⟨draws, call⟩ := input
  cases call with
  | impersonate actor tenantId =>
    simp only [step]
    cases answered : (SupportService.impersonate deployment draws actor.hex tenantId
        surface.database).2 with
    | error thrown => exact holding
    | ok tokens =>
      obtain ⟨_, admin, _, _, _, rfl⟩ := impersonate_ok.mp answered
      refine ⟨fun token member => ?_, holding.passwords⟩
      rcases List.mem_append.mp member with granted | earlier
      · obtain ⟨signed, stamped, lifetime, issued⟩ := impersonation_token granted
        exact ⟨signed, stamped, lifetime, draws.now, rfl, issued.le⟩
      · obtain ⟨signed, stamped, lifetime, last, impersonated, before⟩ :=
          holding.tokens token earlier
        exact ⟨signed, stamped, lifetime, draws.now, rfl,
          before.trans (means last impersonated)⟩
  | refresh dto =>
    simp only [step]
    cases answered : TenantAuthService.refresh deployment draws.now dto surface.database with
    | error thrown => exact holding
    | ok tokens => exact False.elim (refresh_refused distinct holding means _ tokens answered)
  | invite bearer dto =>
    simp only [step]
    cases TenantAuthGuard.canActivate deployment draws.now [.admin] bearer with
    | error thrown => exact holding
    | ok principal =>
      dsimp only
      cases (TenantAuthService.invite deployment (contextOf (some principal.tenantId)) draws dto
          surface.database).2 with
      | error thrown => exact holding
      | ok result => exact ⟨holding.tokens, holding.passwords⟩
  | acceptInvite subdomain dto =>
    obtain ⟨thrown, refused⟩ := accept_invite_unredeemed unredeemed
    simp only [step, refused]
    exact holding
  | login dto =>
    simp only [step]
    cases answered : TenantAuthService.login deployment draws.now dto surface.database with
    | error thrown => exact holding
    | ok tokens => exact False.elim (login_refused holding.passwords means tokens answered)
  | guarded bearer route =>
    simp only [step]
    cases TenantAuthGuard.canActivate deployment draws.now route.requiredRoles bearer with
    | error thrown => exact holding
    | ok principal => exact holding

/-- A later token lives no shorter than an earlier one of the same lifetime. -/
theorem Impersonating.confined {client : Holdings} (holding : Impersonating deployment client)
    (ages : ∀ issuedAt reissuedAt expiresIn now, issuedAt ≤ reissuedAt →
      deployment.lives issuedAt expiresIn now = true →
      deployment.lives reissuedAt expiresIn now = true) : Confined deployment client := by
  intro token held _
  obtain ⟨_, stamped, lifetime, last, impersonated, before⟩ := holding.tokens token held
  refine ⟨stamped, last, impersonated, fun now lives => ?_⟩
  rw [lifetime] at lives
  exact ages token.issuedAt last _ now before lives

/-- A client that holds a tenant token without the stamp is not confined. -/
theorem unstamped_unconfined {client : Holdings} {token : Jwt} (held : token ∈ client.tokens)
    (realm : token.payload.realm = .tenant) (unstamped : token.payload.impersonatedBy = none) :
    ¬ Confined deployment client := by
  intro confined
  have stamped := (confined token held realm).1
  rw [unstamped] at stamped
  cases stamped

/-- With the indexes and validators kept, a client that redeems an invitation is not confined:
the tokens of the invited user carry no stamp. -/
theorem redeeming_unconfined {surface : Surface} {input : Draws × ClientCall}
    (kept : Kept surface.database) (redeems : Redeems deployment surface input) :
    ¬ Confined deployment (step deployment surface input).client := by
  obtain ⟨draws, call⟩ := input
  cases call with
  | acceptInvite subdomain dto =>
    obtain ⟨tenant, user, institute, found, valid⟩ := redeems
    simp only [step, accept_invite_accepts kept institute found valid, Holdings.accepted]
    exact unstamped_unconfined List.mem_cons_self rfl rfl
  | impersonate actor tenantId => exact False.elim redeems
  | refresh dto => exact False.elim redeems
  | invite bearer dto => exact False.elim redeems
  | login dto => exact False.elim redeems
  | guarded bearer route => exact False.elim redeems

/-- Calls keep the indexes and validators. -/
theorem run_kept {surface : Surface} (kept : Kept surface.database)
    (calls : List (Draws × ClientCall)) : Kept (Runs.run (step deployment) surface calls).database :=
  Runs.run_invariant (fun reached : Surface => Kept reached.database)
    (fun _ input holds => step_kept holds input) kept calls

end Steps

/-- Whatever calls a client makes within its means, from an impersonation on: in every state
reached its tenant tokens are stamped and live no longer than its last impersonation, when no
call redeems an invitation; and where the indexes and validators are kept, only then. Of the
four secrets only the tenant's two meet here.

Proof: calls that redeem nothing keep the tokens those of impersonations, along every prefix.
A redeemed invitation leaves the state after it unconfined, since the indexes are kept there. -/
theorem never_standing_iff (deployment : AuthDeployment)
    (distinct : deployment.tenantJwt.accessSecret ≠ deployment.tenantJwt.refreshSecret)
    (ages : ∀ issuedAt reissuedAt expiresIn now, issuedAt ≤ reissuedAt →
      deployment.lives issuedAt expiresIn now = true →
      deployment.lives reissuedAt expiresIn now = true)
    (database : Database) (calls : List (Draws × ClientCall))
    (means : Runs.Along (step deployment) (WithinMeans deployment) { database := database } calls) :
    (Runs.Along (step deployment) (fun surface input => ¬ Redeems deployment surface input)
        { database := database } calls → NeverStanding deployment database calls) ∧
    (Kept database → (NeverStanding deployment database calls ↔
      Runs.Along (step deployment) (fun surface input => ¬ Redeems deployment surface input)
        { database := database } calls)) := by
  have enough : Runs.Along (step deployment)
      (fun surface input => ¬ Redeems deployment surface input) { database := database } calls →
      NeverStanding deployment database calls := by
    rintro unredeemed reached ⟨rest, rfl⟩
    have within := ((Runs.along_append _ _ _ reached rest).mp means).1
    have unredeemed := ((Runs.along_append _ _ _ reached rest).mp unredeemed).1
    have start : Impersonating deployment ({ database := database } : Surface).client :=
      ⟨fun _ member => (List.not_mem_nil member).elim, rfl⟩
    have holding := Runs.run_preserves
      (fun surface input (holds : Impersonating deployment surface.client)
        (condition : WithinMeans deployment surface input ∧ ¬ Redeems deployment surface input) =>
        impersonating_step distinct holds condition.1 condition.2)
      start (Runs.along_both within unredeemed)
    exact holding.confined ages
  refine ⟨enough, fun kept => ⟨?_, enough⟩⟩
  intro never
  rw [Runs.along_iff]
  rintro first input rest rfl redeems
  have confined := never (first ++ [input]) ⟨rest, by simp⟩
  rw [Runs.run_append] at confined
  exact redeeming_unconfined (run_kept kept first) redeems confined

/-- What the calls of a demonstration draw. -/
def clientDraws (now : Int) (userId auditId : Char) : Draws :=
  { now := now, salt := "salt", inviteToken := "invite-token", tenantId := .repeated '1',
    userId := .repeated userId, auditId := .repeated auditId }

/-- An institute with its administrator. -/
def institute : Database :=
  (TenantsService.provision .marking "owner" (clientDraws 0 '2' 'a')
    { name := "Bright", subdomain := "bright", adminName := "Head",
      adminEmail := "head@bright.test", adminPassword := "head-password" } {}).1

/-- What an impersonation of that administrator hands out. -/
def stampedToken : Jwt :=
  { payload :=
      { realm := .tenant, sub := (ObjectId.repeated '2').hex,
        tenantId := some (ObjectId.repeated '1').hex, role := some .admin,
        impersonatedBy := some (ObjectId.repeated '9').hex }
    secret := "access", issuedAt := 1, expiresIn := "10m" }

/-- An impersonation, and an invitation under its token. -/
def inviting : List (Draws × ClientCall) :=
  [(clientDraws 1 '3' 'b', .impersonate (.repeated '9') (ObjectId.repeated '1').hex),
    (clientDraws 2 '3' 'c', .invite (some stampedToken)
      { email := "second@bright.test", name := "Second", role := .admin })]

/-- The invitation is accepted by who made it. -/
def accepting : Draws × ClientCall :=
  (clientDraws 3 '4' 'd', .acceptInvite "bright" { token := "invite-token", password := "chosen" })

/-- The provisioned store keeps the indexes and validators. -/
theorem institute_kept : Kept institute := by decide +kernel

/-- An impersonation and an invitation under its token are within the client's means. -/
theorem inviting_within_means (rest : List (Draws × ClientCall)) :
    Runs.Along (step .marking) (WithinMeans .marking) { database := institute } (inviting ++ rest) ↔
      Runs.Along (step .marking) (WithinMeans .marking)
        (Runs.run (step .marking) { database := institute } inviting) rest := by
  rw [Runs.along_append]
  refine and_iff_right ⟨?_, ?_, trivial⟩
  · intro last impersonated
    cases impersonated
  · intro token same _
    obtain rfl := Option.some.inj same
    decide +kernel

/-- The client that accepts its own invitation holds an administrator's session that is
nobody's impersonation. -/
theorem invitation_outlives_impersonation :
    Kept institute ∧
    Runs.Along (step .marking) (WithinMeans .marking) { database := institute }
      (inviting ++ [accepting]) ∧
    (Runs.run (step .marking) { database := institute } (inviting ++ [accepting])).client.tokens =
      (TokenService.issueTenantTokens .marking 3
        { userId := (ObjectId.repeated '3').hex, tenantId := (ObjectId.repeated '1').hex,
          role := .admin }).all ++ [stampedToken] ∧
    ¬ NeverStanding .marking institute (inviting ++ [accepting]) := by
  have held : (Runs.run (step .marking) { database := institute }
      (inviting ++ [accepting])).client.tokens =
      (TokenService.issueTenantTokens .marking 3
        { userId := (ObjectId.repeated '3').hex, tenantId := (ObjectId.repeated '1').hex,
          role := .admin }).all ++ [stampedToken] := by decide +kernel
  refine ⟨institute_kept, (inviting_within_means _).mpr ⟨?_, trivial⟩, held, ?_⟩
  · intro user _ _
    decide +kernel
  · intro never
    have last := never (inviting ++ [accepting]) (List.prefix_refl _)
    refine unstamped_unconfined (held ▸ List.mem_append_left _ List.mem_cons_self) ?_ ?_ last
    · rfl
    · rfl

/-- Until it accepts an invitation the client is confined; its token is no refresh token. -/
theorem inviting_never_stands :
    NeverStanding .marking institute
      (inviting ++ [(clientDraws 3 '4' 'd', .refresh { refreshToken := some stampedToken })]) := by
  have means : Runs.Along (step .marking) (WithinMeans .marking) { database := institute }
      (inviting ++ [(clientDraws 3 '4' 'd', .refresh { refreshToken := some stampedToken })]) := by
    refine (inviting_within_means _).mpr ⟨?_, trivial⟩
    intro token same _
    obtain rfl := Option.some.inj same
    decide +kernel
  apply (never_standing_iff .marking (by decide) ?_ institute _ means).1
  · exact ⟨id, id, id, trivial⟩
  · intro issuedAt reissuedAt _ now before lives
    simp only [AuthDeployment.marking, decide_eq_true_eq] at lives ⊢
    omega

end Impersonation

end CoachingApi
