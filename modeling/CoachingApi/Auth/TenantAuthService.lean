import CoachingApi.Auth.TokenService
import CoachingApi.Common.PlatformModels
import CoachingApi.Common.TenantUpdates

/-!
# Logins, refreshes and invitations of an institute's users

The operations that a tenant's users reach. Logins, refreshes and acceptances resolve their
institute first and read users in that institute's context; an invitation and the registration
of a device token run in their caller's context.
What a call draws from outside is an input.
-/

namespace CoachingApi

open TenantContextStore TenantPlugin

/-- The body of a login. -/
structure TenantLoginDto where
  subdomain : String
  email : String
  password : String
  deriving DecidableEq

/-- The body of a refresh; what is no signed token at all is absent. -/
structure RefreshDto where
  refreshToken : Option Jwt
  deriving DecidableEq

/-- The body of an invitation. -/
structure InviteUserDto where
  email : String
  name : String
  role : UserRole
  phone : Option String := none
  deriving DecidableEq

/-- The body of an acceptance. -/
structure AcceptInviteDto where
  token : String
  password : String
  deriving DecidableEq

/-- What an invitation answers. -/
structure InviteResult where
  userId : String
  inviteToken : String
  deriving DecidableEq

namespace TenantAuthService

/-- How long an invitation lasts, in milliseconds. -/
def INVITE_LIFETIME : Int := 7 * 24 * 60 * 60 * 1000

/-- The context a callback of a tenant runs in. -/
def contextOf (tenantId : Option String) : Ambient := some { tenantId := tenantId }

/-- `findOne` of an institute by a subdomain in lower case. -/
def instituteOf (deployment : AuthDeployment) (subdomain : String) (database : Database) :
    Option Tenant :=
  Tenant.findBySubdomain deployment.toLowerCase (deployment.toLowerCase.fold subdomain)
    database.tenants

/-- `login`. -/
def login (deployment : AuthDeployment) (now : Int) (dto : TenantLoginDto) (database : Database) :
    Except Thrown AuthTokens :=
  match instituteOf deployment dto.subdomain database with
  | none => .error (.unauthorized "Invalid credentials")
  | some tenant =>
    -- Missing and suspended institutes are answered alike.
    if tenant.status = .suspended then .error (.unauthorized "Invalid credentials")
    else
      match TenantModel.findOne (contextOf (some tenant.id.hex))
          (fun user => decide (user.email = queryKey deployment dto.email)) database.users with
      | .error thrown => .error thrown
      | .ok none => .error (.unauthorized "Invalid credentials")
      | .ok (some user) =>
        match present user.passwordHash with
        | none => .error (.unauthorized "Invalid credentials")
        | some passwordHash =>
          if user.status ≠ .active then .error (.unauthorized "Invalid credentials")
          else
            match deployment.passwords.verify passwordHash dto.password with
            | .error thrown => .error thrown
            | .ok false => .error (.unauthorized "Invalid credentials")
            | .ok true =>
              .ok (TokenService.issueTenantTokens deployment now
                { userId := user.id.hex, tenantId := tenant.id.hex, role := user.role })

/-- `refresh`: the institute itself is not looked up. -/
def refresh (deployment : AuthDeployment) (now : Int) (dto : RefreshDto) (database : Database) :
    Except Thrown AuthTokens :=
  match dto.refreshToken.bind (TokenService.verifyTenantRefresh deployment now) with
  | none => .error (.unauthorized "Invalid refresh token")
  | some claims =>
    match TenantModel.findByText (contextOf claims.tenantId) claims.sub database.users with
    | .error thrown => .error thrown
    | .ok none => .error (.unauthorized "User no longer active")
    | .ok (some user) =>
      if user.status ≠ .active then .error (.unauthorized "User no longer active")
      else
        .ok (TokenService.issueTenantTokens deployment now
          { userId := user.id.hex, tenantId := claims.tenantId.getD "", role := user.role })

/-- The user an invitation creates, before its tenant is stamped. -/
def invitedUser (deployment : AuthDeployment) (draws : Draws) (dto : InviteUserDto) : User :=
  User.cast deployment.toLowerCase
    { id := draws.userId, tenantId := "", email := deployment.toLowerCase.fold dto.email,
      name := dto.name, role := dto.role, phone := dto.phone, status := .invited,
      inviteTokenHash := some (deployment.sha256 draws.inviteToken),
      inviteExpiresAt := some (draws.now + INVITE_LIFETIME) }

/-- `invite`, in the caller's context. -/
def invite (deployment : AuthDeployment) (ambient : Ambient) (draws : Draws) (dto : InviteUserDto)
    (database : Database) : Database × Except Thrown InviteResult :=
  match TenantModel.findOne ambient
      (fun user => decide (user.email = queryKey deployment dto.email)) database.users with
  | .error thrown => (database, .error thrown)
  | .ok (some _) => (database, .error (.badRequest "A user with this email already exists"))
  | .ok none =>
    match TenantModel.create ambient (invitedUser deployment draws dto) database.users with
    | .error thrown => (database, .error thrown)
    | .ok (user, users) =>
      ({ database with users := users },
        .ok { userId := user.id.hex, inviteToken := draws.inviteToken })

/-- `$addToSet` of a device token. -/
def registerToken (token : String) (user : User) : User :=
  { user with fcmTokens := BulkUpdates.addToSet token user.fcmTokens }

/-- `addFcmToken`, in the caller's context; a user that is not there is no failure. -/
def addFcmToken (ambient : Ambient) (userId token : String) (database : Database) :
    Database × Except Thrown Unit :=
  match TenantModel.findByTextAndUpdate ambient userId (registerToken token) database.users with
  | .error thrown => (database, .error thrown)
  | .ok (_, users) => ({ database with users := users }, .ok ())

/-- Whether an invited user's invitation is over: it has no end, or its end is past. -/
def inviteOver (now : Int) (user : User) : Bool :=
  match user.inviteExpiresAt with
  | none => true
  | some inviteExpiresAt => decide (inviteExpiresAt < now)

/-- The document of an invited user who has set a password. -/
def acceptedUser (passwordHash : String) (user : User) : User :=
  { user with
    passwordHash := some passwordHash
    status := .active
    inviteTokenHash := none
    inviteExpiresAt := none }

/-- `acceptInvite`: the institute's standing is not looked at. -/
def acceptInvite (deployment : AuthDeployment) (draws : Draws) (subdomain : String)
    (dto : AcceptInviteDto) (database : Database) : Database × Except Thrown AuthTokens :=
  match instituteOf deployment subdomain database with
  | none => (database, .error (.notFound "Institute not found"))
  | some tenant =>
    match TenantModel.findOne (contextOf (some tenant.id.hex))
        (fun user => decide (user.inviteTokenHash = some (deployment.sha256 dto.token)))
        database.users with
    | .error thrown => (database, .error thrown)
    | .ok none => (database, .error (.badRequest "Invalid or expired invite"))
    | .ok (some user) =>
      if inviteOver draws.now user then
        (database, .error (.badRequest "Invalid or expired invite"))
      else
        match TenantModel.save (contextOf (some tenant.id.hex)) user
            (acceptedUser (deployment.passwords.hash draws.salt dto.password) user)
            database.users with
        | .error thrown => (database, .error thrown)
        | .ok (saved, users) =>
          ({ database with users := users },
            .ok (TokenService.issueTenantTokens deployment draws.now
              { userId := saved.id.hex, tenantId := tenant.id.hex, role := saved.role }))

/-- The first user of a tenant that a query matches. -/
def firstOf (tenantId : String) (matching : User → Bool) (users : List User) : Option User :=
  users.find? (fun user => decide (user.tenantId = tenantId) && matching user)

/-- A callback of a tenant runs bound to it. -/
theorem bound_context {tenantId : String} (nonempty : tenantId ≠ "") :
    Bound (contextOf (some tenantId)) tenantId := bound_run tenantId nonempty

/-- A read in a tenant's context finds the first of its users that matches. -/
theorem find_one_first {tenantId : String} (nonempty : tenantId ≠ "") (matching : User → Bool)
    (users : List User) :
    TenantModel.findOne (contextOf (some tenantId)) matching users =
      .ok (firstOf tenantId matching users) :=
  TenantModel.find_one_bound (bound_context nonempty) matching users

/-- The first match is stored, the tenant's, and matches. -/
theorem first_of_some {tenantId : String} {matching : User → Bool} {users : List User} {user : User}
    (found : firstOf tenantId matching users = some user) :
    user ∈ users ∧ user.tenantId = tenantId ∧ matching user = true := by
  have tested := List.find?_some found
  simp only [Bool.and_eq_true, decide_eq_true_eq] at tested
  exact ⟨List.mem_of_find?_eq_some found, tested.1, tested.2⟩

/-- When a login answers with tokens: the institute is found and not suspended, its user
of that email is active, and the user's hash verifies the password. -/
theorem login_ok {deployment : AuthDeployment} {now : Int} {dto : TenantLoginDto}
    {database : Database} {tokens : AuthTokens} :
    login deployment now dto database = .ok tokens ↔
      ∃ tenant user passwordHash,
        instituteOf deployment dto.subdomain database = some tenant ∧ tenant.status ≠ .suspended ∧
        firstOf tenant.id.hex (fun user => decide (user.email = queryKey deployment dto.email))
          database.users = some user ∧
        present user.passwordHash = some passwordHash ∧ user.status = .active ∧
        deployment.passwords.verify passwordHash dto.password = .ok true ∧
        TokenService.issueTenantTokens deployment now
          { userId := user.id.hex, tenantId := tenant.id.hex, role := user.role } = tokens := by
  unfold login
  cases institute : instituteOf deployment dto.subdomain database with
  | none => simp
  | some tenant =>
    by_cases suspended : tenant.status = .suspended
    · simp [suspended]
    · simp only [suspended, if_false, find_one_first tenant.id.hex_nonempty]
      cases found : firstOf tenant.id.hex
          (fun user => decide (user.email = queryKey deployment dto.email)) database.users with
      | none => simp [found]
      | some user =>
        cases hashed : present user.passwordHash with
        | none => simp [found, hashed]
        | some passwordHash =>
          by_cases active : user.status = .active
          · cases verified : deployment.passwords.verify passwordHash dto.password with
            | error thrown => simp [found, hashed, active, verified]
            | ok accepted =>
              cases accepted with
              | false => simp [found, hashed, active, verified]
              | true => simp [found, hashed, active, verified, suspended]
          · simp [found, hashed, active]

/-- When a refresh answers with tokens: the token verifies, names a tenant, and names an
active user of that tenant. -/
theorem refresh_ok {deployment : AuthDeployment} {now : Int} {dto : RefreshDto}
    {database : Database} {tokens : AuthTokens} :
    refresh deployment now dto database = .ok tokens ↔
      ∃ claims tenantId sub user,
        dto.refreshToken.bind (TokenService.verifyTenantRefresh deployment now) = some claims ∧
        claims.tenantId = some tenantId ∧ tenantId ≠ "" ∧ ObjectId.cast claims.sub = some sub ∧
        firstOf tenantId (fun other => decide (other.id = sub)) database.users = some user ∧
        user.status = .active ∧
        TokenService.issueTenantTokens deployment now
          { userId := user.id.hex, tenantId := tenantId, role := user.role } = tokens := by
  unfold refresh
  cases verified : dto.refreshToken.bind (TokenService.verifyTenantRefresh deployment now) with
  | none => simp
  | some claims =>
    cases named : present claims.tenantId with
    | none =>
      have unbound : Unbound (contextOf claims.tenantId) := ⟨rfl, named⟩
      obtain ⟨thrown, refused⟩ := TenantModel.find_by_text_unbound unbound claims.sub database.users
      simp only [refused, Option.some.injEq, reduceCtorEq, false_iff]
      rintro ⟨_, tenantId, _, _, rfl, claimed, nonempty, _⟩
      rw [claimed, present_nonempty nonempty] at named
      cases named
    | some tenantId =>
      obtain ⟨claimed, nonempty⟩ := present_some named
      have bound : Bound (contextOf claims.tenantId) tenantId := by
        rw [claimed]
        exact bound_context nonempty
      simp only [TenantModel.find_by_text_bound bound, castId]
      cases casts : ObjectId.cast claims.sub with
      | none => simp [casts]
      | some sub =>
        have read : TenantModel.findById (contextOf claims.tenantId) sub database.users =
            .ok (firstOf tenantId (fun other => decide (other.id = sub)) database.users) :=
          TenantModel.find_one_bound bound _ _
        simp only [read]
        cases found : firstOf tenantId (fun other => decide (other.id = sub)) database.users with
        | none => simp [casts, claimed, found]
        | some user =>
          by_cases active : user.status = .active
          · simp [casts, claimed, found, active, nonempty]
          · simp [casts, claimed, found, active]

/-- Without a tenant an invitation is refused and writes nothing. -/
theorem invite_unbound (deployment : AuthDeployment) (draws : Draws) (dto : InviteUserDto)
    (database : Database) :
    ∃ thrown, invite deployment (contextOf (some "")) draws dto database =
      (database, .error thrown) := by
  obtain ⟨thrown, refused⟩ := TenantModel.find_one_unbound
    (show Unbound (contextOf (some "")) from ⟨rfl, rfl⟩)
    (fun user : User => decide (user.email = queryKey deployment dto.email)) database.users
  exact ⟨thrown, by simp only [invite, refused]⟩

/-- An invitation to an email that the tenant has, or with a blank name or email, is refused
and writes nothing. -/
theorem invite_refused {deployment : AuthDeployment} (draws : Draws) {tenantId : String}
    {dto : InviteUserDto} {database : Database} (nonempty : tenantId ≠ "")
    (invalid : (firstOf tenantId (fun user => decide (user.email = queryKey deployment dto.email))
        database.users).isSome ∨ Text.trim dto.name = "" ∨ queryKey deployment dto.email = "") :
    ∃ thrown, invite deployment (contextOf (some tenantId)) draws dto database =
      (database, .error thrown) := by
  unfold invite
  simp only [find_one_first nonempty]
  cases found : firstOf tenantId (fun user => decide (user.email = queryKey deployment dto.email))
      database.users with
  | some user => exact ⟨_, rfl⟩
  | none =>
    have blank : TenantModel.refusedPath
        (TenantModel.withTenantId tenantId (invitedUser deployment draws dto)) ≠ none := by
      have texts : Text.trim dto.name = "" ∨ queryKey deployment dto.email = "" := by
        simpa [found] using invalid
      rw [ne_eq, user_accepted, not_and_or, not_not, not_not]
      exact texts
    obtain ⟨path, refused⟩ := Option.ne_none_iff_exists'.mp blank
    have validated : TenantModel.validate (contextOf (some tenantId))
        (invitedUser deployment draws dto) = .error (.validation path) := by
      rw [TenantModel.validate_stamped (bound_context nonempty) rfl, refused]
    exact ⟨.validation path, by simp only [TenantModel.create, validated]⟩

/-- An invitation to a free email under a new identity stores the invited user. -/
theorem invite_accepted {deployment : AuthDeployment} {draws : Draws} {tenantId : String}
    {dto : InviteUserDto} {database : Database} (nonempty : tenantId ≠ "")
    (free : firstOf tenantId (fun user => decide (user.email = queryKey deployment dto.email))
      database.users = none)
    (fresh : ∀ user ∈ database.users, user.id ≠ draws.userId)
    (named : Text.trim dto.name ≠ "") (addressed : queryKey deployment dto.email ≠ "") :
    invite deployment (contextOf (some tenantId)) draws dto database =
      ({ database with
          users := database.users ++
            [TenantModel.withTenantId tenantId (invitedUser deployment draws dto)] },
        .ok { userId := draws.userId.hex, inviteToken := draws.inviteToken }) := by
  have accepted : TenantModel.refusedPath
      (TenantModel.withTenantId tenantId (invitedUser deployment draws dto)) = none :=
    user_accepted.mpr ⟨named, addressed⟩
  have unclaimed : ∀ stored ∈ database.users,
      TenantModel.id stored ≠
        TenantModel.id (TenantModel.withTenantId tenantId (invitedUser deployment draws dto)) ∧
      TenantModel.clashes stored
        (TenantModel.withTenantId tenantId (invitedUser deployment draws dto)) = false := by
    intro stored member
    refine ⟨fresh stored member, decide_eq_false ?_⟩
    rintro ⟨sameTenant, sameEmail⟩
    have missed := List.find?_eq_none.mp free stored member
    simp only [Bool.and_eq_true, decide_eq_true_eq, not_and] at missed
    exact missed sameTenant sameEmail
  unfold invite
  simp only [find_one_first nonempty, free]
  rw [TenantModel.create_accepted
    (TenantModel.validate_unset (bound_context nonempty) rfl accepted) unclaimed]
  rfl

/-- The document a found user is saved as: nothing but the acceptance changes. -/
theorem accepted_written (passwordHash : String) (user : User) :
    TenantModel.writeBack user (acceptedUser passwordHash user) user =
      acceptedUser passwordHash user := by
  simp [TenantModel.writeBack, acceptedUser]

/-- When an acceptance answers with tokens: the institute is found, the first of its users
with the token's hash has an invitation that is not over, and that user is stored active
under the new password. -/
theorem accept_invite_ok {deployment : AuthDeployment} {draws : Draws} {subdomain : String}
    {dto : AcceptInviteDto} {database after : Database} {tokens : AuthTokens}
    (accepted : acceptInvite deployment draws subdomain dto database = (after, .ok tokens)) :
    ∃ tenant user,
      instituteOf deployment subdomain database = some tenant ∧
      firstOf tenant.id.hex
        (fun other => decide (other.inviteTokenHash = some (deployment.sha256 dto.token)))
        database.users = some user ∧
      inviteOver draws.now user = false ∧
      after = { database with
        users := Records.modify User.id user.id
          (TenantModel.writeBack user
            (acceptedUser (deployment.passwords.hash draws.salt dto.password) user))
          database.users } ∧
      tokens = TokenService.issueTenantTokens deployment draws.now
        { userId := user.id.hex, tenantId := tenant.id.hex, role := user.role } := by
  unfold acceptInvite at accepted
  cases institute : instituteOf deployment subdomain database with
  | none => simp [institute] at accepted
  | some tenant =>
    simp only [institute, find_one_first tenant.id.hex_nonempty] at accepted
    cases found : firstOf tenant.id.hex
        (fun other => decide (other.inviteTokenHash = some (deployment.sha256 dto.token)))
        database.users with
    | none => simp [found] at accepted
    | some user =>
      cases elapsed : inviteOver draws.now user with
      | true => simp [found, elapsed] at accepted
      | false =>
        simp only [found, elapsed, Bool.false_eq_true, if_false] at accepted
        cases saved : TenantModel.save (contextOf (some tenant.id.hex)) user
            (acceptedUser (deployment.passwords.hash draws.salt dto.password) user)
            database.users with
        | error thrown => simp [saved] at accepted
        | ok outcome =>
          obtain ⟨stamped, users⟩ := outcome
          simp only [saved, Prod.mk.injEq, Except.ok.injEq] at accepted
          have owned := (first_of_some found).2.1
          obtain ⟨same, written_⟩ :=
            TenantModel.save_bound (bound_context tenant.id.hex_nonempty) saved
          have unchanged : TenantModel.withTenantId tenant.id.hex
              (acceptedUser (deployment.passwords.hash draws.salt dto.password) user) =
              acceptedUser (deployment.passwords.hash draws.salt dto.password) user := by
            rw [← owned]
            exact TenantModel.with_tenant_same _
          rw [unchanged] at same
          subst same
          exact ⟨tenant, user, rfl, found, elapsed, by rw [← accepted.1, written_]; rfl,
            accepted.2.symm⟩

/-- Without a user who holds the token's hash in an invitation that is not over, an
acceptance is refused and writes nothing. -/
theorem accept_invite_refused {deployment : AuthDeployment} {draws : Draws} {subdomain : String}
    {dto : AcceptInviteDto} {database : Database} {tenant : Tenant}
    (institute : instituteOf deployment subdomain database = some tenant)
    (nobody : ∀ user, firstOf tenant.id.hex
      (fun other => decide (other.inviteTokenHash = some (deployment.sha256 dto.token)))
      database.users = some user → inviteOver draws.now user = true) :
    acceptInvite deployment draws subdomain dto database =
      (database, .error (.badRequest "Invalid or expired invite")) := by
  unfold acceptInvite
  simp only [institute, find_one_first tenant.id.hex_nonempty]
  cases found : firstOf tenant.id.hex
      (fun other => decide (other.inviteTokenHash = some (deployment.sha256 dto.token)))
      database.users with
  | none => rfl
  | some user => simp [nobody user found]

/-- An acceptance writes no institute. -/
theorem accept_invite_keeps_tenants (deployment : AuthDeployment) (draws : Draws)
    (subdomain : String) (dto : AcceptInviteDto) (database : Database) :
    (acceptInvite deployment draws subdomain dto database).1.tenants = database.tenants := by
  unfold acceptInvite
  cases instituteOf deployment subdomain database with
  | none => rfl
  | some tenant =>
    simp only [find_one_first tenant.id.hex_nonempty]
    cases firstOf tenant.id.hex
        (fun other => decide (other.inviteTokenHash = some (deployment.sha256 dto.token)))
        database.users with
    | none => rfl
    | some user =>
      cases elapsed : inviteOver draws.now user with
      | true => simp [elapsed]
      | false =>
        simp only [elapsed, Bool.false_eq_true, if_false]
        split <;> rfl

/-- With the indexes and validators kept, an acceptance succeeds for a found user whose
invitation is not over, and replaces that user. -/
theorem accept_invite_accepts {deployment : AuthDeployment} {draws : Draws} {subdomain : String}
    {dto : AcceptInviteDto} {database : Database} (kept : Kept database) {tenant : Tenant}
    {user : User} (institute : instituteOf deployment subdomain database = some tenant)
    (found : firstOf tenant.id.hex
      (fun other => decide (other.inviteTokenHash = some (deployment.sha256 dto.token)))
      database.users = some user)
    (valid : inviteOver draws.now user = false) :
    acceptInvite deployment draws subdomain dto database =
      ({ database with
          users := Records.modify User.id user.id
            (fun _ => acceptedUser (deployment.passwords.hash draws.salt dto.password) user)
            database.users },
        .ok (TokenService.issueTenantTokens deployment draws.now
          { userId := user.id.hex, tenantId := tenant.id.hex, role := user.role })) := by
  obtain ⟨stored, owned, _⟩ := first_of_some found
  have free : ∀ other ∈ database.users, TenantModel.id other ≠ TenantModel.id user →
      TenantModel.clashes other
        (acceptedUser (deployment.passwords.hash draws.salt dto.password) user) = false := by
    intro other member apart
    refine decide_eq_false ?_
    rintro ⟨sameTenant, sameEmail⟩
    exact apart (congrArg User.id (kept.addresses other member user stored sameTenant sameEmail))
  have saved : TenantModel.save (contextOf (some tenant.id.hex)) user
      (acceptedUser (deployment.passwords.hash draws.salt dto.password) user) database.users =
      .ok (acceptedUser (deployment.passwords.hash draws.salt dto.password) user,
        Records.modify User.id user.id
          (fun _ => acceptedUser (deployment.passwords.hash draws.salt dto.password) user)
          database.users) :=
    TenantModel.save_loaded (bound_context tenant.id.hex_nonempty) kept.userIds stored owned
      (user_accepted.mpr (kept.required user stored)) (accepted_written _ user) free
  unfold acceptInvite
  simp only [institute, find_one_first tenant.id.hex_nonempty, found, valid, Bool.false_eq_true,
    if_false, saved]
  rfl

/-- Whether an acceptance finds an invitation to redeem: the institute is found, and the first
of its users with the token's hash has an invitation that is not over. -/
def Redeemable (deployment : AuthDeployment) (now : Int) (subdomain : String)
    (dto : AcceptInviteDto) (database : Database) : Prop :=
  ∃ tenant user, instituteOf deployment subdomain database = some tenant ∧
    firstOf tenant.id.hex
      (fun other => decide (other.inviteTokenHash = some (deployment.sha256 dto.token)))
      database.users = some user ∧
    inviteOver now user = false

/-- Without an invitation to redeem an acceptance is refused and writes nothing. -/
theorem accept_invite_unredeemed {deployment : AuthDeployment} {draws : Draws} {subdomain : String}
    {dto : AcceptInviteDto} {database : Database}
    (nothing : ¬ Redeemable deployment draws.now subdomain dto database) :
    ∃ thrown, acceptInvite deployment draws subdomain dto database =
      (database, .error thrown) := by
  cases institute : instituteOf deployment subdomain database with
  | none => exact ⟨.notFound "Institute not found", by simp only [acceptInvite, institute]⟩
  | some tenant =>
    refine ⟨.badRequest "Invalid or expired invite", accept_invite_refused institute ?_⟩
    intro user found
    cases elapsed : inviteOver draws.now user with
    | true => rfl
    | false => exact False.elim (nothing ⟨tenant, user, institute, found, elapsed⟩)

/-- An acceptance keeps the indexes and validators. -/
theorem accept_invite_kept {database : Database} (kept : Kept database)
    (deployment : AuthDeployment) (draws : Draws) (subdomain : String) (dto : AcceptInviteDto) :
    Kept (acceptInvite deployment draws subdomain dto database).1 := by
  by_cases redeemable : Redeemable deployment draws.now subdomain dto database
  · obtain ⟨tenant, user, institute, found, valid⟩ := redeemable
    rw [accept_invite_accepts kept institute found valid]
    exact kept.replace_user (first_of_some found).1 rfl rfl rfl rfl
  · obtain ⟨thrown, refused⟩ := accept_invite_unredeemed redeemable
    rw [refused]
    exact kept

/-- An invitation keeps the indexes and validators: it creates a user or writes nothing. -/
theorem invite_kept {database : Database} (kept : Kept database) (deployment : AuthDeployment)
    (ambient : Ambient) (draws : Draws) (dto : InviteUserDto) :
    Kept (invite deployment ambient draws dto database).1 := by
  unfold invite
  cases TenantModel.findOne ambient
      (fun user : User => decide (user.email = queryKey deployment dto.email)) database.users with
  | error thrown => exact kept
  | ok found =>
    cases found with
    | some user => exact kept
    | none =>
      cases created : TenantModel.create ambient (invitedUser deployment draws dto)
          database.users with
      | error thrown => exact kept
      | ok outcome =>
        obtain ⟨user, users⟩ := outcome
        obtain ⟨valid, rfl, unclaimed⟩ := TenantModel.create_ok created
        obtain ⟨_, _, accepted⟩ := TenantModel.validate_stamps valid
        refine kept.append_user (fun other stored => (unclaimed other stored).1) ?_
          (user_accepted.mp accepted)
        intro other stored
        exact of_decide_eq_false (unclaimed other stored).2

end TenantAuthService

end CoachingApi
