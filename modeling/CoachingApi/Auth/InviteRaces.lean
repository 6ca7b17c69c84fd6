import CoachingApi.Auth.TenantAuthService
import CoachingApi.Library.Runs

/-!
# Concurrent acceptances of one invite token

Any number of acceptances with one token take their awaited steps in any order: the
institute is looked up, then the user, whose invitation is checked there and then, then the
password is hashed, then the document is saved. The save is an update by `_id` of the paths
the call modified and looks at no token, so a call that was let through saves even after
another one has redeemed the invite. The token is used once exactly as long as no save
comes too late.
-/

namespace CoachingApi

open TenantContextStore TenantPlugin TenantAuthService Runs

/-- Where an acceptance stands: before its institute is found, before its user is, before
the password is hashed, before the document is saved, or at its end. -/
inductive AcceptStep where
  | started
  | resolved (tenant : Tenant)
  | checked (tenant : Tenant) (user : User)
  | hashed (tenant : Tenant) (user : User) (passwordHash : String)
  | returned (tokens : AuthTokens)
  | threw (thrown : Thrown)
  deriving DecidableEq

namespace InviteRaces

/-- `acceptInvite` up to its next await. -/
def acceptStep (deployment : AuthDeployment) (subdomain : String) (dto : AcceptInviteDto)
    (draws : Draws) (database : Database) : AcceptStep → Database × AcceptStep
  | .started =>
    match instituteOf deployment subdomain database with
    | none => (database, .threw (.notFound "Institute not found"))
    | some tenant => (database, .resolved tenant)
  | .resolved tenant =>
    match TenantModel.findOne (contextOf (some tenant.id.hex))
        (fun user => decide (user.inviteTokenHash = some (deployment.sha256 dto.token)))
        database.users with
    | .error thrown => (database, .threw thrown)
    | .ok none => (database, .threw (.badRequest "Invalid or expired invite"))
    | .ok (some user) =>
      if inviteOver draws.now user then
        (database, .threw (.badRequest "Invalid or expired invite"))
      else (database, .checked tenant user)
  | .checked tenant user =>
    (database, .hashed tenant user (deployment.passwords.hash draws.salt dto.password))
  | .hashed tenant user passwordHash =>
    match TenantModel.save (contextOf (some tenant.id.hex)) user (acceptedUser passwordHash user)
        database.users with
    | .error thrown => (database, .threw thrown)
    | .ok (saved, users) =>
      ({ database with users := users },
        .returned (TokenService.issueTenantTokens deployment draws.now
          { userId := saved.id.hex, tenantId := tenant.id.hex, role := saved.role }))
  | .returned tokens => (database, .returned tokens)
  | .threw thrown => (database, .threw thrown)

/-- One call on its own takes a step. -/
def alone (deployment : AuthDeployment) (subdomain : String) (dto : AcceptInviteDto)
    (state : Database × AcceptStep) (draws : Draws) : Database × AcceptStep :=
  acceptStep deployment subdomain dto draws state.1 state.2

/-- A call on its own does what the whole acceptance does. -/
theorem alone_accepts (deployment : AuthDeployment) (subdomain : String) (dto : AcceptInviteDto)
    (draws : Draws) (database : Database) :
    run (alone deployment subdomain dto) (database, .started) [draws, draws, draws, draws] =
      ((acceptInvite deployment draws subdomain dto database).1,
        match (acceptInvite deployment draws subdomain dto database).2 with
        | .ok tokens => .returned tokens
        | .error thrown => .threw thrown) := by
  simp only [run_cons, run_nil, alone, acceptStep, acceptInvite]
  cases instituteOf deployment subdomain database with
  | none => rfl
  | some tenant =>
    simp only
    cases TenantModel.findOne (contextOf (some tenant.id.hex))
        (fun user : User => decide (user.inviteTokenHash = some (deployment.sha256 dto.token)))
        database.users with
    | error thrown => rfl
    | ok found =>
      cases found with
      | none => rfl
      | some user =>
        cases elapsed : inviteOver draws.now user with
        | true => simp only [elapsed, if_true]
        | false =>
          simp only [elapsed, Bool.false_eq_true, if_false]
          cases TenantModel.save (contextOf (some tenant.id.hex)) user
              (acceptedUser (deployment.passwords.hash draws.salt dto.password) user)
              database.users with
          | error thrown => rfl
          | ok outcome => rfl

/-- A user after acceptances with a token: as it was, or it held the token's hash and has
set a password. -/
def Accepts (tokenHash : String) (user changed : User) : Prop :=
  changed = user ∨
    (user.inviteTokenHash = some tokenHash ∧ ∃ passwordHash, changed = acceptedUser passwordHash user)

/-- Users after acceptances with a token. -/
def Redeemed (tokenHash : String) (before after : List User) : Prop :=
  ∃ change : User → User, after = before.map change ∧
    ∀ user ∈ before, Accepts tokenHash user (change user)

/-- Every user who held the token's hash before still holds it. -/
def Unredeemed (tokenHash : String) (before after : List User) : Prop :=
  ∀ user ∈ before, user.inviteTokenHash = some tokenHash →
    ∃ stored ∈ after, stored.id = user.id ∧ stored.inviteTokenHash = some tokenHash

/-- Whether a token is unredeemed can be tested. -/
instance decidableUnredeemed (tokenHash : String) (before after : List User) :
    Decidable (Unredeemed tokenHash before after) :=
  inferInstanceAs (Decidable (∀ user ∈ before, user.inviteTokenHash = some tokenHash →
    ∃ stored ∈ after, stored.id = user.id ∧ stored.inviteTokenHash = some tokenHash))

/-- A call that saves next. -/
def saving : AcceptStep → Bool
  | .hashed .. => true
  | _ => false

/-- A call that has answered with tokens. -/
def tokensOf : AcceptStep → Option AuthTokens
  | .returned tokens => some tokens
  | _ => none

section Users

variable {tokenHash : String} {before after : List User}

/-- Acceptances keep what the unique indexes look at. -/
theorem Accepts.keeps {user changed : User} (accepts : Accepts tokenHash user changed) :
    changed.id = user.id ∧ changed.tenantId = user.tenantId ∧ changed.email = user.email := by
  rcases accepts with rfl | ⟨_, passwordHash, rfl⟩
  · exact ⟨rfl, rfl, rfl⟩
  · exact ⟨rfl, rfl, rfl⟩

/-- A user who still holds the token's hash is as it was. -/
theorem Accepts.holding {user changed : User} (accepts : Accepts tokenHash user changed)
    (held : changed.inviteTokenHash = some tokenHash) : changed = user := by
  rcases accepts with same | ⟨_, passwordHash, rfl⟩
  · exact same
  · simp [acceptedUser] at held

variable (tokenHash before) in
/-- No acceptance at all. -/
theorem redeemed_refl : Redeemed tokenHash before before :=
  ⟨id, (List.map_id before).symm, fun _ _ => .inl rfl⟩

/-- A user who holds the token's hash has not been touched since before. -/
theorem Redeemed.untouched (redeemed : Redeemed tokenHash before after) {user : User}
    (stored : user ∈ after) (held : user.inviteTokenHash = some tokenHash) : user ∈ before := by
  obtain ⟨change, rfl, changes⟩ := redeemed
  obtain ⟨original, earlier, rfl⟩ := List.mem_map.mp stored
  rw [(changes original earlier).holding held]
  exact earlier

/-- While the token is unredeemed no user has been touched. -/
theorem Redeemed.unchanged (redeemed : Redeemed tokenHash before after)
    (distinct : Records.Distinct User.id before)
    (unredeemed : Unredeemed tokenHash before after) : after = before := by
  obtain ⟨change, rfl, changes⟩ := redeemed
  conv_rhs => rw [← List.map_id before]
  apply List.map_congr_left
  intro user earlier
  rcases changes user earlier with same | ⟨held, _⟩
  · exact same
  · obtain ⟨stored, member, sameId, holding⟩ := unredeemed user earlier held
    obtain ⟨original, origin, rfl⟩ := List.mem_map.mp member
    have kept := (changes original origin).holding holding
    rw [kept] at sameId
    obtain rfl := Records.same_record distinct origin earlier sameId
    exact kept

/-- Acceptances keep identities. -/
theorem Redeemed.identities (redeemed : Redeemed tokenHash before after) :
    after.map User.id = before.map User.id := by
  obtain ⟨change, rfl, changes⟩ := redeemed
  rw [List.map_map]
  exact List.map_congr_left (fun user earlier => (changes user earlier).keeps.1)

/-- What one acceptance writes onto another one of the same user is an acceptance. -/
theorem write_accepted (first second : String) (user : User) :
    ∃ passwordHash, TenantModel.writeBack user (acceptedUser second user) (acceptedUser first user) =
      acceptedUser passwordHash user := by
  by_cases same : some second = user.passwordHash
  · refine ⟨first, ?_⟩
    simp [TenantModel.writeBack, acceptedUser, same]
  · refine ⟨second, ?_⟩
    simp [TenantModel.writeBack, acceptedUser, written_changed _ same]

/-- Saving the acceptance of a user is one more acceptance, and spends the token. -/
theorem Redeemed.save (redeemed : Redeemed tokenHash before after)
    (distinct : Records.Distinct User.id before) {user : User} (loaded : user ∈ before)
    (held : user.inviteTokenHash = some tokenHash) (passwordHash : String) :
    Redeemed tokenHash before (Records.modify User.id user.id
        (TenantModel.writeBack user (acceptedUser passwordHash user)) after) ∧
      ¬ Unredeemed tokenHash before (Records.modify User.id user.id
        (TenantModel.writeBack user (acceptedUser passwordHash user)) after) := by
  obtain ⟨change, rfl, changes⟩ := redeemed
  have sameId : ∀ original ∈ before, (change original).id = original.id :=
    fun original earlier => (changes original earlier).keeps.1
  have rewritten : ∃ later, TenantModel.writeBack user (acceptedUser passwordHash user)
      (change user) = acceptedUser later user := by
    rcases changes user loaded with same | ⟨_, first, accepted⟩
    · rw [same]
      exact ⟨passwordHash, accepted_written passwordHash user⟩
    · rw [accepted]
      exact write_accepted first passwordHash user
  obtain ⟨later, rewritten⟩ := rewritten
  constructor
  · refine ⟨fun original => if original.id = user.id then acceptedUser later original
      else change original, ?_, ?_⟩
    · simp only [Records.modify, List.map_map]
      apply List.map_congr_left
      intro original earlier
      simp only [Function.comp_apply, sameId original earlier]
      by_cases same : original.id = user.id
      · obtain rfl := Records.same_record distinct earlier loaded same
        rw [if_pos rfl, if_pos rfl, rewritten]
      · rw [if_neg same, if_neg same]
    · intro original earlier
      by_cases same : original.id = user.id
      · obtain rfl := Records.same_record distinct earlier loaded same
        exact .inr ⟨held, later, if_pos rfl⟩
      · simp only [if_neg same]
        exact changes original earlier
  · intro unredeemed
    obtain ⟨stored, member, same, holding⟩ := unredeemed user loaded held
    obtain ⟨between, mapped, rfl⟩ := Records.mem_modify.mp member
    obtain ⟨original, earlier, rfl⟩ := List.mem_map.mp mapped
    rw [sameId original earlier] at same holding
    by_cases touched : original.id = user.id
    · obtain rfl := Records.same_record distinct earlier loaded touched
      rw [if_pos rfl, rewritten] at holding
      simp [acceptedUser] at holding
    · rw [if_neg touched, sameId original earlier] at same
      exact touched same

/-- Saving the acceptance of a user onto the user as it was loaded replaces that user. -/
theorem accepted_replaces (distinct : Records.Distinct User.id before) {user : User}
    (loaded : user ∈ before) (passwordHash : String) :
    Records.modify User.id user.id
        (TenantModel.writeBack user (acceptedUser passwordHash user)) before =
      Records.modify User.id user.id (fun _ => acceptedUser passwordHash user) before := by
  apply Records.modify_agree
  intro other stored same
  rw [Records.same_record distinct stored loaded same]
  exact accepted_written passwordHash user

end Users

section Steps

variable {deployment : AuthDeployment} {token : String} {before after : List User}

/-- The user in a call's hands held the token when the calls began, in the institute the call
found, and what the call is to store is the hash of its own password. -/
def LetThrough (deployment : AuthDeployment) (token password : String) (before : List User) :
    AcceptStep → Prop
  | .checked tenant user => user ∈ before ∧ user.tenantId = tenant.id.hex ∧
      user.inviteTokenHash = some (deployment.sha256 token)
  | .hashed tenant user passwordHash => (user ∈ before ∧ user.tenantId = tenant.id.hex ∧
      user.inviteTokenHash = some (deployment.sha256 token)) ∧
      ∃ salt, passwordHash = deployment.passwords.hash salt password
  | _ => True

/-- With the indexes and validators kept, the save of a call that was let through succeeds,
whatever other calls have redeemed. -/
theorem save_accepted {database : Database} (kept : Kept database) {tokenHash : String}
    (redeemed : Redeemed tokenHash database.users after) {tenant : Tenant} {user : User}
    (loaded : user ∈ database.users) (owned : user.tenantId = tenant.id.hex)
    (passwordHash : String) :
    TenantModel.save (contextOf (some tenant.id.hex)) user (acceptedUser passwordHash user) after =
      .ok (acceptedUser passwordHash user,
        Records.modify User.id user.id
          (TenantModel.writeBack user (acceptedUser passwordHash user)) after) := by
  have accepted : TenantModel.refusedPath (acceptedUser passwordHash user) = none :=
    user_accepted.mpr (kept.required user loaded)
  have valid : TenantModel.validate (contextOf (some tenant.id.hex))
      (acceptedUser passwordHash user) = .ok (acceptedUser passwordHash user) := by
    rw [TenantModel.validate_bound (bound_context tenant.id.hex_nonempty) owned, accepted]
  have distinct : Records.Distinct User.id after :=
    Records.same_keys_distinct redeemed.identities kept.userIds
  obtain ⟨change, rfl, changes⟩ := redeemed
  obtain ⟨sameId, sameTenant, sameEmail⟩ := (changes user loaded).keeps
  have found : Records.lookup User.id user.id (database.users.map change) = some (change user) := by
    rw [← sameId]
    exact Records.lookup_stored distinct (List.mem_map_of_mem loaded)
  refine TenantModel.save_accepted valid found ?_
  intro other member apart
  obtain ⟨original, earlier, rfl⟩ := List.mem_map.mp member
  obtain ⟨identity, tenants, emails⟩ := (changes original earlier).keeps
  refine decide_eq_false ?_
  rintro ⟨clashTenant, clashEmail⟩
  have kept_ : (TenantModel.writeBack user (acceptedUser passwordHash user)
        (change user)).tenantId = user.tenantId ∧
      (TenantModel.writeBack user (acceptedUser passwordHash user)
        (change user)).email = user.email := by
    simp [TenantModel.writeBack, acceptedUser, sameTenant, sameEmail]
  have one := kept.addresses original earlier user loaded
    (tenants.symm.trans (clashTenant.trans kept_.1)) (emails.symm.trans (clashEmail.trans kept_.2))
  exact apart (identity.trans (congrArg User.id one))

variable (draws : Draws) (subdomain : String) (dto : AcceptInviteDto) {database : Database} in
/-- What a step of a call does: it writes nothing and answers nothing new, or it saves the
acceptance of the user it was let through for and answers with that user's tokens. -/
theorem accept_step_cases {start : Database} (kept : Kept start)
    (redeemed : Redeemed (deployment.sha256 dto.token) start.users database.users)
    {step : AcceptStep} (letThrough : LetThrough deployment dto.token dto.password start.users step) :
    ((acceptStep deployment subdomain dto draws database step).1 = database ∧
      LetThrough deployment dto.token dto.password start.users
        (acceptStep deployment subdomain dto draws database step).2 ∧
      tokensOf (acceptStep deployment subdomain dto draws database step).2 = tokensOf step ∧
      saving step = false) ∨
    (saving step = true ∧ ∃ user ∈ start.users, ∃ salt tokens,
      user.inviteTokenHash = some (deployment.sha256 dto.token) ∧
      tokens.accessToken.payload.sub = user.id.hex ∧
      acceptStep deployment subdomain dto draws database step =
        ({ database with
            users := Records.modify User.id user.id
              (TenantModel.writeBack user
                (acceptedUser (deployment.passwords.hash salt dto.password) user))
              database.users },
          .returned tokens)) := by
  cases step with
  | started =>
    simp only [acceptStep]
    cases instituteOf deployment subdomain database with
    | none => exact .inl ⟨rfl, trivial, rfl, rfl⟩
    | some tenant => exact .inl ⟨rfl, trivial, rfl, rfl⟩
  | resolved tenant =>
    simp only [acceptStep, find_one_first tenant.id.hex_nonempty]
    cases found : firstOf tenant.id.hex
        (fun user => decide (user.inviteTokenHash = some (deployment.sha256 dto.token)))
        database.users with
    | none => exact .inl ⟨rfl, trivial, rfl, rfl⟩
    | some user =>
      obtain ⟨stored, owned, tested⟩ := first_of_some found
      have held := of_decide_eq_true tested
      cases elapsed : inviteOver draws.now user with
      | true => exact .inl (by simp [elapsed, LetThrough, tokensOf, saving])
      | false =>
        simp only [elapsed, Bool.false_eq_true, if_false]
        exact .inl ⟨trivial, ⟨redeemed.untouched stored held, owned, held⟩, rfl, rfl⟩
  | checked tenant user => exact .inl ⟨rfl, ⟨letThrough, draws.salt, rfl⟩, rfl, rfl⟩
  | hashed tenant user passwordHash =>
    obtain ⟨⟨loaded, owned, held⟩, salt, rfl⟩ := letThrough
    let tokens := TokenService.issueTenantTokens deployment draws.now
      { userId := user.id.hex, tenantId := tenant.id.hex, role := user.role }
    refine .inr ⟨rfl, user, loaded, salt, tokens, held, rfl, ?_⟩
    simp only [acceptStep, save_accepted kept redeemed loaded owned]
    rfl
  | returned tokens => exact .inl ⟨rfl, trivial, rfl, rfl⟩
  | threw thrown => exact .inl ⟨rfl, trivial, rfl, rfl⟩

end Steps

section Calls

variable {κ : Type} (deployment : AuthDeployment) (token : String) (passwords : κ → String)
  (start : Database)

/-- A token used once: of all the calls at most one answers with tokens; the database is then
as it was but for the user those tokens name, who held the token's hash and has set the
password of that call; and it is as it was while no call has. -/
structure ConsumedOnce (after : Database) (answers : κ → Option AuthTokens) : Prop where
  once : ∀ first second, (answers first).isSome = true → (answers second).isSome = true →
    first = second
  stored : ∀ call tokens, answers call = some tokens →
    ∃ user ∈ start.users, user.inviteTokenHash = some (deployment.sha256 token) ∧
      tokens.accessToken.payload.sub = user.id.hex ∧
      ∃ salt, after = { start with
        users := Records.modify User.id user.id
          (fun _ => acceptedUser (deployment.passwords.hash salt (passwords call)) user)
          start.users }
  unused : (∀ call, answers call = none) → after = start

/-- What holds in every state the calls reach: the users are as acceptances leave them,
nothing else is written, every call has in its hands what it was let through for, and a
token that is redeemed has been answered with tokens. -/
structure Sound (configuration : Configuration κ Database AcceptStep) : Prop where
  users : Redeemed (deployment.sha256 token) start.users configuration.shared.users
  calls : ∀ call, LetThrough deployment token (passwords call) start.users
    (configuration.locals call)
  answered : ¬ Unredeemed (deployment.sha256 token) start.users configuration.shared.users →
    ∃ call, (tokensOf (configuration.locals call)).isSome = true

/-- A save that is due comes in time: every user who held the token's hash when the calls
began still holds it. -/
def InTime (configuration : Configuration κ Database AcceptStep) (input : κ × Draws) : Prop :=
  saving (configuration.locals input.1) = true →
    Unredeemed (deployment.sha256 token) start.users configuration.shared.users

/-- Whether a save comes in time can be tested. -/
instance decidableInTime (configuration : Configuration κ Database AcceptStep)
    (input : κ × Draws) : Decidable (InTime deployment token start configuration input) :=
  inferInstanceAs (Decidable (saving (configuration.locals input.1) = true → _))

variable (subdomains : κ → String)

/-- A step of a call, which presents the token under a subdomain and with a password of its
own. -/
def act (call : κ) (draws : Draws) (database : Database) (step : AcceptStep) :
    Database × AcceptStep :=
  acceptStep deployment (subdomains call) { token := token, password := passwords call } draws
    database step

/-- Every call is to start. -/
def initial : Configuration κ Database AcceptStep := ⟨start, fun _ => .started⟩

variable {deployment token passwords start}

/-- The calls begin soundly. -/
theorem sound_initial : Sound deployment token passwords start (initial start : Configuration κ _ _) where
  users := redeemed_refl _ _
  calls := fun _ => trivial
  answered := fun redeemed => False.elim (redeemed (fun user stored held => ⟨user, stored, rfl, held⟩))

/-- Before any call has taken a step the token has not been used. -/
theorem consumed_initial : ConsumedOnce deployment token passwords start start
    (fun call => tokensOf ((initial start : Configuration κ _ _).locals call)) where
  once := by
    intro first second answered
    simp [initial, tokensOf] at answered
  stored := by
    intro call tokens answered
    simp [initial, tokensOf] at answered
  unused := fun _ => rfl

variable [DecidableEq κ]

/-- What a turn of a call does: it writes nothing and changes no call's answer, or it saves
the acceptance of the user the call was let through for and answers with that user's tokens. -/
theorem turn_cases (kept : Kept start) {configuration : Configuration κ Database AcceptStep}
    (sound : Sound deployment token passwords start configuration) (call : κ) (draws : Draws) :
    ((turn (act deployment token passwords subdomains) configuration (call, draws)).shared =
        configuration.shared ∧
      (∀ other, LetThrough deployment token (passwords other) start.users
        ((turn (act deployment token passwords subdomains) configuration
          (call, draws)).locals other)) ∧
      (∀ other, tokensOf ((turn (act deployment token passwords subdomains) configuration
          (call, draws)).locals other) = tokensOf (configuration.locals other)) ∧
      saving (configuration.locals call) = false) ∨
    (saving (configuration.locals call) = true ∧ ∃ user ∈ start.users, ∃ salt tokens,
      user.inviteTokenHash = some (deployment.sha256 token) ∧
      tokens.accessToken.payload.sub = user.id.hex ∧
      (turn (act deployment token passwords subdomains) configuration (call, draws)).shared =
        { configuration.shared with
          users := Records.modify User.id user.id
            (TenantModel.writeBack user
              (acceptedUser (deployment.passwords.hash salt (passwords call)) user))
            configuration.shared.users } ∧
      (turn (act deployment token passwords subdomains) configuration (call, draws)).locals =
        Function.update configuration.locals call (.returned tokens)) := by
  rcases accept_step_cases draws (subdomains call)
      { token := token, password := passwords call } kept sound.users (sound.calls call) with
    ⟨same, letThrough, answers, idle⟩ | ⟨saves, user, loaded, salt, tokens, held, named, stepped⟩
  · refine .inl ⟨same, turn_each _ sound.calls letThrough, ?_, idle⟩
    exact turn_each (fun other step => tokensOf step = tokensOf (configuration.locals other))
      (fun _ => rfl) answers
  · have acted : act deployment token passwords subdomains call draws configuration.shared
        (configuration.locals call) = _ := stepped
    refine .inr ⟨saves, user, loaded, salt, tokens, held, named, ?_, ?_⟩
    · simp only [turn, acted]
    · simp only [turn, acted]

/-- Every turn keeps what holds in every state the calls reach. -/
theorem sound_turn (kept : Kept start) {configuration : Configuration κ Database AcceptStep}
    (sound : Sound deployment token passwords start configuration) (input : κ × Draws) :
    Sound deployment token passwords start
      (turn (act deployment token passwords subdomains) configuration input) := by
  obtain ⟨call, draws⟩ := input
  rcases turn_cases subdomains kept sound call draws with
    ⟨shared, letThrough, answers, _⟩ | ⟨_, user, loaded, salt, tokens, held, _, shared, locals_⟩
  · refine ⟨shared ▸ sound.users, letThrough, fun redeemed => ?_⟩
    obtain ⟨other, answered⟩ := sound.answered (shared ▸ redeemed)
    exact ⟨other, by rw [answers, answered]⟩
  · refine ⟨?_, fun other => ?_, fun _ => ⟨call, ?_⟩⟩
    · rw [shared]
      exact (sound.users.save kept.userIds loaded held _).1
    · rw [locals_]
      by_cases acting : other = call
      · subst acting
        rw [Function.update_self]
        trivial
      · rw [Function.update_of_ne acting]
        exact sound.calls other
    · rw [locals_, Function.update_self]
      rfl

/-- A turn whose save comes in time keeps the token used once. -/
theorem consumed_turn (kept : Kept start) {configuration : Configuration κ Database AcceptStep}
    (sound : Sound deployment token passwords start configuration)
    (consumed : ConsumedOnce deployment token passwords start configuration.shared
      (fun call => tokensOf (configuration.locals call)))
    {input : κ × Draws} (inTime : InTime deployment token start configuration input) :
    ConsumedOnce deployment token passwords start
      (turn (act deployment token passwords subdomains) configuration input).shared
      (fun call => tokensOf
        ((turn (act deployment token passwords subdomains) configuration input).locals call)) := by
  obtain ⟨call, draws⟩ := input
  rcases turn_cases subdomains kept sound call draws with
    ⟨shared, _, answers, _⟩ | ⟨saves, user, loaded, salt, tokens, held, named, shared, locals_⟩
  · rw [shared, funext answers]
    exact consumed
  · have unredeemed := inTime saves
    have untouched := sound.users.unchanged kept.userIds unredeemed
    have unanswered : ∀ other, tokensOf (configuration.locals other) = none := by
      intro other
      cases answered : tokensOf (configuration.locals other) with
      | none => rfl
      | some earlier =>
        obtain ⟨holder, origin, holding, _, _, after⟩ := consumed.stored other earlier answered
        rw [after, ← accepted_replaces kept.userIds origin] at unredeemed
        have refl := redeemed_refl (deployment.sha256 token) start.users
        exact False.elim ((refl.save kept.userIds origin holding _).2 unredeemed)
    have only : ∀ other, (tokensOf (Function.update configuration.locals call
        (.returned tokens) other)).isSome = true → other = call := by
      intro other answered
      by_contra apart
      rw [Function.update_of_ne apart, unanswered] at answered
      cases answered
    rw [shared, locals_, consumed.unused unanswered]
    refine ⟨fun first second one two => (only first one).trans (only second two).symm, ?_, ?_⟩
    · intro other given answered
      obtain rfl := only other (by rw [answered]; rfl)
      rw [Function.update_self] at answered
      obtain rfl := Option.some.inj answered
      refine ⟨user, loaded, held, named, salt, ?_⟩
      rw [accepted_replaces kept.userIds loaded]
    · intro none_
      have answered := none_ call
      rw [Function.update_self] at answered
      cases answered

/-- A call that has answered answers the same ever after. -/
theorem answer_stays (configuration : Configuration κ Database AcceptStep)
    (inputs : List (κ × Draws)) {call : κ} {tokens : AuthTokens}
    (answered : configuration.locals call = .returned tokens) :
    (run (turn (act deployment token passwords subdomains)) configuration inputs).locals call =
      .returned tokens := by
  refine run_invariant (fun reached : Configuration κ Database AcceptStep =>
    reached.locals call = .returned tokens) ?_ answered inputs
  rintro reached ⟨acting, draws⟩ returned
  refine turn_each (fun (party : κ) (step : AcceptStep) =>
    party = call → step = .returned tokens) ?_ ?_ call rfl
  · rintro _ rfl
    exact returned
  · rintro rfl
    rw [returned]
    rfl

/-- For any number of acceptances with one token, under any subdomains and with any
passwords, and for every order of their steps: the token is used once if and only if every
save comes in time, finding the token's hash still held by every user who held it when the
calls began. The steps of a call on its own are what the acceptance does.

Proof: while saves come in time the first of them finds the users untouched and no call
answered, and spends the token. A save that comes late follows one that has been answered
with tokens, succeeds as well, and so makes a second call succeed. -/
theorem invite_consumed_once (deployment : AuthDeployment) (token : String)
    (subdomains passwords : κ → String) {start : Database} (kept : Kept start)
    (inputs : List (κ × Draws)) :
    (ConsumedOnce deployment token passwords start
        (run (turn (act deployment token passwords subdomains)) (initial start) inputs).shared
        (fun call => tokensOf ((run (turn (act deployment token passwords subdomains))
          (initial start) inputs).locals call)) ↔
      Along (turn (act deployment token passwords subdomains)) (InTime deployment token start)
        (initial start) inputs) ∧
    ∀ subdomain dto draws database,
      run (alone deployment subdomain dto) (database, .started) [draws, draws, draws, draws] =
        ((acceptInvite deployment draws subdomain dto database).1,
          match (acceptInvite deployment draws subdomain dto database).2 with
          | .ok tokens => .returned tokens
          | .error thrown => .threw thrown) := by
  refine ⟨⟨?_, ?_⟩, alone_accepts deployment⟩
  · intro consumed
    rw [along_iff]
    rintro first ⟨call, draws⟩ rest rfl saves
    by_contra redeemed
    have sound := run_invariant (Sound deployment token passwords start)
      (fun _ input sound => sound_turn subdomains kept sound input) sound_initial first
    obtain ⟨earlier, answered⟩ := sound.answered redeemed
    obtain ⟨tokens, returned⟩ : ∃ tokens, (run (turn (act deployment token passwords subdomains))
        (initial start) first).locals earlier = .returned tokens := by
      cases step : (run (turn (act deployment token passwords subdomains))
        (initial start) first).locals earlier with
      | returned tokens => exact ⟨tokens, rfl⟩
      | started | resolved | checked | hashed | threw => simp [step, tokensOf] at answered
    have apart : earlier ≠ call := by
      rintro rfl
      rw [returned] at saves
      cases saves
    rcases turn_cases subdomains kept sound call draws with
      ⟨_, _, _, idle⟩ | ⟨_, user, _, _, late, _, _, _, locals_⟩
    · rw [idle] at saves
      cases saves
    · have both (other : κ) (given : AuthTokens)
          (answer : (turn (act deployment token passwords subdomains)
            (run (turn (act deployment token passwords subdomains)) (initial start) first)
            (call, draws)).locals other = .returned given) :
          (tokensOf ((run (turn (act deployment token passwords subdomains)) (initial start)
            (first ++ (call, draws) :: rest)).locals other)).isSome = true := by
        rw [run_append, run_cons, answer_stays subdomains _ rest answer]
        rfl
      refine apart (consumed.once earlier call (both earlier tokens ?_) (both call late ?_))
      · rw [locals_, Function.update_of_ne apart, returned]
      · rw [locals_, Function.update_self]
  · intro along
    have kept_ (configuration : Configuration κ Database AcceptStep) (input : κ × Draws)
        (holds : Sound deployment token passwords start configuration ∧
          ConsumedOnce deployment token passwords start configuration.shared
            (fun call => tokensOf (configuration.locals call)))
        (inTime : InTime deployment token start configuration input) :
        Sound deployment token passwords start
            (turn (act deployment token passwords subdomains) configuration input) ∧
          ConsumedOnce deployment token passwords start
            (turn (act deployment token passwords subdomains) configuration input).shared
            (fun call => tokensOf ((turn (act deployment token passwords subdomains)
              configuration input).locals call)) :=
      ⟨sound_turn subdomains kept holds.1 input,
        consumed_turn subdomains kept holds.1 holds.2 inTime⟩
    exact (run_preserves kept_ ⟨sound_initial, consumed_initial⟩ along).2

end Calls

/-- An institute whose teacher holds an invite token. -/
def invitedTeacher : Database where
  tenants := [{ id := .repeated '1', name := "Bright", subdomain := "bright", status := .active }]
  users :=
    [{ id := .repeated '2', tenantId := (ObjectId.repeated '1').hex, role := .teacher,
       name := "Teacher", email := "teacher@bright.test",
       inviteTokenHash := some "sha256:token", inviteExpiresAt := some 1000 }]

/-- The passwords of two acceptances of the token. -/
def twoPasswords : Bool → String
  | true => "first-pass"
  | false => "second-pass"

/-- The turns of two acceptances in an order. -/
def turnsOf (order : List Bool) : List (Bool × Draws) :=
  order.map (fun call =>
    (call,
      { now := 0, salt := "salt", inviteToken := "", tenantId := .repeated '3',
        userId := .repeated '3', auditId := .repeated '3' }))

/-- Two acceptances that take their steps in turn after the first one has been let through:
both answer with tokens. -/
theorem invite_consumed_twice :
    ¬ ConsumedOnce .marking "token" twoPasswords invitedTeacher
      (run (turn (act .marking "token" twoPasswords (fun _ => "bright"))) (initial invitedTeacher)
        (turnsOf [true, true, true, false, false, false, true, false])).shared
      (fun call => tokensOf ((run (turn (act .marking "token" twoPasswords (fun _ => "bright")))
        (initial invitedTeacher)
        (turnsOf [true, true, true, false, false, false, true, false])).locals call)) := by
  intro consumed
  have same : true = false := consumed.once true false (by decide +kernel) (by decide +kernel)
  cases same

/-- Two acceptances one after the other use the token once. -/
theorem invite_consumed_in_turn :
    ConsumedOnce .marking "token" twoPasswords invitedTeacher
      (run (turn (act .marking "token" twoPasswords (fun _ => "bright"))) (initial invitedTeacher)
        (turnsOf [true, true, true, true, false, false, false, false])).shared
      (fun call => tokensOf ((run (turn (act .marking "token" twoPasswords (fun _ => "bright")))
        (initial invitedTeacher)
        (turnsOf [true, true, true, true, false, false, false, false])).locals call)) :=
  (invite_consumed_once .marking "token" (fun _ => "bright") twoPasswords (by decide +kernel)
    _).1.mpr (by decide +kernel)

end InviteRaces

end CoachingApi
