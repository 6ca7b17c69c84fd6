import CoachingApi.Auth.InviteRaces
import CoachingApi.Common.ValidationPipe
import CoachingApi.Tenants.Provisioning

/-!
# The two requests that set a password

A provisioning takes a body of a class, so the pipe holds it to the validators of that
class. An acceptance takes an intersection of a class with an object type, whose metatype
is `Object`, so its body reaches the service as it was sent and its password is hashed
whatever its length. The stored hashes keep to the policy of 8 characters exactly as long
as every acceptance that redeems an invitation brings such a password itself.

Requests that a guard refuses reach neither handler and are left out. What the text of a
runtime type error says is left out too.
-/

namespace CoachingApi

open TenantContextStore TenantPlugin TenantAuthService Runs

/-- The properties of a provisioning's body. -/
def CreateTenantDto.properties (isEmail : String → Bool) : List Property :=
  [{ key := "name", validators :=
      [(Property.isString, "name must be a string"),
        (Property.isNotEmpty, "name should not be empty")] },
    { key := "subdomain", validators :=
      [(Property.matchesText matchesSubdomain,
        "subdomain must be lowercase alphanumeric/hyphen, 3-32 chars")] },
    { key := "planId", optional := true, validators :=
      [(Property.isMongoId, "planId must be a mongodb id")] },
    { key := "timezone", optional := true, validators :=
      [(Property.isString, "timezone must be a string")] },
    { key := "adminName", validators :=
      [(Property.isString, "adminName must be a string"),
        (Property.isNotEmpty, "adminName should not be empty")] },
    { key := "adminEmail", validators :=
      [(Property.matchesText isEmail, "adminEmail must be an email")] },
    { key := "adminPassword", validators :=
      [(Property.isString, "adminPassword must be a string"),
        (Property.minLength 8, "adminPassword must be longer than or equal to 8 characters")] }]

/-- A provisioning's body as the service reads it. -/
def CreateTenantDto.ofFields (fields : List (String × Json)) : CreateTenantDto where
  name := (Json.text (Json.read fields "name")).getD ""
  subdomain := (Json.text (Json.read fields "subdomain")).getD ""
  planId := Json.text (Json.read fields "planId")
  timezone := Json.text (Json.read fields "timezone")
  adminName := (Json.text (Json.read fields "adminName")).getD ""
  adminEmail := (Json.text (Json.read fields "adminEmail")).getD ""
  adminPassword := (Json.text (Json.read fields "adminPassword")).getD ""

/-- The properties of an acceptance's body. -/
def AcceptInviteDto.properties : List Property :=
  [{ key := "token", validators :=
      [(Property.isString, "token must be a string"),
        (Property.isNotEmpty, "token should not be empty")] },
    { key := "password", validators :=
      [(Property.isString, "password must be a string"),
        (Property.minLength 8, "password must be longer than or equal to 8 characters")] }]

/-- What the reflected type of an acceptance's body records. Its static type is
`AcceptInviteDto & { subdomain: string }`. -/
def TenantAuthController.acceptInviteMetatype : Metatype := .object

/-- What the provisioning's pipe lets through its validators accept. -/
theorem provision_accepted {isEmail : String → Bool} {body value : Json}
    (passed : ValidationPipe.transform (.declared (CreateTenantDto.properties isEmail)) body =
      .ok value) : (CreateTenantDto.ofFields value.fields).accepted isEmail = true := by
  have each := ValidationPipe.transform_accepts passed
  simp only [CreateTenantDto.properties, List.forall_mem_cons, List.not_mem_nil, false_implies,
    implies_true, Property.refusals_required, Property.refusals_optional, and_true] at each
  obtain ⟨⟨nameString, nameFilled⟩, subdomain, planId, _, ⟨adminString, adminFilled⟩, adminEmail,
    _, adminPassword⟩ := each
  have planned : (Json.text (Json.read value.fields "planId")).all
      Property.isMongoIdText = true := by
    rcases planId with unset | identity
    · cases given : Json.read value.fields "planId" with
      | none => rfl
      | some planId =>
        cases planId with
        | null => rfl
        | bool | number | string | array | object => simp [given, Property.isNil] at unset
    · unfold Property.isMongoId Property.matchesText at identity
      cases read : Json.text (Json.read value.fields "planId") with
      | none => rfl
      | some planId => simpa [read] using identity
  simp only [CreateTenantDto.accepted, CreateTenantDto.ofFields, Bool.and_eq_true]
  exact ⟨⟨⟨⟨⟨decide_eq_true (Property.text_nonempty nameString nameFilled),
    Property.text_matches subdomain⟩, planned⟩,
    decide_eq_true (Property.text_nonempty adminString adminFilled)⟩,
    Property.text_matches adminEmail⟩, Property.text_matches adminPassword⟩

/-- What the request handlers have beyond the services: a test for email addresses, and the
hashing library's answer to any value, which for a text is its hash. -/
structure RequestDeployment extends AuthDeployment where
  isEmail : String → Bool
  hashValue : (salt : String) → Option Json → Except Thrown String
  hash_text : ∀ salt plain,
    hashValue salt (some (.string plain)) = .ok (passwords.hash salt plain)

namespace PasswordPolicy

/-- `acceptInvite` of a body that nothing has validated. -/
def acceptInviteBody (deployment : RequestDeployment) (draws : Draws) (body : Json)
    (database : Database) : Database × Except Thrown AuthTokens :=
  match Json.text (Json.read body.fields "subdomain") with
  | none => (database, .error (.error "TypeError"))
  | some subdomain =>
    match instituteOf deployment.toAuthDeployment subdomain database with
    | none => (database, .error (.notFound "Institute not found"))
    | some tenant =>
      match Json.text (Json.read body.fields "token") with
      | none => (database, .error (.error "TypeError"))
      | some token =>
        match TenantModel.findOne (contextOf (some tenant.id.hex))
            (fun user => decide (user.inviteTokenHash = some (deployment.sha256 token)))
            database.users with
        | .error thrown => (database, .error thrown)
        | .ok none => (database, .error (.badRequest "Invalid or expired invite"))
        | .ok (some user) =>
          if inviteOver draws.now user then
            (database, .error (.badRequest "Invalid or expired invite"))
          else
            match deployment.hashValue draws.salt (Json.read body.fields "password") with
            | .error thrown => (database, .error thrown)
            | .ok passwordHash =>
              match TenantModel.save (contextOf (some tenant.id.hex)) user
                  (acceptedUser passwordHash user) database.users with
              | .error thrown => (database, .error thrown)
              | .ok (saved, users) =>
                ({ database with users := users },
                  .ok (TokenService.issueTenantTokens deployment.toAuthDeployment draws.now
                    { userId := saved.id.hex, tenantId := tenant.id.hex, role := saved.role }))

/-- A body of texts is accepted as the service accepts it. -/
theorem accept_body_texts (deployment : RequestDeployment) (draws : Draws) {body : Json}
    {subdomain token password : String} (database : Database)
    (named : Json.read body.fields "subdomain" = some (.string subdomain))
    (presented : Json.read body.fields "token" = some (.string token))
    (chosen : Json.read body.fields "password" = some (.string password)) :
    acceptInviteBody deployment draws body database =
      acceptInvite deployment.toAuthDeployment draws subdomain
        { token := token, password := password } database := by
  have texts : Json.text (Json.read body.fields "subdomain") = some subdomain ∧
      Json.text (Json.read body.fields "token") = some token := by
    rw [named, presented]
    exact ⟨rfl, rfl⟩
  unfold acceptInviteBody acceptInvite
  rw [texts.1, texts.2]
  cases institute : instituteOf deployment.toAuthDeployment subdomain database with
  | none => simp [institute]
  | some tenant =>
    cases found : TenantModel.findOne (contextOf (some tenant.id.hex))
        (fun user : User => decide (user.inviteTokenHash = some (deployment.sha256 token)))
        database.users with
    | error thrown => simp [institute, found]
    | ok read =>
      cases read with
      | none => simp [institute, found]
      | some user =>
        cases elapsed : inviteOver draws.now user with
        | true => simp [institute, found, elapsed]
        | false =>
          cases saved : TenantModel.save (contextOf (some tenant.id.hex)) user
              (acceptedUser (deployment.passwords.hash draws.salt password) user)
              database.users with
          | error thrown => simp [institute, found, elapsed, chosen, deployment.hash_text, saved]
          | ok outcome => simp [institute, found, elapsed, chosen, deployment.hash_text, saved]

/-- A request that sets a password; a provisioning names the platform user who sends it. -/
inductive PasswordRequest where
  | provision (actor : String) (body : Json)
  | acceptInvite (body : Json)

/-- What a request answers. -/
inductive PasswordAnswer where
  | provisioned (tenantId : String)
  | accepted (tokens : AuthTokens)

/-- Handle a request: its body passes the pipe and then reaches its service. -/
def handle (deployment : RequestDeployment) (draws : Draws) (database : Database) :
    PasswordRequest → Database × Except Thrown PasswordAnswer
  | .provision actor body =>
    match ValidationPipe.transform (.declared (CreateTenantDto.properties deployment.isEmail))
        body with
    | .error thrown => (database, .error thrown)
    | .ok value =>
      let outcome := TenantsService.provision deployment.toAuthDeployment actor draws
        (CreateTenantDto.ofFields value.fields) database
      (outcome.1, outcome.2.map .provisioned)
  | .acceptInvite body =>
    match ValidationPipe.transform TenantAuthController.acceptInviteMetatype body with
    | .error thrown => (database, .error thrown)
    | .ok value =>
      let outcome := acceptInviteBody deployment draws value database
      (outcome.1, outcome.2.map .accepted)

/-- The store after a request. -/
def step (deployment : RequestDeployment) (database : Database)
    (input : Draws × PasswordRequest) : Database :=
  (handle deployment input.1 database input.2).1

/-- The hash of a text of at least 8 characters, as validators count them. -/
def MeetsPolicy (deployment : RequestDeployment) (passwordHash : String) : Prop :=
  ∃ salt plain, 8 ≤ Text.characters plain ∧ passwordHash = deployment.passwords.hash salt plain

/-- Every stored password hash meets the policy. -/
def PolicyKept (deployment : RequestDeployment) (database : Database) : Prop :=
  ∀ user ∈ database.users, ∀ passwordHash, user.passwordHash = some passwordHash →
    MeetsPolicy deployment passwordHash

/-- A password that keeps to the policy: a text of at least 8 characters, or what is no text
and is refused by the hashing library or hashed as such a text. -/
def LongPassword (deployment : RequestDeployment) (salt : String) : Option Json → Prop
  | some (.string plain) => 8 ≤ Text.characters plain
  | value => ∀ passwordHash, deployment.hashValue salt value = .ok passwordHash →
    MeetsPolicy deployment passwordHash

/-- An acceptance that finds an invitation to redeem brings a password that keeps to the
policy. -/
def Guarded (deployment : RequestDeployment) (database : Database)
    (input : Draws × PasswordRequest) : Prop :=
  match input.2 with
  | .provision _ _ => True
  | .acceptInvite body => ∀ subdomain token,
      Json.text (Json.read body.fields "subdomain") = some subdomain →
      Json.text (Json.read body.fields "token") = some token →
      Redeemable deployment.toAuthDeployment input.1.now subdomain
        { token := token, password := "" } database →
      LongPassword deployment input.1.salt (Json.read body.fields "password")

section Requests

variable {deployment : RequestDeployment}

/-- A hash is that of one text. -/
theorem hash_determines {salt otherSalt plain other : String}
    (same : deployment.passwords.hash salt plain = deployment.passwords.hash otherSalt other) :
    plain = other := by
  have verified := deployment.passwords.verifies salt plain plain
  rw [same, deployment.passwords.verifies, Except.ok.injEq, decide_eq_decide] at verified
  exact verified.mpr rfl

/-- A password keeps to the policy exactly when its hash, if it has one, meets it. -/
theorem long_password_iff {salt : String} {value : Option Json} :
    LongPassword deployment salt value ↔
      ∀ passwordHash, deployment.hashValue salt value = .ok passwordHash →
        MeetsPolicy deployment passwordHash := by
  unfold LongPassword
  split
  · rename_i plain
    rw [deployment.hash_text]
    constructor
    · rintro long passwordHash hashed
      exact ⟨salt, plain, long, (Except.ok.inj hashed).symm⟩
    · intro hashes
      obtain ⟨otherSalt, other, long, same⟩ := hashes _ rfl
      rw [hash_determines same]
      exact long
  · exact Iff.rfl

/-- The class of an acceptance's body asks for such a password. The handler's parameter has
another metatype, so nothing asks. -/
theorem accept_class_long (deployment : RequestDeployment) (salt : String) {body value : Json}
    (passed : ValidationPipe.transform (.declared AcceptInviteDto.properties) body = .ok value) :
    LongPassword deployment salt (Json.read value.fields "password") := by
  have each := ValidationPipe.transform_accepts passed
  simp only [AcceptInviteDto.properties, List.forall_mem_cons, List.not_mem_nil, false_implies,
    implies_true, Property.refusals_required, and_true] at each
  obtain ⟨_, _, long⟩ := each
  unfold Property.minLength Property.matchesText at long
  cases read : Json.read value.fields "password" with
  | none => simp [read, Json.text] at long
  | some password =>
    cases password with
    | string plain =>
      simp only [read, Json.text, Option.any_some, decide_eq_true_eq] at long
      exact long
    | null | bool | number | array | object => simp [read, Json.text] at long

/-- What an acceptance does with a body: it writes nothing, or it stores the hash of the
body's password for the user whose invitation it redeems. -/
theorem accept_body_cases {database : Database} (kept : Kept database) (draws : Draws)
    (body : Json) :
    ((acceptInviteBody deployment draws body database).1 = database ∧
      ∀ subdomain token, Json.text (Json.read body.fields "subdomain") = some subdomain →
        Json.text (Json.read body.fields "token") = some token →
        Redeemable deployment.toAuthDeployment draws.now subdomain
          { token := token, password := "" } database →
        ∀ passwordHash, deployment.hashValue draws.salt (Json.read body.fields "password") ≠
          .ok passwordHash) ∨
    ∃ subdomain token passwordHash, ∃ user ∈ database.users,
      Json.text (Json.read body.fields "subdomain") = some subdomain ∧
      Json.text (Json.read body.fields "token") = some token ∧
      Redeemable deployment.toAuthDeployment draws.now subdomain
        { token := token, password := "" } database ∧
      deployment.hashValue draws.salt (Json.read body.fields "password") = .ok passwordHash ∧
      (acceptInviteBody deployment draws body database).1 =
        { database with
          users := Records.modify User.id user.id (fun _ => acceptedUser passwordHash user)
            database.users } := by
  unfold acceptInviteBody
  cases named : Json.text (Json.read body.fields "subdomain") with
  | none => exact .inl ⟨rfl, by simp⟩
  | some subdomain =>
    simp only
    cases institute : instituteOf deployment.toAuthDeployment subdomain database with
    | none =>
      refine .inl ⟨rfl, ?_⟩
      rintro _ _ ⟨rfl⟩ _ ⟨tenant, _, resolved, _⟩
      rw [institute] at resolved
      cases resolved
    | some tenant =>
      simp only
      cases presented : Json.text (Json.read body.fields "token") with
      | none => exact .inl ⟨rfl, by simp⟩
      | some token =>
        simp only [find_one_first tenant.id.hex_nonempty]
        cases found : firstOf tenant.id.hex
            (fun user => decide (user.inviteTokenHash = some (deployment.sha256 token)))
            database.users with
        | none =>
          refine .inl ⟨rfl, ?_⟩
          rintro _ _ ⟨rfl⟩ ⟨rfl⟩ ⟨other, user, resolved, redeemed, _⟩
          rw [institute, Option.some.injEq] at resolved
          subst resolved
          rw [found] at redeemed
          cases redeemed
        | some user =>
          cases elapsed : inviteOver draws.now user with
          | true =>
            refine .inl ⟨by simp [elapsed], ?_⟩
            rintro _ _ ⟨rfl⟩ ⟨rfl⟩ ⟨other, holder, resolved, redeemed, open_⟩
            rw [institute, Option.some.injEq] at resolved
            subst resolved
            rw [found, Option.some.injEq] at redeemed
            rw [← redeemed, elapsed] at open_
            cases open_
          | false =>
            obtain ⟨stored, owned, _⟩ := first_of_some found
            cases hashed : deployment.hashValue draws.salt (Json.read body.fields "password") with
            | error thrown => exact .inl ⟨by simp [elapsed], by simp⟩
            | ok passwordHash =>
              refine .inr ⟨subdomain, token, passwordHash, user, stored, rfl, rfl,
                ⟨tenant, user, institute, found, elapsed⟩, rfl, ?_⟩
              have saved := InviteRaces.save_accepted kept
                (InviteRaces.redeemed_refl "" database.users) stored owned passwordHash
              rw [InviteRaces.accepted_replaces kept.userIds stored] at saved
              simp [elapsed, saved]

/-- A request keeps the indexes and validators of the store. -/
theorem step_kept {database : Database} (kept : Kept database) (input : Draws × PasswordRequest) :
    Kept (step deployment database input) := by
  obtain ⟨draws, request⟩ := input
  cases request with
  | provision actor body =>
    simp only [step, handle]
    cases ValidationPipe.transform (.declared (CreateTenantDto.properties deployment.isEmail))
        body with
    | error thrown => exact kept
    | ok value => exact (TenantsService.provision_kept kept _ actor draws _).1
  | acceptInvite body =>
    simp only [step, handle, TenantAuthController.acceptInviteMetatype, ValidationPipe.transform]
    rcases accept_body_cases kept draws body with
      ⟨same, _⟩ | ⟨_, _, passwordHash, user, stored, _, _, _, _, after⟩
    · rw [same]
      exact kept
    · rw [after]
      exact kept.replace_user stored rfl rfl rfl rfl

/-- A request keeps the policy exactly when an acceptance that redeems brings a password that
keeps to it. A provisioning's password has passed its validators. -/
theorem step_policy {database : Database} (kept : Kept database)
    (policy : PolicyKept deployment database) (input : Draws × PasswordRequest) :
    PolicyKept deployment (step deployment database input) ↔
      Guarded deployment database input := by
  obtain ⟨draws, request⟩ := input
  cases request with
  | provision actor body =>
    refine ⟨fun _ => trivial, fun _ => ?_⟩
    simp only [step, handle]
    cases passed : ValidationPipe.transform
        (.declared (CreateTenantDto.properties deployment.isEmail)) body with
    | error thrown => exact policy
    | ok value =>
      simp only
      rcases (TenantsService.provision_kept kept deployment.toAuthDeployment actor draws
          (CreateTenantDto.ofFields value.fields)).2 with same | seeded
      · intro user stored
        rw [same] at stored
        exact policy user stored
      · intro user stored passwordHash hashed
        rw [seeded] at stored
        rcases List.mem_append.mp stored with earlier | added
        · exact policy user earlier passwordHash hashed
        · obtain rfl := List.mem_singleton.mp added
          have accepted := provision_accepted passed
          simp only [CreateTenantDto.accepted, Bool.and_eq_true, decide_eq_true_eq] at accepted
          exact ⟨draws.salt, _, accepted.2, (Option.some.inj hashed).symm⟩
  | acceptInvite body =>
    simp only [step, handle, TenantAuthController.acceptInviteMetatype, ValidationPipe.transform]
    rcases accept_body_cases kept draws body with
      ⟨same, unhashed⟩ | ⟨subdomain, token, passwordHash, user, stored, named, presented,
        redeemable, hashed, after⟩
    · rw [same]
      refine ⟨fun _ => ?_, fun _ => policy⟩
      intro subdomain token named presented redeemable
      refine long_password_iff.mpr ?_
      intro passwordHash hashed
      exact False.elim (unhashed subdomain token named presented redeemable passwordHash hashed)
    · rw [after]
      constructor
      · intro policyAfter
        have meets := policyAfter (acceptedUser passwordHash user) (Records.modify_same stored)
          passwordHash rfl
        intro _ _ _ _ _
        refine long_password_iff.mpr ?_
        intro other otherHashed
        rw [hashed] at otherHashed
        exact Except.ok.inj otherHashed ▸ meets
      · intro guarded other member otherHash otherHashed
        rcases Records.mem_replace member with rfl | ⟨earlier, _⟩
        · have long := guarded subdomain token named presented redeemable
          rw [← Option.some.inj otherHashed]
          exact long_password_iff.mp long passwordHash hashed
        · exact policy other earlier otherHash otherHashed

/-- For every run of requests with any bodies: the policy holds in every state reached if and
only if every acceptance that redeems an invitation brings a text of at least 8 characters
(or what is no text and is not hashed as a shorter one). What the class of an acceptance's body
asks for is enough, and a body of texts is accepted as the service accepts it.

Proof: a provisioning's body has passed its validators, so only an acceptance can store the hash
of a shorter text, and one that redeems an invitation stores the hash of what it brings. -/
theorem password_policy_iff (deployment : RequestDeployment) {start : Database}
    (kept : Kept start) (policy : PolicyKept deployment start)
    (inputs : List (Draws × PasswordRequest)) :
    (Always (step deployment) (PolicyKept deployment) start inputs ↔
      Along (step deployment) (Guarded deployment) start inputs) ∧
    (∀ salt body value,
      ValidationPipe.transform (.declared AcceptInviteDto.properties) body = .ok value →
        LongPassword deployment salt (Json.read value.fields "password")) ∧
    ∀ draws body subdomain token password database,
      Json.read body.fields "subdomain" = some (.string subdomain) →
      Json.read body.fields "token" = some (.string token) →
      Json.read body.fields "password" = some (.string password) →
        acceptInviteBody deployment draws body database =
          acceptInvite deployment.toAuthDeployment draws subdomain
            { token := token, password := password } database := by
  refine ⟨?_, fun salt _ _ passed => accept_class_long deployment salt passed,
    fun draws _ _ _ _ database => accept_body_texts deployment draws database⟩
  refine always_iff_along ?_ ?_ kept policy inputs
  · exact fun database input kept => step_kept kept input
  · exact fun database input kept policy => step_policy kept policy input

end Requests

/-- The marking deployment; it hashes no value but a text. -/
def markingRequests : RequestDeployment where
  toAuthDeployment := .marking
  isEmail := fun text => text.toList.contains '@'
  hashValue := fun _ value =>
    match value with
    | some (.string plain) => .ok ("$argon2id$" ++ plain)
    | _ => .error (.error "TypeError")
  hash_text := fun _ _ => rfl

/-- The body of an acceptance of the demonstration's token. -/
def acceptanceBody (password : String) : Json :=
  .object [("subdomain", .string "bright"), ("token", .string "token"),
    ("password", .string password)]

/-- The body of a provisioning with a password. -/
def provisionBody (password : String) : Json :=
  .object [("name", .string "North"), ("subdomain", .string "north"),
    ("adminName", .string "Head"), ("adminEmail", .string "head@north.test"),
    ("adminPassword", .string password)]

/-- What the requests of a demonstration draw. -/
def requestDraws : Draws :=
  { now := 0, salt := "salt", inviteToken := "", tenantId := .repeated '5',
    userId := .repeated '6', auditId := .repeated '7' }

/-- The validators of a provisioning refuse a short password. -/
example : (handle markingRequests requestDraws InviteRaces.invitedTeacher
    (.provision "owner" (provisionBody "short"))).2.isOk = false := by decide +kernel

/-- A short password of an acceptance is stored. -/
theorem short_password_stored :
    ¬ PolicyKept markingRequests (run (step markingRequests) InviteRaces.invitedTeacher
      [(requestDraws, .acceptInvite (acceptanceBody "short"))]) := by
  intro policy
  obtain ⟨salt, plain, long, same⟩ := policy _ (List.mem_singleton.mpr rfl) "$argon2id$short" rfl
  have equal : "short" = plain :=
    hash_determines (show markingRequests.passwords.hash "" "short" = _ from same)
  rw [← equal] at long
  revert long
  decide

/-- A provisioning and an acceptance, both with long passwords. -/
theorem long_passwords_kept :
    Always (step markingRequests) (PolicyKept markingRequests) InviteRaces.invitedTeacher
      [(requestDraws, .provision "owner" (provisionBody "north-pass")),
        (requestDraws, .acceptInvite (acceptanceBody "teacher-pass"))] := by
  have long : 8 ≤ Text.characters "teacher-pass" := by decide
  have unset : PolicyKept markingRequests InviteRaces.invitedTeacher := by
    intro user stored passwordHash hashed
    obtain rfl := List.mem_singleton.mp stored
    cases hashed
  exact (password_policy_iff markingRequests (by decide +kernel) unset _).1.mpr
    ⟨trivial, fun _ _ _ _ _ => long, trivial⟩

end PasswordPolicy

end CoachingApi
