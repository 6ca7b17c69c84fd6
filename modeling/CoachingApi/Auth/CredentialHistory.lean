import Mathlib.Data.List.Induction
import CoachingApi.Auth.CredentialRefinement

/-!
# What a run of credential calls has issued, used and set

The registry's invitations are read back to the calls of the run: a token is recorded
when an invitation of the run issued it, and used when an acceptance of the run took it.
The passwords change by a provisioning or an acceptance that succeeds and by no other
call, and a call of one tenant changes nothing for another.
-/

namespace CoachingApi

open TenantAuthService CredentialRegistry CredentialCall

variable {deployment : AuthDeployment} {tokens : Set String}

/-- An invitation of a tenant that succeeds and issues a token to an email until a time. -/
def Issues (deployment : AuthDeployment) (token tenantId email : String) (expiresAt : Int)
    (database : Database) (input : Draws × CredentialCall) : Prop :=
  (∃ dto, input.2 = .invite tenantId dto ∧ queryKey deployment dto.email = email) ∧
    input.1.inviteToken = token ∧
    input.1.now + INVITE_LIFETIME = expiresAt ∧
    (input.2.perform deployment input.1 database).2 = true

/-- An acceptance of a token that succeeds. -/
def Uses (deployment : AuthDeployment) (token : String) (database : Database)
    (input : Draws × CredentialCall) : Prop :=
  (∃ subdomain dto, input.2 = .acceptInvite subdomain dto ∧ dto.token = token) ∧
    (input.2.perform deployment input.1 database).2 = true

/-- The run issued the token to an email of a tenant, until a time. -/
def Issued (deployment : AuthDeployment) (calls : List (Draws × CredentialCall))
    (token tenantId email : String) (expiresAt : Int) : Prop :=
  Runs.Somewhere (credentialStep deployment) (Issues deployment token tenantId email expiresAt) {}
    calls

/-- The run used the token. -/
def Used (deployment : AuthDeployment) (calls : List (Draws × CredentialCall)) (token : String) :
    Prop :=
  Runs.Somewhere (credentialStep deployment) (Uses deployment token) {} calls

/-- A run that ends in a call issued a token before it, or by it. -/
theorem issued_last {calls : List (Draws × CredentialCall)} {last : Draws × CredentialCall}
    {token tenantId email : String} {expiresAt : Int} :
    Issued deployment (calls ++ [last]) token tenantId email expiresAt ↔
      Issued deployment calls token tenantId email expiresAt ∨
        Issues deployment token tenantId email expiresAt (reached deployment calls) last :=
  Runs.somewhere_last _ _ _ _ _

/-- A run that ends in a call used a token before it, or by it. -/
theorem used_last {calls : List (Draws × CredentialCall)} {last : Draws × CredentialCall}
    {token : String} :
    Used deployment (calls ++ [last]) token ↔
      Used deployment calls token ∨ Uses deployment token (reached deployment calls) last :=
  Runs.somewhere_last _ _ _ _ _

/-- The registry's invitations are those the run issued, used when the run used them. -/
structure Recorded (deployment : AuthDeployment) (calls : List (Draws × CredentialCall))
    (registry : Credentials) : Prop where
  issued : ∀ token tenantId email expiresAt,
    Issued deployment calls token tenantId email expiresAt ↔
      ∃ used, registry.invitations token = some ⟨tenantId, email, expiresAt, used⟩
  used : ∀ token invitation, registry.invitations token = some invitation →
    (invitation.used = true ↔ Used deployment calls token)
  unissued : ∀ token, registry.invitations token = none → ¬ Used deployment calls token

/-- A last call that neither issues nor uses a token, and leaves the invitations, leaves
the record. -/
theorem Recorded.quiet {calls : List (Draws × CredentialCall)} {before after : Credentials}
    (recorded : Recorded deployment calls before) {last : Draws × CredentialCall}
    (same : after.invitations = before.invitations)
    (noIssue : ∀ token tenantId email expiresAt, ¬ Issues deployment token tenantId email expiresAt
      (reached deployment calls) last)
    (noUse : ∀ token, ¬ Uses deployment token (reached deployment calls) last) :
    Recorded deployment (calls ++ [last]) after where
  issued := by
    intro token tenantId email expiresAt
    rw [issued_last, or_iff_left (noIssue token tenantId email expiresAt), same]
    exact recorded.issued token tenantId email expiresAt
  used := by
    intro token invitation held
    rw [used_last, or_iff_left (noUse token)]
    exact recorded.used token invitation (same ▸ held)
  unissued := by
    intro token absent
    rw [used_last, or_iff_left (noUse token)]
    exact recorded.unissued token (same ▸ absent)

/-- A last invitation that succeeds with a new token is recorded. -/
theorem Recorded.invited {calls : List (Draws × CredentialCall)} {registry : Credentials}
    (recorded : Recorded deployment calls registry) {draws : Draws} {tenantId : String}
    {dto : InviteUserDto} (unissued : registry.invitations draws.inviteToken = none)
    (succeeded : ((CredentialCall.invite tenantId dto).perform deployment draws
      (reached deployment calls)).2 = true) :
    Recorded deployment (calls ++ [(draws, .invite tenantId dto)])
      (registry.invited tenantId (queryKey deployment dto.email) draws.inviteToken
        (draws.now + INVITE_LIFETIME)) := by
  have noUse (token : String) : ¬ Uses deployment token
      (reached deployment calls) (draws, .invite tenantId dto) := by
    rintro ⟨⟨_, _, same, _⟩, _⟩
    cases same
  refine ⟨fun token otherTenant email expiresAt => ?_, fun token invitation held => ?_,
    fun token absent => ?_⟩
  · rw [issued_last]
    by_cases same : token = draws.inviteToken
    · subst same
      have fresh : ¬ Issued deployment calls draws.inviteToken otherTenant email expiresAt := by
        intro earlier
        obtain ⟨_, held⟩ := (recorded.issued _ _ _ _).mp earlier
        rw [unissued] at held
        cases held
      rw [or_iff_right fresh]
      simp only [Registry.invited, Function.update_self, Option.some.injEq, Invitation.mk.injEq]
      constructor
      · rintro ⟨⟨_, same, address⟩, _, expires, _⟩
        cases same
        exact ⟨false, rfl, address, expires, rfl⟩
      · rintro ⟨_, rfl, address, expires, _⟩
        exact ⟨⟨dto, rfl, address⟩, rfl, expires, succeeded⟩
    · have other : ¬ Issues deployment token otherTenant email expiresAt
          (reached deployment calls) (draws, .invite tenantId dto) :=
        fun issues => same issues.2.1.symm
      rw [or_iff_left other]
      simp only [Registry.invited, Function.update_of_ne same]
      exact recorded.issued token otherTenant email expiresAt
  · rw [used_last, or_iff_left (noUse token)]
    by_cases same : token = draws.inviteToken
    · subst same
      simp only [Registry.invited, Function.update_self, Option.some.injEq] at held
      subst held
      exact iff_of_false Bool.false_ne_true (recorded.unissued _ unissued)
    · simp only [Registry.invited, Function.update_of_ne same] at held
      exact recorded.used token invitation held
  · rw [used_last, or_iff_left (noUse token)]
    by_cases same : token = draws.inviteToken
    · exact recorded.unissued token (same ▸ unissued)
    · simp only [Registry.invited, Function.update_of_ne same] at absent
      exact recorded.unissued token absent

/-- A last acceptance that succeeds is recorded. -/
theorem Recorded.redeemed {calls : List (Draws × CredentialCall)} {registry : Credentials}
    (recorded : Recorded deployment calls registry) {draws : Draws} {subdomain : String}
    {dto : AcceptInviteDto} {invitation : Invitation String String}
    (issued : registry.invitations dto.token = some invitation)
    (succeeded : ((CredentialCall.acceptInvite subdomain dto).perform deployment draws
      (reached deployment calls)).2 = true) :
    Recorded deployment (calls ++ [(draws, .acceptInvite subdomain dto)])
      (registry.redeemed dto.token invitation dto.password) := by
  have noIssue (token tenantId email : String) (expiresAt : Int) :
      ¬ Issues deployment token tenantId email expiresAt
        (reached deployment calls) (draws, .acceptInvite subdomain dto) := by
    rintro ⟨⟨_, same, _⟩, _⟩
    cases same
  have otherUse {token : String} (apart : token ≠ dto.token) : ¬ Uses deployment token
      (reached deployment calls) (draws, .acceptInvite subdomain dto) := by
    rintro ⟨⟨_, _, same, held⟩, _⟩
    cases same
    exact apart held.symm
  refine ⟨fun token tenantId email expiresAt => ?_, fun token other held => ?_,
    fun token absent => ?_⟩
  · rw [issued_last, or_iff_left (noIssue token tenantId email expiresAt)]
    refine (recorded.issued token tenantId email expiresAt).trans ?_
    by_cases same : token = dto.token
    · subst same
      simp only [Registry.redeemed, Function.update_self, issued, Option.some.injEq]
      constructor
      · rintro ⟨_, rfl⟩
        exact ⟨true, rfl⟩
      · rintro ⟨_, spent⟩
        rw [Invitation.mk.injEq] at spent
        obtain ⟨rfl, rfl, rfl, _⟩ := spent
        exact ⟨invitation.used, rfl⟩
    · simp only [Registry.redeemed, Function.update_of_ne same]
  · rw [used_last]
    by_cases same : token = dto.token
    · subst same
      simp only [Registry.redeemed, Function.update_self, Option.some.injEq] at held
      subst held
      exact iff_of_true rfl (.inr ⟨⟨subdomain, dto, rfl, rfl⟩, succeeded⟩)
    · simp only [Registry.redeemed, Function.update_of_ne same] at held
      rw [or_iff_left (otherUse same)]
      exact recorded.used token other held
  · by_cases same : token = dto.token
    · subst same
      simp [Registry.redeemed] at absent
    · simp only [Registry.redeemed, Function.update_of_ne same] at absent
      rw [used_last, or_iff_left (otherUse same)]
      exact recorded.unissued token absent

/-- The record goes on with every call, by the effect it has. -/
theorem Recorded.step {calls : List (Draws × CredentialCall)} {registry after : Credentials}
    (recorded : Recorded deployment calls registry) {draws : Draws} {call : CredentialCall}
    {ok : Bool} (effect : Effect deployment draws registry call after ok)
    (outcome : (call.perform deployment draws
      (reached deployment calls)).2 = ok)
    (unissued : ∀ tenantId dto, call = .invite tenantId dto →
      registry.invitations draws.inviteToken = none) :
    Recorded deployment (calls ++ [(draws, call)]) after := by
  have failed (refused : ok = false) (same : after.invitations = registry.invitations) :
      Recorded deployment (calls ++ [(draws, call)]) after := by
    refine recorded.quiet same ?_ ?_
    · rintro token tenantId email expiresAt ⟨_, _, _, succeeded⟩
      exact Bool.false_ne_true (refused.symm.trans (outcome.symm.trans succeeded))
    · rintro token ⟨_, succeeded⟩
      exact Bool.false_ne_true (refused.symm.trans (outcome.symm.trans succeeded))
  have unrelated (noInvite : ∀ tenantId dto, call ≠ .invite tenantId dto)
      (noAccept : ∀ subdomain dto, call ≠ .acceptInvite subdomain dto)
      (same : after.invitations = registry.invitations) :
      Recorded deployment (calls ++ [(draws, call)]) after := by
    refine recorded.quiet same ?_ ?_
    · rintro token tenantId email expiresAt ⟨⟨dto, invites, _⟩, _⟩
      exact noInvite tenantId dto invites
    · rintro token ⟨⟨subdomain, dto, accepts, _⟩, _⟩
      exact noAccept subdomain dto accepts
  cases effect with
  | refused => exact failed rfl rfl
  | opened => exact failed rfl rfl
  | enrolled => exact unrelated (by simp) (by simp) rfl
  | invited tenantId dto => exact recorded.invited (unissued tenantId dto rfl) outcome
  | redeemed subdomain dto tenantId invitation _ redeems =>
    exact recorded.redeemed (Registry.redeemable_iff.mp redeems).1 outcome
  | standing => exact unrelated (by simp) (by simp) rfl
  | admitted => exact unrelated (by simp) (by simp) rfl

/-- The run's calls draw fresh and mention known tokens only. -/
def FreshRun (deployment : AuthDeployment) (tokens : Set String)
    (calls : List (Draws × CredentialCall)) : Prop :=
  Runs.Along (Runs.pair (credentialStep deployment) (registryStep deployment))
    (fun states input => Fresh input.1 tokens states.1 states.2 input.2) ({}, Registry.empty) calls

/-- A fresh run that ends in a call is a fresh run before it, and the call is fresh then. -/
theorem fresh_last {calls : List (Draws × CredentialCall)} {last : Draws × CredentialCall}
    (fresh : FreshRun deployment tokens (calls ++ [last])) :
    FreshRun deployment tokens calls ∧
      Fresh last.1 tokens (reached deployment calls) (registered deployment calls) last.2 := by
  obtain ⟨earlier, drawn, _⟩ := (Runs.along_append _ _ _ _ _).mp fresh
  rw [Runs.run_pair] at drawn
  exact ⟨earlier, drawn⟩

/-- The registry of a fresh run records what the run issued and used. -/
theorem run_recorded (injective : Set.InjOn deployment.sha256 tokens)
    (calls : List (Draws × CredentialCall)) (fresh : FreshRun deployment tokens calls) :
    Recorded deployment calls (registered deployment calls) := by
  induction calls using List.reverseRecOn with
  | nil =>
    refine ⟨?_, ?_, ?_⟩ <;>
      simp [Issued, Used, Runs.Somewhere, registered, Runs.run, Registry.empty]
  | append_singleton calls last inductionHypothesis =>
    obtain ⟨earlier, drawn⟩ := fresh_last fresh
    have recorded := inductionHypothesis earlier
    obtain ⟨draws, call⟩ := last
    have outcome := (call_refines injective (run_represents injective calls earlier) draws call
      drawn).1
    rw [registered, Runs.run_append]
    refine recorded.step (specify_effect deployment draws call _) outcome ?_
    rintro tenantId dto rfl
    exact drawn.2.2

/-- What a call of another tenant leaves alone: the tenant's name, standing and passwords. -/
theorem CredentialCall.Effect.elsewhere {draws : Draws} {registry after : Credentials}
    {call : CredentialCall} {ok : Bool} (effect : Effect deployment draws registry call after ok) {name tenantId : String}
    (resolved : registry.tenants name = some tenantId)
    (provisions : ∀ actor dto, call = .provision actor dto → tenantId ≠ draws.tenantId.hex)
    (accepts : ∀ subdomain dto, call = .acceptInvite subdomain dto →
      registry.tenants (queryKey deployment subdomain) ≠ some tenantId)
    (suspends : ∀ actor id status, call = .setStatus actor id status →
      (ObjectId.cast id).map ObjectId.hex ≠ some tenantId) :
    Registry.AgreeOn tenantId after registry ∧ after.tenants name = some tenantId := by
  cases effect with
  | refused => exact ⟨⟨rfl, rfl⟩, resolved⟩
  | opened actor dto free =>
    have apart : name ≠ queryKey deployment dto.subdomain := by
      rintro rfl
      rw [free] at resolved
      cases resolved
    exact ⟨Registry.opened_elsewhere registry _ (provisions actor dto rfl),
      (Function.update_of_ne apart _ _).trans resolved⟩
  | enrolled actor dto free =>
    have apart : name ≠ queryKey deployment dto.subdomain := by
      rintro rfl
      rw [free] at resolved
      cases resolved
    have elsewhere := provisions actor dto rfl
    have opened := Registry.opened_elsewhere registry (queryKey deployment dto.subdomain) elsewhere
    have enrolled := Registry.enrolled_elsewhere
      (registry.opened (queryKey deployment dto.subdomain) draws.tenantId.hex)
      (queryKey deployment dto.adminEmail) dto.adminPassword elsewhere
    exact ⟨⟨enrolled.1.trans opened.1, enrolled.2.trans opened.2⟩,
      (Function.update_of_ne apart _ _).trans resolved⟩
  | invited => exact ⟨⟨rfl, rfl⟩, resolved⟩
  | redeemed subdomain dto other invitation institute redeems =>
    have place := (Registry.redeemable_iff.mp redeems).2.1
    have apart : tenantId ≠ invitation.tenant := by
      rw [place]
      rintro rfl
      exact accepts subdomain dto rfl institute
    exact ⟨Registry.redeemed_elsewhere registry dto.token dto.password apart, resolved⟩
  | standing actor id status target casts =>
    have apart : tenantId ≠ target.hex := by
      rintro rfl
      exact suspends actor id status rfl (by rw [casts]; rfl)
    exact ⟨Registry.standing_elsewhere registry _ apart, resolved⟩
  | admitted => exact ⟨⟨rfl, rfl⟩, resolved⟩

/-- The passwords after a call: a provisioning that succeeds sets the administrator's, an
acceptance that succeeds sets the invited email's, and nothing else sets one. -/
def PasswordsAfter (deployment : AuthDeployment) (calls : List (Draws × CredentialCall))
    (draws : Draws) (registry after : Credentials) (call : CredentialCall) (ok : Bool) : Prop :=
  match call, ok with
  | .provision _ dto, true =>
    after.secrets = Registry.write registry.secrets draws.tenantId.hex
      (queryKey deployment dto.adminEmail) (some dto.adminPassword)
  | .acceptInvite _ dto, true =>
    ∃ tenantId email expiresAt, Issued deployment calls dto.token tenantId email expiresAt ∧
      after.secrets = Registry.write registry.secrets tenantId email (some dto.password)
  | _, _ => after.secrets = registry.secrets

/-- The passwords change by a provisioning and by an acceptance that succeed, only. -/
theorem CredentialCall.Effect.passwords {calls : List (Draws × CredentialCall)} {draws : Draws}
    {registry after : Credentials} {call : CredentialCall} {ok : Bool}
    (effect : Effect deployment draws registry call after ok)
    (recorded : Recorded deployment calls registry) :
    PasswordsAfter deployment calls draws registry after call ok := by
  cases effect with
  | refused call => cases call <;> rfl
  | opened => rfl
  | enrolled => rfl
  | invited => rfl
  | redeemed subdomain dto _ invitation _ redeems =>
    have held := (Registry.redeemable_iff.mp redeems).1
    exact ⟨invitation.tenant, invitation.address, invitation.expiresAt,
      (recorded.issued _ _ _ _).mpr ⟨invitation.used, held⟩, rfl⟩
  | standing => rfl
  | admitted => rfl

/-- An acceptance succeeds exactly when a token that the run issued in its tenant was not
used and has not expired. -/
theorem accepts_iff (injective : Set.InjOn deployment.sha256 tokens)
    {calls : List (Draws × CredentialCall)} (fresh : FreshRun deployment tokens calls)
    (draws : Draws) (subdomain : String) (dto : AcceptInviteDto) (known : dto.token ∈ tokens) :
    (TenantAuthService.acceptInvite deployment draws subdomain dto
      (reached deployment calls)).2.isOk = true ↔
      ∃ tenant email expiresAt,
        instituteOf deployment subdomain (reached deployment calls) = some tenant ∧
        Issued deployment calls dto.token tenant.id.hex email expiresAt ∧
        ¬ Used deployment calls dto.token ∧ draws.now ≤ expiresAt := by
  have represents := run_represents injective calls fresh
  have recorded := run_recorded injective calls fresh
  have outcome := (accept_invite_refines injective represents draws subdomain dto known).1
  have institutes : instituteOf deployment subdomain (reached deployment calls) =
      Records.lookup Tenant.subdomain (queryKey deployment subdomain)
        (reached deployment calls).tenants := rfl
  simp only [perform, specifyAcceptInvite, represents.resolves] at outcome
  rw [outcome, institutes]
  cases Records.lookup Tenant.subdomain (queryKey deployment subdomain)
      (reached deployment calls).tenants with
  | none => simp
  | some tenant =>
    cases redeems : (registered deployment calls).redeemable tenant.id.hex dto.token draws.now with
    | none =>
      simp only [Option.map_some, redeems, Bool.false_eq_true, false_iff]
      rintro ⟨_, email, expiresAt, same, issued, unused, unexpired⟩
      cases same
      obtain ⟨used, held⟩ := (recorded.issued _ _ _ _).mp issued
      have unspent : used = false := by
        cases spent : used with
        | false => rfl
        | true => exact False.elim (unused ((recorded.used _ _ held).mp spent))
      rw [Registry.redeemable_iff.mpr ⟨held, rfl, unspent, unexpired⟩] at redeems
      cases redeems
    | some invitation =>
      obtain ⟨held, place, unspent, unexpired⟩ := Registry.redeemable_iff.mp redeems
      simp only [Option.map_some, redeems, true_iff]
      refine ⟨tenant, invitation.address, invitation.expiresAt, rfl, ?_, ?_, unexpired⟩
      · rw [recorded.issued, ← place]
        exact ⟨invitation.used, held⟩
      · intro used
        rw [(recorded.used _ _ held).mpr used] at unspent
        cases unspent

namespace CredentialRefinement

/-- In every run of fresh calls from the empty store, the store refines the registry of
credentials: the calls succeed alike; a login on trimmed texts succeeds exactly when its
institute exists, is not suspended and its lower-case email holds the password; the
passwords are written by provisionings and acceptances that succeed; an acceptance succeeds
exactly when its token was issued in its tenant, is unused and has not expired; and no call
of one tenant moves a login of another.

Proof: the store represents the registry after every call, and the registry's invitations
are read back to the calls. -/
theorem credential_store_refines (deployment : AuthDeployment) (tokens : Set String)
    (injective : Set.InjOn deployment.sha256 tokens) (calls : List (Draws × CredentialCall))
    (fresh : FreshRun deployment tokens calls) :
    (∀ draws call, Fresh draws tokens (reached deployment calls) (registered deployment calls) call →
      (call.perform deployment draws (reached deployment calls)).2 =
        (call.specify deployment draws (registered deployment calls)).2) ∧
    (∀ now dto, Text.trim dto.subdomain = dto.subdomain → Text.trim dto.email = dto.email →
      ((TenantAuthService.login deployment now dto (reached deployment calls)).isOk = true ↔
        ∃ tenant ∈ (reached deployment calls).tenants,
          tenant.subdomain = deployment.toLowerCase.fold dto.subdomain ∧
          tenant.status ≠ .suspended ∧
          (registered deployment calls).secrets tenant.id.hex
            (deployment.toLowerCase.fold dto.email) = some dto.password)) ∧
    (∀ draws call, Fresh draws tokens (reached deployment calls) (registered deployment calls) call →
      PasswordsAfter deployment calls draws (registered deployment calls)
        (registered deployment (calls ++ [(draws, call)])) call
        (call.perform deployment draws (reached deployment calls)).2) ∧
    (∀ draws subdomain dto, dto.token ∈ tokens →
      ((TenantAuthService.acceptInvite deployment draws subdomain dto
          (reached deployment calls)).2.isOk = true ↔
        ∃ tenant email expiresAt,
          instituteOf deployment subdomain (reached deployment calls) = some tenant ∧
          Issued deployment calls dto.token tenant.id.hex email expiresAt ∧
          ¬ Used deployment calls dto.token ∧ draws.now ≤ expiresAt)) ∧
    (∀ draws call, Fresh draws tokens (reached deployment calls) (registered deployment calls) call →
      ∀ now dto tenant, instituteOf deployment dto.subdomain (reached deployment calls) = some tenant →
        call.tenantOf deployment draws (reached deployment calls) ≠ some tenant.id.hex →
        (TenantAuthService.login deployment now dto
            (call.perform deployment draws (reached deployment calls)).1).isOk =
          (TenantAuthService.login deployment now dto (reached deployment calls)).isOk) := by
  have represents := run_represents injective calls fresh
  refine ⟨fun draws call drawn => (call_refines injective represents draws call drawn).1,
    fun now dto subdomain email => ?_, fun draws call drawn => ?_,
    fun draws subdomain dto known => accepts_iff injective fresh draws subdomain dto known,
    fun draws call drawn now dto tenant institute elsewhere => ?_⟩
  · rw [login_refines represents, Registry.admits_iff,
      show queryKey deployment dto.subdomain = deployment.toLowerCase.fold dto.subdomain from
        deployment.toLowerCase.canonical_fold subdomain,
      show queryKey deployment dto.email = deployment.toLowerCase.fold dto.email from
        deployment.toLowerCase.canonical_fold email]
    constructor
    · rintro ⟨tenantId, resolved, unsuspended, secret⟩
      obtain ⟨tenant, stored, named, rfl⟩ := (represents.names _ _).mp resolved
      rw [represents.standings, Records.lookup_stored represents.kept.tenantIds stored]
        at unsuspended
      exact ⟨tenant, stored, named, by simpa using unsuspended, secret⟩
    · rintro ⟨tenant, stored, named, active, secret⟩
      refine ⟨tenant.id.hex, (represents.names _ _).mpr ⟨tenant, stored, named, rfl⟩, ?_, secret⟩
      rw [represents.standings, Records.lookup_stored represents.kept.tenantIds stored]
      simpa using active
  · have effect := specify_effect deployment draws call (registered deployment calls)
    rw [← (call_refines injective represents draws call drawn).1] at effect
    have step : registered deployment (calls ++ [(draws, call)]) =
        (call.specify deployment draws (registered deployment calls)).1 := Runs.run_append _ _ _ _
    rw [step]
    exact effect.passwords (run_recorded injective calls fresh)
  · obtain ⟨_, after⟩ := call_refines injective represents draws call drawn
    have effect := specify_effect deployment draws call (registered deployment calls)
    have resolved : (registered deployment calls).tenants (queryKey deployment dto.subdomain) =
        some tenant.id.hex := by
      rw [represents.resolves]
      exact congrArg (Option.map (fun found => found.id.hex)) institute
    obtain ⟨agree, kept⟩ := effect.elsewhere resolved
      (by rintro actor dto rfl; exact fun same => elsewhere (congrArg some same.symm))
      (by
        rintro subdomain dto rfl same
        rw [represents.resolves] at same
        exact elsewhere same)
      (by rintro actor id status rfl; exact elsewhere)
    rw [login_refines after, login_refines represents]
    exact Registry.admits_agree agree kept resolved _ _

/-- What the calls of a demonstration draw. -/
def drawsAt (now : Int) (inviteToken : String) (tenantId userId : Char) : Draws :=
  { now := now, salt := "salt", inviteToken := inviteToken, tenantId := .repeated tenantId,
    userId := .repeated userId, auditId := .repeated userId }

/-- Two institutes whose administrators share an email; a teacher joins the first one. -/
def twoInstitutes : List (Draws × CredentialCall) :=
  [(drawsAt 0 "" '1' '2', .provision "owner"
      { name := "Bright", subdomain := "bright", adminName := "Head",
        adminEmail := "Head@both.test", adminPassword := "bright-pass" }),
    (drawsAt 1 "" '3' '4', .provision "owner"
      { name := "North", subdomain := "north", adminName := "Head",
        adminEmail := "head@both.test", adminPassword := "north-pass" }),
    (drawsAt 2 "token" '5' '5', .invite (ObjectId.repeated '1').hex
      { email := "Teacher@bright.test", name := "Teacher", role := .teacher }),
    (drawsAt 3 "" '6' '6', .acceptInvite "Bright" { token := "token", password := "teacher-pass" })]

/-- The marking digest is injective. -/
theorem marking_injective : Set.InjOn AuthDeployment.marking.sha256 Set.univ := by
  intro first _ second _ same
  have letters : "sha256:" ++ first = "sha256:" ++ second := same
  rw [← String.toList_inj, String.toList_append, String.toList_append,
    List.append_cancel_left_eq, String.toList_inj] at letters
  exact letters

/-- The demonstration draws fresh. -/
theorem two_institutes_fresh : FreshRun .marking Set.univ twoInstitutes :=
  ⟨⟨by decide +kernel, by decide +kernel⟩, ⟨by decide +kernel, by decide +kernel⟩,
    ⟨by decide +kernel, Set.mem_univ _, by decide +kernel⟩, Set.mem_univ _, trivial⟩

/-- In the demonstration the first administrator logs in with its own password and not with
that of the same email elsewhere, and the teacher's token is not accepted again. -/
theorem two_institutes_logins :
    (TenantAuthService.login .marking 4
      { subdomain := "BRIGHT", email := "HEAD@both.test", password := "bright-pass" }
      (reached .marking twoInstitutes)).isOk = true ∧
    (TenantAuthService.login .marking 4
      { subdomain := "BRIGHT", email := "HEAD@both.test", password := "north-pass" }
      (reached .marking twoInstitutes)).isOk ≠ true ∧
    (TenantAuthService.acceptInvite .marking (drawsAt 4 "" '6' '6') "bright"
      { token := "token", password := "another-pass" }
      (reached .marking twoInstitutes)).2.isOk ≠ true := by
  obtain ⟨_, logins, _, accepts, _⟩ := credential_store_refines .marking Set.univ marking_injective
    twoInstitutes two_institutes_fresh
  refine ⟨?_, ?_, ?_⟩
  · rw [logins 4 _ (by decide +kernel) (by decide +kernel)]
    decide +kernel
  · rw [ne_eq, logins 4 _ (by decide +kernel) (by decide +kernel)]
    decide +kernel
  · rw [ne_eq, accepts (drawsAt 4 "" '6' '6') "bright" _ (Set.mem_univ _)]
    rintro ⟨_, _, _, _, _, unused, _⟩
    exact unused (.inr (.inr (.inr (.inl ⟨⟨"Bright", _, rfl, rfl⟩, by decide +kernel⟩))))

end CredentialRefinement

end CoachingApi
