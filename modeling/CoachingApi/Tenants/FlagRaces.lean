import Mathlib.Data.Fintype.Basic
import CoachingApi.Tenants.TenantsService
import CoachingApi.Library.Runs

/-!
# Concurrent changes of an institute's flags

Any number of changes of one institute's flags take their awaited steps in any order: the
institute is loaded and the flags are merged in memory, then the document is saved, then the
audit entry is written. A save writes the flags as a whole and looks at no version, so what
other calls have saved since the load is undone, but for the keys that the saving call gives
itself. No flag is lost exactly as long as every call that saves has caught up with the calls
that saved before it.
-/

namespace CoachingApi

open TenantsService Runs

/-- A call that changes flags: who makes it, for which institute, and the flags it gives. -/
structure FlagsCall where
  actor : String
  id : String
  dto : UpdateFlagsDto
  deriving DecidableEq

/-- Where a change of flags stands: before its institute is loaded, before the merged
document is saved, before the audit entry is written, or at its end. -/
inductive FlagsStep where
  | started
  | merged (loaded current : Tenant)
  | saved (current : Tenant)
  | returned (tenant : Tenant)
  | threw (thrown : Thrown)
  deriving DecidableEq

namespace FlagRaces

/-- `updateFlags` up to its next await. -/
def flagsStep (mixed : MixedPath Flags) (call : FlagsCall) (draws : Draws) (database : Database) :
    FlagsStep → Database × FlagsStep
  | .started =>
    match Tenant.findById call.id database.tenants with
    | .error thrown => (database, .threw thrown)
    | .ok none => (database, .threw (.notFound "Tenant not found"))
    | .ok (some tenant) => (database, .merged tenant (mergeFlags call.dto tenant))
  | .merged loaded current =>
    match Tenant.save mixed loaded current database.tenants with
    | .error thrown => (database, .threw thrown)
    | .ok tenants => ({ database with tenants := tenants }, .saved current)
  | .saved current =>
    (AuditService.record (flagsEntry call.actor draws call.id call.dto) database,
      .returned current)
  | .returned tenant => (database, .returned tenant)
  | .threw thrown => (database, .threw thrown)

/-- One call on its own takes a step. -/
def alone (mixed : MixedPath Flags) (call : FlagsCall) (state : Database × FlagsStep)
    (draws : Draws) : Database × FlagsStep :=
  flagsStep mixed call draws state.1 state.2

/-- A call on its own does what the whole change does. -/
theorem alone_updates (mixed : MixedPath Flags) (call : FlagsCall) (draws : Draws)
    (database : Database) :
    run (alone mixed call) (database, .started) [draws, draws, draws] =
      ((updateFlags mixed call.actor draws call.id call.dto database).1,
        match (updateFlags mixed call.actor draws call.id call.dto database).2 with
        | .ok tenant => .returned tenant
        | .error thrown => .threw thrown) := by
  simp only [run_cons, run_nil, alone, flagsStep, updateFlags]
  cases Tenant.findById call.id database.tenants with
  | error thrown => rfl
  | ok found =>
    cases found with
    | none => rfl
    | some tenant =>
      simp only
      cases Tenant.save mixed tenant (mergeFlags call.dto tenant) database.tenants with
      | error thrown => rfl
      | ok tenants => rfl

/-- A call whose save has landed. -/
def landed : FlagsStep → Bool
  | .saved _ => true
  | .returned _ => true
  | _ => false

/-- What a call has answered with. -/
def answerOf : FlagsStep → Option Tenant
  | .returned tenant => some tenant
  | _ => none

/-- The flags that a call loaded, when its save is due and writes the flags. -/
def overwriting (mixed : MixedPath Flags) : FlagsStep → Option Flags
  | .merged loaded current =>
    if current.refusedPath = none ∧ mixed.modifies loaded.flags current.flags = true then
      some loaded.flags
    else none
  | _ => none

/-- What an institute's flag reads in a database. -/
def flagOf (target : ObjectId) (database : Database) (key : String) : Option Bool :=
  (Records.lookup Tenant.id target database.tenants).bind (fun tenant => tenant.flags.read key)

section Values

variable {κ : Type} (given : κ → Flags)

/-- What is read under a key is a value that some call gives for it. -/
def Gives (key : String) (read : Option Bool) : Prop :=
  read.isSome = true ∧ ∃ call, (given call).read key = read

/-- Whether a value is given can be tested. -/
instance decidableGives [Fintype κ] (key : String) (read : Option Bool) :
    Decidable (Gives given key read) :=
  inferInstanceAs (Decidable (read.isSome = true ∧ ∃ call, (given call).read key = read))

/-- No flag of certain calls is lost: every key that one of them gives reads a value that a
call gives for it, and every key that no call gives reads as before. -/
structure Merged (among : κ → Prop) (before after : String → Option Bool) : Prop where
  present : ∀ call, among call → ∀ flag ∈ (given call).entries, Gives given flag.1 (after flag.1)
  kept : ∀ key, (∀ call, (given call).read key = none) → after key = before key

/-- Every key reads as before, or as one of certain calls gives it. -/
def Traced (among : κ → Prop) (before flags : Flags) : Prop :=
  ∀ key, flags.read key = before.read key ∨
    ∃ call, among call ∧ flags.read key = (given call).read key ∧
      ((given call).read key).isSome = true

variable {given} {among : κ → Prop} {before : Flags}

/-- A flag of a call is read under its key. -/
theorem read_entry {flags : Flags} {flag : String × Bool} (stored : flag ∈ flags.entries) :
    flags.read flag.1 = some flag.2 := PlainObject.read_some.mpr stored

/-- Nothing has been saved yet. -/
theorem traced_refl : Traced given among before before := fun _ => .inl rfl

/-- More calls leave more to trace flags to. -/
theorem Traced.more {later : κ → Prop} {flags : Flags} (traced : Traced given among before flags)
    (more : ∀ call, among call → later call) : Traced given later before flags := by
  intro key
  rcases traced key with same | ⟨call, earlier, read, gives⟩
  · exact .inl same
  · exact .inr ⟨call, more call earlier, read, gives⟩

/-- What a call merges is traced to the calls it loaded from and to itself. -/
theorem Traced.spread {flags : Flags} (traced : Traced given among before flags) (call : κ) :
    Traced given (fun other => among other ∨ other = call) before
      (flags.spread (given call)) := by
  intro key
  rw [PlainObject.read_spread]
  cases own : (given call).read key with
  | some value => exact .inr ⟨call, .inr rfl, by rw [own]; rfl, by rw [own]; rfl⟩
  | none =>
    rw [Option.none_or]
    exact traced.more (fun _ earlier => .inl earlier) key

/-- Flags traced to calls read as before under the keys that no call gives. -/
theorem Traced.kept {flags : Flags} (traced : Traced given among before flags) {key : String}
    (none_ : ∀ call, (given call).read key = none) : flags.read key = before.read key := by
  rcases traced key with same | ⟨call, _, _, gives⟩
  · exact same
  · rw [none_ call] at gives
    cases gives

/-- A save that writes the flags that a call merged loses none exactly when every key of an
earlier call is given by the saving call as well, or was loaded with a value given for it. -/
theorem merged_write_iff {loaded : Flags} (traced : Traced given among before loaded) (call : κ) :
    Merged given (fun other => among other ∨ other = call) before.read
        (loaded.spread (given call)).read ↔
      ∀ other, among other → ∀ flag ∈ (given other).entries,
        ((given call).read flag.1).isSome = true ∨ Gives given flag.1 (loaded.read flag.1) := by
  constructor
  · intro merged other earlier flag stored
    have present := merged.present other (.inl earlier) flag stored
    rw [PlainObject.read_spread] at present
    cases own : (given call).read flag.1 with
    | some value => exact .inl rfl
    | none =>
      rw [own, Option.none_or] at present
      exact .inr present
  · intro caughtUp
    refine ⟨?_, fun key none_ => (traced.spread call).kept none_⟩
    intro other included flag stored
    rw [PlainObject.read_spread]
    cases own : (given call).read flag.1 with
    | some value => exact ⟨rfl, call, own⟩
    | none =>
      rw [Option.none_or]
      rcases included with earlier | rfl
      · rcases caughtUp other earlier flag stored with both | read
        · rw [own] at both
          cases both
        · exact read
      · rw [read_entry stored] at own
        cases own

/-- A save that finds the flags merged by a call to be the ones it loaded, and writes none,
loses none. -/
theorem Merged.unwritten {loaded shared : Flags}
    (merged : Merged given among before.read shared.read)
    (tracedLoaded : Traced given among before loaded)
    (tracedShared : Traced given among before shared) {call : κ}
    (same : loaded.spread (given call) = loaded) :
    Merged given (fun other => among other ∨ other = call) before.read shared.read := by
  refine ⟨?_, merged.kept⟩
  rintro other (earlier | rfl) flag stored
  · exact merged.present other earlier flag stored
  · have own := read_entry stored
    have read : loaded.read flag.1 = some flag.2 := by
      rw [← same, PlainObject.read_spread, own]
      rfl
    rcases tracedShared flag.1 with unchanged | ⟨giver, _, taken, gives⟩
    · rcases tracedLoaded flag.1 with unread | ⟨giver, earlier, _, gives⟩
      · rw [unchanged, ← unread, read]
        exact ⟨rfl, other, own⟩
      · obtain ⟨value, entry⟩ := Option.isSome_iff_exists.mp gives
        exact merged.present giver earlier (flag.1, value) (PlainObject.read_some.mp entry)
    · exact ⟨taken ▸ gives, giver, taken.symm⟩

end Values

/-- The flags that a call gives. -/
def givenBy {κ : Type} (calls : κ → FlagsCall) (call : κ) : Flags := (calls call).dto.flags

/-- An institute with other flags. -/
def withFlags (flags : Flags) (tenant : Tenant) : Tenant := { tenant with flags := flags }

@[simp] theorem with_flags_read (flags : Flags) (tenant : Tenant) :
    (withFlags flags tenant).flags = flags := rfl

/-- The validators of an institute look at no flags. -/
@[simp] theorem with_flags_valid (flags : Flags) (tenant : Tenant) :
    (withFlags flags tenant).refusedPath = tenant.refusedPath := rfl

section Steps

variable {κ : Type} {given : κ → Flags} {among : κ → Prop} {start : Database} {tenant : Tenant}

/-- The institute is stored with certain flags, and nothing else about institutes has changed
since the start. -/
def Stored (start : Database) (tenant : Tenant) (flags : Flags) (database : Database) : Prop :=
  database.tenants =
    Records.modify Tenant.id tenant.id (withFlags flags) start.tenants

/-- The institute is stored with the flags it has at the start. -/
theorem stored_start (kept : Kept start) (member : tenant ∈ start.tenants) :
    Stored start tenant tenant.flags start := by
  refine (Records.modify_fixed (fun other stored same => ?_)).symm
  rw [Records.same_record kept.tenantIds stored member same]
  rfl

/-- A look-up of the institute finds it with its flags. -/
theorem Stored.lookup {flags : Flags} {database : Database}
    (stored : Stored start tenant flags database) (kept : Kept start)
    (member : tenant ∈ start.tenants) :
    Records.lookup Tenant.id tenant.id database.tenants = some (withFlags flags tenant) := by
  have keeps (other : Tenant) : (withFlags flags other).id = other.id := rfl
  rw [stored, Records.lookup_modify _ _ _ keeps, Records.lookup_stored kept.tenantIds member]
  simp

/-- The institute's flags read as they are stored. -/
theorem Stored.reads {flags : Flags} {database : Database}
    (stored : Stored start tenant flags database) (kept : Kept start)
    (member : tenant ∈ start.tenants) : flagOf tenant.id database = flags.read := by
  funext key
  rw [flagOf, stored.lookup kept member]
  rfl

/-- With the indexes kept, the save of a valid institute whose flags were merged succeeds,
whatever other calls have saved. -/
theorem Stored.save {flags : Flags} {database : Database}
    (stored : Stored start tenant flags database) (kept : Kept start)
    (member : tenant ∈ start.tenants) (valid : tenant.refusedPath = none)
    (mixed : MixedPath Flags) (loaded current : Flags) :
    ∃ tenants, Tenant.save mixed (withFlags loaded tenant) (withFlags current tenant)
        database.tenants = .ok tenants ∧
      Stored start tenant (if mixed.modifies loaded current then current else flags)
        { database with tenants := tenants } := by
  have indexed := kept.modify_tenants tenant.id
    (fun other => (⟨rfl, rfl⟩ : (withFlags flags other).id = other.id ∧
      (withFlags flags other).subdomain = other.subdomain))
  have ids : Records.Distinct Tenant.id database.tenants := stored ▸ indexed.tenantIds
  have subdomains : Records.Distinct Tenant.subdomain database.tenants :=
    stored ▸ indexed.subdomains
  have found := (Records.lookup_some (stored.lookup kept member)).1
  have accepted : (withFlags loaded tenant).refusedPath = none := valid
  refine ⟨_, Tenant.save_flags mixed current accepted ids subdomains found rfl, ?_⟩
  simp only [Stored] at stored ⊢
  rw [stored]
  exact Records.modify_twice (fun _ _ touched => touched)

/-- The document in a call's hands is the institute with flags that can be traced to calls
whose saves have landed, and what the call is to store merges its own flags over them. -/
def Holding (given : κ → Flags) (among : κ → Prop) (tenant : Tenant) (call : κ) :
    FlagsStep → Prop
  | .merged loaded current => ∃ flags, Traced given among tenant.flags flags ∧
      loaded = withFlags flags tenant ∧ current = withFlags (flags.spread (given call)) tenant
  | _ => True

/-- What a call holds it still holds after more saves have landed. -/
theorem Holding.more {later : κ → Prop} {call : κ} {step : FlagsStep}
    (holding : Holding given among tenant call step) (more : ∀ other, among other → later other) :
    Holding given later tenant call step := by
  cases step with
  | merged loaded current =>
    obtain ⟨flags, traced, same, merges⟩ := holding
    exact ⟨flags, traced.more more, same, merges⟩
  | started | saved | returned | threw => trivial

/-- What a step of a call does: it writes no institute and no save lands, or the call saves
the flags that it merged. -/
theorem flags_step_cases {calls : κ → FlagsCall} (kept : Kept start)
    (member : tenant ∈ start.tenants) (mixed : MixedPath Flags) {call : κ} (draws : Draws)
    (aimed : ObjectId.cast (calls call).id = some tenant.id) {flags : Flags} {database : Database}
    (stored : Stored start tenant flags database)
    (traced : Traced (givenBy calls) among tenant.flags flags)
    {step : FlagsStep}
    (holding : Holding (givenBy calls) among tenant call step) :
    ((flagsStep mixed (calls call) draws database step).1.tenants = database.tenants ∧
      landed (flagsStep mixed (calls call) draws database step).2 = landed step ∧
      Holding (givenBy calls) among tenant call
        (flagsStep mixed (calls call) draws database step).2 ∧
      overwriting mixed step = none) ∨
    ∃ loaded, Traced (givenBy calls) among tenant.flags loaded ∧
      overwriting mixed step =
        (if mixed.modifies loaded (loaded.spread (givenBy calls call)) then some loaded
        else none) ∧
      Stored start tenant
        (if mixed.modifies loaded (loaded.spread (givenBy calls call)) then
          loaded.spread (givenBy calls call)
        else flags)
        (flagsStep mixed (calls call) draws database step).1 ∧
      (flagsStep mixed (calls call) draws database step).2 =
        .saved (withFlags (loaded.spread (givenBy calls call)) tenant) := by
  cases step with
  | started =>
    have found : Tenant.findById (calls call).id database.tenants =
        .ok (some (withFlags flags tenant)) := by
      simp only [Tenant.findById, cast_id_ok.mpr aimed, stored.lookup kept member]
    have stepped : flagsStep mixed (calls call) draws database .started =
        (database, .merged (withFlags flags tenant)
          (mergeFlags (calls call).dto (withFlags flags tenant))) := by
      simp only [flagsStep, found]
    rw [stepped]
    exact .inl ⟨rfl, rfl, ⟨flags, traced, rfl, rfl⟩, rfl⟩
  | merged loaded current =>
    obtain ⟨before, tracedBefore, rfl, rfl⟩ := holding
    cases valid : tenant.refusedPath with
    | some path =>
      have stepped : flagsStep mixed (calls call) draws database
          (.merged (withFlags before tenant)
            (withFlags (before.spread (givenBy calls call)) tenant)) =
            (database, .threw (.validation path)) := by
        simp only [flagsStep, Tenant.save, with_flags_valid, valid]
      rw [stepped]
      exact .inl ⟨rfl, rfl, trivial, by simp [overwriting, valid]⟩
    | none =>
      obtain ⟨tenants, saved, stores⟩ := stored.save kept member valid mixed before
        (before.spread (givenBy calls call))
      simp only [flagsStep, saved]
      exact .inr ⟨before, tracedBefore, by simp [overwriting, valid], stores, rfl⟩
  | saved current => exact .inl ⟨AuditService.record_tenants _ _, rfl, trivial, rfl⟩
  | returned tenant => exact .inl ⟨rfl, rfl, trivial, rfl⟩
  | threw thrown => exact .inl ⟨rfl, rfl, trivial, rfl⟩

end Steps

section Calls

variable {κ : Type} (mixed : MixedPath Flags) (calls : κ → FlagsCall) (start : Database)
  (tenant : Tenant)

/-- A step of a call. -/
def act (call : κ) (draws : Draws) (database : Database) (step : FlagsStep) :
    Database × FlagsStep :=
  flagsStep mixed (calls call) draws database step

/-- Every call is to start. -/
def initial : Configuration κ Database FlagsStep := ⟨start, fun _ => .started⟩

/-- The save of a call has landed. -/
def Landed (configuration : Configuration κ Database FlagsStep) (call : κ) : Prop :=
  landed (configuration.locals call) = true

/-- No flag is lost of the calls whose saves have landed. -/
def NoneLost (target : ObjectId) (configuration : Configuration κ Database FlagsStep) : Prop :=
  Merged (givenBy calls) (Landed configuration) (flagOf target start)
    (flagOf target configuration.shared)

/-- A call whose save is due and writes the flags has caught up with the calls whose saves
have landed: every key that one of them gives it gives as well, or it has loaded a value that
a call gives for that key. -/
def CaughtUp (configuration : Configuration κ Database FlagsStep) (input : κ × Draws) : Prop :=
  ∀ loaded ∈ overwriting mixed (configuration.locals input.1),
    ∀ other, landed (configuration.locals other) = true →
      ∀ flag ∈ (givenBy calls other).entries,
        ((givenBy calls input.1).read flag.1).isSome = true ∨
          Gives (givenBy calls) flag.1 (loaded.read flag.1)

/-- Whether a call has caught up can be tested. -/
instance decidableCaughtUp [Fintype κ] (configuration : Configuration κ Database FlagsStep)
    (input : κ × Draws) : Decidable (CaughtUp mixed calls configuration input) :=
  inferInstanceAs (Decidable (∀ loaded ∈ overwriting mixed (configuration.locals input.1), _))

/-- What holds in every state the calls reach: the institute is stored with flags that can be
traced to calls whose saves have landed, and so is what every call holds. -/
structure Sound (configuration : Configuration κ Database FlagsStep) : Prop where
  flags : ∃ flags, Traced (givenBy calls) (Landed configuration) tenant.flags flags ∧
    Stored start tenant flags configuration.shared
  holding : ∀ call, Holding (givenBy calls) (Landed configuration) tenant call
    (configuration.locals call)

variable {calls start tenant}

/-- The calls begin soundly. -/
theorem sound_initial (kept : Kept start) (member : tenant ∈ start.tenants) :
    Sound calls start tenant (initial start) where
  flags := ⟨tenant.flags, traced_refl, stored_start kept member⟩
  holding := fun _ => trivial

/-- Before any call has taken a step no flag is lost. -/
theorem none_lost_initial (target : ObjectId) : NoneLost calls start target (initial start) where
  present := by
    intro call saved
    cases saved
  kept := fun _ _ => rfl

variable [DecidableEq κ]

/-- What a turn of a call does: no institute is written and no save lands, or the save of the
call lands and writes the flags that it merged, unless they are those it loaded. -/
theorem turn_cases (kept : Kept start) (member : tenant ∈ start.tenants)
    (aimed : ∀ call, ObjectId.cast (calls call).id = some tenant.id)
    {configuration : Configuration κ Database FlagsStep}
    (sound : Sound calls start tenant configuration) {flags : Flags}
    (traced : Traced (givenBy calls) (Landed configuration) tenant.flags flags)
    (stored : Stored start tenant flags configuration.shared) (call : κ) (draws : Draws) :
    (Stored start tenant flags (turn (act mixed calls) configuration (call, draws)).shared ∧
      Landed (turn (act mixed calls) configuration (call, draws)) = Landed configuration ∧
      (∀ other, Holding (givenBy calls) (Landed configuration) tenant other
        ((turn (act mixed calls) configuration (call, draws)).locals other)) ∧
      overwriting mixed (configuration.locals call) = none) ∨
    ∃ loaded, Traced (givenBy calls) (Landed configuration) tenant.flags loaded ∧
      overwriting mixed (configuration.locals call) =
        (if mixed.modifies loaded (loaded.spread (givenBy calls call)) then some loaded
        else none) ∧
      Stored start tenant
        (if mixed.modifies loaded (loaded.spread (givenBy calls call)) then
          loaded.spread (givenBy calls call)
        else flags)
        (turn (act mixed calls) configuration (call, draws)).shared ∧
      Landed (turn (act mixed calls) configuration (call, draws)) =
        (fun other => Landed configuration other ∨ other = call) ∧
      ∀ other, Holding (givenBy calls) (Landed configuration) tenant other
        ((turn (act mixed calls) configuration (call, draws)).locals other) := by
  rcases flags_step_cases kept member mixed draws (aimed call) stored traced
      (sound.holding call) with
    ⟨same, idle, holding, due⟩ | ⟨loaded, tracedLoaded, due, stores, saved⟩
  · refine .inl ⟨same.trans stored, ?_, turn_each _ sound.holding holding, due⟩
    funext other
    exact propext (Eq.congr_left (turn_each
      (fun party step => landed step = landed (configuration.locals party)) (fun _ => rfl) idle
      other))
  · refine .inr ⟨loaded, tracedLoaded, due, stores, ?_, ?_⟩
    · funext other
      by_cases acting : other = call
      · subst acting
        simp only [Landed, turn_own, act, saved]
        simp [landed]
      · simp only [Landed, turn_other _ _ _ _ _ acting]
        simp [acting]
    · refine turn_each _ sound.holding ?_
      simp only [act, saved]
      trivial

/-- Every turn keeps what holds in every state the calls reach. -/
theorem sound_turn (kept : Kept start) (member : tenant ∈ start.tenants)
    (aimed : ∀ call, ObjectId.cast (calls call).id = some tenant.id)
    {configuration : Configuration κ Database FlagsStep}
    (sound : Sound calls start tenant configuration) (input : κ × Draws) :
    Sound calls start tenant (turn (act mixed calls) configuration input) := by
  obtain ⟨call, draws⟩ := input
  obtain ⟨flags, traced, stored⟩ := sound.flags
  rcases turn_cases mixed kept member aimed sound traced stored call draws with
    ⟨stores, same, holding, _⟩ | ⟨loaded, tracedLoaded, _, stores, more, holding⟩
  · refine ⟨⟨flags, ?_, stores⟩, fun other => ?_⟩
    · rw [same]
      exact traced
    · rw [same]
      exact holding other
  · refine ⟨⟨_, ?_, stores⟩, fun other => ?_⟩
    · rw [more]
      split
      · exact tracedLoaded.spread call
      · exact traced.more (fun _ earlier => .inl earlier)
    · rw [more]
      exact (holding other).more (fun _ earlier => .inl earlier)

/-- A turn of calls that have lost no flag loses none exactly when its call has caught up. -/
theorem none_lost_turn_iff (kept : Kept start) (member : tenant ∈ start.tenants)
    (aimed : ∀ call, ObjectId.cast (calls call).id = some tenant.id)
    {configuration : Configuration κ Database FlagsStep}
    (sound : Sound calls start tenant configuration)
    (noneLost : NoneLost calls start tenant.id configuration) (input : κ × Draws) :
    NoneLost calls start tenant.id (turn (act mixed calls) configuration input) ↔
      CaughtUp mixed calls configuration input := by
  obtain ⟨call, draws⟩ := input
  obtain ⟨flags, traced, stored⟩ := sound.flags
  have before := (stored_start kept member).reads kept member
  unfold NoneLost at noneLost ⊢
  rw [before, stored.reads kept member] at noneLost
  rcases turn_cases mixed kept member aimed sound traced stored call draws with
    ⟨stores, same, _, idle⟩ | ⟨loaded, tracedLoaded, due, stores, more, _⟩
  · rw [before, stores.reads kept member, same]
    simp only [CaughtUp, idle]
    exact ⟨fun _ _ none_ => (by cases none_), fun _ => noneLost⟩
  · rw [before, stores.reads kept member, more]
    simp only [CaughtUp, due]
    cases modified : mixed.modifies loaded (loaded.spread (givenBy calls call)) with
    | true =>
      simp only [if_true, Option.mem_some_iff, forall_eq']
      exact merged_write_iff tracedLoaded call
    | false =>
      have same : loaded.spread (givenBy calls call) = loaded := by
        by_contra changed
        rw [mixed.changed _ _ changed] at modified
        cases modified
      simp only [Bool.false_eq_true, if_false]
      exact ⟨fun _ _ none_ => (by cases none_), fun _ =>
        noneLost.unwritten tracedLoaded traced same⟩

/-- For any number of concurrent changes of one institute's flags, with any flags, and for
every order of their steps: in every state reached no flag is lost of the calls whose saves
have landed if and only if every call that saves has caught up with those. Once all have
returned, then, every key that some call gives reads a value given for it and every other key
reads as before. The steps of a call on its own are what the change does.

Proof: the flags stored and the flags loaded are traced, key by key, to the start or to calls
whose saves have landed. A save that writes replaces the stored flags by those it loaded with
its own over them, and so loses exactly what earlier calls gave, it has not loaded and it
does not give. A save that writes nothing had loaded its own values already. -/
theorem flags_not_lost (mixed : MixedPath Flags) (calls : κ → FlagsCall) {start : Database}
    (kept : Kept start) {tenant : Tenant} (member : tenant ∈ start.tenants)
    (aimed : ∀ call, ObjectId.cast (calls call).id = some tenant.id) (inputs : List (κ × Draws)) :
    (Always (turn (act mixed calls)) (NoneLost calls start tenant.id) (initial start) inputs ↔
      Along (turn (act mixed calls)) (CaughtUp mixed calls) (initial start) inputs) ∧
    (Along (turn (act mixed calls)) (CaughtUp mixed calls) (initial start) inputs →
      (∀ call, (answerOf ((run (turn (act mixed calls)) (initial start) inputs).locals
        call)).isSome = true) →
      Merged (givenBy calls) (fun _ => True) (flagOf tenant.id start)
        (flagOf tenant.id (run (turn (act mixed calls)) (initial start) inputs).shared)) ∧
    ∀ call draws database,
      run (alone mixed call) (database, .started) [draws, draws, draws] =
        ((updateFlags mixed call.actor draws call.id call.dto database).1,
          match (updateFlags mixed call.actor draws call.id call.dto database).2 with
          | .ok tenant => .returned tenant
          | .error thrown => .threw thrown) := by
  have preserved (configuration : Configuration κ Database FlagsStep) (input : κ × Draws)
      (sound : Sound calls start tenant configuration) :
      Sound calls start tenant (turn (act mixed calls) configuration input) :=
    sound_turn mixed kept member aimed sound input
  have loses (configuration : Configuration κ Database FlagsStep) (input : κ × Draws)
      (sound : Sound calls start tenant configuration)
      (noneLost : NoneLost calls start tenant.id configuration) :
      NoneLost calls start tenant.id (turn (act mixed calls) configuration input) ↔
        CaughtUp mixed calls configuration input :=
    none_lost_turn_iff mixed kept member aimed sound noneLost input
  have always := always_iff_along preserved loses (sound_initial kept member)
    (none_lost_initial tenant.id) inputs
  refine ⟨always, fun along returned => ?_, alone_updates mixed⟩
  have noneLost : NoneLost calls start tenant.id
      (run (turn (act mixed calls)) (initial start) inputs) :=
    always.mpr along inputs [] (List.append_nil inputs).symm
  refine ⟨fun call _ => noneLost.present call ?_, noneLost.kept⟩
  have answered := returned call
  unfold Landed
  cases step : (run (turn (act mixed calls)) (initial start) inputs).locals call with
  | returned tenant => rfl
  | started | merged | saved | threw => simp [step, answerOf] at answered

end Calls

/-- An institute with a flag. -/
def flaggedInstitute : Tenant where
  id := .repeated '1'
  name := "Bright"
  subdomain := "bright"
  status := .active
  flags := ⟨[("attendance", true)], by decide⟩

/-- A database that holds the institute. -/
def flaggedDatabase : Database where
  tenants := [flaggedInstitute]

/-- Two changes that give different flags. -/
def twoChanges : Bool → FlagsCall
  | true =>
    { actor := "owner", id := (ObjectId.repeated '1').hex,
      dto := ⟨⟨[("feesOnline", true)], by decide⟩⟩ }
  | false =>
    { actor := "owner", id := (ObjectId.repeated '1').hex,
      dto := ⟨⟨[("parentApp", true)], by decide⟩⟩ }

/-- The turns of two changes in an order. -/
def turnsOf (order : List Bool) : List (Bool × Draws) :=
  order.map (fun call =>
    (call,
      { now := 0, salt := "", inviteToken := "", tenantId := .repeated '2',
        userId := .repeated '2', auditId := .repeated (if call then '3' else '4') }))

/-- Two changes that both load the institute before either saves it: both return, and the flag
of the one that saves first is lost. -/
theorem flag_lost :
    (∀ call, (answerOf ((run (turn (act .always twoChanges)) (initial flaggedDatabase)
        (turnsOf [true, false, true, false, true, false])).locals call)).isSome = true) ∧
      ¬ Merged (givenBy twoChanges) (fun _ => True)
        (flagOf flaggedInstitute.id flaggedDatabase)
        (flagOf flaggedInstitute.id (run (turn (act .always twoChanges)) (initial flaggedDatabase)
          (turnsOf [true, false, true, false, true, false])).shared) := by
  refine ⟨by decide +kernel, fun merged => ?_⟩
  have lost : ¬ Gives (givenBy twoChanges) "feesOnline"
      (flagOf flaggedInstitute.id (run (turn (act .always twoChanges)) (initial flaggedDatabase)
        (turnsOf [true, false, true, false, true, false])).shared "feesOnline") := by
    decide +kernel
  exact lost (merged.present true trivial ("feesOnline", true) (by decide))

/-- Two changes one after the other lose no flag. -/
theorem flags_kept_in_turn :
    Merged (givenBy twoChanges) (fun _ => True) (flagOf flaggedInstitute.id flaggedDatabase)
      (flagOf flaggedInstitute.id (run (turn (act .unlessEqual twoChanges)) (initial flaggedDatabase)
        (turnsOf [true, true, true, false, false, false])).shared) :=
  (flags_not_lost .unlessEqual twoChanges (by decide +kernel) (by decide) (by decide +kernel)
    (turnsOf [true, true, true, false, false, false])).2.1 (by decide +kernel) (by decide +kernel)

end FlagRaces

end CoachingApi
