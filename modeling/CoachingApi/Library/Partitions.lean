import CoachingApi.Library.Runs

/-!
# Partitioned stores

A store that several owners share has a part for each of them. A call reads and writes the
store and answers or throws; what it wrote before it threw stays written. A call is apart for an
owner when it does on the owner's part what it does on the whole, answers the same, and leaves
the parts of the others as they are. Reads that look at the part only are apart, and so are
calls made of calls that are.

When every input of a run is served by a call that is apart for its owner, the run on the
shared store is for each owner the run of its own inputs on a store of its own: nothing that
is stored for it, and no answer it gets, depends on the others.
-/

namespace Partitions

/-- What a call leaves of a store, and what it answers or throws. -/
abbrev Call (σ ε β : Type) := σ → σ × Except ε β

section Calls

variable {σ ε β γ κ : Type}

/-- One call after another; what the first throws ends them. -/
def andThen (first : Call σ ε β) (next : β → Call σ ε γ) : Call σ ε γ := fun state =>
  match first state with
  | (left, .error thrown) => (left, .error thrown)
  | (left, .ok value) => next value left

/-- What an operation makes of a store, which stays as it is where the operation throws. -/
def attempt (operation : σ → Except ε (β × σ)) : Call σ ε β := fun state =>
  match operation state with
  | .error thrown => (state, .error thrown)
  | .ok (answer, left) => (left, .ok answer)

/-- A call that only looks. -/
def looking (look : σ → Except ε β) : Call σ ε β := fun state => (state, look state)

variable (part : κ → σ → σ) (sound : σ → Prop)

/-- From a state, a call does on an owner's part what it does on the whole, touches no other
part, and leaves the store sound. -/
structure Apart (owner : κ) (state : σ) (call : Call σ ε β) : Prop where
  own : call (part owner state) = (part owner (call state).1, (call state).2)
  others : ∀ other, other ≠ owner → part other (call state).1 = part other state
  kept : sound (call state).1

variable {part sound} {owner : κ} {state : σ}

/-- A call that does from a state and from its part what one that is apart does. -/
theorem Apart.agree {call other : Call σ ε β} (apart : Apart part sound owner state other)
    (onStore : call state = other state)
    (onPart : call (part owner state) = other (part owner state)) :
    Apart part sound owner state call := by
  constructor
  · rw [onPart, onStore]
    exact apart.own
  · rw [onStore]
    exact apart.others
  · rw [onStore]
    exact apart.kept

/-- Looking at what the part holds is apart. -/
theorem apart_looking {look : σ → Except ε β} (holds : sound state)
    (same : look (part owner state) = look state) :
    Apart part sound owner state (looking look) where
  own := by simp only [looking, same]
  others := fun _ _ => rfl
  kept := holds

/-- A call that leaves the store alone and answers by itself is apart. -/
theorem apart_answer (holds : sound state) (answer : Except ε β) :
    Apart part sound owner state (fun store => (store, answer)) where
  own := rfl
  others := fun _ _ => rfl
  kept := holds

/-- Two calls that are apart are apart one after the other. -/
theorem Apart.andThen {first : Call σ ε β} {next : β → Call σ ε γ}
    (firstApart : Apart part sound owner state first)
    (nextApart : ∀ value, (first state).2 = .ok value →
      Apart part sound owner (first state).1 (next value)) :
    Apart part sound owner state (andThen first next) := by
  have own := firstApart.own
  have others := firstApart.others
  have kept := firstApart.kept
  cases outcome : first state with
  | mk left answer =>
    simp only [outcome] at own others kept nextApart
    cases answer with
    | error thrown =>
      have stops : Partitions.andThen first next state = (left, .error thrown) := by
        simp only [Partitions.andThen, outcome]
      refine ⟨?_, ?_, ?_⟩
      · rw [stops]
        simp only [Partitions.andThen, own]
      · rw [stops]
        exact others
      · rw [stops]
        exact kept
    | ok value =>
      have continues : Partitions.andThen first next state = next value left := by
        simp only [Partitions.andThen, outcome]
      have later := nextApart value rfl
      refine ⟨?_, ?_, ?_⟩
      · rw [continues]
        simp only [Partitions.andThen, own]
        exact later.own
      · intro other different
        rw [continues, later.others other different]
        exact others other different
      · rw [continues]
        exact later.kept

/-- What is made of the outcome does not matter. -/
theorem Apart.reading {call : Call σ ε β} (apart : Apart part sound owner state call)
    (read : Except ε β → Except ε γ) :
    Apart part sound owner state (fun store => ((call store).1, read (call store).2)) where
  own := by simp only [apart.own]
  others := apart.others
  kept := apart.kept

/-- What is made of the answer does not matter. -/
theorem Apart.mapped {call : Call σ ε β} (apart : Apart part sound owner state call)
    (answer : β → γ) :
    Apart part sound owner state (fun store => ((call store).1, (call store).2.map answer)) :=
  apart.reading (Except.map answer)

end Calls

section Runs

variable {σ ε β κ ι : Type} (serve : ι → Call σ ε β) (ownerOf : ι → Option κ)

/-- A store that has served inputs, and the answers that its owners got, in order. -/
structure Served (σ ε β κ : Type) where
  store : σ
  answers : List (κ × Except ε β) := []

/-- Serve an input, and hand the answer to its owner. -/
def next (served : Served σ ε β κ) (input : ι) : Served σ ε β κ where
  store := (serve input served.store).1
  answers := served.answers ++
    ((ownerOf input).map (fun owner => (owner, (serve input served.store).2))).toList

variable [DecidableEq κ] (part : κ → σ → σ)

/-- The part of an owner, and the answers it got. -/
def ownView (owner : κ) (served : Served σ ε β κ) : Served σ ε β κ where
  store := part owner served.store
  answers := served.answers.filter (fun answer => decide (answer.1 = owner))

variable {serve ownerOf part} {sound : σ → Prop} {condition : σ → ι → Prop}

/-- Serving its owner's input on the owner's view is viewing what serving it made. -/
theorem next_own {served : Served σ ε β κ} {input : ι} {owner : κ}
    (named : ownerOf input = some owner)
    (apart : Apart part sound owner served.store (serve input)) :
    next serve ownerOf (ownView part owner served) input =
      ownView part owner (next serve ownerOf served input) := by
  simp [next, ownView, named, apart.own]

/-- An input of another owner changes nothing in an owner's view. -/
theorem next_other {served : Served σ ε β κ} {input : ι} {owner other : κ}
    (named : ownerOf input = some owner) (different : other ≠ owner)
    (apart : Apart part sound owner served.store (serve input)) :
    ownView part other (next serve ownerOf served input) = ownView part other served := by
  simp [next, ownView, named, apart.others other different, Ne.symm different]

/-- An input of nobody that leaves the store alone changes no view. -/
theorem next_nobody {served : Served σ ε β κ} {input : ι} (owner : κ)
    (unnamed : ownerOf input = none) (silent : (serve input served.store).1 = served.store) :
    ownView part owner (next serve ownerOf served input) = ownView part owner served := by
  simp [next, ownView, unnamed, silent]

/-- The owner's view of a run on the shared store is the run of the owner's inputs on the
owner's view.

Proof: by induction on the inputs. An input of the owner takes the same step on both sides, and
every other input leaves the owner's view as it is. -/
theorem run_apart
    (apart : ∀ state input owner, sound state → condition state input →
      ownerOf input = some owner → Apart part sound owner state (serve input))
    (silent : ∀ state input, ownerOf input = none → (serve input state).1 = state)
    (owner : κ) {start : Served σ ε β κ} {inputs : List ι} (holds : sound start.store)
    (along : Runs.Along (next serve ownerOf) (fun served input => condition served.store input)
      start inputs) :
    ownView part owner (Runs.run (next serve ownerOf) start inputs) =
      Runs.run (next serve ownerOf) (ownView part owner start)
        (inputs.filter (fun input => decide (ownerOf input = some owner))) := by
  induction inputs generalizing start with
  | nil => rfl
  | cons input rest inductionHypothesis =>
    obtain ⟨met, later⟩ := along
    cases named : ownerOf input with
    | none =>
      have same : (next serve ownerOf start input).store = start.store := silent _ _ named
      have skipped : decide (ownerOf input = some owner) = false := by simp [named]
      rw [Runs.run_cons, inductionHypothesis (same.symm ▸ holds) later, List.filter_cons, skipped]
      simp only [Bool.false_eq_true, if_false]
      rw [next_nobody owner named (silent _ _ named)]
    | some acting =>
      have served := apart start.store input acting holds met named
      rw [Runs.run_cons, inductionHypothesis served.kept later, List.filter_cons]
      by_cases same : acting = owner
      · subst same
        rw [if_pos (by simp [named]), Runs.run_cons, next_own named served]
      · have skipped : decide (ownerOf input = some owner) = false := by simp [named, same]
        rw [skipped, next_other named (Ne.symm same) served]
        simp only [Bool.false_eq_true, if_false]

end Runs

end Partitions
