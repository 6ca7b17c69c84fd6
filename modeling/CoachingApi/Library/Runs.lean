import Mathlib.Logic.Function.Basic

/-!
# Runs, invariants and interleavings

A run folds a step function over a list of inputs. A condition along a run is
required of each input in the state its step starts from, and one somewhere in a run of
some input; an invariant kept by the steps that meet it holds at the end, and a
transitive relation kept by them relates the two ends. Every prefix of a run is a run,
so both speak of every state reached. A simulation runs two machines on the same inputs
and keeps their states related.

An interleaving is a run whose inputs name the party that takes its next step; each
step sees the shared state and that party's own.
-/

namespace Runs

section Sequential

variable {σ ι : Type} (step : σ → ι → σ)

/-- Take the inputs one after the other. -/
def run (start : σ) (inputs : List ι) : σ := inputs.foldl step start

/-- A condition on each step's state and input, along a run. -/
def Along (condition : σ → ι → Prop) : σ → List ι → Prop
  | _, [] => True
  | state, input :: rest => condition state input ∧ Along condition (step state input) rest

/-- A condition that can be tested can be tested along a run. -/
instance decidableAlong (condition : σ → ι → Prop)
    [∀ state input, Decidable (condition state input)] :
    ∀ (start : σ) (inputs : List ι), Decidable (Along step condition start inputs)
  | _, [] => isTrue trivial
  | start, input :: rest =>
    have : Decidable (Along step condition (step start input) rest) :=
      decidableAlong condition (step start input) rest
    inferInstanceAs (Decidable (condition start input ∧ _))

@[simp] theorem run_nil (start : σ) : run step start [] = start := rfl

@[simp] theorem run_cons (start : σ) (input : ι) (rest : List ι) :
    run step start (input :: rest) = run step (step start input) rest := rfl

/-- A run is its prefix followed by the remainder. -/
theorem run_append (start : σ) (first second : List ι) :
    run step start (first ++ second) = run step (run step start first) second :=
  List.foldl_append

/-- A condition along a run is one along its prefix and one along the remainder. -/
theorem along_append (condition : σ → ι → Prop) (start : σ) (first second : List ι) :
    Along step condition start (first ++ second) ↔
      Along step condition start first ∧ Along step condition (run step start first) second := by
  induction first generalizing start with
  | nil => simp [Along]
  | cons input rest inductionHypothesis =>
    simp only [List.cons_append, Along, inductionHypothesis, run_cons, and_assoc]

/-- Two conditions along a run are one. -/
theorem along_both {step : σ → ι → σ} {first second : σ → ι → Prop} {start : σ} {inputs : List ι}
    (one : Along step first start inputs) (other : Along step second start inputs) :
    Along step (fun state input => first state input ∧ second state input) start inputs := by
  induction inputs generalizing start with
  | nil => trivial
  | cons input rest inductionHypothesis =>
    exact ⟨⟨one.1, other.1⟩, inductionHypothesis one.2 other.2⟩

/-- A condition holds along a run when it does of each input after its prefix of the run. -/
theorem along_iff (condition : σ → ι → Prop) (start : σ) (inputs : List ι) :
    Along step condition start inputs ↔
      ∀ first input rest, inputs = first ++ input :: rest → condition (run step start first) input := by
  constructor
  · rintro along first input rest rfl
    exact ((along_append step condition start first (input :: rest)).mp along).2.1
  · intro holds
    induction inputs generalizing start with
    | nil => trivial
    | cons input rest inductionHypothesis =>
      refine ⟨holds [] input rest rfl, inductionHypothesis (step start input) ?_⟩
      intro first later remainder same
      exact holds (input :: first) later remainder (by rw [same, List.cons_append])

/-- Some step of a run meets a condition, in the state it starts from. -/
def Somewhere (condition : σ → ι → Prop) : σ → List ι → Prop
  | _, [] => False
  | state, input :: rest => condition state input ∨ Somewhere condition (step state input) rest

/-- A step of a run is one of its prefix or one of the remainder. -/
theorem somewhere_append (condition : σ → ι → Prop) (start : σ) (first second : List ι) :
    Somewhere step condition start (first ++ second) ↔
      Somewhere step condition start first ∨
        Somewhere step condition (run step start first) second := by
  induction first generalizing start with
  | nil => simp [Somewhere]
  | cons input rest inductionHypothesis =>
    simp only [List.cons_append, Somewhere, inductionHypothesis, run_cons, or_assoc]

/-- A step of a run that ends in one input is one of its prefix or that input. -/
theorem somewhere_last (condition : σ → ι → Prop) (start : σ) (inputs : List ι) (last : ι) :
    Somewhere step condition start (inputs ++ [last]) ↔
      Somewhere step condition start inputs ∨ condition (run step start inputs) last := by
  simp [somewhere_append, Somewhere]

/-- A weaker condition is met somewhere in the same run. -/
theorem Somewhere.weaken {step : σ → ι → σ} {condition weaker : σ → ι → Prop}
    (implies : ∀ state input, condition state input → weaker state input) {start : σ}
    {inputs : List ι} (met : Somewhere step condition start inputs) :
    Somewhere step weaker start inputs := by
  induction inputs generalizing start with
  | nil => exact met
  | cons input rest inductionHypothesis =>
    exact met.imp (implies start input) inductionHypothesis

/-- What a run leaves different some step of it leaves different. -/
theorem somewhere_changed {step : σ → ι → σ} {same : σ → σ → Prop}
    (reflexive : ∀ state, same state state)
    (transitive : ∀ first second third, same first second → same second third → same first third)
    {start : σ} {inputs : List ι} (changed : ¬ same start (run step start inputs)) :
    Somewhere step (fun state input => ¬ same state (step state input)) start inputs := by
  induction inputs generalizing start with
  | nil => exact changed (reflexive start)
  | cons input rest inductionHypothesis =>
    by_cases first : same start (step start input)
    · exact .inr (inductionHypothesis (fun later => changed (transitive _ _ _ first later)))
    · exact .inl first

/-- A weaker condition holds along the same run. -/
theorem Along.weaken {step : σ → ι → σ} {condition weaker : σ → ι → Prop}
    (implies : ∀ state input, condition state input → weaker state input) {start : σ}
    {inputs : List ι} (holds : Along step condition start inputs) :
    Along step weaker start inputs := by
  induction inputs generalizing start with
  | nil => trivial
  | cons input rest inductionHypothesis =>
    exact ⟨implies start input holds.1, inductionHypothesis holds.2⟩

/-- An invariant kept by every step that meets the condition holds after the run. -/
theorem run_preserves {step : σ → ι → σ} {condition : σ → ι → Prop} {invariant : σ → Prop}
    (preserved : ∀ state input, invariant state → condition state input →
      invariant (step state input))
    {start : σ} {inputs : List ι} (holds : invariant start)
    (along : Along step condition start inputs) : invariant (run step start inputs) := by
  induction inputs generalizing start with
  | nil => exact holds
  | cons input rest inductionHypothesis =>
    exact inductionHypothesis (preserved start input holds along.1) along.2

/-- An invariant kept by every step holds after the run. -/
theorem run_invariant {step : σ → ι → σ} (invariant : σ → Prop)
    (preserved : ∀ state input, invariant state → invariant (step state input)) {start : σ}
    (holds : invariant start) (inputs : List ι) : invariant (run step start inputs) := by
  induction inputs generalizing start with
  | nil => exact holds
  | cons input rest inductionHypothesis => exact inductionHypothesis (preserved start input holds)

/-- What every step keeps unless something happens in it holds at the end, unless that happened
somewhere. -/
theorem run_keeps_unless {step : σ → ι → σ} {condition happens : σ → ι → Prop}
    {invariant holds : σ → Prop}
    (preserved : ∀ state input, invariant state → condition state input →
      invariant (step state input))
    (kept : ∀ state input, invariant state → condition state input → holds state →
      holds (step state input) ∨ happens state input)
    {start : σ} {inputs : List ι} (sound : invariant start) (begun : holds start)
    (along : Along step condition start inputs) :
    holds (run step start inputs) ∨ Somewhere step happens start inputs := by
  induction inputs generalizing start with
  | nil => exact .inl begun
  | cons input rest inductionHypothesis =>
    rcases kept start input sound along.1 begun with still | happened
    · rcases inductionHypothesis (preserved start input sound along.1) still along.2 with
        final | later
      · exact .inl final
      · exact .inr (.inr later)
    · exact .inr (.inl happened)

/-- What holds of every step holds along every run. -/
theorem along_always {step : σ → ι → σ} {condition : σ → ι → Prop}
    (always : ∀ state input, condition state input) (start : σ) (inputs : List ι) :
    Along step condition start inputs :=
  (along_iff step condition start inputs).mpr (fun first input _ _ =>
    always (run step start first) input)

/-- What holds in every state of a run, its ends included. -/
def Always (holds : σ → Prop) (start : σ) (inputs : List ι) : Prop :=
  ∀ first rest, inputs = first ++ rest → holds (run step start first)

/-- What every step keeps exactly when it meets a condition holds in every state of a run
exactly when the condition holds along the run. -/
theorem always_iff_along {step : σ → ι → σ} {condition : σ → ι → Prop}
    {invariant holds : σ → Prop}
    (preserved : ∀ state input, invariant state → invariant (step state input))
    (kept : ∀ state input, invariant state → holds state →
      (holds (step state input) ↔ condition state input))
    {start : σ} (sound : invariant start) (begun : holds start) (inputs : List ι) :
    Always step holds start inputs ↔ Along step condition start inputs := by
  induction inputs generalizing start with
  | nil =>
    refine ⟨fun _ => trivial, ?_⟩
    rintro _ first rest same
    obtain ⟨rfl, _⟩ := List.append_eq_nil_iff.mp same.symm
    exact begun
  | cons input rest inductionHypothesis =>
    constructor
    · intro always
      have next : holds (step start input) := always [input] rest rfl
      refine ⟨(kept start input sound begun).mp next, ?_⟩
      refine (inductionHypothesis (preserved start input sound) next).mp ?_
      intro first later same
      exact always (input :: first) later (by rw [same, List.cons_append])
    · rintro ⟨met, along⟩ first later same
      have next := (kept start input sound begun).mpr met
      cases first with
      | nil => exact begun
      | cons head tail =>
        obtain ⟨rfl, rfl⟩ := List.cons.inj same
        exact (inductionHypothesis (preserved start input sound) next).mpr along tail later rfl

/-- A reflexive and transitive relation kept by every step under an invariant relates
the ends of the run. -/
theorem run_relates {step : σ → ι → σ} {condition : σ → ι → Prop} {invariant : σ → Prop}
    (relation : σ → σ → Prop) (reflexive : ∀ state, relation state state)
    (transitive : ∀ first second third, relation first second → relation second third →
      relation first third)
    (preserved : ∀ state input, invariant state → condition state input →
      invariant (step state input) ∧ relation state (step state input))
    {start : σ} {inputs : List ι} (holds : invariant start)
    (along : Along step condition start inputs) : relation start (run step start inputs) := by
  induction inputs generalizing start with
  | nil => exact reflexive start
  | cons input rest inductionHypothesis =>
    obtain ⟨next, related⟩ := preserved start input holds along.1
    exact transitive _ _ _ related (inductionHypothesis next along.2)

/-- What the steps of a run give out, in order. -/
def outputs {ω : Type} (gives : σ → ι → List ω) : σ → List ι → List ω
  | _, [] => []
  | state, input :: rest => gives state input ++ outputs gives (step state input) rest

/-- A relation to a history that every step keeps, with what it gives out added, relates the end
of a run to the history with all outputs. -/
theorem run_follows {ω : Type} {step : σ → ι → σ} {gives : σ → ι → List ω}
    (follows : σ → List ω → Prop)
    (preserved : ∀ state input history, follows state history →
      follows (step state input) (history ++ gives state input))
    {start : σ} {history : List ω} (holds : follows start history) (inputs : List ι) :
    follows (run step start inputs) (history ++ outputs step gives start inputs) := by
  induction inputs generalizing start history with
  | nil =>
    rw [outputs, List.append_nil]
    exact holds
  | cons input rest inductionHypothesis =>
    rw [outputs, ← List.append_assoc]
    exact inductionHypothesis (preserved start input history holds)

/-- Two machines that take the same inputs. -/
def pair {α : Type} (abstractStep : α → ι → α) (states : σ × α) (input : ι) : σ × α :=
  (step states.1 input, abstractStep states.2 input)

/-- A run of two machines is a run of each. -/
theorem run_pair {α : Type} (abstractStep : α → ι → α) (states : σ × α) (inputs : List ι) :
    run (pair step abstractStep) states inputs =
      (run step states.1 inputs, run abstractStep states.2 inputs) := by
  induction inputs generalizing states with
  | nil => rfl
  | cons input rest inductionHypothesis => exact inductionHypothesis (pair step abstractStep states input)

/-- A relation that every step of two machines keeps relates the ends of their runs. -/
theorem run_simulates {α : Type} {step : σ → ι → σ} {abstractStep : α → ι → α}
    {condition : σ × α → ι → Prop} {represents : σ → α → Prop}
    (simulates : ∀ state view input, represents state view → condition (state, view) input →
      represents (step state input) (abstractStep view input))
    {start : σ} {view : α} {inputs : List ι} (holds : represents start view)
    (along : Along (pair step abstractStep) condition (start, view) inputs) :
    represents (run step start inputs) (run abstractStep view inputs) := by
  induction inputs generalizing start view with
  | nil => exact holds
  | cons input rest inductionHypothesis =>
    exact inductionHypothesis (simulates start view input holds along.1) along.2

end Sequential

section Interleaved

variable {π σ lam ι : Type} [DecidableEq π]

/-- What the parties share, and what each keeps for itself. -/
structure Configuration (π σ lam : Type) where
  shared : σ
  locals : π → lam

/-- The named party takes its next step. -/
def turn (act : π → ι → σ → lam → σ × lam) (configuration : Configuration π σ lam)
    (input : π × ι) : Configuration π σ lam :=
  let next := act input.1 input.2 configuration.shared (configuration.locals input.1)
  ⟨next.1, Function.update configuration.locals input.1 next.2⟩

/-- The acting party's own state after its turn. -/
@[simp] theorem turn_own (act : π → ι → σ → lam → σ × lam)
    (configuration : Configuration π σ lam) (party : π) (input : ι) :
    (turn act configuration (party, input)).locals party =
      (act party input configuration.shared (configuration.locals party)).2 := by
  simp [turn]

/-- Every other party's own state is untouched by a turn. -/
theorem turn_other (act : π → ι → σ → lam → σ × lam) (configuration : Configuration π σ lam)
    (party other : π) (input : ι) (different : other ≠ party) :
    (turn act configuration (party, input)).locals other = configuration.locals other := by
  simp [turn, different]

/-- A party's own state is untouched by turns of the others. -/
theorem run_others (act : π → ι → σ → lam → σ × lam) {party : π} {turns : List (π × ι)}
    (others : ∀ input ∈ turns, input.1 ≠ party) (configuration : Configuration π σ lam) :
    (run (turn act) configuration turns).locals party = configuration.locals party := by
  induction turns generalizing configuration with
  | nil => rfl
  | cons input rest inductionHypothesis =>
    obtain ⟨acting, later⟩ := List.forall_mem_cons.mp others
    rw [run_cons, inductionHypothesis later]
    exact turn_other act configuration input.1 party input.2 (Ne.symm acting)

/-- What holds of every party's own state holds after a turn when it holds of the acting
party's next state. -/
theorem turn_each {act : π → ι → σ → lam → σ × lam} {configuration : Configuration π σ lam}
    {party : π} {input : ι} (holds : π → lam → Prop)
    (each : ∀ other, holds other (configuration.locals other))
    (own : holds party (act party input configuration.shared (configuration.locals party)).2)
    (other : π) : holds other ((turn act configuration (party, input)).locals other) := by
  by_cases acting : other = party
  · subst acting
    rw [turn_own]
    exact own
  · rw [turn_other act configuration party other input acting]
    exact each other

end Interleaved

end Runs
