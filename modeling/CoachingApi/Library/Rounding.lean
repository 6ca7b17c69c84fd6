import Mathlib.Algebra.Order.BigOperators.Group.List
import Mathlib.Algebra.Order.Round
import Mathlib.Data.Rat.Floor
import Mathlib.Tactic.Linarith
import Mathlib.Tactic.Ring
import Mathlib.Tactic.Push

/-!
# Rounding to hundredths and clamping

Exact rational amounts, rounded half up to a whole number of hundredths and clamped
by a limit. Whole amounts are fixed by rounding, so rounding commutes with adding
them, and a clamped running total is the clamp of the total.

The laws are about exact arithmetic. Binary floating point is no part of them.
-/

namespace Rounding

/-- An amount that is a whole number of hundredths. -/
def Whole (amount : ℚ) : Prop := ∃ hundredths : ℤ, amount * 100 = hundredths

/-- Round half up to a whole number of hundredths. -/
def toHundredths (amount : ℚ) : ℚ := round (amount * 100) / 100

/-- Rounding is the floor half a unit above. -/
theorem round_half_up (amount : ℚ) : round amount = ⌊amount + 1 / 2⌋ := round_eq amount

/-- The rounding of an amount to hundredths is positive from half a hundredth on. -/
theorem round_hundredths_pos (amount : ℚ) : 0 < round (amount * 100) ↔ 1 / 200 ≤ amount := by
  rw [round_half_up, Int.floor_pos]
  constructor
  · intro covers
    linarith
  · intro covers
    linarith

/-- Nothing is whole. -/
theorem whole_zero : Whole 0 := ⟨0, by simp⟩

/-- A number of hundredths is whole. -/
theorem whole_hundredths (hundredths : ℤ) : Whole (hundredths / 100) :=
  ⟨hundredths, by ring⟩

/-- Whole amounts add. -/
theorem Whole.add {first second : ℚ} (firstWhole : Whole first) (secondWhole : Whole second) :
    Whole (first + second) := by
  obtain ⟨a, firstEq⟩ := firstWhole
  obtain ⟨b, secondEq⟩ := secondWhole
  exact ⟨a + b, by push_cast; linarith⟩

/-- Whole amounts subtract. -/
theorem Whole.sub {first second : ℚ} (firstWhole : Whole first) (secondWhole : Whole second) :
    Whole (first - second) := by
  obtain ⟨a, firstEq⟩ := firstWhole
  obtain ⟨b, secondEq⟩ := secondWhole
  exact ⟨a - b, by push_cast; linarith⟩

/-- The smaller of two whole amounts is whole. -/
theorem Whole.min {first second : ℚ} (firstWhole : Whole first) (secondWhole : Whole second) :
    Whole (min first second) := by
  rcases min_choice first second with smaller | smaller
  · rw [smaller]
    exact firstWhole
  · rw [smaller]
    exact secondWhole

/-- A sum of whole amounts is whole. -/
theorem Whole.sum {amounts : List ℚ} (whole : ∀ amount ∈ amounts, Whole amount) :
    Whole amounts.sum := by
  induction amounts with
  | nil => exact whole_zero
  | cons amount rest inductionHypothesis =>
    rw [List.sum_cons]
    exact (whole amount (by simp)).add
      (inductionHypothesis (fun other member => whole other (by simp [member])))

/-- Rounding fixes whole amounts. -/
theorem to_hundredths_fixed {amount : ℚ} (whole : Whole amount) : toHundredths amount = amount := by
  obtain ⟨hundredths, equal⟩ := whole
  rw [toHundredths, equal, round_intCast]
  linarith

/-- A whole amount passes through rounding. -/
theorem to_hundredths_add {amount other : ℚ} (whole : Whole other) :
    toHundredths (amount + other) = toHundredths amount + other := by
  obtain ⟨hundredths, equal⟩ := whole
  rw [toHundredths, toHundredths, add_mul, equal, round_add_intCast]
  push_cast
  linarith

/-- Rounding down loses less than one hundredth. -/
theorem to_hundredths_close (amount : ℚ) : amount < toHundredths amount + 1 / 100 := by
  have floorBound : amount * 100 + 1 / 2 < round (amount * 100) + 1 := by
    rw [round_half_up]
    exact Int.lt_floor_add_one _
  rw [toHundredths]
  linarith

/-- Rounding keeps the order. -/
theorem to_hundredths_mono {first second : ℚ} (ordered : first ≤ second) :
    toHundredths first ≤ toHundredths second := by
  have rounded : round (first * 100) ≤ round (second * 100) := by
    rw [round_half_up, round_half_up]
    apply Int.floor_le_floor
    linarith
  have hundredths : (round (first * 100) : ℚ) ≤ round (second * 100) := by
    exact_mod_cast rounded
  rw [toHundredths, toHundredths]
  linarith

/-- What lies between whole amounts is rounded to between them. -/
theorem to_hundredths_between {low amount high : ℚ} (lowWhole : Whole low) (highWhole : Whole high)
    (above : low ≤ amount) (below : amount ≤ high) :
    low ≤ toHundredths amount ∧ toHundredths amount ≤ high := by
  constructor
  · rw [← to_hundredths_fixed lowWhole]
    exact to_hundredths_mono above
  · rw [← to_hundredths_fixed highWhole]
    exact to_hundredths_mono below

/-- A positive whole amount is at least one hundredth. -/
theorem Whole.one_hundredth {amount : ℚ} (whole : Whole amount) (positive : 0 < amount) :
    1 / 100 ≤ amount := by
  obtain ⟨hundredths, equal⟩ := whole
  have aboveZero : (0 : ℚ) < hundredths := by
    rw [← equal]
    linarith
  have atLeastOne : (1 : ℚ) ≤ hundredths := by
    have := Int.cast_pos.mp aboveZero
    exact_mod_cast this
  linarith

/-- Clamping a clamped total and an addition is clamping the whole total. -/
theorem clamp_absorbs (limit total addition : ℚ) (nonnegative : 0 ≤ addition) :
    min limit (min limit total + addition) = min limit (total + addition) := by
  rcases le_total limit total with above | below
  · rw [min_eq_left above, min_eq_left (by linarith), min_eq_left (by linarith)]
  · rw [min_eq_right below]

end Rounding
