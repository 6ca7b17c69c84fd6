import Mathlib.Algebra.BigOperators.Group.List.Basic
import Mathlib.Algebra.Order.Ring.Int
import Mathlib.Tactic.Linarith
import Mathlib.Tactic.Ring

/-!
# Equal shares of a whole number of units

A whole number of units is divided among parties in order. Every party receives the
quotient, and the earliest ones, as many as the remainder counts, receive one unit more.
The shares add up to the total, never increase, and differ by at most one unit.
-/

namespace Apportionment

variable {total : ℤ} {count : ℕ}

/-- The share of the party at a position. -/
def share (total : ℤ) (count position : ℕ) : ℤ :=
  total / count + if (position : ℤ) < total % count then 1 else 0

/-- The shares of the first parties: their quotients, and a unit for each of them that is
below the remainder. -/
theorem shares_before (total : ℤ) (count parties : ℕ) (positive : 0 < count) :
    ((List.range parties).map (share total count)).sum =
      parties * (total / count) + min (parties : ℤ) (total % count) := by
  have remainder : 0 ≤ total % count := Int.emod_nonneg _ (by omega)
  induction parties with
  | zero => simp [remainder]
  | succ parties inductionHypothesis =>
    have step : min ((parties : ℤ) + 1) (total % count) =
        min (parties : ℤ) (total % count) + if (parties : ℤ) < total % count then 1 else 0 := by
      split <;> omega
    rw [List.range_succ, List.map_append, List.sum_append, inductionHypothesis]
    push_cast
    rw [step]
    simp only [share, List.map_cons, List.map_nil, List.sum_cons, List.sum_nil]
    ring

/-- The shares add up to the total. -/
theorem shares_sum (total : ℤ) (positive : 0 < count) :
    ((List.range count).map (share total count)).sum = total := by
  have bounded : total % count ≤ count := (Int.emod_lt_of_pos total (by omega)).le
  rw [shares_before total count count positive, min_eq_right bounded]
  exact Int.mul_ediv_add_emod total count

/-- A later party receives no more than an earlier one. -/
theorem share_antitone {earlier later : ℕ} (ordered : earlier ≤ later) :
    share total count later ≤ share total count earlier := by
  unfold share
  split
  · rw [if_pos (by omega)]
  · split <;> omega

/-- Two shares differ by at most one unit. -/
theorem share_close (total : ℤ) (count first second : ℕ) :
    share total count first ≤ share total count second + 1 := by
  unfold share
  split <;> split <;> omega

/-- The shares of a total that is not negative are not negative. -/
theorem share_nonneg (nonnegative : 0 ≤ total) (position : ℕ) : 0 ≤ share total count position := by
  have quotient : 0 ≤ total / count := Int.ediv_nonneg nonnegative (by omega)
  unfold share
  split <;> omega

end Apportionment
