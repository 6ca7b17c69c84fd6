import Mathlib.Algebra.BigOperators.Group.List.Basic
import Mathlib.Algebra.Ring.Nat
import Mathlib.Data.List.Dedup

/-!
# Grouping rows by a key

The groups of a list are its keys, each once, with the rows under it. Every row is in the
group of its key and in no other one, so a sum over the groups of what each group sums to is
the sum over the rows.
-/

namespace Grouping

variable {α κ : Type} [DecidableEq κ]

/-- The keys of the rows, each with the rows under it. -/
def groups (key : α → κ) (rows : List α) : List (κ × List α) :=
  (rows.map key).dedup.map (fun sought => (sought, rows.filter (fun row => decide (key row = sought))))

/-- Every key has one group. -/
theorem groups_distinct (key : α → κ) (rows : List α) :
    ((groups key rows).map Prod.fst).Nodup := by
  have keys : (groups key rows).map Prod.fst = (rows.map key).dedup := by
    simp [groups, Function.comp_def]
  rw [keys]
  exact List.nodup_dedup _

/-- A group is a key that occurs with the rows under it. -/
theorem mem_groups {key : α → κ} {rows : List α} {group : κ × List α} :
    group ∈ groups key rows ↔ group.1 ∈ rows.map key ∧
      group.2 = rows.filter (fun row => decide (key row = group.1)) := by
  obtain ⟨sought, members⟩ := group
  unfold groups
  rw [List.mem_map]
  constructor
  · rintro ⟨other, occurs, same⟩
    obtain ⟨rfl, rfl⟩ := Prod.mk.inj same
    exact ⟨List.mem_dedup.mp occurs, rfl⟩
  · rintro ⟨occurs, same⟩
    exact ⟨sought, List.mem_dedup.mpr occurs, Prod.ext rfl same.symm⟩

/-- A sum of one for each row that passes a test counts them. -/
theorem sum_of_ones (test : α → Bool) (rows : List α) :
    (rows.map (fun row => if test row then 1 else 0)).sum = rows.countP test := by
  induction rows with
  | nil => rfl
  | cons row rest inductionHypothesis =>
    rw [List.map_cons, List.sum_cons, inductionHypothesis, List.countP_cons, Nat.add_comm]

variable {M : Type} [AddCommMonoid M]

/-- Over distinct keys that include a row's, the weight counted under that key is counted
once. -/
theorem sum_indicator {keys : List κ} (distinct : keys.Nodup) {own : κ} (covered : own ∈ keys)
    (weight : M) : (keys.map (fun sought => if own = sought then weight else 0)).sum = weight := by
  induction keys with
  | nil => cases covered
  | cons first rest inductionHypothesis =>
    obtain ⟨absent, restDistinct⟩ := List.nodup_cons.mp distinct
    rw [List.map_cons, List.sum_cons]
    by_cases same : own = first
    · have nothing : (rest.map (fun sought => if own = sought then weight else 0)).sum = 0 := by
        apply List.sum_eq_zero
        intro value member
        obtain ⟨sought, later, rfl⟩ := List.mem_map.mp member
        apply if_neg
        rintro rfl
        exact absent (same ▸ later)
      rw [if_pos same, nothing, add_zero]
    · have later : own ∈ rest := (List.mem_cons.mp covered).resolve_left same
      rw [if_neg same, zero_add, inductionHypothesis restDistinct later]

/-- Over distinct keys that include every row's, the sums under the keys add up to the sum.

Proof: by induction on the rows; one more row adds its weight under its own key. -/
theorem sum_under_keys (key : α → κ) (weigh : α → M) {keys : List κ} (distinct : keys.Nodup)
    (rows : List α) (covered : ∀ row ∈ rows, key row ∈ keys) :
    (keys.map (fun sought =>
      ((rows.filter (fun row => decide (key row = sought))).map weigh).sum)).sum =
        (rows.map weigh).sum := by
  induction rows with
  | nil => exact List.sum_eq_zero (by simp)
  | cons row rest inductionHypothesis =>
    have later := inductionHypothesis (fun other member => covered other (by simp [member]))
    have own := sum_indicator distinct (covered row (by simp)) (weigh row)
    have split (sought : κ) :
        (((row :: rest).filter (fun row => decide (key row = sought))).map weigh).sum =
          (if key row = sought then weigh row else 0) +
            ((rest.filter (fun row => decide (key row = sought))).map weigh).sum := by
      by_cases same : key row = sought
      · simp [same]
      · simp [same]
    simp only [split]
    rw [List.sum_map_add, own, later, List.map_cons, List.sum_cons]

/-- What the groups sum to adds up to what the rows sum to. -/
theorem sum_groups (key : α → κ) (weigh : α → M) (rows : List α) :
    ((groups key rows).map (fun group => (group.2.map weigh).sum)).sum = (rows.map weigh).sum := by
  unfold groups
  rw [List.map_map]
  refine sum_under_keys key weigh (List.nodup_dedup _) rows ?_
  intro row member
  exact List.mem_dedup.mpr (List.mem_map_of_mem member)

end Grouping
