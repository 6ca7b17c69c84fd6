import Mathlib.Data.List.Nodup
import Mathlib.Data.List.Perm.Basic

/-!
# Inserting what is not there yet

An upsert adds a row unless a row under its key is there. A batch of upserts takes them
one after the other. It keeps distinct keys distinct; of several rows of a batch under one
key the first is the one that is added. What a batch adds is read key by key, so it does not
depend on how the batch is ordered or divided, as long as a key determines its row.
-/

namespace Upserts

variable {α β κ : Type} [DecidableEq κ] {key : α → κ}

/-- Add a row unless a row under its key is there. -/
def upsert (key : α → κ) (rows : List α) (row : α) : List α :=
  if key row ∈ rows.map key then rows else rows ++ [row]

/-- Take the upserts of a batch one after the other. -/
def upsertAll (key : α → κ) (rows batch : List α) : List α := batch.foldl (upsert key) rows

@[simp] theorem upsert_all_nil (rows : List α) : upsertAll key rows [] = rows := rfl

@[simp] theorem upsert_all_cons (rows : List α) (row : α) (rest : List α) :
    upsertAll key rows (row :: rest) = upsertAll key (upsert key rows row) rest := rfl

/-- A batch is its beginning followed by the remainder. -/
theorem upsert_all_append (rows first second : List α) :
    upsertAll key rows (first ++ second) = upsertAll key (upsertAll key rows first) second :=
  List.foldl_append

/-- A row whose key is there is not added. -/
theorem upsert_present {rows : List α} {row : α} (present : key row ∈ rows.map key) :
    upsert key rows row = rows := if_pos present

/-- A row whose key is not there is added last. -/
theorem upsert_absent {rows : List α} {row : α} (absent : key row ∉ rows.map key) :
    upsert key rows row = rows ++ [row] := if_neg absent

/-- An upsert keeps distinct keys distinct. -/
theorem upsert_distinct {rows : List α} {row : α} (distinct : (rows.map key).Nodup) :
    ((upsert key rows row).map key).Nodup := by
  by_cases present : key row ∈ rows.map key
  · rw [upsert_present present]
    exact distinct
  · rw [upsert_absent present, List.map_append, List.map_singleton]
    exact List.nodup_append.mpr ⟨distinct, List.nodup_singleton _, by
      intro held stored added single
      rw [List.mem_singleton.mp single]
      rintro rfl
      exact present stored⟩

/-- A batch keeps distinct keys distinct. -/
theorem upsert_all_distinct {rows : List α} (batch : List α) (distinct : (rows.map key).Nodup) :
    ((upsertAll key rows batch).map key).Nodup := by
  induction batch generalizing rows with
  | nil => exact distinct
  | cons row rest inductionHypothesis => exact inductionHypothesis (upsert_distinct distinct)

/-- A batch whose keys are all there adds nothing. -/
theorem upsert_all_present {rows batch : List α}
    (present : ∀ row ∈ batch, key row ∈ rows.map key) : upsertAll key rows batch = rows := by
  induction batch with
  | nil => rfl
  | cons row rest inductionHypothesis =>
    rw [upsert_all_cons, upsert_present (present row (by simp))]
    exact inductionHypothesis (fun other member => present other (by simp [member]))

/-- A batch of distinct keys that are not there is added as it is. -/
theorem upsert_all_fresh {rows batch : List α} (distinct : (batch.map key).Nodup)
    (absent : ∀ row ∈ batch, key row ∉ rows.map key) :
    upsertAll key rows batch = rows ++ batch := by
  induction batch generalizing rows with
  | nil => simp
  | cons row rest inductionHypothesis =>
    rw [List.map_cons, List.nodup_cons] at distinct
    rw [upsert_all_cons, upsert_absent (absent row (by simp)), inductionHypothesis distinct.2]
    · simp
    · intro other member held
      rw [List.map_append, List.mem_append] at held
      rcases held with earlier | added
      · exact absent other (by simp [member]) earlier
      · rw [List.map_singleton, List.mem_singleton] at added
        exact distinct.1 (added ▸ List.mem_map_of_mem member)

/-- A selection of keys selects from a batch of upserts what it selects from both parts. -/
theorem upsert_all_filter (selects : κ → Bool) (rows batch : List α) :
    (upsertAll key rows batch).filter (fun row => selects (key row)) =
      upsertAll key (rows.filter (fun row => selects (key row)))
        (batch.filter (fun row => selects (key row))) := by
  induction batch generalizing rows with
  | nil => rfl
  | cons row rest inductionHypothesis =>
    rw [upsert_all_cons, inductionHypothesis]
    have selected (held : selects (key row) = true) :
        key row ∈ (rows.filter (fun row => selects (key row))).map key ↔ key row ∈ rows.map key := by
      simp only [List.mem_map, List.mem_filter]
      constructor
      · rintro ⟨other, ⟨stored, _⟩, same⟩
        exact ⟨other, stored, same⟩
      · rintro ⟨other, stored, same⟩
        exact ⟨other, ⟨stored, same ▸ held⟩, same⟩
    cases held : selects (key row) with
    | false =>
      rw [List.filter_cons_of_neg (by simp [held])]
      congr 1
      by_cases present : key row ∈ rows.map key
      · rw [upsert_present present]
      · rw [upsert_absent present, List.filter_append, List.filter_cons_of_neg (by simp [held])]
        simp
    | true =>
      rw [List.filter_cons_of_pos (by simp [held]), upsert_all_cons]
      congr 1
      by_cases present : key row ∈ rows.map key
      · rw [upsert_present present, upsert_present ((selected held).mpr present)]
      · rw [upsert_absent present,
          upsert_absent (fun member => present ((selected held).mp member)),
          List.filter_append, List.filter_cons_of_pos (by simp [held])]
        rfl

/-- Under one key the rows that were there stay, and else the batch's first row is added. -/
theorem upsert_all_under (sought : κ) (rows batch : List α) :
    (upsertAll key rows batch).filter (fun row => decide (key row = sought)) =
      if sought ∈ rows.map key then rows.filter (fun row => decide (key row = sought))
      else (batch.find? (fun row => decide (key row = sought))).toList := by
  have sameKey (rows : List α) (row : α)
      (member : row ∈ rows.filter (fun row => decide (key row = sought))) : key row = sought :=
    of_decide_eq_true (List.mem_filter.mp member).2
  rw [upsert_all_filter (fun tested => decide (tested = sought))]
  split
  · rename_i present
    obtain ⟨held, stored, same⟩ := List.mem_map.mp present
    apply upsert_all_present
    intro row member
    rw [sameKey batch row member, ← same]
    exact List.mem_map_of_mem (List.mem_filter.mpr ⟨stored, decide_eq_true rfl⟩)
  · rename_i absent
    have nothing : rows.filter (fun row => decide (key row = sought)) = [] := by
      rw [List.filter_eq_nil_iff]
      intro row stored tested
      exact absent (of_decide_eq_true tested ▸ List.mem_map_of_mem stored)
    rw [nothing, ← List.head?_filter]
    cases asked : batch.filter (fun row => decide (key row = sought)) with
    | nil => rfl
    | cons first rest =>
      have under (row : α) (member : row ∈ first :: rest) : key row = sought :=
        sameKey batch row (asked ▸ member)
      rw [upsert_all_cons, upsert_absent (by simp), upsert_all_present]
      · rfl
      · intro row member
        rw [under row (by simp [member]), ← under first (by simp)]
        simp

/-- Batches with the same first row under every key end with the same rows. -/
theorem upsert_all_same {batch other : List α}
    (agree : ∀ sought, batch.find? (fun row => decide (key row = sought)) =
      other.find? (fun row => decide (key row = sought))) (rows : List α) (row : α) :
    row ∈ upsertAll key rows batch ↔ row ∈ upsertAll key rows other := by
  have under (rows : List α) :
      row ∈ rows ↔ row ∈ rows.filter (fun held => decide (key held = key row)) := by
    simp
  rw [under (upsertAll key rows batch), under (upsertAll key rows other), upsert_all_under,
    upsert_all_under, agree]

end Upserts
