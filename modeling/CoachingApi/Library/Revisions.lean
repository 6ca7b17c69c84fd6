import Mathlib.Logic.Function.Basic
import CoachingApi.Library.Records

/-!
# Revising keyed tables, and assigning under keys

A revision rewrites the rows under a key, or adds a row when there is none. Read key by key
it is an update of the table at that key, so rows under other keys stay and distinct keys
stay distinct.

A sequence of assignments to a table read as a function of its keys leaves under each key
the value assigned last. Repeating a sequence after any beginning of it is therefore the
sequence once. A table whose rows read as what was assigned last under their keys keeps that
under a revision that stores the value assigned.
-/

namespace Revisions

section Tables

variable {α κ : Type} [DecidableEq κ] {key : α → κ}

/-- Rewrite the rows under a key, or add a row when there is none. -/
def revise (key : α → κ) (target : κ) (change : α → α) (added : α) (rows : List α) : List α :=
  if target ∈ rows.map key then Records.modify key target change rows else rows ++ [added]

/-- A key is in a table exactly when a look-up finds a row under it. -/
theorem lookup_isSome {target : κ} {rows : List α} :
    (Records.lookup key target rows).isSome = true ↔ target ∈ rows.map key := by
  rw [Records.lookup, List.find?_isSome, List.mem_map]
  simp

/-- A look-up under the revised key finds the rewritten row, or the added one. -/
theorem revise_lookup_same {target : κ} {change : α → α} {added : α} {rows : List α}
    (keeps : ∀ row, key (change row) = key row) (under : key added = target) :
    Records.lookup key target (revise key target change added rows) =
      some (((Records.lookup key target rows).map change).getD added) := by
  unfold revise
  cases found : Records.lookup key target rows with
  | none =>
    have absent : target ∉ rows.map key := by
      rw [← lookup_isSome, found]
      simp
    have fresh : ∀ other ∈ rows, key other ≠ key added := by
      intro other stored same
      exact absent (under ▸ same ▸ List.mem_map_of_mem stored)
    rw [if_neg absent, ← under, Records.lookup_append fresh]
    rfl
  | some row =>
    have present : target ∈ rows.map key := lookup_isSome.mp (by rw [found]; rfl)
    rw [if_pos present, Records.lookup_modify target target rows keeps, found]
    simp [(Records.lookup_some found).2]

/-- A look-up under another key finds what it found. -/
theorem revise_lookup_other {target sought : κ} {change : α → α} {added : α} {rows : List α}
    (keeps : ∀ row, key (change row) = key row) (under : key added = target)
    (apart : sought ≠ target) :
    Records.lookup key sought (revise key target change added rows) =
      Records.lookup key sought rows := by
  unfold revise
  split
  · rw [Records.lookup_modify sought target rows keeps]
    cases found : Records.lookup key sought rows with
    | none => rfl
    | some row =>
      have elsewhere : key row ≠ target := (Records.lookup_some found).2 ▸ apart
      simp [elsewhere]
  · exact Records.lookup_append_other rows (under ▸ apart.symm)

/-- A revision keeps distinct keys distinct. -/
theorem revise_distinct {target : κ} {change : α → α} {added : α} {rows : List α}
    (keeps : ∀ row, key (change row) = key row) (under : key added = target)
    (distinct : Records.Distinct key rows) :
    Records.Distinct key (revise key target change added rows) := by
  unfold revise
  split
  · exact Records.modify_distinct keeps distinct
  · rename_i absent
    refine Records.append_distinct distinct ?_
    intro other stored same
    exact absent (under ▸ same ▸ List.mem_map_of_mem stored)

/-- Rows under other keys are untouched. -/
theorem revise_other {target : κ} {change : α → α} {added : α} {rows : List α}
    (keeps : ∀ row, key (change row) = key row) (under : key added = target) {row : α}
    (apart : key row ≠ target) : row ∈ revise key target change added rows ↔ row ∈ rows := by
  unfold revise
  split
  · constructor
    · intro member
      obtain ⟨original, stored, result⟩ := Records.mem_modify.mp member
      by_cases touched : key original = target
      · rw [if_pos touched] at result
        rw [← result, keeps] at apart
        exact False.elim (apart touched)
      · rw [if_neg touched] at result
        exact result ▸ stored
    · exact fun stored => Records.modify_other stored apart
  · simp only [List.mem_append, List.mem_singleton, or_iff_left_iff_imp]
    rintro rfl
    exact False.elim (apart under)

/-- Every row that was there is still there with a reading that the change keeps. -/
theorem revise_carries {β : Type} {target : κ} {change : α → α} {added row : α} {rows : List α}
    (key : α → κ) (reading : α → β) (keeps : ∀ row, reading (change row) = reading row)
    (stored : row ∈ rows) :
    ∃ kept ∈ revise key target change added rows, reading kept = reading row := by
  unfold revise
  split
  · by_cases touched : key row = target
    · exact ⟨change row, touched ▸ Records.modify_same stored, keeps row⟩
    · exact ⟨row, Records.modify_other stored touched, rfl⟩
  · exact ⟨row, List.mem_append_left _ stored, rfl⟩

/-- Under distinct keys a revision changes nothing exactly when a row under the key is there and
the change leaves it as it is. -/
theorem revise_same_iff {target : κ} {change : α → α} {added : α} {rows : List α}
    (keeps : ∀ row, key (change row) = key row) (under : key added = target)
    (distinct : Records.Distinct key rows) :
    (∀ row, row ∈ revise key target change added rows ↔ row ∈ rows) ↔
      ∃ row ∈ rows, key row = target ∧ change row = row := by
  unfold revise
  constructor
  · intro same
    split at same
    · rename_i present
      obtain ⟨row, stored, rfl⟩ := List.mem_map.mp present
      have changed : change row ∈ rows := (same (change row)).mp (Records.modify_same stored)
      exact ⟨row, stored, rfl, Records.same_record distinct changed stored (keeps row)⟩
    · rename_i absent
      have stored : added ∈ rows := (same added).mp (by simp)
      exact absurd (under ▸ List.mem_map_of_mem stored) absent
  · rintro ⟨row, stored, rfl, fixed⟩ other
    have unchanged : Records.modify key (key row) change rows = rows := by
      apply Records.modify_fixed
      intro touched member same
      rw [Records.same_record distinct member stored same, fixed]
    rw [if_pos (List.mem_map_of_mem stored), unchanged]

/-- After a revision a row is one under another key that was there, the rewrite of one under the
key, or the added one. -/
theorem mem_revise {target : κ} {change : α → α} {added row : α} {rows : List α}
    (member : row ∈ revise key target change added rows) :
    (row ∈ rows ∧ key row ≠ target) ∨
      (∃ original ∈ rows, key original = target ∧ change original = row) ∨
        (row = added ∧ target ∉ rows.map key) := by
  unfold revise at member
  split at member
  · obtain ⟨original, stored, result⟩ := Records.mem_modify.mp member
    by_cases touched : key original = target
    · rw [if_pos touched] at result
      exact .inr (.inl ⟨original, stored, touched, result⟩)
    · rw [if_neg touched] at result
      exact .inl (result ▸ ⟨stored, touched⟩)
  · rename_i absent
    rcases List.mem_append.mp member with stored | new
    · exact .inl ⟨stored, fun same => absent (same ▸ List.mem_map_of_mem stored)⟩
    · exact .inr (.inr ⟨List.mem_singleton.mp new, absent⟩)

/-- A row under the key is rewritten by a revision. -/
theorem revise_rewrites {target : κ} {change : α → α} {added row : α} {rows : List α}
    (stored : row ∈ rows) (under : key row = target) :
    change row ∈ revise key target change added rows := by
  rw [revise, if_pos (under ▸ List.mem_map_of_mem stored), ← under]
  exact Records.modify_same stored

/-- A row that stands in for none is added by a revision. -/
theorem revise_adds {target : κ} {change : α → α} {added : α} {rows : List α}
    (absent : target ∉ rows.map key) : added ∈ revise key target change added rows := by
  rw [revise, if_neg absent]
  simp

end Tables

section Assignments

variable {κ β : Type} [DecidableEq κ]

/-- Assign values under keys one after the other. -/
def assignAll (view : κ → Option β) (entries : List (κ × β)) : κ → Option β :=
  entries.foldl (fun view entry => Function.update view entry.1 (some entry.2)) view

/-- The value assigned last under a key. -/
def lastUnder (sought : κ) (entries : List (κ × β)) : Option β :=
  (entries.reverse.find? (fun entry => decide (entry.1 = sought))).map Prod.snd

@[simp] theorem assign_all_nil (view : κ → Option β) : assignAll view [] = view := rfl

@[simp] theorem assign_all_cons (view : κ → Option β) (entry : κ × β) (rest : List (κ × β)) :
    assignAll view (entry :: rest) =
      assignAll (Function.update view entry.1 (some entry.2)) rest := rfl

/-- Assignments are their beginning followed by the remainder. -/
theorem assign_all_append (view : κ → Option β) (first second : List (κ × β)) :
    assignAll view (first ++ second) = assignAll (assignAll view first) second :=
  List.foldl_append

/-- Nothing is assigned last under a key exactly when nothing is assigned under it. -/
theorem last_under_none {sought : κ} {entries : List (κ × β)} :
    lastUnder sought entries = none ↔ ∀ entry ∈ entries, entry.1 ≠ sought := by
  simp [lastUnder]

/-- Under distinct keys what is assigned last under a key is what is assigned under it. -/
theorem last_under_distinct {entries : List (κ × β)} (distinct : (entries.map Prod.fst).Nodup)
    {entry : κ × β} (member : entry ∈ entries) : lastUnder entry.1 entries = some entry.2 := by
  unfold lastUnder
  cases found : entries.reverse.find? (fun other => decide (other.1 = entry.1)) with
  | none =>
    have missed := List.find?_eq_none.mp found entry (List.mem_reverse.mpr member)
    simp at missed
  | some other =>
    have stored := List.mem_reverse.mp (List.mem_of_find?_eq_some found)
    have same : other.1 = entry.1 := by simpa using List.find?_some found
    rw [Records.same_record distinct stored member same]
    rfl

/-- A further assignment is the last one under its key, and leaves the others as they were. -/
theorem last_under_append (sought : κ) (entries : List (κ × β)) (entry : κ × β) :
    lastUnder sought (entries ++ [entry]) =
      if entry.1 = sought then some entry.2 else lastUnder sought entries := by
  by_cases same : entry.1 = sought
  · simp [lastUnder, same]
  · simp [lastUnder, same]

/-- Under a key assignments leave the value assigned last, and else what was there. -/
theorem assign_all_read (view : κ → Option β) (entries : List (κ × β)) (sought : κ) :
    assignAll view entries sought = (lastUnder sought entries).or (view sought) := by
  induction entries generalizing view with
  | nil => rfl
  | cons entry rest inductionHypothesis =>
    rw [assign_all_cons, inductionHypothesis]
    unfold lastUnder
    rw [List.reverse_cons, List.find?_append]
    cases later : rest.reverse.find? (fun entry => decide (entry.1 = sought)) with
    | some found => simp
    | none =>
      by_cases same : entry.1 = sought
      · simp [same]
      · simp [same, Function.update_of_ne (Ne.symm same)]

end Assignments

section Telling

variable {α κ β : Type} [DecidableEq κ] {key : α → κ} {reading : α → β}

/-- Every row reads as what was assigned last under its key. -/
def Tells (key : α → κ) (reading : α → β) (rows : List α) (entries : List (κ × β)) : Prop :=
  ∀ row ∈ rows, lastUnder (key row) entries = some (reading row)

/-- A table that tells its assignments still tells them after a revision and an assignment
under the same key exactly when the rewritten row, or the added one, reads as the value
assigned. -/
theorem tells_revise_iff {target : κ} {change : α → α} {added : α} {value : β} {rows : List α}
    {entries : List (κ × β)} (keeps : ∀ row, key (change row) = key row)
    (under : key added = target) (tells : Tells key reading rows entries) :
    Tells key reading (revise key target change added rows) (entries ++ [(target, value)]) ↔
      (∀ row ∈ rows, key row = target → reading (change row) = value) ∧
        (target ∉ rows.map key → reading added = value) := by
  have last (row : α) (same : key row = target) :
      lastUnder (key row) (entries ++ [(target, value)]) = some value := by
    rw [last_under_append, if_pos same.symm]
  constructor
  · intro told
    constructor
    · intro row stored same
      have read := told (change row) (revise_rewrites stored same)
      rw [last _ ((keeps row).trans same)] at read
      exact (Option.some.inj read).symm
    · intro absent
      have read := told added (revise_adds absent)
      rw [last _ under] at read
      exact (Option.some.inj read).symm
  · rintro ⟨rewritten, fresh⟩ row member
    rcases mem_revise member with ⟨stored, apart⟩ | ⟨original, stored, same, rfl⟩ | ⟨rfl, absent⟩
    · rw [last_under_append, if_neg (Ne.symm apart)]
      exact tells row stored
    · rw [last _ ((keeps original).trans same), rewritten original stored same]
    · rw [last _ under, fresh absent]

end Telling

end Revisions
