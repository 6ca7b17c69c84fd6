import Mathlib.Algebra.BigOperators.Group.List.Basic
import Mathlib.Algebra.Field.Rat
import Mathlib.Data.List.Forall2
import Mathlib.Data.List.Nodup
import Mathlib.Tactic.Linarith

/-!
# Keyed lists of records

A table is a list of records in insertion order, each under a key. Looking a key up
takes the first record under it; rewriting touches the records under one key; a
total weighs every record. With distinct keys a rewrite changes the total by the
change of the one record it touches.
-/

namespace Records

variable {α κ : Type}

/-- Keys are distinct. -/
def Distinct (key : α → κ) (rows : List α) : Prop := (rows.map key).Nodup

/-- Distinct keys can be tested. -/
instance decidableDistinct [DecidableEq κ] (key : α → κ) (rows : List α) :
    Decidable (Distinct key rows) :=
  inferInstanceAs (Decidable (rows.map key).Nodup)

/-- Distinct keys determine their records. -/
theorem same_record {key : α → κ} {rows : List α} (distinct : Distinct key rows) {first second : α}
    (firstStored : first ∈ rows) (secondStored : second ∈ rows) (same : key first = key second) :
    first = second :=
  List.inj_on_of_nodup_map distinct firstStored secondStored same

/-- Tables with the same keys have distinct keys alike. -/
theorem same_keys_distinct {key : α → κ} {before after : List α}
    (same : after.map key = before.map key) (distinct : Distinct key before) :
    Distinct key after := by
  unfold Distinct
  rw [same]
  exact distinct

/-- Tables have one reading exactly when they do record by record. -/
theorem same_reading_iff {β : Type} {reading : α → β} {before after : List α} :
    after.map reading = before.map reading ↔
      List.Forall₂ (fun one other => reading one = reading other) after before := by
  rw [← List.forall₂_eq_eq_eq, List.forall₂_map_left_iff, List.forall₂_map_right_iff]

/-- Tables with one reading share every reading that it determines. -/
theorem determined_reading {β γ : Type} {reading : α → β} {coarser : α → γ}
    {before after : List α}
    (determines : ∀ one other, reading one = reading other → coarser one = coarser other)
    (same : after.map reading = before.map reading) : after.map coarser = before.map coarser :=
  same_reading_iff.mpr ((same_reading_iff.mp same).imp determines)

/-- Tables with one reading hold records with the same readings. -/
theorem reading_stored {β : Type} {reading : α → β} {before after : List α}
    (same : after.map reading = before.map reading) {row : α} (stored : row ∈ after) :
    ∃ other ∈ before, reading other = reading row := by
  have member : reading row ∈ before.map reading := same ▸ List.mem_map.mpr ⟨row, stored, rfl⟩
  exact List.mem_map.mp member

/-- A record under a new key keeps keys distinct. -/
theorem append_distinct {key : α → κ} {rows : List α} {row : α} (distinct : Distinct key rows)
    (fresh : ∀ other ∈ rows, key other ≠ key row) : Distinct key (rows ++ [row]) := by
  simp only [Distinct, List.map_append, List.map_cons, List.map_nil] at distinct ⊢
  refine List.nodup_append.mpr ⟨distinct, by simp, ?_⟩
  intro earlier member last added same
  obtain ⟨other, stored, rfl⟩ := List.mem_map.mp member
  exact fresh other stored (same.trans (List.mem_singleton.mp added))

variable [DecidableEq κ]

/-- The first record under a key. -/
def lookup (key : α → κ) (target : κ) (rows : List α) : Option α :=
  rows.find? (fun row => decide (key row = target))

/-- Rewrite the records under a key. -/
def modify (key : α → κ) (target : κ) (change : α → α) (rows : List α) : List α :=
  rows.map (fun row => if key row = target then change row else row)

/-- A record found by its key is stored under it. -/
theorem lookup_some {key : α → κ} {target : κ} {rows : List α} {row : α}
    (found : lookup key target rows = some row) : row ∈ rows ∧ key row = target :=
  ⟨List.mem_of_find?_eq_some found, by simpa using List.find?_some found⟩

/-- Under distinct keys a stored record is found by its key. -/
theorem lookup_stored {key : α → κ} {rows : List α} (distinct : Distinct key rows) {row : α}
    (stored : row ∈ rows) : lookup key (key row) rows = some row := by
  cases found : lookup key (key row) rows with
  | none =>
    have absent := List.find?_eq_none.mp found row stored
    simp at absent
  | some other =>
    obtain ⟨otherStored, same⟩ := lookup_some found
    rw [same_record distinct otherStored stored same]

/-- Under distinct keys a found record is the only one under its key. -/
theorem filter_found {key : α → κ} {target : κ} {rows : List α} (distinct : Distinct key rows)
    {row : α} (found : lookup key target rows = some row) :
    rows.filter (fun other => decide (key other = target)) = [row] := by
  obtain ⟨stored, under⟩ := lookup_some found
  apply List.perm_singleton.mp
  refine (List.perm_ext_iff_of_nodup ((List.Nodup.of_map key distinct).filter _) (by simp)).mpr ?_
  intro other
  rw [List.mem_filter, decide_eq_true_eq, List.mem_singleton]
  constructor
  · rintro ⟨member, same⟩
    exact same_record distinct member stored (same.trans under.symm)
  · rintro rfl
    exact ⟨stored, under⟩

/-- Membership after a rewrite. -/
theorem mem_modify {key : α → κ} {target : κ} {change : α → α} {rows : List α} {row : α} :
    row ∈ modify key target change rows ↔
      ∃ original ∈ rows, (if key original = target then change original else original) = row :=
  List.mem_map

/-- A rewrite that keeps a reading of the records it touches keeps it over the table. -/
theorem modify_reading {β : Type} {key : α → κ} {target : κ} {change : α → α} {rows : List α}
    (reading : α → β)
    (keeps : ∀ row ∈ rows, key row = target → reading (change row) = reading row) :
    (modify key target change rows).map reading = rows.map reading := by
  simp only [modify, List.map_map]
  apply List.map_congr_left
  intro row stored
  by_cases same : key row = target
  · simp [same, keeps row stored same]
  · simp [same]

/-- A rewrite that keeps keys keeps the keys of the table. -/
theorem modify_keys {key : α → κ} (target : κ) {change : α → α}
    (keeps : ∀ row, key (change row) = key row) (rows : List α) :
    (modify key target change rows).map key = rows.map key :=
  modify_reading key (fun row _ _ => keeps row)

/-- A rewrite that keeps keys keeps them distinct. -/
theorem modify_distinct {key : α → κ} {target : κ} {change : α → α} {rows : List α}
    (keeps : ∀ row, key (change row) = key row) (distinct : Distinct key rows) :
    Distinct key (modify key target change rows) :=
  same_keys_distinct (modify_keys target keeps rows) distinct

/-- After a replacement a record is the new one or a stored one under another key. -/
theorem mem_replace {key : α → κ} {target : κ} {replacement row : α} {rows : List α}
    (member : row ∈ modify key target (fun _ => replacement) rows) :
    row = replacement ∨ (row ∈ rows ∧ key row ≠ target) := by
  obtain ⟨original, stored, result⟩ := mem_modify.mp member
  by_cases touched : key original = target
  · rw [if_pos touched] at result
    exact .inl result.symm
  · rw [if_neg touched] at result
    exact .inr (result ▸ ⟨stored, touched⟩)

/-- Replacing the record under a key by one with that key keeps keys distinct. -/
theorem replace_distinct {key : α → κ} {target : κ} {replacement : α} {rows : List α}
    (same : key replacement = target) (distinct : Distinct key rows) :
    Distinct key (modify key target (fun _ => replacement) rows) :=
  same_keys_distinct (modify_reading key (fun _ _ touched => same.trans touched.symm)) distinct

/-- Replacing a record keeps a reading over the table exactly when the replacement has the
record's reading. -/
theorem replace_reading_iff {β : Type} {key : α → κ} {replacement row : α} {rows : List α}
    (reading : α → β) (distinct : Distinct key rows) (stored : row ∈ rows) :
    (modify key (key row) (fun _ => replacement) rows).map reading = rows.map reading ↔
      reading replacement = reading row := by
  simp only [modify, List.map_map, List.map_inj_left, Function.comp_apply]
  constructor
  · intro same
    simpa using same row stored
  · intro same other member
    by_cases touched : key other = key row
    · rw [if_pos touched, same, same_record distinct member stored touched]
    · rw [if_neg touched]

/-- Two rewrites under one key are one, when the first leaves what it touches under the key. -/
theorem modify_twice {key : α → κ} {target : κ} {first second : α → α} {rows : List α}
    (keeps : ∀ row ∈ rows, key row = target → key (first row) = target) :
    modify key target second (modify key target first rows) =
      modify key target (second ∘ first) rows := by
  simp only [modify, List.map_map]
  apply List.map_congr_left
  intro row stored
  by_cases touched : key row = target
  · simp [touched, keeps row stored touched]
  · simp [touched]

/-- Replacing the record under a key twice leaves the second replacement. -/
theorem replace_twice {key : α → κ} {target : κ} {first second : α} (rows : List α)
    (same : key first = target) :
    modify key target (fun _ => second) (modify key target (fun _ => first) rows) =
      modify key target (fun _ => second) rows :=
  modify_twice (fun _ _ _ => same)

/-- Records under other keys survive a rewrite. -/
theorem modify_other {key : α → κ} {target : κ} {change : α → α} {rows : List α} {row : α}
    (stored : row ∈ rows) (other : key row ≠ target) : row ∈ modify key target change rows :=
  mem_modify.mpr ⟨row, stored, if_neg other⟩

/-- The record under the key is rewritten. -/
theorem modify_same {key : α → κ} {change : α → α} {rows : List α} {row : α}
    (stored : row ∈ rows) : change row ∈ modify key (key row) change rows :=
  mem_modify.mpr ⟨row, stored, if_pos rfl⟩

/-- A rewrite that changes nothing it touches changes nothing. -/
theorem modify_fixed {key : α → κ} {target : κ} {change : α → α} {rows : List α}
    (fixed : ∀ row ∈ rows, key row = target → change row = row) :
    modify key target change rows = rows := by
  unfold modify
  conv_rhs => rw [← List.map_id rows]
  apply List.map_congr_left
  intro row stored
  by_cases same : key row = target
  · rw [if_pos same, fixed row stored same, id_eq]
  · rw [if_neg same, id_eq]

/-- Rewrites that agree on what they touch agree. -/
theorem modify_agree {key : α → κ} {target : κ} {change other : α → α} {rows : List α}
    (agree : ∀ row ∈ rows, key row = target → change row = other row) :
    modify key target change rows = modify key target other rows := by
  apply List.map_congr_left
  intro row stored
  by_cases same : key row = target
  · rw [if_pos same, if_pos same, agree row stored same]
  · rw [if_neg same, if_neg same]

/-- A record appended under a new key is found by it. -/
theorem lookup_append {key : α → κ} {rows : List α} {row : α}
    (fresh : ∀ other ∈ rows, key other ≠ key row) :
    lookup key (key row) (rows ++ [row]) = some row := by
  have absent : rows.find? (fun other => decide (key other = key row)) = none := by
    rw [List.find?_eq_none]
    intro other member
    simp [fresh other member]
  simp [lookup, List.find?_append, absent]

/-- A record appended under another key is not what a look-up finds. -/
theorem lookup_append_other {key : α → κ} {target : κ} {row : α} (rows : List α)
    (apart : key row ≠ target) : lookup key target (rows ++ [row]) = lookup key target rows := by
  cases found : rows.find? (fun other => decide (key other = target)) with
  | none => simp [lookup, List.find?_append, found, apart]
  | some other => simp [lookup, List.find?_append, found]

/-- Changing the rows under one key is changing those under another one, where each of the two
tells the rows apart. -/
theorem modify_same_row {ι : Type} [DecidableEq ι] {key : α → κ} {other : α → ι} {rows : List α}
    (distinct : Distinct key rows) (otherDistinct : Distinct other rows) {row : α}
    (stored : row ∈ rows) (change : α → α) :
    modify other (other row) change rows = modify key (key row) change rows := by
  apply List.map_congr_left
  intro held member
  have same : other held = other row ↔ key held = key row := by
    constructor
    · intro equal
      rw [same_record otherDistinct member stored equal]
    · intro equal
      rw [same_record distinct member stored equal]
  by_cases touched : other held = other row
  · rw [if_pos touched, if_pos (same.mp touched)]
  · rw [if_neg touched, if_neg (fun under => touched (same.mpr under))]

/-- A rewrite under the new key of an appended record touches that record only. -/
theorem modify_append {key : α → κ} {rows : List α} {row : α} (change : α → α)
    (fresh : ∀ other ∈ rows, key other ≠ key row) :
    modify key (key row) change (rows ++ [row]) = rows ++ [change row] := by
  have untouched : modify key (key row) change rows = rows :=
    modify_fixed (fun other member same => False.elim (fresh other member same))
  simp only [modify, List.map_append, List.map_cons, List.map_nil, if_true] at untouched ⊢
  rw [untouched]

/-- The first match by a test that a rewrite keeps is the rewritten first match. -/
theorem find_modify {key : α → κ} {target : κ} {change : α → α} {test : α → Bool} (rows : List α)
    (kept : ∀ row ∈ rows, key row = target → test (change row) = test row) :
    (modify key target change rows).find? test =
      (rows.find? test).map (fun row => if key row = target then change row else row) := by
  induction rows with
  | nil => rfl
  | cons row rest inductionHypothesis =>
    have later := inductionHypothesis (fun other member => kept other (by simp [member]))
    simp only [modify, List.map_cons] at later ⊢
    have head : test (if key row = target then change row else row) = test row := by
      by_cases same : key row = target
      · rw [if_pos same, kept row (by simp) same]
      · rw [if_neg same]
    cases tested : test row with
    | true => simp [head, tested]
    | false =>
      simp only [List.find?_cons, head, tested]
      exact later

/-- A look-up after a rewrite that keeps keys. -/
theorem lookup_modify {key : α → κ} (sought target : κ) {change : α → α} (rows : List α)
    (keeps : ∀ row, key (change row) = key row) :
    lookup key sought (modify key target change rows) =
      (lookup key sought rows).map (fun row => if key row = target then change row else row) :=
  find_modify rows (fun row _ _ => by simp only [keeps])

/-- A table after rewrites of the records under one key, which keep their reading. -/
def Rewrites {β : Type} (key : α → κ) (reading : α → β) (target : κ) (before after : List α) :
    Prop :=
  ∃ change : α → α,
    (∀ row ∈ before, key row = target → reading (change row) = reading row) ∧
      after = modify key target change before

/-- No rewrite at all. -/
theorem rewrites_refl {β : Type} (key : α → κ) (reading : α → β) (target : κ) (rows : List α) :
    Rewrites key reading target rows rows :=
  ⟨id, fun _ _ _ => rfl, (modify_fixed (fun _ _ _ => rfl)).symm⟩

/-- Rewrites keep the reading over the table. -/
theorem Rewrites.reading {β : Type} {key : α → κ} {reading : α → β} {target : κ}
    {before after : List α} (rewrites : Rewrites key reading target before after) :
    after.map reading = before.map reading := by
  obtain ⟨change, keeps, rfl⟩ := rewrites
  exact modify_reading reading keeps

/-- One more rewrite of the records under the key. -/
theorem Rewrites.modify {β : Type} {key : α → κ} {reading : α → β} {target : κ}
    {before after : List α} (rewrites : Rewrites key reading target before after)
    (determines : ∀ first second, reading first = reading second → key first = key second)
    {change : α → α} (keeps : ∀ row, reading (change row) = reading row) :
    Rewrites key reading target before (Records.modify key target change after) := by
  obtain ⟨earlier, earlierKeeps, rfl⟩ := rewrites
  refine ⟨change ∘ earlier, fun row stored touched => ?_, ?_⟩
  · exact (keeps (earlier row)).trans (earlierKeeps row stored touched)
  · refine modify_twice (fun row stored touched => ?_)
    exact (determines _ _ (earlierKeeps row stored touched)).trans touched

/-- Rewrites leave every selection of records under other keys as it was. -/
theorem Rewrites.selection {β : Type} {key : α → κ} {reading : α → β} {target : κ}
    {before after : List α} (rewrites : Rewrites key reading target before after)
    (selects : β → Bool)
    (elsewhere : ∀ row ∈ before, selects (reading row) = true → key row ≠ target) :
    after.filter (fun row => selects (reading row)) =
      before.filter (fun row => selects (reading row)) := by
  obtain ⟨change, keeps, rfl⟩ := rewrites
  simp only [Records.modify]
  induction before with
  | nil => rfl
  | cons row rest inductionHypothesis =>
    have later := inductionHypothesis (fun other member => elsewhere other (by simp [member]))
      (fun other member => keeps other (by simp [member]))
    by_cases touched : key row = target
    · have unselected : selects (reading row) = false := by
        cases selected : selects (reading row) with
        | false => rfl
        | true => exact False.elim (elsewhere row (by simp) selected touched)
      have changed : selects (reading (change row)) = false := by
        rw [keeps row (by simp) touched, unselected]
      simp [touched, unselected, changed, later]
    · simp [List.filter_cons, touched, later]

/-- The total weight of a table. -/
def total (weigh : α → ℚ) (rows : List α) : ℚ := (rows.map weigh).sum

/-- Adding a record adds its weight. -/
theorem total_append (weigh : α → ℚ) (rows : List α) (row : α) :
    total weigh (rows ++ [row]) = total weigh rows + weigh row := by
  simp [total]

/-- Nonnegative weights total a nonnegative amount. -/
theorem total_nonneg {weigh : α → ℚ} {rows : List α} (nonnegative : ∀ row ∈ rows, 0 ≤ weigh row) :
    0 ≤ total weigh rows := by
  induction rows with
  | nil => simp [total]
  | cons row rest inductionHypothesis =>
    have later := inductionHypothesis (fun other member => nonnegative other (by simp [member]))
    have head := nonnegative row (by simp)
    simp only [total, List.map_cons, List.sum_cons] at later ⊢
    linarith

/-- Under distinct keys a rewrite exchanges one record's weight. -/
theorem total_modify (weigh : α → ℚ) {key : α → κ} {rows : List α} (distinct : Distinct key rows)
    {row : α} (stored : row ∈ rows) (change : α → α) :
    total weigh (modify key (key row) change rows) + weigh row =
      total weigh rows + weigh (change row) := by
  induction rows with
  | nil => simp at stored
  | cons first rest inductionHypothesis =>
    simp only [Distinct, List.map_cons, List.nodup_cons] at distinct
    by_cases same : key first = key row
    · have identical : first = row := by
        rcases List.mem_cons.mp stored with head | later
        · exact head.symm
        · exact False.elim (distinct.1 (same ▸ List.mem_map.mpr ⟨row, later, rfl⟩))
      have restKept : modify key (key row) change rest = rest := by
        apply modify_fixed
        intro other member equal
        exact False.elim (distinct.1 (same ▸ equal ▸ List.mem_map.mpr ⟨other, member, rfl⟩))
      have split : modify key (key row) change (first :: rest) =
          change row :: modify key (key row) change rest := by
        simp [modify, identical]
      rw [split, restKept, identical]
      simp only [total, List.map_cons, List.sum_cons]
      linarith
    · have later : row ∈ rest := by
        rcases List.mem_cons.mp stored with head | later
        · exact False.elim (same (congrArg key head.symm))
        · exact later
      have split : modify key (key row) change (first :: rest) =
          first :: modify key (key row) change rest := by
        simp [modify, same]
      have step := inductionHypothesis distinct.2 later
      rw [split]
      simp only [total, List.map_cons, List.sum_cons] at step ⊢
      linarith

end Records
