import Mathlib.Algebra.BigOperators.Group.List.Basic
import Mathlib.Data.List.Dedup
import CoachingApi.Library.Revisions

/-!
# Tables that follow a history

A history is a sequence of values assigned under keys. A table follows it when a look-up reads
under each key what was assigned last under it, and nothing where nothing was assigned. Such a
table has one row for each key of its history, so what is counted or summed over its rows is
counted or summed over those keys.

A history may also tell the parts of rows that are there for other reasons. A table replays it when
every part of a row reads what was told last of it, and a default value where nothing was told.
-/

namespace Histories

open Revisions

variable {α κ β : Type} [DecidableEq κ] {key : α → κ} {reading : α → β}

/-- The keys under which something was assigned, each once. -/
def keys (history : List (κ × β)) : List κ := (history.map Prod.fst).dedup

/-- Under every key a table reads what was assigned last. -/
structure Follows (key : α → κ) (reading : α → β) (rows : List α) (history : List (κ × β)) :
    Prop where
  distinct : Records.Distinct key rows
  reads : ∀ sought, (Records.lookup key sought rows).map reading = lastUnder sought history

/-- What was assigned last is what was assigned last by the second sequence, and else by the
first. -/
theorem last_under_concat (sought : κ) (first second : List (κ × β)) :
    lastUnder sought (first ++ second) = (lastUnder sought second).or (lastUnder sought first) := by
  have whole := assign_all_read (fun _ => none) (first ++ second) sought
  rw [assign_all_append, assign_all_read, assign_all_read, Option.or_none, Option.or_none] at whole
  exact whole.symm

/-- Something was assigned last exactly under the keys of the history. -/
theorem last_under_isSome {sought : κ} {history : List (κ × β)} :
    (lastUnder sought history).isSome = true ↔ sought ∈ keys history := by
  rw [keys, List.mem_dedup, List.mem_map, ← Option.ne_none_iff_isSome, Ne, last_under_none]
  constructor
  · intro assigned
    by_contra absent
    apply assigned
    intro entry member same
    exact absent ⟨entry, member, same⟩
  · rintro ⟨entry, member, same⟩ unassigned
    exact unassigned entry member same

/-- Of one assignment, what was assigned last is its value. -/
theorem last_under_one (sought : κ) (value : β) : lastUnder sought [(sought, value)] = some value := by
  simp [lastUnder]

/-- Renaming keys apart and rewriting values, what was assigned last is what was assigned last,
rewritten. -/
theorem last_under_map {lam γ : Type} [DecidableEq lam] {rename : κ → lam}
    (apart : Function.Injective rename) (rewrite : β → γ) (sought : κ) (history : List (κ × β)) :
    lastUnder (rename sought) (history.map (fun entry => (rename entry.1, rewrite entry.2))) =
      (lastUnder sought history).map rewrite := by
  have same : (fun entry : κ × β => decide (rename entry.1 = rename sought)) =
      fun entry => decide (entry.1 = sought) := by
    funext entry
    simp only [apart.eq_iff]
  unfold lastUnder
  rw [← List.map_reverse, List.find?_map, Option.map_map, Option.map_map]
  simp only [Function.comp_def, same]

/-- A table follows the history that assigns its rows in order. -/
theorem follows_start {rows : List α} (distinct : Records.Distinct key rows) :
    Follows key reading rows (rows.map (fun row => (key row, reading row))) := by
  have keysDistinct : ((rows.map (fun row => (key row, reading row))).map Prod.fst).Nodup := by
    rw [List.map_map]
    exact distinct
  constructor
  · exact distinct
  · intro sought
    cases found : Records.lookup key sought rows with
    | none =>
      have absent : sought ∉ rows.map key := by
        rw [← lookup_isSome, found]
        simp
      symm
      rw [Option.map_none, last_under_none]
      intro entry member same
      obtain ⟨row, stored, rfl⟩ := List.mem_map.mp member
      exact absent (same ▸ List.mem_map_of_mem stored)
    | some row =>
      obtain ⟨stored, rfl⟩ := Records.lookup_some found
      have assigned : (key row, reading row) ∈ rows.map (fun row => (key row, reading row)) :=
        List.mem_map_of_mem stored
      rw [Option.map_some, last_under_distinct keysDistinct assigned]

/-- A table whose readings are assigned further follows the history with what was assigned. -/
theorem Follows.assign {before after : List α} {history : List (κ × β)}
    (follows : Follows key reading before history) (distinct : Records.Distinct key after)
    {entries : List (κ × β)}
    (assigned : ∀ sought, (Records.lookup key sought after).map reading =
      assignAll (fun other => (Records.lookup key other before).map reading) entries sought) :
    Follows key reading after (history ++ entries) := by
  constructor
  · exact distinct
  · intro sought
    rw [assigned, assign_all_read, last_under_concat, follows.reads]

/-- A revision that stores a value follows the history with that value under its key. -/
theorem Follows.revise {rows : List α} {history : List (κ × β)}
    (follows : Follows key reading rows history) {target : κ} {change : α → α} {added : α}
    {value : β} (keeps : ∀ row, key (change row) = key row) (under : key added = target)
    (rewritten : ∀ row, reading (change row) = value) (fresh : reading added = value) :
    Follows key reading (revise key target change added rows) (history ++ [(target, value)]) := by
  apply follows.assign (revise_distinct keeps under follows.distinct)
  intro sought
  simp only [assign_all_cons, assign_all_nil]
  by_cases same : sought = target
  · subst same
    rw [Function.update_self, revise_lookup_same keeps under]
    cases Records.lookup key sought rows with
    | none => exact congrArg some fresh
    | some row => exact congrArg some (rewritten row)
  · rw [Function.update_of_ne same, revise_lookup_other keeps under same]

variable {rows : List α} {history : List (κ × β)}

/-- A row added under a new key follows the history with its reading. -/
theorem Follows.append (follows : Follows key reading rows history) {row : α}
    (fresh : ∀ other ∈ rows, key other ≠ key row) :
    Follows key reading (rows ++ [row]) (history ++ [(key row, reading row)]) := by
  constructor
  · exact Records.append_distinct follows.distinct fresh
  · intro sought
    rw [last_under_append]
    by_cases same : key row = sought
    · rw [if_pos same, ← same, Records.lookup_append fresh]
      rfl
    · rw [if_neg same, Records.lookup_append_other rows same]
      exact follows.reads sought

/-- Rows rewritten under a key follow the history with the value that they then read. -/
theorem Follows.rewrite (follows : Follows key reading rows history) {row : α} (stored : row ∈ rows)
    {change : α → α} {value : β} (keeps : ∀ row, key (change row) = key row)
    (rewritten : ∀ row, reading (change row) = value) :
    Follows key reading (Records.modify key (key row) change rows)
      (history ++ [(key row, value)]) := by
  have revised := follows.revise keeps (keeps row) rewritten (rewritten row)
  rw [Revisions.revise, if_pos (List.mem_map_of_mem stored)] at revised
  exact revised

/-- Rows rewritten with the same readings follow the same history. -/
theorem Follows.untouched (follows : Follows key reading rows history) {target : κ} {change : α → α}
    (keeps : ∀ row, key (change row) = key row)
    (same : ∀ row, reading (change row) = reading row) :
    Follows key reading (Records.modify key target change rows) history := by
  constructor
  · exact Records.modify_distinct keeps follows.distinct
  · intro sought
    rw [Records.lookup_modify sought target rows keeps, ← follows.reads]
    cases Records.lookup key sought rows with
    | none => rfl
    | some row =>
      simp only [Option.map_some]
      split
      · rw [same]
      · rfl

/-- A row reads what was assigned last under its key. -/
theorem Follows.row (follows : Follows key reading rows history) {row : α} (stored : row ∈ rows) :
    lastUnder (key row) history = some (reading row) := by
  rw [← follows.reads, Records.lookup_stored follows.distinct stored]
  rfl

/-- The keys of the rows are those of the history. -/
theorem Follows.keys_perm (follows : Follows key reading rows history) :
    (rows.map key).Perm (keys history) := by
  apply (List.perm_ext_iff_of_nodup follows.distinct (List.nodup_dedup _)).mpr
  intro sought
  rw [← lookup_isSome, ← keys, ← last_under_isSome, ← follows.reads, Option.isSome_map]

/-- The rows, each with its key and its reading, are the keys of the history, each with what was
assigned last. -/
theorem Follows.perm (follows : Follows key reading rows history) :
    (rows.map (fun row => (key row, some (reading row)))).Perm
      ((keys history).map (fun sought => (sought, lastUnder sought history))) := by
  have read : rows.map (fun row => (key row, some (reading row))) =
      (rows.map key).map (fun sought => (sought, lastUnder sought history)) := by
    rw [List.map_map]
    apply List.map_congr_left
    intro row stored
    exact congrArg (Prod.mk (key row)) (follows.row stored).symm
  rw [read]
  exact follows.keys_perm.map _

/-- Rows are counted by the keys of the history. -/
theorem Follows.count (follows : Follows key reading rows history) (test : κ → Option β → Bool) :
    rows.countP (fun row => test (key row) (some (reading row))) =
      (keys history).countP (fun sought => test sought (lastUnder sought history)) := by
  have counted := follows.perm.countP_eq (fun entry => test entry.1 entry.2)
  rw [List.countP_map, List.countP_map] at counted
  exact counted

/-- What rows weigh is summed over the keys of the history. -/
theorem Follows.sum {M : Type} [AddCommMonoid M] (follows : Follows key reading rows history)
    (test : κ → Bool) (weigh : Option β → M) :
    ((rows.filter (fun row => test (key row))).map (fun row => weigh (some (reading row)))).sum =
      (((keys history).filter test).map (fun sought => weigh (lastUnder sought history))).sum := by
  have summed := ((follows.perm.filter (fun entry => test entry.1)).map
    (fun entry => weigh entry.2)).sum_eq
  rw [List.filter_map, List.filter_map, List.map_map, List.map_map] at summed
  exact summed

/-- What is picked from rows is picked from the keys of the history. -/
theorem Follows.picks {γ : Type} (follows : Follows key reading rows history)
    (pick : Option β → Option γ) :
    (rows.filterMap (fun row => pick (some (reading row)))).Perm
      ((keys history).filterMap (fun sought => pick (lastUnder sought history))) := by
  have picked := follows.perm.filterMap (fun entry => pick entry.2)
  rw [List.filterMap_map, List.filterMap_map] at picked
  exact picked

section Parts

variable {π : Type} [DecidableEq π] {part : α → π → β} {absent : β}

/-- Every part of a row reads what was told last of it, and a default value where nothing was told.
Only rows that are there are told of. -/
structure Replays (key : α → κ) (part : α → π → β) (absent : β) (rows : List α)
    (history : List ((κ × π) × β)) : Prop where
  known : ∀ entry ∈ history, ∃ row ∈ rows, key row = entry.1.1
  reads : ∀ row ∈ rows, ∀ sought,
    part row sought = (lastUnder (key row, sought) history).getD absent

/-- A part of a row after an event: as it was told, and else as it was in the row before or, where
there was none, by default. -/
def Told (key : α → κ) (part : α → π → β) (absent : β) (rows : List α)
    (entries : List ((κ × π) × β)) (row : α) : Prop :=
  (∃ earlier ∈ rows, key earlier = key row ∧ ∀ sought,
    part row sought = (lastUnder (key row, sought) entries).getD (part earlier sought)) ∨
  (∀ earlier ∈ rows, key earlier ≠ key row) ∧ ∀ sought,
    part row sought = (lastUnder (key row, sought) entries).getD absent

variable {before after : List α} {history entries : List ((κ × π) × β)}

/-- A table all of whose rows are as they were told replays the history with what was told. -/
theorem Replays.tell (replays : Replays key part absent before history)
    (kept : ∀ row ∈ before, ∃ later ∈ after, key later = key row)
    (known : ∀ entry ∈ entries, ∃ row ∈ after, key row = entry.1.1)
    (told : ∀ row ∈ after, Told key part absent before entries row) :
    Replays key part absent after (history ++ entries) := by
  constructor
  · intro entry member
    rcases List.mem_append.mp member with old | new
    · obtain ⟨row, stored, same⟩ := replays.known entry old
      obtain ⟨later, held, equal⟩ := kept row stored
      exact ⟨later, held, equal.trans same⟩
    · exact known entry new
  · intro row stored sought
    rw [last_under_concat]
    rcases told row stored with ⟨earlier, held, same, reads⟩ | ⟨fresh, reads⟩
    · rw [reads, replays.reads earlier held, same]
      cases lastUnder (key row, sought) entries with
      | none => rfl
      | some value => rfl
    · have untold : lastUnder (key row, sought) history = none := by
        rw [last_under_none]
        rintro entry member same
        obtain ⟨earlier, held, under⟩ := replays.known entry member
        apply fresh earlier held
        rw [under, same]
      rw [reads, untold, Option.or_none]

/-- A row added under a new key replays the history with what was told of it. -/
theorem Replays.append (replays : Replays key part absent before history) {row : α}
    (fresh : ∀ other ∈ before, key other ≠ key row)
    (own : ∀ entry ∈ entries, entry.1.1 = key row)
    (told : ∀ sought, part row sought = (lastUnder (key row, sought) entries).getD absent) :
    Replays key part absent (before ++ [row]) (history ++ entries) := by
  apply replays.tell
  · exact fun other stored => ⟨other, List.mem_append_left _ stored, rfl⟩
  · exact fun entry member => ⟨row, by simp, (own entry member).symm⟩
  · intro other stored
    rcases List.mem_append.mp stored with old | new
    · refine .inl ⟨other, old, rfl, ?_⟩
      intro sought
      have untold : lastUnder (key other, sought) entries = none := by
        rw [last_under_none]
        rintro entry member same
        apply fresh other old
        rw [← own entry member, same]
      rw [untold, Option.getD_none]
    · obtain rfl := List.mem_singleton.mp new
      exact .inr ⟨fresh, told⟩

/-- Rows rewritten under a key replay the history with what was told of it. -/
theorem Replays.modify (replays : Replays key part absent before history) {target : α}
    (stored : target ∈ before) {change : α → α} (keeps : ∀ row, key (change row) = key row)
    (own : ∀ entry ∈ entries, entry.1.1 = key target)
    (told : ∀ row sought, key row = key target →
      part (change row) sought = (lastUnder (key target, sought) entries).getD (part row sought)) :
    Replays key part absent (Records.modify key (key target) change before)
      (history ++ entries) := by
  have held (row : α) (member : row ∈ before) :
      ∃ later ∈ Records.modify key (key target) change before, key later = key row := by
    have present : key row ∈ (Records.modify key (key target) change before).map key := by
      rw [Records.modify_keys (key target) keeps before]
      exact List.mem_map_of_mem member
    obtain ⟨later, inside, same⟩ := List.mem_map.mp present
    exact ⟨later, inside, same⟩
  apply replays.tell
  · exact held
  · intro entry member
    rw [own entry member]
    exact held target stored
  · intro row member
    left
    obtain ⟨earlier, inside, rfl⟩ := List.mem_map.mp member
    refine ⟨earlier, inside, ?_, ?_⟩
    · split
      · rw [keeps]
      · rfl
    · intro sought
      by_cases same : key earlier = key target
      · rw [if_pos same, keeps, same]
        exact told earlier sought same
      · have untold : lastUnder (key earlier, sought) entries = none := by
          rw [last_under_none]
          rintro entry listed equal
          apply same
          rw [← own entry listed, equal]
        rw [if_neg same, untold, Option.getD_none]

/-- A table of which nothing was told replays the same history. -/
theorem Replays.silent (replays : Replays key part absent before history)
    (nothing : entries = []) : Replays key part absent before (history ++ entries) := by
  rw [nothing, List.append_nil]
  exact replays

end Parts

end Histories
