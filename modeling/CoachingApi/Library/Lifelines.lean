import CoachingApi.Library.BulkUpdates
import CoachingApi.Library.Records

/-!
# Tables whose rows have lifelines

Rows are born under keys of their own, are changed, and may be removed. A table lives the events
of a sequence when it holds the rows that were born and not removed, in the order of their births,
each as the changes under its own key left it. What becomes of a row is then told by its own
events, whatever happens to other rows in between.
-/

namespace Lifelines

variable {α κ γ : Type}

/-- What happens to a table. -/
inductive Event (α κ γ : Type) where
  | born (row : α)
  | changed (target : κ) (change : γ)
  | removed (target : κ)

/-- The row that is born. -/
def birth : Event α κ γ → Option α
  | .born row => some row
  | _ => none

/-- The rows that were born, in order. -/
def births (events : List (Event α κ γ)) : List α := events.filterMap birth

/-- The key of the row that a change or a removal happens to. -/
def named : Event α κ γ → Option κ
  | .born _ => none
  | .changed target _ | .removed target => some target

/-- What is changed or removed was born. -/
def Known (key : α → κ) (events : List (Event α κ γ)) : Prop :=
  ∀ event ∈ events, ∀ target ∈ named event, ∃ row ∈ births events, key row = target

/-- Births after others are added. -/
theorem births_append (events more : List (Event α κ γ)) :
    births (events ++ more) = births events ++ births more :=
  List.filterMap_append

/-- Rows that are only born are the births. -/
theorem births_start (rows : List α) : births (rows.map (.born : α → Event α κ γ)) = rows := by
  rw [births, List.filterMap_map]
  exact List.filterMap_some

/-- Where keys are distinct, a row is born under another key than the rows before it. -/
theorem born_apart {key : α → κ} {events : List (Event α κ γ)} {row : α}
    (distinct : Records.Distinct key (births (events ++ [.born row]))) :
    ∀ other ∈ births events, key other ≠ key row := by
  intro other earlier
  rw [Records.Distinct, births_append, List.map_append] at distinct
  obtain ⟨_, _, apart⟩ := List.nodup_append.mp distinct
  exact apart _ (List.mem_map_of_mem earlier) _ (List.mem_map_of_mem List.mem_cons_self)

/-- More that happens to rows that were born is known. -/
theorem Known.append {key : α → κ} {events more : List (Event α κ γ)} (known : Known key events)
    (born : ∀ event ∈ more, ∀ target ∈ named event, ∃ row ∈ births events, key row = target) :
    Known key (events ++ more) := by
  intro event member target names
  have earlier : ∃ row ∈ births events, key row = target := by
    rcases List.mem_append.mp member with old | new
    · exact known event old target names
    · exact born event new target names
  obtain ⟨row, held, same⟩ := earlier
  rw [births_append]
  exact ⟨row, List.mem_append_left _ held, same⟩

variable [DecidableEq κ]

/-- What is changed under a key. -/
def change (target : κ) : Event α κ γ → Option γ
  | .changed other made => if other = target then some made else none
  | _ => none

/-- What was changed under a key, in order. -/
def changes (target : κ) (events : List (Event α κ γ)) : List γ := events.filterMap (change target)

/-- Something is removed under a key. -/
def removes (target : κ) : Event α κ γ → Bool
  | .removed other => decide (other = target)
  | _ => false

/-- Something was removed under a key. -/
def removed (target : κ) (events : List (Event α κ γ)) : Bool := events.any (removes target)

section Lives

variable (key : α → κ) (apply : γ → α → α)

/-- A row as the changes under its key leave it. -/
def lived (events : List (Event α κ γ)) (row : α) : α :=
  (changes (key row) events).foldl (fun current made => apply made current) row

/-- The rows that were born and not removed, each as it lived. -/
def survivors (events : List (Event α κ γ)) : List α :=
  ((births events).filter (fun row => !removed (key row) events)).map (lived key apply events)

/-- A table holds the rows that survive the events, which happen to rows that were born. -/
structure Lives (rows : List α) (events : List (Event α κ γ)) : Prop where
  distinct : Records.Distinct key (births events)
  known : Known key events
  survive : rows = survivors key apply events

end Lives

variable {key : α → κ} {apply : γ → α → α} {rows : List α} {events : List (Event α κ γ)}

/-- Changes under a key after others are added. -/
theorem changes_append (target : κ) (events more : List (Event α κ γ)) :
    changes target (events ++ more) = changes target events ++ changes target more :=
  List.filterMap_append

/-- What was said last is what the last change states, and else what was said last before it. -/
theorem said_last {δ : Type} (states : γ → Option δ) (made : List γ) (last : γ) (unsaid : δ) :
    ((made ++ [last]).filterMap states).getLast?.getD unsaid =
      (states last).getD ((made.filterMap states).getLast?.getD unsaid) := by
  cases said : states last with
  | none => simp [List.filterMap_append, said]
  | some value => simp [List.filterMap_append, said]

/-- Something was removed under a key exactly when a removal is among the events. -/
theorem removed_iff {target : κ} : removed target events = true ↔ .removed target ∈ events := by
  rw [removed, List.any_eq_true]
  constructor
  · rintro ⟨event, member, same⟩
    cases event with
    | removed other =>
      obtain rfl := of_decide_eq_true same
      exact member
    | _ => cases same
  · intro member
    exact ⟨.removed target, member, decide_eq_true rfl⟩

/-- Nothing was changed under a key that no change names. -/
theorem changes_none {target : κ} (unchanged : ∀ made, .changed target made ∉ events) :
    changes target events = [] := by
  rw [changes, List.filterMap_eq_nil_iff]
  intro event member
  cases event with
  | changed other made =>
    apply if_neg
    rintro rfl
    exact unchanged made member
  | _ => rfl

/-- A row keeps its key through its changes, where each of them keeps it. -/
theorem lived_key (keeps : ∀ made row, key (apply made row) = key row)
    (events : List (Event α κ γ)) (row : α) : key (lived key apply events row) = key row := by
  unfold lived
  induction changes (key row) events generalizing row with
  | nil => rfl
  | cons made rest inductionHypothesis =>
    exact (inductionHypothesis (apply made row)).trans (keeps made row)

/-- A table lives the births of its rows. -/
theorem lives_start (distinct : Records.Distinct key rows) :
    Lives key apply rows (rows.map .born) := by
  have born : births (rows.map (.born : α → Event α κ γ)) = rows := births_start rows
  have unchanged (target : κ) : changes target (rows.map (.born : α → Event α κ γ)) = [] := by
    apply changes_none
    intro made member
    obtain ⟨row, _, same⟩ := List.mem_map.mp member
    cases same
  have unremoved (target : κ) : .removed target ∉ rows.map (.born : α → Event α κ γ) := by
    intro member
    obtain ⟨row, _, same⟩ := List.mem_map.mp member
    cases same
  constructor
  · rw [born]
    exact distinct
  · intro event member target names
    obtain ⟨row, _, rfl⟩ := List.mem_map.mp member
    cases names
  · have kept : rows.filter (fun row => !removed (key row) (rows.map (.born : α → Event α κ γ))) =
        rows := by
      apply List.filter_eq_self.mpr
      intro row _
      rw [Bool.not_eq_true', ← Bool.not_eq_true, removed_iff]
      exact unremoved (key row)
    have same : lived key apply (rows.map (.born : α → Event α κ γ)) = id := by
      funext row
      simp only [lived, unchanged, List.foldl_nil, id]
    rw [survivors, born, kept, same, List.map_id]

/-- A row that is born under a key of its own is added to the table. -/
theorem lives_born (lives : Lives key apply rows events) {row : α}
    (fresh : ∀ other ∈ births events, key other ≠ key row) :
    Lives key apply (rows ++ [row]) (events ++ [.born row]) := by
  have births : births (events ++ [.born row]) = births events ++ [row] := births_append _ _
  have unchanged (target : κ) : changes target (events ++ [.born row]) = changes target events := by
    rw [changes_append]
    exact List.append_nil _
  have unremoved (target : κ) : removed target (events ++ [.born row]) = removed target events := by
    simp [removed, removes]
  have unlived : changes (key row) events = [] := by
    apply changes_none
    intro made member
    obtain ⟨other, earlier, same⟩ := lives.known _ member (key row) rfl
    exact fresh other earlier same
  have kept : removed (key row) events = false := by
    rw [← Bool.not_eq_true, removed_iff]
    intro member
    obtain ⟨other, earlier, same⟩ := lives.known _ member (key row) rfl
    exact fresh other earlier same
  constructor
  · rw [births]
    exact Records.append_distinct lives.distinct fresh
  · apply lives.known.append
    intro event member target names
    obtain rfl := List.mem_singleton.mp member
    cases names
  · have same : lived key apply (events ++ [.born row]) = lived key apply events := by
      funext other
      rw [lived, unchanged, lived]
    simp only [survivors, births, unremoved, same, List.filter_append, List.map_append]
    rw [lives.survive, survivors]
    congr 1
    simp [kept, lived, unlived]

/-- Keys that are changed alike, each once, are the keys under which the change was made. -/
theorem changes_each (target : κ) (made : γ) {targets : List κ} (once : targets.Nodup) :
    changes target (targets.map (fun other => (.changed other made : Event α κ γ))) =
      if target ∈ targets then [made] else [] := by
  induction targets with
  | nil => rfl
  | cons other rest inductionHypothesis =>
    obtain ⟨apart, once⟩ := List.nodup_cons.mp once
    rw [List.map_cons, changes, List.filterMap_cons]
    by_cases same : other = target
    · subst same
      have later := inductionHypothesis once
      rw [if_neg apart] at later
      simp only [change, if_true, List.mem_cons, true_or]
      exact congrArg _ later
    · have unmet : target ∈ other :: rest ↔ target ∈ rest := by
        rw [List.mem_cons]
        exact or_iff_right (fun equal => same equal.symm)
      simp only [change, if_neg same, unmet]
      exact inductionHypothesis once

/-- Rows of the table that are changed alike are rewritten. -/
theorem lives_changed_each (lives : Lives key apply rows events)
    (keeps : ∀ made row, key (apply made row) = key row) (made : γ) {targets : List κ}
    (once : targets.Nodup) (stored : ∀ target ∈ targets, ∃ row ∈ rows, key row = target) :
    Lives key apply (rows.map (fun row => if key row ∈ targets then apply made row else row))
      (events ++ targets.map (fun target => .changed target made)) := by
  have unborn : births (targets.map (fun target => (.changed target made : Event α κ γ))) = [] := by
    simp [births, birth, List.filterMap_map, Function.comp_def]
  have births : births (events ++ targets.map (fun target => .changed target made)) =
      births events := by
    rw [births_append, unborn, List.append_nil]
  have unremoved (target : κ) :
      removed target (events ++ targets.map (fun target => .changed target made)) =
        removed target events := by
    simp [removed, removes]
  have born (target : κ) (listed : target ∈ targets) :
      ∃ row ∈ Lifelines.births events, key row = target := by
    obtain ⟨row, held, same⟩ := stored target listed
    rw [lives.survive] at held
    obtain ⟨first, kept, rfl⟩ := List.mem_map.mp held
    exact ⟨first, (List.mem_filter.mp kept).1, (lived_key keeps events first).symm.trans same⟩
  constructor
  · rw [births]
    exact lives.distinct
  · apply lives.known.append
    intro event member target names
    obtain ⟨listed, inside, rfl⟩ := List.mem_map.mp member
    cases names
    exact born target inside
  · rw [lives.survive]
    simp only [survivors, births, unremoved, List.map_map]
    apply List.map_congr_left
    intro row _
    simp only [Function.comp_apply, lived_key keeps]
    simp only [lived, changes_append, changes_each _ _ once, List.foldl_append]
    split
    · rfl
    · rfl

/-- The rows under the key of a row of the table are changed. -/
theorem lives_changed (lives : Lives key apply rows events)
    (keeps : ∀ made row, key (apply made row) = key row) (made : γ) {row : α} (stored : row ∈ rows) :
    Lives key apply (Records.modify key (key row) (apply made) rows)
      (events ++ [.changed (key row) made]) := by
  have changed := lives_changed_each lives keeps made (List.nodup_singleton (key row))
    (fun target listed => ⟨row, stored, (List.mem_singleton.mp listed).symm⟩)
  simp only [List.mem_singleton] at changed
  exact changed

/-- Keys of the table are distinct. -/
theorem lives_distinct (lives : Lives key apply rows events)
    (keeps : ∀ made row, key (apply made row) = key row) : Records.Distinct key rows := by
  have same : rows.map key =
      ((births events).filter (fun row => !removed (key row) events)).map key := by
    rw [lives.survive, survivors, List.map_map]
    exact List.map_congr_left (fun row _ => lived_key keeps events row)
  rw [Records.Distinct, same]
  exact lives.distinct.sublist (List.filter_sublist.map key)

/-- The rows that match are changed alike, in one update of many. -/
theorem lives_changed_all (lives : Lives key apply rows events)
    (keeps : ∀ made row, key (apply made row) = key row) (made : γ) (matching : α → Bool) :
    Lives key apply (BulkUpdates.changeAll matching (apply made) rows)
      (events ++ (rows.filter matching).map (fun row => .changed (key row) made)) := by
  have distinct := lives_distinct lives keeps
  have once : ((rows.filter matching).map key).Nodup :=
    distinct.sublist (List.filter_sublist.map key)
  have changed := lives_changed_each lives keeps made once (by
    intro target listed
    obtain ⟨row, held, same⟩ := List.mem_map.mp listed
    exact ⟨row, (List.mem_filter.mp held).1, same⟩)
  have rewritten : BulkUpdates.changeAll matching (apply made) rows = rows.map (fun row =>
      if key row ∈ (rows.filter matching).map key then apply made row else row) := by
    apply List.map_congr_left
    intro row stored
    have listed : key row ∈ (rows.filter matching).map key ↔ matching row = true := by
      constructor
      · intro member
        obtain ⟨other, held, same⟩ := List.mem_map.mp member
        obtain ⟨otherStored, matched⟩ := List.mem_filter.mp held
        rw [← Records.same_record distinct otherStored stored same]
        exact matched
      · intro matched
        exact List.mem_map_of_mem (List.mem_filter.mpr ⟨stored, matched⟩)
    simp only [listed]
  rw [rewritten]
  rw [List.map_map] at changed
  exact changed

/-- Erasing the row under a key leaves the rows under other keys. -/
theorem erase_under (distinct : Records.Distinct key rows) {row : α} (stored : row ∈ rows)
    {test : α → Bool} (only : ∀ other ∈ rows, test other = true ↔ key other = key row) :
    rows.eraseP test = rows.filter (fun other => decide (key other ≠ key row)) := by
  induction rows with
  | nil => rfl
  | cons first rest inductionHypothesis =>
    obtain ⟨apart, later⟩ := List.nodup_cons.mp distinct
    by_cases same : key first = key row
    · have matched := (only first List.mem_cons_self).mpr same
      rw [List.eraseP_cons_of_pos matched, List.filter_cons_of_neg (by simp [same])]
      symm
      apply List.filter_eq_self.mpr
      intro other held
      apply decide_eq_true
      intro equal
      apply apart
      rw [same, ← equal]
      exact List.mem_map_of_mem held
    · have unmatched : ¬ test first = true := by
        rw [only first List.mem_cons_self]
        exact same
      have inside : row ∈ rest := by
        rcases List.mem_cons.mp stored with rfl | held
        · exact absurd rfl same
        · exact held
      have kept : decide (key first ≠ key row) = true := decide_eq_true same
      have erased := inductionHypothesis later inside
        (fun other held => only other (List.mem_cons_of_mem _ held))
      rw [List.eraseP_cons_of_neg unmatched, erased, List.filter_cons, if_pos kept]

/-- A row of the table is removed. -/
theorem lives_removed (lives : Lives key apply rows events)
    (keeps : ∀ made row, key (apply made row) = key row) {row : α} (stored : row ∈ rows)
    {test : α → Bool} (only : ∀ other ∈ rows, test other = true ↔ key other = key row) :
    Lives key apply (rows.eraseP test) (events ++ [.removed (key row)]) := by
  have births : births (events ++ [.removed (key row)]) = births events := by
    rw [births_append]
    exact List.append_nil _
  have unchanged (target : κ) :
      changes target (events ++ [.removed (key row)]) = changes target events := by
    rw [changes_append]
    exact List.append_nil _
  have gone (target : κ) : removed target (events ++ [.removed (key row)]) =
      (removed target events || decide (key row = target)) := by
    simp [removed, removes]
  have born : ∃ first ∈ Lifelines.births events, key first = key row := by
    rw [lives.survive] at stored
    obtain ⟨first, kept, rfl⟩ := List.mem_map.mp stored
    exact ⟨first, (List.mem_filter.mp kept).1, (lived_key keeps events first).symm⟩
  constructor
  · rw [births]
    exact lives.distinct
  · apply lives.known.append
    intro event member target names
    obtain rfl := List.mem_singleton.mp member
    cases names
    exact born
  · have same : lived key apply (events ++ [.removed (key row)]) = lived key apply events := by
      funext other
      rw [lived, unchanged, lived]
    rw [erase_under (lives_distinct lives keeps) stored only, lives.survive]
    simp only [survivors, births, same, gone, List.filter_map, List.filter_filter]
    congr 1
    apply List.filter_congr
    intro other _
    simp only [Function.comp_apply, lived_key keeps]
    by_cases equal : key other = key row
    · simp [equal]
    · simp [equal, Ne.symm equal]

/-- The table holds exactly the rows that were born and not removed, as they lived. -/
theorem lives_mem_iff (lives : Lives key apply rows events) {row : α} :
    row ∈ rows ↔
      ∃ first ∈ births events, .removed (key first) ∉ events ∧ lived key apply events first = row := by
  rw [lives.survive, survivors, List.mem_map]
  constructor
  · rintro ⟨first, kept, same⟩
    obtain ⟨born, left⟩ := List.mem_filter.mp kept
    rw [Bool.not_eq_true', ← Bool.not_eq_true, removed_iff] at left
    exact ⟨first, born, left, same⟩
  · rintro ⟨first, born, left, same⟩
    refine ⟨first, List.mem_filter.mpr ⟨born, ?_⟩, same⟩
    rw [Bool.not_eq_true', ← Bool.not_eq_true, removed_iff]
    exact left

/-- Where nothing is removed, all rows that were born survive. -/
theorem survivors_unremoved (kept : ∀ target, .removed target ∉ events) :
    survivors key apply events = (births events).map (lived key apply events) := by
  rw [survivors]
  congr 1
  apply List.filter_eq_self.mpr
  intro row _
  rw [Bool.not_eq_true', ← Bool.not_eq_true, removed_iff]
  exact kept (key row)

end Lifelines
