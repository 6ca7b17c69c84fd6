import CoachingApi.Common.Queries
import CoachingApi.Library.Lifelines

/-!
# Lifelines of records

A creation gives birth to the stamped record, an update by text changes the record with the
identity that the text casts to, a deletion removes it, and an update of many changes those that
match. So where the records of a collection live the events of a history, they live it with what
the operation adds.
-/

namespace CoachingApi

open TenantContextStore TenantPlugin Lifelines

namespace TenantModel

variable {α γ : Type} [TenantModel α] {ambient : Ambient} {tenant : String} {apply : γ → α → α}
  {rows : List α} {events : List (Event α ObjectId γ)}

/-- A created record is born, stamped with the tenant, where nothing was born under its identity
before. -/
theorem create_lives (bound : Bound ambient tenant) (lives : Lives id apply rows events)
    {record stamped : α} {updated : List α}
    (created : create ambient record rows = .ok (stamped, updated))
    (unborn : ∀ other ∈ births events, id other ≠ id stamped) :
    Lives id apply updated (events ++ [.born (withTenantId tenant record)]) := by
  obtain ⟨valid, rfl, _⟩ := create_ok created
  obtain ⟨rfl, _⟩ := validate_ok bound valid
  exact lives_born lives unborn

/-- Where nothing was removed, nothing was born under the identity of a created record. -/
theorem create_unborn (keeps : ∀ made row, id (apply made row) = id row)
    (lives : Lives id apply rows events) (unremoved : ∀ target, .removed target ∉ events)
    {record stamped : α} {updated : List α}
    (created : create ambient record rows = .ok (stamped, updated)) :
    ∀ other ∈ births events, id other ≠ id stamped := by
  intro other earlier
  obtain ⟨_, _, fresh⟩ := create_ok created
  have held : lived id apply events other ∈ rows :=
    (lives_mem_iff lives).mpr ⟨other, earlier, unremoved _, rfl⟩
  rw [← lived_key keeps events other]
  exact (fresh _ held).1

/-- A record that an update by text finds is changed. -/
theorem update_lives (bound : Bound ambient tenant)
    (keeps : ∀ made row, id (apply made row) = id row) (lives : Lives id apply rows events)
    {text : String} {made : γ} {changed : α} {updated : List α}
    (found : findByTextAndUpdate ambient text (apply made) rows = .ok (some changed, updated)) :
    ∃ target, ObjectId.cast text = some target ∧
      Lives id apply updated (events ++ [.changed target made]) := by
  obtain ⟨record, held, _, casts, _, rfl⟩ := find_by_text_and_update_ok bound found
  exact ⟨id record, casts, lives_changed lives keeps made held⟩

/-- A record whose keys an update by text changes is changed. -/
theorem rekey_lives (bound : Bound ambient tenant)
    (keeps : ∀ made row, id (apply made row) = id row) (lives : Lives id apply rows events)
    {text : String} {made : γ} {changed : α} {updated : List α}
    (found : findByTextAndRekey ambient text (apply made) rows = .ok (some changed, updated)) :
    ∃ target, ObjectId.cast text = some target ∧
      Lives id apply updated (events ++ [.changed target made]) := by
  rw [find_by_text_and_rekey_bound bound] at found
  cases casts : castId (modelName α) text with
  | error thrown => simp [casts] at found
  | ok target =>
    simp only [casts] at found
    split at found
    · cases found
    · rename_i record first
      split at found
      · cases found
      · obtain ⟨held, named⟩ : record ∈ rows ∧ id record = target := by
          have tested := List.find?_some first
          simp only [Bool.and_eq_true, decide_eq_true_eq] at tested
          exact ⟨List.mem_of_find?_eq_some first, tested.2⟩
        obtain rfl : Records.modify id (id record) (apply made) rows = updated := by
          simp only [Except.ok.injEq, Prod.mk.injEq] at found
          exact found.2
        subst named
        exact ⟨id record, cast_id_ok.mp casts, lives_changed lives keeps made held⟩

/-- A record that a deletion finds is removed. -/
theorem delete_lives (bound : Bound ambient tenant)
    (keeps : ∀ made row, id (apply made row) = id row) (lives : Lives id apply rows events)
    {text : String} {updated : List α}
    (deleted : deleteByText ambient text rows = .ok (true, updated)) :
    ∃ target, ObjectId.cast text = some target ∧
      Lives id apply updated (events ++ [.removed target]) := by
  rw [delete_by_text_bound bound] at deleted
  cases casts : castId (modelName α) text with
  | error thrown => simp [casts] at deleted
  | ok target =>
    simp only [casts, Except.ok.injEq, Prod.mk.injEq] at deleted
    obtain ⟨found, rfl⟩ := deleted
    obtain ⟨record, held, tested⟩ := List.any_eq_true.mp found
    simp only [Bool.and_eq_true, decide_eq_true_eq] at tested
    obtain ⟨owned, rfl⟩ := tested
    refine ⟨id record, cast_id_ok.mp casts, lives_removed lives keeps held ?_⟩
    intro other stored
    simp only [Bool.and_eq_true, decide_eq_true_eq, and_iff_right_iff_imp]
    intro same
    rw [Records.same_record (lives_distinct lives keeps) stored held same]
    exact owned

end TenantModel

end CoachingApi
