import CoachingApi.Common.Queries
import CoachingApi.Library.Partitions

/-!
# Operations on one institute's rows

A table is partitioned by the tenants of its records. In a tenant's context every operation of a
typed model does on the tenant's own rows what it does on the whole table, and leaves the rows
of the others as they are: reads see own rows only, updates change the first own match and keep
its tenant, insertions are stamped. An insertion must draw an identity that no other tenant's
record has, and the unique indexes must be led by the tenant where they matter.
-/

namespace CoachingApi

open TenantContextStore TenantPlugin

namespace TenantModel

variable {α : Type} [TenantModel α]

/-- The rows of a tenant. -/
def ownRows (tenant : String) (rows : List α) : List α :=
  rows.filter (fun record => decide (tenantId record = tenant))

/-- No other tenant's record has an identity. -/
def FreshFor (tenant : String) (generated : ObjectId) (rows : List α) : Prop :=
  ∀ record ∈ rows, tenantId record ≠ tenant → id record ≠ generated

/-- Only the tenant's own records can clash with a candidate. -/
def Led (tenant : String) (candidate : α) (rows : List α) : Prop :=
  ∀ record ∈ rows, clashes record candidate = true → tenantId record = tenant

/-- A tenant's rows are stored. -/
theorem mem_own {tenant : String} {rows : List α} {record : α} :
    record ∈ ownRows tenant rows ↔ record ∈ rows ∧ tenantId record = tenant := by
  simp [ownRows]

/-- What can only be true of own rows is true of some own row when it is of some row. -/
theorem any_own {tenant : String} {rows : List α} {test : α → Bool}
    (inside : ∀ record ∈ rows, test record = true → tenantId record = tenant) :
    (ownRows tenant rows).any test = rows.any test := by
  rw [Bool.eq_iff_iff, List.any_eq_true, List.any_eq_true]
  constructor
  · rintro ⟨record, member, tested⟩
    exact ⟨record, (mem_own.mp member).1, tested⟩
  · rintro ⟨record, member, tested⟩
    exact ⟨record, mem_own.mpr ⟨member, inside record member tested⟩, tested⟩

/-- The first own match is the first match among own rows. -/
theorem find_own (tenant : String) (matching : α → Bool) (rows : List α) :
    (ownRows tenant rows).find?
        (fun record => decide (tenantId record = tenant) && matching record) =
      rows.find? (fun record => decide (tenantId record = tenant) && matching record) := by
  rw [ownRows, List.find?_filter]
  congr 1
  funext record
  cases decide (tenantId record = tenant) <;> simp

/-- A rewrite that keeps tenants rewrites the rows of each. -/
theorem own_modify (tenant : String) (target : ObjectId) {change : α → α}
    (keeps : ∀ record, tenantId (change record) = tenantId record) (rows : List α) :
    ownRows tenant (Records.modify id target change rows) =
      Records.modify id target change (ownRows tenant rows) := by
  rw [ownRows, Records.modify, List.filter_map]
  congr 1
  apply List.filter_congr
  intro record _
  by_cases touched : id record = target
  · simp [touched, keeps]
  · simp [touched]

/-- A rewrite of an identity that only own records have touches no other tenant's rows. -/
theorem other_modify {tenant other : String} (different : other ≠ tenant) {target : ObjectId}
    {change : α → α} (keeps : ∀ record, tenantId (change record) = tenantId record)
    {rows : List α} (inside : ∀ record ∈ rows, id record = target → tenantId record = tenant) :
    ownRows other (Records.modify id target change rows) = ownRows other rows := by
  rw [own_modify other target keeps]
  apply Records.modify_fixed
  intro record member same
  obtain ⟨stored, owned⟩ := mem_own.mp member
  exact False.elim (different (owned.symm.trans (inside record stored same)))

/-- An own row at the end is at the end of the tenant's rows. -/
theorem own_append {tenant : String} {record : α} (owned : tenantId record = tenant)
    (rows : List α) : ownRows tenant (rows ++ [record]) = ownRows tenant rows ++ [record] := by
  simp [ownRows, owned]

/-- Another tenant's row at the end is none of the tenant's. -/
theorem other_append {tenant other : String} (different : other ≠ tenant) {record : α}
    (owned : tenantId record = tenant) (rows : List α) :
    ownRows other (rows ++ [record]) = ownRows other rows := by
  simp [ownRows, owned, Ne.symm different]

/-- Changing own records leaves the rows of the others. -/
theorem other_change_all {tenant other : String} (different : other ≠ tenant) {test : α → Bool}
    {change : α → α} (keeps : ∀ record, tenantId (change record) = tenantId record)
    (inside : ∀ record, test record = true → tenantId record = tenant) (rows : List α) :
    ownRows other (BulkUpdates.changeAll test change rows) = ownRows other rows := by
  induction rows with
  | nil => rfl
  | cons record rest inductionHypothesis =>
    simp only [BulkUpdates.changeAll, ownRows, List.map_cons, List.filter_cons]
      at inductionHypothesis ⊢
    rw [inductionHypothesis]
    cases tested : test record with
    | true =>
      have foreign : tenantId record ≠ other := by
        rw [inside record tested]
        exact Ne.symm different
      simp [keeps, foreign]
    | false => simp

/-- Taking an own record away leaves the rows of the others. -/
theorem other_erase {tenant other : String} (different : other ≠ tenant) {test : α → Bool}
    (inside : ∀ record, test record = true → tenantId record = tenant) (rows : List α) :
    ownRows other (rows.eraseP test) = ownRows other rows := by
  induction rows with
  | nil => rfl
  | cons record rest inductionHypothesis =>
    cases tested : test record with
    | true =>
      have foreign : tenantId record ≠ other := by
        rw [inside record tested]
        exact Ne.symm different
      rw [List.eraseP_cons_of_pos tested]
      simp [ownRows, foreign]
    | false =>
      rw [List.eraseP_cons_of_neg (by simp [tested])]
      simp only [ownRows, List.filter_cons] at inductionHypothesis ⊢
      rw [inductionHypothesis]

/-- Taking the first own match away takes the first match away from own rows. -/
theorem own_erase (tenant : String) (matching : α → Bool) (rows : List α) :
    ownRows tenant (rows.eraseP
        (fun record => decide (tenantId record = tenant) && matching record)) =
      (ownRows tenant rows).eraseP
        (fun record => decide (tenantId record = tenant) && matching record) := by
  induction rows with
  | nil => rfl
  | cons record rest inductionHypothesis =>
    by_cases owned : tenantId record = tenant
    · cases tested : matching record with
      | true => simp [ownRows, owned, tested]
      | false =>
        simp only [ownRows] at inductionHypothesis
        simp [ownRows, owned, tested, inductionHypothesis]
    · simp only [ownRows] at inductionHypothesis
      simp [ownRows, owned, inductionHypothesis]

section Reads

variable {ambient : Ambient} {tenant : String} (bound : Bound ambient tenant)
include bound

/-- A read of many on own rows. -/
theorem find_on_own (matching : α → Bool) (rows : List α) :
    find ambient matching (ownRows tenant rows) = find ambient matching rows := by
  rw [find_bound bound, find_bound bound, ownRows, List.filter_filter]
  congr 2
  funext record
  cases decide (tenantId record = tenant) <;> simp

/-- A read of one on own rows. -/
theorem find_one_on_own (matching : α → Bool) (rows : List α) :
    findOne ambient matching (ownRows tenant rows) = findOne ambient matching rows := by
  rw [find_one_bound bound, find_one_bound bound, find_own]

/-- A read by identity on own rows. -/
theorem find_by_id_on_own (target : ObjectId) (rows : List α) :
    findById ambient target (ownRows tenant rows) = findById ambient target rows :=
  find_one_on_own bound _ rows

/-- A read by text on own rows. -/
theorem find_by_text_on_own (text : String) (rows : List α) :
    findByText ambient text (ownRows tenant rows) = findByText ambient text rows := by
  rw [find_by_text_bound bound, find_by_text_bound bound]
  cases castId (modelName α) text with
  | error thrown => rfl
  | ok target => exact find_by_id_on_own bound target rows

/-- A read by reference on own rows. -/
theorem find_by_reference_on_own (reference : Reference) (rows : List α) :
    findByReference ambient reference (ownRows tenant rows) =
      findByReference ambient reference rows := by
  cases reference with
  | text given => exact find_by_text_on_own bound given rows
  | id given => exact find_by_id_on_own bound given rows

/-- An aggregation on own rows. -/
theorem aggregate_on_own {β : Type} (pipeline : List α → List β) (rows : List α) :
    aggregate ambient pipeline (ownRows tenant rows) = aggregate ambient pipeline rows := by
  rw [aggregate_bound bound, aggregate_bound bound, ownRows, List.filter_filter]
  simp only [Bool.and_self]

end Reads

/-- An identity that is fresh stays fresh while the rows of the others stay as they are. -/
theorem fresh_kept {tenant : String} {generated : ObjectId} {before after : List α}
    (fresh : FreshFor tenant generated before)
    (others : ∀ other, other ≠ tenant → ownRows other after = ownRows other before) :
    FreshFor tenant generated after := by
  intro record stored foreign
  have kept : record ∈ ownRows (tenantId record) after := mem_own.mpr ⟨stored, rfl⟩
  rw [others _ foreign] at kept
  exact fresh record (mem_own.mp kept).1 foreign

/-- An operation on a table is apart for a tenant: it does on the tenant's rows what it does on
the table, leaves the rows of the others, and keeps identities distinct. -/
structure RowsApart {β : Type} (tenant : String) (rows : List α)
    (operation : List α → Except Thrown (β × List α)) : Prop where
  own : operation (ownRows tenant rows) =
    (operation rows).map (fun ended => (ended.1, ownRows tenant ended.2))
  others : ∀ ended, operation rows = .ok ended → ∀ other, other ≠ tenant →
    ownRows other ended.2 = ownRows other rows
  ids : ∀ ended, operation rows = .ok ended → Records.Distinct id ended.2

/-- An operation whose result is answered, or refused: a refusal leaves the table. -/
def answered {β γ : Type} (answer : β → Except Thrown γ)
    (operation : List α → Except Thrown (β × List α)) (rows : List α) :
    Except Thrown (γ × List α) :=
  match operation rows with
  | .error thrown => .error thrown
  | .ok (result, table) =>
    match answer result with
    | .error thrown => .error thrown
    | .ok given => .ok (given, table)

section Primitives

variable {β : Type} {tenant : String} {rows : List α}

/-- An operation that is apart makes a call on the table that is. -/
theorem RowsApart.attempt {operation : List α → Except Thrown (β × List α)}
    (apart : RowsApart tenant rows operation) (distinct : Records.Distinct id rows) :
    Partitions.Apart ownRows (Records.Distinct id) tenant rows (Partitions.attempt operation) := by
  have own := apart.own
  cases result : operation rows with
  | error thrown =>
    rw [result, Except.map] at own
    constructor
    · simp only [Partitions.attempt, result, own]
    · intro other _
      simp only [Partitions.attempt, result]
    · simp only [Partitions.attempt, result]
      exact distinct
  | ok ended =>
    rw [result, Except.map] at own
    constructor
    · simp only [Partitions.attempt, result, own]
    · intro other different
      simp only [Partitions.attempt, result]
      exact apart.others ended result other different
    · simp only [Partitions.attempt, result]
      exact apart.ids ended result

/-- Answering or refusing by the result is apart. -/
theorem RowsApart.answered {γ : Type} {operation : List α → Except Thrown (β × List α)}
    (apart : RowsApart tenant rows operation) (answer : β → Except Thrown γ) :
    RowsApart tenant rows (answered answer operation) := by
  have own := apart.own
  cases result : operation rows with
  | error thrown =>
    rw [result, Except.map] at own
    constructor
    · simp only [TenantModel.answered, result, own, Except.map]
    · intro ended impossible
      simp only [TenantModel.answered, result] at impossible
      cases impossible
    · intro ended impossible
      simp only [TenantModel.answered, result] at impossible
      cases impossible
  | ok ended =>
    rw [result, Except.map] at own
    cases given : answer ended.1 with
    | error thrown =>
      constructor
      · simp only [TenantModel.answered, result, own, given, Except.map]
      · intro last impossible
        simp only [TenantModel.answered, result, given] at impossible
        cases impossible
      · intro last impossible
        simp only [TenantModel.answered, result, given] at impossible
        cases impossible
    | ok value =>
      constructor
      · simp only [TenantModel.answered, result, own, given, Except.map]
      · intro last reached other different
        simp only [TenantModel.answered, result, given] at reached
        rw [← Except.ok.inj reached]
        exact apart.others ended result other different
      · intro last reached
        simp only [TenantModel.answered, result, given] at reached
        rw [← Except.ok.inj reached]
        exact apart.ids ended result

/-- Operations that agree on the table and on the tenant's rows are apart together. -/
theorem RowsApart.agree {operation other : List α → Except Thrown (β × List α)}
    (apart : RowsApart tenant rows other) (onRows : operation rows = other rows)
    (onOwn : operation (ownRows tenant rows) = other (ownRows tenant rows)) :
    RowsApart tenant rows operation := by
  constructor
  · rw [onOwn, onRows]
    exact apart.own
  · rw [onRows]
    exact apart.others
  · rw [onRows]
    exact apart.ids

/-- Throwing is apart. -/
theorem throwing_apart (thrown : Thrown) :
    RowsApart tenant rows (fun _ => (.error thrown : Except Thrown (β × List α))) := by
  constructor
  · rfl
  · intro ended impossible
    cases impossible
  · intro ended impossible
    cases impossible

/-- Answering and leaving the table is apart. -/
theorem answering_apart (distinct : Records.Distinct id rows) (answer : β) :
    RowsApart tenant rows (fun table => .ok (answer, table)) := by
  constructor
  · rfl
  · intro ended answered other _
    rw [← Except.ok.inj answered]
  · intro ended answered
    rw [← Except.ok.inj answered]
    exact distinct

/-- Rewriting an own record is apart. -/
theorem modifying_apart (distinct : Records.Distinct id rows) {found : α} (stored : found ∈ rows)
    (owned : tenantId found = tenant) {change : α → α}
    (keepsId : ∀ record, id (change record) = id record)
    (keepsTenant : ∀ record, tenantId (change record) = tenantId record) (answer : β) :
    RowsApart tenant rows
      (fun table => .ok (answer, Records.modify id (id found) change table)) := by
  have inside : ∀ record ∈ rows, id record = id found → tenantId record = tenant := by
    intro record member same
    rw [Records.same_record distinct member stored same]
    exact owned
  constructor
  · simp only [Except.map, own_modify tenant _ keepsTenant]
  · intro ended modified other different
    rw [← Except.ok.inj modified]
    exact other_modify different keepsTenant inside
  · intro ended modified
    rw [← Except.ok.inj modified]
    exact Records.modify_distinct keepsId distinct

/-- Inserting an own record under an identity of its own is apart: it is refused by an own
record, or appended. -/
theorem inserting_apart (distinct : Records.Distinct id rows) {record : α}
    (owned : tenantId record = tenant) (fresh : FreshFor tenant (id record) rows)
    (led : Led tenant record rows) (answer : β) :
    RowsApart tenant rows (fun table =>
      if table.any (fun stored => decide (id stored = id record) || clashes stored record) then
        .error .duplicateKey
      else .ok (answer, table ++ [record])) := by
  have inside : ∀ stored ∈ rows,
      (decide (id stored = id record) || clashes stored record) = true →
        tenantId stored = tenant := by
    intro stored member claimed
    rw [Bool.or_eq_true, decide_eq_true_eq] at claimed
    rcases claimed with same | clash
    · by_contra foreign
      exact fresh stored member foreign same
    · exact led stored member clash
  constructor
  · simp only [any_own inside]
    split
    · rfl
    · simp only [Except.map, own_append owned]
  · intro ended inserted other different
    split at inserted
    · cases inserted
    · rw [← Except.ok.inj inserted]
      exact other_append different owned rows
  · intro ended inserted
    split at inserted
    · cases inserted
    · rename_i unclaimed
      rw [← Except.ok.inj inserted]
      apply Records.append_distinct distinct
      intro stored member same
      refine unclaimed (List.any_eq_true.mpr ⟨stored, member, ?_⟩)
      simp [same]

end Primitives

section Writes

variable {ambient : Ambient} {tenant : String} (bound : Bound ambient tenant) {rows : List α}
  (distinct : Records.Distinct id rows)
include bound distinct

/-- A creation. -/
theorem create_apart {record : α} (fresh : FreshFor tenant (id record) rows)
    (led : Led tenant (withTenantId tenant record) rows) :
    RowsApart tenant rows (create ambient record) := by
  cases valid : validate ambient record with
  | error thrown =>
    apply (throwing_apart thrown).agree <;> simp only [create, valid]
  | ok stamped =>
    obtain ⟨rfl, _⟩ := validate_ok bound valid
    have inserts := inserting_apart distinct (with_tenant_id tenant record)
      (by rw [with_tenant_keeps]; exact fresh) led (withTenantId tenant record)
    apply inserts.agree <;> simp only [create, valid]

/-- An update of the first match. -/
theorem find_one_and_update_apart (matching : α → Bool) (change : α → α)
    (keepsId : ∀ record, id (change record) = id record)
    (keepsTenant : ∀ record, tenantId (change record) = tenantId record) :
    RowsApart tenant rows (findOneAndUpdate ambient matching change) := by
  cases first : rows.find? (fun record =>
      decide (tenantId record = tenant) && matching record) with
  | none =>
    apply (answering_apart distinct none).agree <;>
      simp only [find_one_and_update_bound bound, find_own, first]
  | some found =>
    have tested := List.find?_some first
    simp only [Bool.and_eq_true, decide_eq_true_eq] at tested
    have modifies := modifying_apart distinct (List.mem_of_find?_eq_some first) tested.1 keepsId
      keepsTenant (some (change found))
    apply modifies.agree <;> simp only [find_one_and_update_bound bound, find_own, first]

/-- An update by text. -/
theorem find_by_text_and_update_apart (text : String) (change : α → α)
    (keepsId : ∀ record, id (change record) = id record)
    (keepsTenant : ∀ record, tenantId (change record) = tenantId record) :
    RowsApart tenant rows (findByTextAndUpdate ambient text change) := by
  cases casts : castId (modelName α) text with
  | error thrown =>
    apply (throwing_apart thrown).agree <;>
      simp only [findByTextAndUpdate, scope_bound bound, casts]
  | ok target =>
    apply (find_one_and_update_apart bound distinct (fun record => decide (id record = target))
      change keepsId keepsTenant).agree <;> simp only [findByTextAndUpdate, scope_bound bound, casts]

/-- An update of index keys by text, where only own records can clash with what it makes. -/
theorem find_by_text_and_rekey_apart (text : String) (change : α → α)
    (keepsId : ∀ record, id (change record) = id record)
    (keepsTenant : ∀ record, tenantId (change record) = tenantId record)
    (led : ∀ record, tenantId record = tenant → Led tenant (change record) rows) :
    RowsApart tenant rows (findByTextAndRekey ambient text change) := by
  cases casts : castId (modelName α) text with
  | error thrown =>
    apply (throwing_apart thrown).agree <;>
      simp only [find_by_text_and_rekey_bound bound, casts]
  | ok target =>
    cases first : rows.find? (fun record =>
        decide (tenantId record = tenant) && decide (id record = target)) with
    | none =>
      apply (answering_apart distinct none).agree <;>
        simp only [find_by_text_and_rekey_bound bound, casts, find_own, first]
    | some found =>
      have tested := List.find?_some first
      simp only [Bool.and_eq_true, decide_eq_true_eq] at tested
      have inside : ∀ record ∈ rows,
          (decide (id record ≠ id found) && clashes record (change found)) = true →
            tenantId record = tenant := by
        intro record member claimed
        rw [Bool.and_eq_true] at claimed
        exact led found tested.1 record member claimed.2
      cases claimed : rows.any (fun other =>
          decide (id other ≠ id found) && clashes other (change found)) with
      | true =>
        apply (throwing_apart .duplicateKey).agree <;>
          simp only [find_by_text_and_rekey_bound bound, casts, find_own, first, any_own inside,
            claimed, if_true]
      | false =>
        have modifies := modifying_apart distinct (List.mem_of_find?_eq_some first) tested.1
          keepsId keepsTenant (some (change found))
        apply modifies.agree <;>
          simp only [find_by_text_and_rekey_bound bound, casts, find_own, first, any_own inside,
            claimed, Bool.false_eq_true, if_false]

/-- An update or, where nothing matches, an insertion. -/
theorem upsert_one_apart (matching : α → Bool) (change : α → α) {added : α}
    (keepsId : ∀ record, id (change record) = id record)
    (keepsTenant : ∀ record, tenantId (change record) = tenantId record)
    (fresh : FreshFor tenant (id added) rows)
    (led : Led tenant (withTenantId tenant added) rows) :
    RowsApart tenant rows (upsertOne ambient matching change added) := by
  cases first : rows.find? (fun record =>
      decide (tenantId record = tenant) && matching record) with
  | none =>
    have inserts := inserting_apart distinct (with_tenant_id tenant added)
      (by rw [with_tenant_keeps]; exact fresh) led (withTenantId tenant added)
    rw [with_tenant_keeps] at inserts
    apply inserts.agree <;> simp only [upsert_one_bound bound, find_own, first]
  | some found =>
    have tested := List.find?_some first
    simp only [Bool.and_eq_true, decide_eq_true_eq] at tested
    have modifies := modifying_apart distinct (List.mem_of_find?_eq_some first) tested.1 keepsId
      keepsTenant (change found)
    apply modifies.agree <;> simp only [upsert_one_bound bound, find_own, first]

omit bound in
/-- A change of all records that are selected among a tenant's. -/
theorem changing_all_apart {β : Type} (selected : α → Bool) (change : α → α)
    (inside : ∀ record, selected record = true → tenantId record = tenant)
    (keepsId : ∀ record, id (change record) = id record)
    (keepsTenant : ∀ record, tenantId (change record) = tenantId record) (answer : β) :
    RowsApart tenant rows
      (fun rows => .ok (answer, BulkUpdates.changeAll selected change rows)) := by
  constructor
  · simp only [Except.map, BulkUpdates.changeAll, ownRows, List.filter_map]
    congr 3
    apply List.filter_congr
    intro record _
    simp only [Function.comp_apply]
    split
    · rw [keepsTenant]
    · rfl
  · intro ended updated other different
    rw [← Except.ok.inj updated]
    exact other_change_all different keepsTenant inside rows
  · intro ended updated
    rw [← Except.ok.inj updated]
    refine Records.same_keys_distinct ?_ distinct
    simp only [BulkUpdates.changeAll, List.map_map]
    apply List.map_congr_left
    intro record _
    simp only [Function.comp_apply]
    split
    · rw [keepsId]
    · rfl

/-- An update of every match, or of those that were reached before one that refused it. -/
theorem update_many_apart [DecidableEq α] (matching : α → Bool) (refusal : α → Option Thrown)
    (reached : ObjectId → Bool) (change : α → α)
    (keepsId : ∀ record, id (change record) = id record)
    (keepsTenant : ∀ record, tenantId (change record) = tenantId record) :
    RowsApart tenant rows (updateMany ambient matching refusal reached change) := by
  let selected (record : α) : Bool := decide (tenantId record = tenant) && matching record
  have inside : ∀ record, selected record = true → tenantId record = tenant := by
    intro record tested
    rw [Bool.and_eq_true, decide_eq_true_eq] at tested
    exact tested.1
  have own : (ownRows tenant rows).filter selected = rows.filter selected := by
    rw [ownRows, List.filter_filter]
    apply List.filter_congr
    intro record _
    by_cases owned : tenantId record = tenant <;> simp [selected, owned]
  have counted : BulkUpdates.changedCount selected change (ownRows tenant rows) =
      BulkUpdates.changedCount selected change rows := by
    simp only [BulkUpdates.changedCount, ← List.filter_filter, List.countP_eq_length_filter,
      Bool.and_comm (selected _), own]
  cases refused : (rows.filter selected).findSome? refusal with
  | some thrown =>
    have stopped := changing_all_apart distinct
      (fun record => selected record && (reached (id record) && (refusal record).isNone)) change
      (fun record tested => inside record (Bool.and_eq_true_iff.mp tested).1) keepsId keepsTenant
      (Except.error thrown : Except Thrown Nat)
    apply stopped.agree <;> simp only [update_many_bound bound, selected, own, refused]
  | none =>
    have changed := changing_all_apart distinct selected change inside keepsId keepsTenant
      (Except.ok (BulkUpdates.changedCount selected change rows) : Except Thrown Nat)
    apply changed.agree <;> simp only [update_many_bound bound, selected, own, refused, counted]

/-- A deletion by text. -/
theorem delete_apart (text : String) : RowsApart tenant rows (deleteByText ambient text) := by
  cases casts : castId (modelName α) text with
  | error thrown =>
    apply (throwing_apart thrown).agree <;> simp only [delete_by_text_bound bound, casts]
  | ok target =>
    have inside : ∀ record : α,
        (decide (tenantId record = tenant) && decide (id record = target)) = true →
          tenantId record = tenant := by
      intro record tested
      rw [Bool.and_eq_true, decide_eq_true_eq] at tested
      exact tested.1
    constructor
    · simp only [delete_by_text_bound bound, casts, Except.map,
        any_own (fun record _ => inside record)]
      rw [own_erase]
    · intro ended deleted other different
      simp only [delete_by_text_bound bound, casts] at deleted
      rw [← Except.ok.inj deleted]
      exact other_erase different inside rows
    · intro ended deleted
      simp only [delete_by_text_bound bound, casts] at deleted
      rw [← Except.ok.inj deleted]
      exact distinct.sublist (List.eraseP_sublist.map id)

end Writes

end TenantModel

end CoachingApi
