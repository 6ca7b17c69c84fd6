import CoachingApi.Common.TenantModel
import CoachingApi.Library.BulkUpdates
import CoachingApi.Library.Revisions

/-!
# Updates in place and upserts under the tenant plugin

A service that updates without loading names a filter and a change. The plugin confines the
filter, no validator runs, and the first match is changed; an upsert that matches nothing
inserts a record of the confined tenant. The changes of the services leave the index keys of
a record as they are, so no unique index refuses a change, and only an insertion can be
refused. An update of many changes every match and answers with the number of those that come
out different.

Where the filter names the keys of a unique index, an upsert is a revision of the table
under that key.
-/

namespace CoachingApi

open TenantContextStore TenantPlugin

namespace TenantModel

variable {α : Type} [TenantModel α]

/-- `Model.findOneAndUpdate`, answering with the new record. -/
def findOneAndUpdate (ambient : Ambient) (matching : α → Bool) (change : α → α) (rows : List α) :
    Except Thrown (Option α × List α) :=
  match queryScope ambient "query" (modelName α) with
  | .error message => .error (.error message)
  | .ok scope =>
    match rows.find? (fun record => visible scope record && matching record) with
    | none => .ok (none, rows)
    | some found => .ok (some (change found), Records.modify id (id found) change rows)

/-- `Model.findByIdAndUpdate` of a text: the scope is settled before the text is cast. -/
def findByTextAndUpdate (ambient : Ambient) (text : String) (change : α → α) (rows : List α) :
    Except Thrown (Option α × List α) :=
  match queryScope ambient "query" (modelName α) with
  | .error message => .error (.error message)
  | .ok _ =>
    match castId (modelName α) text with
    | .error thrown => .error thrown
    | .ok target =>
      findOneAndUpdate ambient (fun record => decide (id record = target)) change rows

/-- `updateOne` or `findOneAndUpdate` with `upsert`: the first match changed, or the record
that the filter and the update make. -/
def upsertOne (ambient : Ambient) (matching : α → Bool) (change : α → α) (added : α)
    (rows : List α) : Except Thrown (α × List α) :=
  match queryScope ambient "query" (modelName α) with
  | .error message => .error (.error message)
  | .ok scope =>
    match rows.find? (fun record => visible scope record && matching record) with
    | some found => .ok (change found, Records.modify id (id found) change rows)
    | none =>
      let inserted := withTenantId (scope.getD "") added
      if rows.any (fun stored => decide (id stored = id inserted) || clashes stored inserted) then
        .error .duplicateKey
      else .ok (inserted, rows ++ [inserted])

/-- `Model.updateMany`: the number of records that come out different, and the table with every
match changed. A match that refuses the update ends it, and those that were reached before stay
changed. -/
def updateMany [DecidableEq α] (ambient : Ambient) (matching : α → Bool)
    (refusal : α → Option Thrown) (reached : ObjectId → Bool) (change : α → α) (rows : List α) :
    Except Thrown (Except Thrown Nat × List α) :=
  match queryScope ambient "query" (modelName α) with
  | .error message => .error (.error message)
  | .ok scope =>
    let selected (record : α) : Bool := visible scope record && matching record
    match (rows.filter selected).findSome? refusal with
    | some thrown =>
      .ok (.error thrown, BulkUpdates.changeAll
        (fun record => selected record && (reached (id record) && (refusal record).isNone))
        change rows)
    | none =>
      .ok (.ok (BulkUpdates.changedCount selected change rows),
        BulkUpdates.changeAll selected change rows)

variable {ambient : Ambient} {tenant : String} {matching : α → Bool} {change : α → α}
  {rows updated : List α}

/-- What the indexes promise of a stored table: identities are distinct, and so are the keys
of a unique index. -/
structure Indexed {κ : Type} (key : α → κ) (rows : List α) : Prop where
  ids : Records.Distinct id rows
  keys : Records.Distinct key rows

/-- The indexes of a table can be tested. -/
instance decidableIndexed {κ : Type} [DecidableEq κ] (key : α → κ) (rows : List α) :
    Decidable (Indexed key rows) :=
  decidable_of_iff (Records.Distinct id rows ∧ Records.Distinct key rows)
    ⟨fun ⟨ids, keys⟩ => ⟨ids, keys⟩, fun indexed => ⟨indexed.ids, indexed.keys⟩⟩

/-- In a tenant's context an update of many changes those of its records that match, unless one
of them refuses it. -/
theorem update_many_bound [DecidableEq α] (bound : Bound ambient tenant) (matching : α → Bool)
    (refusal : α → Option Thrown) (reached : ObjectId → Bool) (change : α → α) (rows : List α) :
    updateMany ambient matching refusal reached change rows =
      let selected (record : α) : Bool := decide (tenantId record = tenant) && matching record
      match (rows.filter selected).findSome? refusal with
      | some thrown =>
        .ok (.error thrown, BulkUpdates.changeAll
          (fun record => selected record && (reached (id record) && (refusal record).isNone))
          change rows)
      | none =>
        .ok (.ok (BulkUpdates.changedCount selected change rows),
          BulkUpdates.changeAll selected change rows) := by
  simp only [updateMany, scope_bound bound, visible]

/-- In a tenant's context an update changes the first of its records that matches. -/
theorem find_one_and_update_bound (bound : Bound ambient tenant) (matching : α → Bool)
    (change : α → α) (rows : List α) :
    findOneAndUpdate ambient matching change rows =
      match rows.find? (fun record => decide (tenantId record = tenant) && matching record) with
      | none => .ok (none, rows)
      | some found => .ok (some (change found), Records.modify id (id found) change rows) := by
  simp only [findOneAndUpdate, scope_bound bound, visible]

/-- In a tenant's context an update by text casts it and changes the tenant's record with that
identity. -/
theorem find_by_text_and_update_bound (bound : Bound ambient tenant) (text : String)
    (change : α → α) (rows : List α) :
    findByTextAndUpdate ambient text change rows =
      match castId (modelName α) text with
      | .error thrown => .error thrown
      | .ok target =>
        match rows.find? (fun record =>
            decide (tenantId record = tenant) && decide (id record = target)) with
        | none => .ok (none, rows)
        | some found => .ok (some (change found), Records.modify id (id found) change rows) := by
  simp only [findByTextAndUpdate, scope_bound bound, find_one_and_update_bound bound]

/-- In a tenant's context an update by text that finds a record changed one of that tenant
with the identity that the text casts to. -/
theorem find_by_text_and_update_ok (bound : Bound ambient tenant) {text : String}
    {rows updated : List α} {changed : α}
    (found : findByTextAndUpdate ambient text change rows = .ok (some changed, updated)) :
    ∃ record ∈ rows, tenantId record = tenant ∧ ObjectId.cast text = some (id record) ∧
      changed = change record ∧ updated = Records.modify id (id record) change rows := by
  rw [find_by_text_and_update_bound bound] at found
  cases casts : castId (modelName α) text with
  | error thrown => simp [casts] at found
  | ok target =>
    simp only [casts] at found
    split at found
    · cases found
    · rename_i record first
      have tested := List.find?_some first
      simp only [Bool.and_eq_true, decide_eq_true_eq] at tested
      simp only [Except.ok.injEq, Prod.mk.injEq, Option.some.injEq] at found
      obtain ⟨owned, rfl⟩ := tested
      exact ⟨record, List.mem_of_find?_eq_some first, owned, cast_id_ok.mp casts,
        found.1.symm, found.2.symm⟩

/-- In a tenant's context an update by text that finds no record changes none. -/
theorem find_by_text_and_update_none (bound : Bound ambient tenant) {text : String}
    {rows updated : List α}
    (missed : findByTextAndUpdate ambient text change rows = .ok (none, updated)) :
    updated = rows := by
  rw [find_by_text_and_update_bound bound] at missed
  cases casts : castId (modelName α) text with
  | error thrown => simp [casts] at missed
  | ok target =>
    simp only [casts] at missed
    split at missed
    · exact (congrArg Prod.snd (Except.ok.inj missed)).symm
    · simp at missed

/-- In a tenant's context an upsert changes the first of its records that matches, and else
inserts one of that tenant. -/
theorem upsert_one_bound (bound : Bound ambient tenant) (matching : α → Bool) (change : α → α)
    (added : α) (rows : List α) :
    upsertOne ambient matching change added rows =
      match rows.find? (fun record => decide (tenantId record = tenant) && matching record) with
      | some found => .ok (change found, Records.modify id (id found) change rows)
      | none =>
        if rows.any (fun stored => decide (id stored = id added) ||
            clashes stored (withTenantId tenant added)) then .error .duplicateKey
        else .ok (withTenantId tenant added, rows ++ [withTenantId tenant added]) := by
  simp only [upsertOne, scope_bound bound, visible, Option.getD_some, with_tenant_keeps]

/-- In a tenant's context an upsert that succeeds keeps identities distinct and stores one record
anew: a match of the tenant as it was changed, or the inserted one. -/
theorem upsert_one_stores {added stored : α} (bound : Bound ambient tenant)
    (distinct : Records.Distinct id rows) (keepsId : ∀ row, id (change row) = id row)
    (upserted : upsertOne ambient matching change added rows = .ok (stored, updated)) :
    Records.Distinct id updated ∧ (∀ row ∈ updated, row ∈ rows ∨ row = stored) ∧
      ((∃ found ∈ rows, tenantId found = tenant ∧ matching found = true ∧ stored = change found) ∨
        stored = withTenantId tenant added) := by
  rw [upsert_one_bound bound] at upserted
  cases found : rows.find? (fun record =>
      decide (tenantId record = tenant) && matching record) with
  | some record =>
    simp only [found, Except.ok.injEq, Prod.mk.injEq] at upserted
    obtain ⟨rfl, rfl⟩ := upserted
    have tested := List.find?_some found
    simp only [Bool.and_eq_true, decide_eq_true_eq] at tested
    have member := List.mem_of_find?_eq_some found
    refine ⟨Records.modify_distinct keepsId distinct, ?_,
      .inl ⟨record, member, tested.1, tested.2, rfl⟩⟩
    intro row held
    obtain ⟨original, original_stored, result⟩ := Records.mem_modify.mp held
    by_cases touched : id original = id record
    · rw [if_pos touched] at result
      rw [← result, Records.same_record distinct original_stored member touched]
      exact .inr rfl
    · rw [if_neg touched] at result
      exact .inl (result ▸ original_stored)
  | none =>
    simp only [found] at upserted
    split at upserted
    · cases upserted
    · rename_i unclaimed
      obtain ⟨rfl, rfl⟩ := Prod.mk.inj (Except.ok.inj upserted)
      refine ⟨?_, ?_, .inr rfl⟩
      · apply Records.append_distinct distinct
        intro row held same
        rw [with_tenant_keeps] at same
        refine unclaimed (List.any_eq_true.mpr ⟨row, held, ?_⟩)
        simp [same]
      · intro row held
        rcases List.mem_append.mp held with old | new
        · exact .inl old
        · exact .inr (List.mem_singleton.mp new)

/-- Changing the records under an identity is changing those under a key that it determines. -/
theorem modify_by_key {κ : Type} [DecidableEq κ] {key : α → κ}
    (distinct : Records.Distinct id rows) (keys : Records.Distinct key rows) {found : α}
    (stored : found ∈ rows) (change : α → α) :
    Records.modify id (id found) change rows = Records.modify key (key found) change rows := by
  apply List.map_congr_left
  intro row member
  have same : id row = id found ↔ key row = key found := by
    constructor
    · intro sameId
      rw [Records.same_record distinct member stored sameId]
    · intro sameKey
      rw [Records.same_record keys member stored sameKey]
  by_cases touched : id row = id found
  · rw [if_pos touched, if_pos (same.mp touched)]
  · rw [if_neg touched, if_neg (fun under => touched (same.mpr under))]

/-- An upsert whose filter names a key, when it succeeds, has revised the table under that key
and kept identities distinct. -/
theorem upsert_one_ok {κ : Type} [DecidableEq κ] {key : α → κ} {target : κ} {added stored : α}
    (bound : Bound ambient tenant) (distinct : Records.Distinct id rows)
    (keys : Records.Distinct key rows)
    (named : ∀ row ∈ rows, (tenantId row = tenant ∧ matching row = true) ↔ key row = target)
    (keepsId : ∀ row, id (change row) = id row)
    (upserted : upsertOne ambient matching change added rows = .ok (stored, updated)) :
    updated = Revisions.revise key target change (withTenantId tenant added) rows ∧
      Records.Distinct id updated := by
  rw [upsert_one_bound bound] at upserted
  cases found : rows.find? (fun record =>
      decide (tenantId record = tenant) && matching record) with
  | some record =>
    simp only [found, Except.ok.injEq, Prod.mk.injEq] at upserted
    have tested := List.find?_some found
    simp only [Bool.and_eq_true, decide_eq_true_eq] at tested
    have member := List.mem_of_find?_eq_some found
    have under := (named record member).mp tested
    have present : target ∈ rows.map key := under ▸ List.mem_map_of_mem member
    rw [← upserted.2]
    refine ⟨?_, Records.modify_distinct keepsId distinct⟩
    rw [Revisions.revise, if_pos present, modify_by_key distinct keys member, under]
  | none =>
    simp only [found] at upserted
    split at upserted
    · cases upserted
    · rename_i unclaimed
      simp only [Except.ok.injEq, Prod.mk.injEq] at upserted
      have outside : target ∉ rows.map key := by
        intro present
        obtain ⟨row, member, under⟩ := List.mem_map.mp present
        have missed := List.find?_eq_none.mp found row member
        simp [(named row member).mpr under] at missed
      rw [← upserted.2]
      refine ⟨by rw [Revisions.revise, if_neg outside], ?_⟩
      refine Records.append_distinct distinct ?_
      intro other member same
      rw [with_tenant_keeps] at same
      simp only [List.any_eq_true, not_exists, not_and, Bool.or_eq_true, not_or,
        decide_eq_true_eq] at unclaimed
      exact (unclaimed other member).1 same

/-- An upsert whose filter names a key is refused only when no record is under it. -/
theorem upsert_one_refused {κ : Type} {key : α → κ} {target : κ} {added : α} {thrown : Thrown}
    (bound : Bound ambient tenant)
    (named : ∀ row ∈ rows, (tenantId row = tenant ∧ matching row = true) ↔ key row = target)
    (refused : upsertOne ambient matching change added rows = .error thrown) :
    ∀ row ∈ rows, key row ≠ target := by
  rw [upsert_one_bound bound] at refused
  intro row member under
  cases found : rows.find? (fun record =>
      decide (tenantId record = tenant) && matching record) with
  | some record => simp [found] at refused
  | none =>
    have missed := List.find?_eq_none.mp found row member
    simp [(named row member).mpr under] at missed

/-- An upsert whose filter names a key revises the table under that key, when the record it
would insert is under that key and a new identity, and clashes with records of its key
only. -/
theorem upsert_one_revises {κ : Type} [DecidableEq κ] {key : α → κ} {target : κ} {added : α}
    (bound : Bound ambient tenant) (distinct : Records.Distinct id rows)
    (keys : Records.Distinct key rows)
    (named : ∀ row ∈ rows, (tenantId row = tenant ∧ matching row = true) ↔ key row = target)
    (fresh : ∀ row ∈ rows, id row ≠ id added)
    (free : ∀ row ∈ rows, clashes row (withTenantId tenant added) = true → key row = target) :
    ∃ stored, upsertOne ambient matching change added rows =
      .ok (stored, Revisions.revise key target change (withTenantId tenant added) rows) := by
  rw [upsert_one_bound bound]
  cases found : rows.find? (fun record =>
      decide (tenantId record = tenant) && matching record) with
  | some record =>
    have tested := List.find?_some found
    simp only [Bool.and_eq_true, decide_eq_true_eq] at tested
    have member := List.mem_of_find?_eq_some found
    have under := (named record member).mp tested
    have present : target ∈ rows.map key := under ▸ List.mem_map_of_mem member
    refine ⟨change record, ?_⟩
    simp only [Revisions.revise, if_pos present, modify_by_key distinct keys member, under]
  | none =>
    have absent : ∀ row ∈ rows, key row ≠ target := by
      intro row member under
      have missed := List.find?_eq_none.mp found row member
      simp [(named row member).mpr under] at missed
    have unclaimed : rows.any (fun stored => decide (id stored = id added) ||
        clashes stored (withTenantId tenant added)) = false := by
      rw [List.any_eq_false]
      intro row member
      have clear : clashes row (withTenantId tenant added) = false := by
        rw [← Bool.not_eq_true]
        exact fun clash => absent row member (free row member clash)
      simp [fresh row member, clear]
    have outside : target ∉ rows.map key := by
      intro present
      obtain ⟨row, member, under⟩ := List.mem_map.mp present
      exact absent row member under
    refine ⟨withTenantId tenant added, ?_⟩
    simp only [unclaimed, Bool.false_eq_true, if_false, Revisions.revise, if_neg outside]

end TenantModel

end CoachingApi
