import CoachingApi.Common.TenantUpdates

/-!
# Identities in queries, updates of index keys and deletions

A service makes an identity of a text with the identity's constructor, which throws on a text
that is none. An optional text that is empty counts as absent.
An update may change the keys of a unique index, which then refuses it, and a deletion takes
the first match away.
-/

namespace CoachingApi

open TenantContextStore TenantPlugin

/-- `new Types.ObjectId(text)`. -/
def newObjectId (text : String) : Except Thrown ObjectId :=
  match ObjectId.cast text with
  | some id => .ok id
  | none => .error (.error
      "input must be a 24 character hex string, 12 byte Uint8Array, or an integer")

/-- The identity that an optional text of a query asks for. -/
def queryId (text : Option String) : Except Thrown (Option ObjectId) :=
  match present text with
  | none => .ok none
  | some given => (newObjectId given).map some

/-- A key of a body that `IsOptional` lets be omitted or null. -/
inductive OptionalValue (β : Type) where
  | omitted
  | null
  | value (given : β)
  deriving DecidableEq

/-- What an update with the key leaves of a stored value, where a given one is cast. -/
def OptionalValue.update {β γ : Type} (cast : β → γ) (stored : Option γ) :
    OptionalValue β → Option γ
  | .omitted => stored
  | .null => none
  | .value given => some (cast given)

/-- What a body says of a key: nothing where it is omitted. -/
def OptionalValue.said {β : Type} : OptionalValue β → Option (Option β)
  | .omitted => none
  | .null => some none
  | .value given => some (some given)

/-- An update leaves what the body says, and else what is stored. -/
theorem OptionalValue.update_said {β γ : Type} (cast : β → γ) (stored : Option γ)
    (body : OptionalValue β) :
    body.update cast stored = (body.said.map (Option.map cast)).getD stored := by
  cases body <;> rfl

namespace TenantModel

variable {α : Type} [TenantModel α]

/-- `Model.findByIdAndUpdate` of a text, answering with the new record, where the change may
touch index keys: the unique indexes compare what it makes with other records. -/
def findByTextAndRekey (ambient : Ambient) (text : String) (change : α → α) (rows : List α) :
    Except Thrown (Option α × List α) :=
  match queryScope ambient "query" (modelName α) with
  | .error message => .error (.error message)
  | .ok scope =>
    match castId (modelName α) text with
    | .error thrown => .error thrown
    | .ok target =>
      match rows.find? (fun record => visible scope record && decide (id record = target)) with
      | none => .ok (none, rows)
      | some found =>
        if rows.any (fun other => decide (id other ≠ id found) && clashes other (change found)) then
          .error .duplicateKey
        else .ok (some (change found), Records.modify id (id found) change rows)

/-- `Model.deleteOne` by the identity a text casts to: whether a record was deleted. -/
def deleteByText (ambient : Ambient) (text : String) (rows : List α) :
    Except Thrown (Bool × List α) :=
  match queryScope ambient "query" (modelName α) with
  | .error message => .error (.error message)
  | .ok scope =>
    match castId (modelName α) text with
    | .error thrown => .error thrown
    | .ok target =>
      .ok (rows.any (fun record => visible scope record && decide (id record = target)),
        rows.eraseP (fun record => visible scope record && decide (id record = target)))

variable {ambient : Ambient} {tenant : String} {change : α → α} {rows updated : List α}

/-- In a tenant's context an update of keys finds one of that tenant's records. -/
theorem find_by_text_and_rekey_bound (bound : Bound ambient tenant) (text : String)
    (change : α → α) (rows : List α) :
    findByTextAndRekey ambient text change rows =
      match castId (modelName α) text with
      | .error thrown => .error thrown
      | .ok target =>
        match rows.find? (fun record =>
            decide (tenantId record = tenant) && decide (id record = target)) with
        | none => .ok (none, rows)
        | some found =>
          if rows.any (fun other => decide (id other ≠ id found) &&
              clashes other (change found)) then .error .duplicateKey
          else .ok (some (change found), Records.modify id (id found) change rows) := by
  simp only [findByTextAndRekey, scope_bound bound, visible]

/-- In a tenant's context a deletion takes away one of that tenant's records. -/
theorem delete_by_text_bound (bound : Bound ambient tenant) (text : String) (rows : List α) :
    deleteByText ambient text rows =
      match castId (modelName α) text with
      | .error thrown => .error thrown
      | .ok target =>
        .ok (rows.any (fun record =>
            decide (tenantId record = tenant) && decide (id record = target)),
          rows.eraseP (fun record =>
            decide (tenantId record = tenant) && decide (id record = target))) := by
  simp only [deleteByText, scope_bound bound, visible]

end TenantModel

end CoachingApi
