import CoachingApi.Library.Revisions

/-!
# Plain objects

A plain object holds a value under each of its keys. Assigning to a key that is there keeps
its place and assigning to a new one adds it at the end. Spreading a second object over a
first one assigns all its values in turn: read key by key, the second object's value is
taken where it has one and the first one's elsewhere.
-/

/-- Values under distinct keys, in the order in which the keys were added. -/
structure PlainObject (κ β : Type) where
  entries : List (κ × β)
  distinct : Records.Distinct Prod.fst entries
  deriving DecidableEq

namespace PlainObject

variable {κ β : Type}

/-- An object without keys. -/
def empty : PlainObject κ β := ⟨[], List.nodup_nil⟩

variable [DecidableEq κ]

/-- The value under a key. -/
def read (object : PlainObject κ β) (key : κ) : Option β :=
  (Records.lookup Prod.fst key object.entries).map Prod.snd

/-- Assign a value to a key. -/
def assign (object : PlainObject κ β) (key : κ) (value : β) : PlainObject κ β where
  entries := Revisions.revise Prod.fst key (fun entry => (entry.1, value)) (key, value)
    object.entries
  distinct := Revisions.revise_distinct (fun _ => rfl) rfl object.distinct

/-- `{ ...object, ...given }`. -/
def spread (object given : PlainObject κ β) : PlainObject κ β :=
  given.entries.foldl (fun assigned entry => assigned.assign entry.1 entry.2) object

@[simp] theorem read_empty (key : κ) : (empty : PlainObject κ β).read key = none := rfl

/-- What is read under a key is an entry. -/
theorem read_some {object : PlainObject κ β} {key : κ} {value : β} :
    object.read key = some value ↔ (key, value) ∈ object.entries := by
  unfold read
  constructor
  · intro found
    cases looked : Records.lookup Prod.fst key object.entries with
    | none => simp [looked] at found
    | some entry =>
      obtain ⟨stored, rfl⟩ := Records.lookup_some looked
      simp only [looked, Option.map_some, Option.some.injEq] at found
      exact found ▸ stored
  · intro stored
    rw [Records.lookup_stored object.distinct stored]
    rfl

/-- An assignment is an update of what is read. -/
theorem read_assign (object : PlainObject κ β) (key : κ) (value : β) :
    (object.assign key value).read = Function.update object.read key (some value) := by
  have keeps (entry : κ × β) : Prod.fst (entry.1, value) = Prod.fst entry := rfl
  funext sought
  by_cases same : sought = key
  · subst same
    have looked : Records.lookup Prod.fst sought (object.assign sought value).entries =
        some (((Records.lookup Prod.fst sought object.entries).map
          (fun entry => (entry.1, value))).getD (sought, value)) :=
      Revisions.revise_lookup_same keeps rfl
    rw [Function.update_self, read, looked]
    cases Records.lookup Prod.fst sought object.entries with
    | none => rfl
    | some entry => rfl
  · have looked : Records.lookup Prod.fst sought (object.assign key value).entries =
        Records.lookup Prod.fst sought object.entries :=
      Revisions.revise_lookup_other keeps rfl same
    rw [Function.update_of_ne same, read, looked]
    rfl

/-- What is assigned last under a key of an object is what is read there. -/
theorem last_under_entries (object : PlainObject κ β) (key : κ) :
    Revisions.lastUnder key object.entries = object.read key := by
  cases found : object.read key with
  | some value => exact Revisions.last_under_distinct object.distinct (read_some.mp found)
  | none =>
    rw [Revisions.last_under_none]
    rintro entry stored rfl
    rw [read_some.mpr stored] at found
    cases found

/-- After a spread a key reads as in the second object, where that has it, and else as in the
first one. -/
theorem read_spread (object given : PlainObject κ β) (key : κ) :
    (object.spread given).read key = (given.read key).or (object.read key) := by
  have assigned (entries : List (κ × β)) (start : PlainObject κ β) :
      (entries.foldl (fun assigned entry => assigned.assign entry.1 entry.2) start).read =
        Revisions.assignAll start.read entries := by
    induction entries generalizing start with
    | nil => rfl
    | cons entry rest inductionHypothesis =>
      rw [List.foldl_cons, inductionHypothesis, read_assign]
      rfl
  rw [spread, assigned, Revisions.assign_all_read, last_under_entries]

end PlainObject
