import Mathlib.Data.Rat.Defs

/-!
# Document collections with filters, update operators and unique indexes

A collection is the list of its documents in natural order. Filters are objects
of field conditions and logical operators; a predicate escape covers the query
operators that read a whole document. Updates are lists of operators, and an
upsert builds its document from the equalities the filter fixes. Every collection
has the unique `_id` index and any number of declared unique indexes.

The definitions are a mathematical reading of the documented semantics of a
document database. Journaling, replication, sharding and write concerns are no
part of it, and one call of an operation is one atomic transition.
-/

namespace DocumentStore

/-- A stored BSON value. Arrays, embedded documents and the remaining BSON types
are kept by their canonical serialization, which decides their equality. -/
inductive Value where
  | null
  | bool (value : Bool)
  | number (value : Rat)
  | string (value : String)
  | objectId (hex : String)
  | date (milliseconds : Int)
  | compound (serialized : String)
  deriving DecidableEq

/-- A read of every top-level path; an absent path reads as `none`. -/
abbrev Row := String → Option Value

/-- A stored document: its immutable identity and its other fields. -/
structure Document where
  id : Value
  fields : Row

namespace Document

/-- Read a path, with the identity at `_id`. -/
def get (document : Document) (path : String) : Option Value :=
  if path = "_id" then some document.id else document.fields path

/-- Write or remove one path. The identity is immutable and is left alone. -/
def put (document : Document) (path : String) (value : Option Value) : Document :=
  { document with fields := fun tested => if tested = path then value else document.fields tested }

/-- A write changes no identity. -/
@[simp] theorem put_id (document : Document) (path : String) (value : Option Value) :
    (document.put path value).id = document.id := rfl

/-- A write is read back at its own path. -/
theorem put_get_same (document : Document) (path : String) (value : Option Value)
    (ordinary : path ≠ "_id") : (document.put path value).get path = value := by
  simp [get, put, ordinary]

/-- A write leaves every other path alone. -/
theorem put_get_other (document : Document) (path tested : String) (value : Option Value)
    (different : tested ≠ path) : (document.put path value).get tested = document.get tested := by
  simp [get, put, different]

end Document

/-- A condition on one path. A null equality also matches an absent path. All
other comparison operators are predicates on the stored value. -/
inductive Condition where
  | equals (value : Value)
  | satisfies (predicate : Option Value → Bool)

/-- Evaluate a condition on the value read. -/
def Condition.holds : Condition → Option Value → Bool
  | .equals value, stored => stored.getD .null == value
  | .satisfies predicate, stored => predicate stored

/-- One entry of a filter object: a path with its condition, a logical operator
over filters, or an operator that reads the whole document. -/
inductive Clause where
  | field (path : String) (condition : Condition)
  | and (branches : List (List Clause))
  | or (branches : List (List Clause))
  | nor (branches : List (List Clause))
  | expr (predicate : Row → Bool)

/-- A filter object; its entries are read conjunctively. -/
abbrev Filter := List Clause

mutual

/-- Evaluate one entry. -/
def clauseHolds (document : Document) : Clause → Bool
  | .field path condition => condition.holds (document.get path)
  | .and branches => allMatch document branches
  | .or branches => anyMatch document branches
  | .nor branches => !anyMatch document branches
  | .expr predicate => predicate document.get

/-- Every entry of a filter holds. -/
def matchesFilter (document : Document) : List Clause → Bool
  | [] => true
  | clause :: rest => clauseHolds document clause && matchesFilter document rest

/-- Every filter of a conjunction matches. -/
def allMatch (document : Document) : List (List Clause) → Bool
  | [] => true
  | branch :: rest => matchesFilter document branch && allMatch document rest

/-- Some filter of a disjunction matches. -/
def anyMatch (document : Document) : List (List Clause) → Bool
  | [] => false
  | branch :: rest => matchesFilter document branch || anyMatch document rest

end

/-- Entries are conjunctive, so appended entries narrow a filter. -/
theorem matches_append (document : Document) (first second : Filter) :
    matchesFilter document (first ++ second) =
      (matchesFilter document first && matchesFilter document second) := by
  induction first with
  | nil => simp [matchesFilter]
  | cons clause rest inductionHypothesis =>
    simp only [List.cons_append, matchesFilter, inductionHypothesis, Bool.and_assoc]

/-- The entry's own key, when it is a plain path. -/
def Clause.path? : Clause → Option String
  | .field path _ => some path
  | _ => none

/-- Object spread with one key replaced: `{ ...filter, [path]: value }`. -/
def Filter.withKey (filter : Filter) (path : String) (value : Value) : Filter :=
  filter.filter (fun clause => clause.path? ≠ some path) ++ [.field path (.equals value)]

/-- Replacing a key conjoins its equality with the remaining entries. -/
theorem matches_with_key (document : Document) (filter : Filter) (path : String) (value : Value) :
    matchesFilter document (filter.withKey path value) =
      (matchesFilter document (filter.filter (fun clause => clause.path? ≠ some path)) &&
        ((document.get path).getD .null == value)) := by
  simp [Filter.withKey, matches_append, matchesFilter, clauseHolds, Condition.holds]

mutual

/-- The equalities an entry fixes for an upsert: a plain equality, those below a
conjunction, and those below a disjunction of one branch. -/
def clauseEqualities : Clause → List (String × Value)
  | .field path (.equals value) => [(path, value)]
  | .and branches => allEqualities branches
  | .or [branch] => filterEqualities branch
  | _ => []

/-- The equalities a filter fixes, in order. -/
def filterEqualities : List Clause → List (String × Value)
  | [] => []
  | clause :: rest => clauseEqualities clause ++ filterEqualities rest

/-- The equalities a conjunction fixes. -/
def allEqualities : List (List Clause) → List (String × Value)
  | [] => []
  | branch :: rest => filterEqualities branch ++ allEqualities rest

end

/-- Appended entries contribute their equalities last. -/
theorem equalities_append (first second : Filter) :
    filterEqualities (first ++ second) = filterEqualities first ++ filterEqualities second := by
  induction first with
  | nil => simp [filterEqualities]
  | cons clause rest inductionHypothesis =>
    simp only [List.cons_append, filterEqualities, inductionHypothesis, List.append_assoc]

/-- Why a write is refused. -/
inductive WriteError where
  | duplicateKey
  | rejected (message : String)
  deriving DecidableEq

/-- One update operator on one path. Arithmetic and array operators are functions
of the stored value and may refuse it; a rename moves a value between two paths. -/
inductive UpdateOperator where
  | set (path : String) (value : Value)
  | unset (path : String)
  | setOnInsert (path : String) (value : Value)
  | rename (source target : String)
  | modify (path : String) (change : Option Value → Except String (Option Value))

namespace UpdateOperator

/-- The paths an operator writes. -/
def targets : UpdateOperator → List String
  | .set path _ | .unset path | .setOnInsert path _ | .modify path _ => [path]
  | .rename source target => [source, target]

/-- Apply one operator; `inserting` holds while an upsert builds its document. -/
def run (inserting : Bool) (document : Document) : UpdateOperator → Except WriteError Document
  | .set path value => .ok (document.put path (some value))
  | .unset path => .ok (document.put path none)
  | .setOnInsert path value =>
    .ok (if inserting then document.put path (some value) else document)
  | .rename source target =>
    match document.get source with
    | none => .ok document
    | some value => .ok ((document.put source none).put target (some value))
  | .modify path change =>
    match change (document.get path) with
    | .error message => .error (.rejected message)
    | .ok value => .ok (document.put path value)

end UpdateOperator

/-- An update document: its operators in order. -/
abbrev Update := List UpdateOperator

/-- The paths an update writes. -/
def Update.targets (update : Update) : List String := update.flatMap UpdateOperator.targets

/-- Apply the operators in order. -/
def Update.fold (inserting : Bool) : Document → Update → Except WriteError Document
  | document, [] => .ok document
  | document, operator :: rest =>
    match operator.run inserting document with
    | .error refused => .error refused
    | .ok changed => Update.fold inserting changed rest

/-- Apply an update. Two operators on one path conflict, and the identity cannot
be written. -/
def Update.apply (update : Update) (inserting : Bool) (document : Document) :
    Except WriteError Document :=
  if "_id" ∈ update.targets then
    .error (.rejected "Performing an update on the path '_id' would modify the immutable field '_id'")
  else if update.targets.Nodup then Update.fold inserting document update
  else .error (.rejected "Updating the path would create a conflict")

/-- Build an upsert's document: the filter's equalities, then the update. A path
fixed twice is refused; the identity is the filter's or the generated one. -/
def upsertDocument (filter : Filter) (update : Update) (generated : Value) :
    Except WriteError Document :=
  let fixed := filterEqualities filter
  if (fixed.map Prod.fst).Nodup then
    update.apply true
      ⟨(fixed.lookup "_id").getD generated, fun path => fixed.lookup path⟩
  else .error (.rejected "cannot infer query fields to set, path is matched twice")

/-- One operator on paths other than the tested one keeps that path. -/
theorem operator_keeps_path (operator : UpdateOperator) (inserting : Bool)
    (document changed : Document) (path : String) (apart : path ∉ operator.targets)
    (ran : operator.run inserting document = .ok changed) :
    changed.id = document.id ∧ changed.get path = document.get path := by
  cases operator with
  | set target value =>
    obtain rfl : document.put target (some value) = changed := Except.ok.inj ran
    simp only [UpdateOperator.targets, List.mem_singleton] at apart
    exact ⟨rfl, document.put_get_other target path _ apart⟩
  | unset target =>
    obtain rfl : document.put target none = changed := Except.ok.inj ran
    simp only [UpdateOperator.targets, List.mem_singleton] at apart
    exact ⟨rfl, document.put_get_other target path _ apart⟩
  | setOnInsert target value =>
    simp only [UpdateOperator.targets, List.mem_singleton] at apart
    cases inserting with
    | false =>
      obtain rfl : document = changed := Except.ok.inj ran
      exact ⟨rfl, rfl⟩
    | true =>
      obtain rfl : document.put target (some value) = changed := Except.ok.inj ran
      exact ⟨rfl, document.put_get_other target path _ apart⟩
  | rename source target =>
    simp only [UpdateOperator.targets, List.mem_cons, List.not_mem_nil, or_false, not_or] at apart
    cases held : document.get source with
    | none =>
      simp only [UpdateOperator.run, held, Except.ok.injEq] at ran
      subst ran
      exact ⟨rfl, rfl⟩
    | some value =>
      simp only [UpdateOperator.run, held, Except.ok.injEq] at ran
      subst ran
      refine ⟨rfl, ?_⟩
      rw [Document.put_get_other _ target path _ apart.2, Document.put_get_other _ source path _ apart.1]
  | modify target change =>
    simp only [UpdateOperator.targets, List.mem_singleton] at apart
    cases computed : change (document.get target) with
    | error message => simp [UpdateOperator.run, computed] at ran
    | ok value =>
      simp only [UpdateOperator.run, computed, Except.ok.injEq] at ran
      subst ran
      exact ⟨rfl, document.put_get_other target path _ apart⟩

/-- An update keeps every identity and every path it does not write. -/
theorem fold_keeps_path (update : Update) (inserting : Bool) (document changed : Document)
    (path : String) (apart : path ∉ update.targets)
    (ran : Update.fold inserting document update = .ok changed) :
    changed.id = document.id ∧ changed.get path = document.get path := by
  induction update generalizing document with
  | nil =>
    obtain rfl : document = changed := Except.ok.inj ran
    exact ⟨rfl, rfl⟩
  | cons operator rest inductionHypothesis =>
    simp only [Update.targets, List.flatMap_cons, List.mem_append, not_or] at apart
    cases first : operator.run inserting document with
    | error refused => simp [Update.fold, first] at ran
    | ok middle =>
      simp only [Update.fold, first] at ran
      obtain ⟨sameId, samePath⟩ := operator_keeps_path operator inserting document middle path
        apart.1 first
      obtain ⟨laterId, laterPath⟩ := inductionHypothesis middle apart.2 ran
      exact ⟨laterId.trans sameId, laterPath.trans samePath⟩

end DocumentStore
