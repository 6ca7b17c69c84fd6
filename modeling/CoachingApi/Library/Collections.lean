import Mathlib.Data.List.Nodup
import CoachingApi.Library.DocumentStore

/-!
# Collection operations and their confinement to a class of documents

Reads select the matching documents in natural order, or in a caller's order with
a skip and a limit. A write to the first match, a write to every match, deletions
and insertions are each one definition with the change as a parameter; the unique
indexes are consulted before a document is stored.

A Boolean predicate divides a collection into its own and its foreign documents.
When no unique index relates the two classes, an operation that selects own
documents and stores own documents has the same report on the whole collection as
on the own part alone, and leaves every foreign document in place. These
confinement laws are about one operation; runs compose them.
-/

namespace DocumentStore

/-- A unique index: its key paths, and whether documents without any of them are
left out of it. -/
structure UniqueIndex where
  keys : List String
  sparse : Bool := false

/-- A sparse index skips a document that has none of its keys. -/
def UniqueIndex.covers (index : UniqueIndex) (document : Document) : Bool :=
  !index.sparse || index.keys.any (fun key => (document.get key).isSome)

/-- Another document of the index holds the candidate's key tuple. An absent key
counts as null. The document being rewritten is never compared with itself. -/
def UniqueIndex.collides (index : UniqueIndex) (stored candidate : Document) : Bool :=
  decide (stored.id ≠ candidate.id) && (index.covers candidate && (index.covers stored &&
    index.keys.all (fun key =>
      decide ((stored.get key).getD .null = (candidate.get key).getD .null))))

/-- Some unique index refuses the candidate. -/
def collision (indexes : List UniqueIndex) (documents : List Document)
    (candidate : Document) : Bool :=
  indexes.any (fun index => documents.any (fun stored => index.collides stored candidate))

/-- Store a new document at the end of the natural order. -/
def insertOne (indexes : List UniqueIndex) (documents : List Document) (candidate : Document) :
    Except WriteError (List Document) :=
  if documents.any (fun stored => decide (stored.id = candidate.id)) ||
      collision indexes documents candidate then .error .duplicateKey
  else .ok (documents ++ [candidate])

/-- Put a document in the place of the stored one with its identity. -/
def replaceStored (documents : List Document) (candidate : Document) : List Document :=
  documents.map (fun stored => if stored.id = candidate.id then candidate else stored)

/-- Rewrite one stored document unless a unique index refuses it. -/
def writeOne (indexes : List UniqueIndex) (documents : List Document) (candidate : Document) :
    Except WriteError (List Document) :=
  if collision indexes documents candidate then .error .duplicateKey
  else .ok (replaceStored documents candidate)

/-- Sorting, skipping and limiting of a read. -/
structure QueryOptions where
  before : Option (Document → Document → Bool) := none
  skip : Nat := 0
  limit : Option Nat := none

/-- The documents a read returns, from those that match. -/
def QueryOptions.arrange (options : QueryOptions) (matching : List Document) : List Document :=
  let sorted := match options.before with
    | none => matching
    | some before => matching.mergeSort before
  match options.limit with
  | none => sorted.drop options.skip
  | some limit => (sorted.drop options.skip).take limit

/-- A read returns matching documents only. -/
theorem arrange_subset (options : QueryOptions) (matching : List Document) (document : Document)
    (returned : document ∈ options.arrange matching) : document ∈ matching := by
  have kept : document ∈ (match options.before with
      | none => matching
      | some before => matching.mergeSort before) := by
    unfold QueryOptions.arrange at returned
    cases bound : options.limit with
    | none =>
      rw [bound] at returned
      exact List.mem_of_mem_drop returned
    | some limit =>
      rw [bound] at returned
      exact List.mem_of_mem_drop (List.mem_of_mem_take returned)
  cases order : options.before with
  | none => simpa only [order] using kept
  | some before => simpa only [order, List.mem_mergeSort] using kept

/-- The matching documents in natural order. -/
def select (filter : Filter) (documents : List Document) : List Document :=
  documents.filter (fun document => matchesFilter document filter)

/-- What a write did: the document it matched and the document it left stored. -/
structure WriteReport where
  matched : Option Document
  stored : Option Document

/-- Change the found document, or insert when nothing was found and an insertion
is supplied. A refused write leaves the collection as it was. -/
def writeFirst (indexes : List UniqueIndex) (found : Option Document)
    (change : Document → Except WriteError Document)
    (insertion : Option (Except WriteError Document)) (documents : List Document) :
    List Document × Except WriteError WriteReport :=
  match found with
  | some document =>
    match change document with
    | .error refused => (documents, .error refused)
    | .ok changed =>
      match writeOne indexes documents changed with
      | .error refused => (documents, .error refused)
      | .ok updated => (updated, .ok ⟨some document, some changed⟩)
  | none =>
    match insertion with
    | none => (documents, .ok ⟨none, none⟩)
    | some (.error refused) => (documents, .error refused)
    | some (.ok candidate) =>
      match insertOne indexes documents candidate with
      | .error refused => (documents, .error refused)
      | .ok updated => (updated, .ok ⟨none, some candidate⟩)

/-- A successful report names the found document and what was stored: its change,
or the insertion when nothing was found. -/
theorem write_first_report {indexes : List UniqueIndex} {found : Option Document}
    {change : Document → Except WriteError Document}
    {insertion : Option (Except WriteError Document)} {documents : List Document}
    {report : WriteReport}
    (succeeded : (writeFirst indexes found change insertion documents).2 = .ok report) :
    report.matched = found ∧ ∀ stored, report.stored = some stored →
      (∃ document, found = some document ∧ change document = .ok stored) ∨
        (found = none ∧ insertion = some (.ok stored)) := by
  cases found with
  | some document =>
    cases changes : change document with
    | error refused => simp [writeFirst, changes] at succeeded
    | ok changed =>
      cases written : writeOne indexes documents changed with
      | error refused => simp [writeFirst, changes, written] at succeeded
      | ok updated =>
        simp only [writeFirst, changes, written, Except.ok.injEq] at succeeded
        subst succeeded
        refine ⟨rfl, ?_⟩
        intro stored kept
        obtain rfl : changed = stored := Option.some.inj kept
        exact Or.inl ⟨document, rfl, changes⟩
  | none =>
    cases insertion with
    | none =>
      simp only [writeFirst, Except.ok.injEq] at succeeded
      subst succeeded
      exact ⟨rfl, by simp⟩
    | some attempt =>
      cases attempt with
      | error refused => simp [writeFirst] at succeeded
      | ok candidate =>
        cases inserted : insertOne indexes documents candidate with
        | error refused => simp [writeFirst, inserted] at succeeded
        | ok updated =>
          simp only [writeFirst, inserted, Except.ok.injEq] at succeeded
          subst succeeded
          refine ⟨rfl, ?_⟩
          intro stored kept
          obtain rfl : candidate = stored := Option.some.inj kept
          exact Or.inr ⟨rfl, rfl⟩

/-- Change every target in order. The first refusal ends the operation and keeps
the writes before it; success reports the number of targets. -/
def writeEach (indexes : List UniqueIndex) (change : Document → Except WriteError Document) :
    List Document → List Document → List Document × Except WriteError Nat
  | [], documents => (documents, .ok 0)
  | target :: rest, documents =>
    match change target with
    | .error refused => (documents, .error refused)
    | .ok changed =>
      match writeOne indexes documents changed with
      | .error refused => (documents, .error refused)
      | .ok updated =>
        ((writeEach indexes change rest updated).1,
          (writeEach indexes change rest updated).2.map (· + 1))

/-- Insert in order, ending at the first refusal and keeping what was inserted. -/
def insertEach (indexes : List UniqueIndex) :
    List Document → List Document → List Document × Except WriteError Unit
  | [], documents => (documents, .ok ())
  | candidate :: rest, documents =>
    match insertOne indexes documents candidate with
    | .error refused => (documents, .error refused)
    | .ok updated => insertEach indexes rest updated

/-- Remove the stored document with an identity. -/
def eraseStored (documents : List Document) (id : Value) : List Document :=
  documents.filter (fun stored => decide (stored.id ≠ id))

section Confinement

variable (own : Document → Bool)

/-- The own documents in natural order. -/
def inside (documents : List Document) : List Document := documents.filter own

/-- The foreign documents in natural order. -/
def outside (documents : List Document) : List Document :=
  documents.filter (fun document => !own document)

/-- No unique index compares an own document with a foreign one. -/
def Separates (indexes : List UniqueIndex) : Prop :=
  ∀ index ∈ indexes, ∀ stored candidate, index.collides stored candidate = true →
    own stored = own candidate

/-- Identities are unique in a collection. -/
def UniqueIds (documents : List Document) : Prop := (documents.map Document.id).Nodup

/-- An operation took `documents` to `updated` and its own part to `part`: it acted
on the own documents exactly as on `part` and left the foreign documents alone. -/
structure Confined (documents updated part : List Document) : Prop where
  inside_eq : inside own updated = part
  outside_eq : outside own updated = outside own documents
  unique : UniqueIds updated

/-- An operation that changes nothing is confined. -/
theorem Confined.unchanged {documents : List Document} (unique : UniqueIds documents) :
    Confined own documents documents (inside own documents) := ⟨rfl, rfl, unique⟩

variable {own}

/-- Membership in the own part. -/
theorem mem_inside {documents : List Document} {document : Document} :
    document ∈ inside own documents ↔ document ∈ documents ∧ own document = true :=
  List.mem_filter

/-- Membership in the foreign part. -/
theorem mem_outside {documents : List Document} {document : Document} :
    document ∈ outside own documents ↔ document ∈ documents ∧ own document = false := by
  simp [outside, List.mem_filter]

/-- Two stored documents with one identity are the same document. -/
theorem unique_document {documents : List Document} (unique : UniqueIds documents)
    {first second : Document} (firstStored : first ∈ documents) (secondStored : second ∈ documents)
    (same : first.id = second.id) : first = second :=
  List.inj_on_of_nodup_map unique firstStored secondStored same

/-- An own candidate meets an index in the whole collection exactly when it meets
it among the own documents. -/
theorem collision_inside {indexes : List UniqueIndex} (separated : Separates own indexes)
    (documents : List Document) (candidate : Document) (owned : own candidate = true) :
    collision indexes documents candidate = collision indexes (inside own documents) candidate := by
  apply Bool.eq_iff_iff.mpr
  simp only [collision, List.any_eq_true]
  constructor
  · rintro ⟨index, declared, stored, member, collides⟩
    have storedOwn : own stored = true :=
      (separated index declared stored candidate collides).trans owned
    exact ⟨index, declared, stored, mem_inside.mpr ⟨member, storedOwn⟩, collides⟩
  · rintro ⟨index, declared, stored, member, collides⟩
    exact ⟨index, declared, stored, (mem_inside.mp member).1, collides⟩

/-- Replacement keeps the list of identities. -/
theorem replace_ids (documents : List Document) (candidate : Document) :
    (replaceStored documents candidate).map Document.id = documents.map Document.id := by
  simp only [replaceStored, List.map_map]
  apply List.map_congr_left
  intro stored _
  by_cases same : stored.id = candidate.id <;> simp [same]

/-- Replacing an own document by an own document is confined.

Proof: unique identities make the replaced document the only one the replacement
touches, so classes are unchanged position by position. -/
theorem replace_confined {documents : List Document} (unique : UniqueIds documents)
    {document candidate : Document} (stored : document ∈ documents)
    (same : document.id = candidate.id) (owned : own document = true)
    (kept : own candidate = true) :
    Confined own documents (replaceStored documents candidate)
      (replaceStored (inside own documents) candidate) := by
  have touched (other : Document) (member : other ∈ documents)
      (equal : other.id = candidate.id) : own other = true := by
    have identical : other = document :=
      unique_document unique member stored (equal.trans same.symm)
    exact identical ▸ owned
  have classes (other : Document) (member : other ∈ documents) :
      own (if other.id = candidate.id then candidate else other) = own other := by
    by_cases equal : other.id = candidate.id
    · rw [if_pos equal, kept, touched other member equal]
    · rw [if_neg equal]
  refine ⟨?_, ?_, ?_⟩
  · simp only [inside, replaceStored, List.filter_map]
    congr 1
    apply List.filter_congr
    intro other member
    exact classes other member
  · simp only [outside, replaceStored, List.filter_map]
    have sameClass : documents.filter ((fun other => !own other) ∘
        fun other => if other.id = candidate.id then candidate else other) =
        documents.filter (fun other => !own other) := by
      apply List.filter_congr
      intro other member
      simp only [Function.comp_apply, classes other member]
    rw [sameClass]
    conv_rhs => rw [← List.map_id (documents.filter (fun other => !own other))]
    apply List.map_congr_left
    intro other foreign
    have foreignOther := List.mem_filter.mp foreign
    have different : other.id ≠ candidate.id := by
      intro equal
      have ownedOther : own other = true := touched other foreignOther.1 equal
      simp [ownedOther] at foreignOther
    simp [different]
  · unfold UniqueIds
    rw [replace_ids]
    exact unique

/-- Rewriting an own document as an own document: the same verdict on the whole
collection as on the own part, and a confined result. -/
theorem write_confined {indexes : List UniqueIndex} (separated : Separates own indexes)
    {documents : List Document} (unique : UniqueIds documents)
    {document candidate : Document} (stored : document ∈ documents)
    (same : document.id = candidate.id) (owned : own document = true)
    (kept : own candidate = true) :
    (∃ updated part, writeOne indexes documents candidate = .ok updated ∧
      writeOne indexes (inside own documents) candidate = .ok part ∧
      Confined own documents updated part) ∨
    (∃ refused, writeOne indexes documents candidate = .error refused ∧
      writeOne indexes (inside own documents) candidate = .error refused) := by
  unfold writeOne
  rw [← collision_inside separated documents candidate kept]
  by_cases collides : collision indexes documents candidate = true
  · exact Or.inr ⟨.duplicateKey, by simp [collides], by simp [collides]⟩
  · exact Or.inl ⟨_, _, if_neg collides, if_neg collides,
      replace_confined unique stored same owned kept⟩

/-- Inserting an own document whose identity no foreign document holds. -/
theorem insert_confined {indexes : List UniqueIndex} (separated : Separates own indexes)
    {documents : List Document} (unique : UniqueIds documents) (candidate : Document)
    (kept : own candidate = true)
    (fresh : ∀ foreign ∈ outside own documents, foreign.id ≠ candidate.id) :
    (∃ updated part, insertOne indexes documents candidate = .ok updated ∧
      insertOne indexes (inside own documents) candidate = .ok part ∧
      Confined own documents updated part) ∨
    (∃ refused, insertOne indexes documents candidate = .error refused ∧
      insertOne indexes (inside own documents) candidate = .error refused) := by
  have sameIds : (documents.any (fun stored => decide (stored.id = candidate.id))) =
      ((inside own documents).any (fun stored => decide (stored.id = candidate.id))) := by
    apply Bool.eq_iff_iff.mpr
    simp only [List.any_eq_true, decide_eq_true_eq]
    constructor
    · rintro ⟨stored, member, equal⟩
      have storedOwn : own stored = true := by
        cases class_ : own stored with
        | true => rfl
        | false => exact False.elim (fresh stored (mem_outside.mpr ⟨member, class_⟩) equal)
      exact ⟨stored, mem_inside.mpr ⟨member, storedOwn⟩, equal⟩
    · rintro ⟨stored, member, equal⟩
      exact ⟨stored, (mem_inside.mp member).1, equal⟩
  unfold insertOne
  rw [← collision_inside separated documents candidate kept, ← sameIds]
  by_cases refused : (documents.any (fun stored => decide (stored.id = candidate.id)) ||
      collision indexes documents candidate) = true
  · exact Or.inr ⟨.duplicateKey, if_pos refused, if_pos refused⟩
  · refine Or.inl ⟨_, _, if_neg refused, if_neg refused, ?_, ?_, ?_⟩
    · simp [inside, List.filter_append, kept]
    · simp [outside, List.filter_append, kept]
    · simp only [Bool.or_eq_true, not_or, List.any_eq_true, decide_eq_true_eq, not_exists,
        not_and] at refused
      unfold UniqueIds
      rw [List.map_append, List.nodup_append]
      refine ⟨unique, by simp, ?_⟩
      intro id held other last equal
      obtain ⟨stored, member, rfl⟩ := List.mem_map.mp held
      simp only [List.map_cons, List.map_nil, List.mem_singleton] at last
      exact refused.1 stored member (equal.trans last)

/-- A write to the first match is confined when the match is an own document, the
change keeps documents in their class and the insertion is own and fresh. -/
theorem write_first_confined {indexes : List UniqueIndex} (separated : Separates own indexes)
    {documents : List Document} (unique : UniqueIds documents) (found : Option Document)
    (change : Document → Except WriteError Document)
    (insertion : Option (Except WriteError Document))
    (matched : ∀ document, found = some document → document ∈ documents ∧ own document = true)
    (keeps : ∀ document changed, own document = true → change document = .ok changed →
      changed.id = document.id ∧ own changed = true)
    (inserts : ∀ candidate, insertion = some (.ok candidate) → own candidate = true ∧
      ∀ foreign ∈ outside own documents, foreign.id ≠ candidate.id) :
    (writeFirst indexes found change insertion documents).2 =
        (writeFirst indexes found change insertion (inside own documents)).2 ∧
      Confined own documents (writeFirst indexes found change insertion documents).1
        (writeFirst indexes found change insertion (inside own documents)).1 := by
  cases found with
  | some document =>
    obtain ⟨stored, owned⟩ := matched document rfl
    cases changes : change document with
    | error refused =>
      simp only [writeFirst, changes]
      exact ⟨trivial, Confined.unchanged own unique⟩
    | ok changed =>
      obtain ⟨sameId, kept⟩ := keeps document changed owned changes
      rcases write_confined separated unique stored sameId.symm owned kept with
        ⟨updated, part, whole, own_, confined⟩ | ⟨refused, whole, own_⟩
      · simp only [writeFirst, changes, whole, own_]
        exact ⟨trivial, confined⟩
      · simp only [writeFirst, changes, whole, own_]
        exact ⟨trivial, Confined.unchanged own unique⟩
  | none =>
    cases inserted : insertion with
    | none => exact ⟨rfl, Confined.unchanged own unique⟩
    | some attempt =>
      cases attempt with
      | error refused => exact ⟨rfl, Confined.unchanged own unique⟩
      | ok candidate =>
        obtain ⟨kept, fresh⟩ := inserts candidate inserted
        rcases insert_confined separated unique candidate kept fresh with
          ⟨updated, part, whole, own_, confined⟩ | ⟨refused, whole, own_⟩
        · simp only [writeFirst, whole, own_]
          exact ⟨trivial, confined⟩
        · simp only [writeFirst, whole, own_]
          exact ⟨trivial, Confined.unchanged own unique⟩

/-- A write to every target is confined under the same conditions. Each target
still has its identity when its turn comes, because no write changes one. -/
theorem write_each_confined {indexes : List UniqueIndex} (separated : Separates own indexes)
    (change : Document → Except WriteError Document)
    (keeps : ∀ document changed, own document = true → change document = .ok changed →
      changed.id = document.id ∧ own changed = true)
    (targets documents : List Document) (unique : UniqueIds documents)
    (held : ∀ target ∈ targets, own target = true ∧
      ∃ stored ∈ documents, stored.id = target.id ∧ own stored = true) :
    (writeEach indexes change targets documents).2 =
        (writeEach indexes change targets (inside own documents)).2 ∧
      Confined own documents (writeEach indexes change targets documents).1
        (writeEach indexes change targets (inside own documents)).1 := by
  induction targets generalizing documents with
  | nil => exact ⟨rfl, Confined.unchanged own unique⟩
  | cons target rest inductionHypothesis =>
    obtain ⟨targetOwn, stored, member, sameTarget, storedOwn⟩ := held target (by simp)
    cases changes : change target with
    | error refused =>
      simp only [writeEach, changes]
      exact ⟨trivial, Confined.unchanged own unique⟩
    | ok changed =>
      obtain ⟨sameId, kept⟩ := keeps target changed targetOwn changes
      rcases write_confined separated unique member (sameTarget.trans sameId.symm) storedOwn kept with
        ⟨updated, part, whole, own_, confined⟩ | ⟨refused, whole, own_⟩
      · have updatedEq : updated = replaceStored documents changed := by
          by_cases collides : collision indexes documents changed = true
          · simp [writeOne, collides] at whole
          · simpa [writeOne, collides] using whole.symm
        have later : ∀ other ∈ rest, own other = true ∧
            ∃ stored ∈ updated, stored.id = other.id ∧ own stored = true := by
          intro other inRest
          obtain ⟨otherOwn, place, placed, sameOther, placeOwn⟩ := held other (by simp [inRest])
          refine ⟨otherOwn, if place.id = changed.id then changed else place, ?_, ?_, ?_⟩
          · rw [updatedEq]
            exact List.mem_map.mpr ⟨place, placed, rfl⟩
          · by_cases equal : place.id = changed.id <;> simp [equal, ← sameOther]
          · by_cases equal : place.id = changed.id <;> simp [equal, kept, placeOwn]
        obtain ⟨sameReport, rest_⟩ := inductionHypothesis updated confined.unique later
        have partEq : inside own updated = part := confined.inside_eq
        simp only [writeEach, changes, whole, own_]
        rw [partEq] at sameReport rest_
        refine ⟨by rw [sameReport], rest_.inside_eq, ?_, rest_.unique⟩
        exact rest_.outside_eq.trans confined.outside_eq
      · simp only [writeEach, changes, whole, own_]
        exact ⟨trivial, Confined.unchanged own unique⟩

/-- Inserting own documents with identities no foreign document holds is confined. -/
theorem insert_each_confined {indexes : List UniqueIndex} (separated : Separates own indexes)
    (candidates documents : List Document) (unique : UniqueIds documents)
    (owned : ∀ candidate ∈ candidates, own candidate = true)
    (fresh : ∀ candidate ∈ candidates, ∀ foreign ∈ outside own documents,
      foreign.id ≠ candidate.id) :
    (insertEach indexes candidates documents).2 =
        (insertEach indexes candidates (inside own documents)).2 ∧
      Confined own documents (insertEach indexes candidates documents).1
        (insertEach indexes candidates (inside own documents)).1 := by
  induction candidates generalizing documents with
  | nil => exact ⟨rfl, Confined.unchanged own unique⟩
  | cons candidate rest inductionHypothesis =>
    rcases insert_confined separated unique candidate (owned candidate (by simp))
        (fresh candidate (by simp)) with
      ⟨updated, part, whole, own_, confined⟩ | ⟨refused, whole, own_⟩
    · obtain ⟨sameReport, rest_⟩ := inductionHypothesis updated confined.unique
        (fun other member => owned other (by simp [member]))
        (fun other member => by
          rw [confined.outside_eq]
          exact fresh other (by simp [member]))
      have partEq : inside own updated = part := confined.inside_eq
      simp only [insertEach, whole, own_]
      rw [partEq] at sameReport rest_
      exact ⟨sameReport, rest_.inside_eq, rest_.outside_eq.trans confined.outside_eq, rest_.unique⟩
    · simp only [insertEach, whole, own_]
      exact ⟨trivial, Confined.unchanged own unique⟩

/-- Removing own documents is confined. -/
theorem erase_confined {documents : List Document} (unique : UniqueIds documents)
    (keep : Document → Bool)
    (foreign : ∀ document ∈ documents, own document = false → keep document = true) :
    Confined own documents (documents.filter keep) ((inside own documents).filter keep) := by
  refine ⟨?_, ?_, ?_⟩
  · simp only [inside, List.filter_filter, Bool.and_comm]
  · simp only [outside, List.filter_filter]
    apply List.filter_congr
    intro document member
    cases class_ : own document with
    | true => simp
    | false => simp [foreign document member class_]
  · exact unique.sublist (List.filter_sublist.map Document.id)

end Confinement

end DocumentStore
