import CoachingApi.Common.TenantIsolation
import CoachingApi.Common.TenantUpdates
import CoachingApi.Schemas.Fees

/-!
# Typed models as hooked collections

The services read and write typed records; the plugin's hooks act on documents. An encoding says
how the records of a model are stored: as which documents, that the schema's validators and unique
indexes are those of the model, and that a save writes back path by path. Whatever the encoding, a
session of typed operations is then mirrored by the session of the hooked operations on documents:
in every context they are answered alike, and what is stored and what was returned stay encodings
of each other.

Upserts, updates of many and deletions are not among these operations.
-/

namespace CoachingApi

open DocumentStore TenantContextStore TenantPlugin TenantOperations

/-- An encoding of a model's records as the documents of its collection. -/
structure Encoding (α : Type) [TenantModel α] (schema : ModelSchema) where
  document : α → Document
  identity : ∀ first second,
    (document first).id = (document second).id ↔ TenantModel.id first = TenantModel.id second
  bare : ∀ record, (document record).fields "_id" = none
  tenant : ∀ record,
    (document record).get "tenantId" = some (.string (TenantModel.tenantId record))
  stamped : ∀ tenant record, document (TenantModel.withTenantId tenant record) =
    (document record).put "tenantId" (some (.string tenant))
  validates : ∀ record,
    schema.validates (document record) = (TenantModel.refusedPath record).isNone
  clashes : ∀ stored candidate, TenantModel.id stored ≠ TenantModel.id candidate →
    schema.uniqueIndexes.any (fun index => index.collides (document stored) (document candidate)) =
      TenantModel.clashes stored candidate
  written : ∀ loaded current stored path,
    (document (TenantModel.writeBack loaded current stored)).fields path =
      if (document current).fields path = (document loaded).fields path then
        (document stored).fields path
      else (document current).fields path

/-- What the services ask of one model: reads, aggregations, creations, updates of the first match
that return its new image, and saves of a record that was returned earlier. -/
inductive TypedOperation (α : Type) where
  | find (matching : α → Bool)
  | findOne (matching : α → Bool)
  | aggregate (pipeline : List α → List Row)
  | create (record : α)
  | findOneAndUpdate (matching : α → Bool) (change : α → α)
  | save (handle : Nat) (edit : α → α)

/-- What a typed operation is answered. -/
inductive TypedAnswer (α : Type) where
  | records (found : List α)
  | rows (rows : List Row)
  | threw (thrown : Thrown)
  | unreturned

/-- The records of a model, and those its operations have returned so far. -/
structure TypedSession (α : Type) where
  rows : List α
  loaded : List α := []

namespace TypedSession

variable {α : Type} [TenantModel α]

/-- Keep returned records at hand. -/
def returning (session : TypedSession α) (found : List α) : TypedSession α × TypedAnswer α :=
  ({ session with loaded := session.loaded ++ found }, .records found)

/-- Run one operation in the ambient context. -/
def exec (ambient : Ambient) (session : TypedSession α) :
    TypedOperation α → TypedSession α × TypedAnswer α
  | .find matching =>
    match TenantModel.find ambient matching session.rows with
    | .error thrown => (session, .threw thrown)
    | .ok found => session.returning found
  | .findOne matching =>
    match TenantModel.findOne ambient matching session.rows with
    | .error thrown => (session, .threw thrown)
    | .ok found => session.returning found.toList
  | .aggregate pipeline =>
    match TenantModel.aggregate ambient pipeline session.rows with
    | .error thrown => (session, .threw thrown)
    | .ok rows => (session, .rows rows)
  | .create record =>
    match TenantModel.create ambient record session.rows with
    | .error thrown => (session, .threw thrown)
    | .ok (stored, rows) => { session with rows := rows }.returning [stored]
  | .findOneAndUpdate matching change =>
    match TenantModel.findOneAndUpdate ambient matching change session.rows with
    | .error thrown => (session, .threw thrown)
    | .ok (updated, rows) => { session with rows := rows }.returning updated.toList
  | .save handle edit =>
    match session.loaded[handle]? with
    | none => (session, .unreturned)
    | some loaded =>
      match TenantModel.save ambient loaded (edit loaded) session.rows with
      | .error thrown => (session, .threw thrown)
      | .ok (saved, rows) => (⟨rows, session.loaded.set handle saved⟩, .records [saved])

/-- Run operations one after the other and collect their answers. -/
def execAll (ambient : Ambient) :
    TypedSession α → List (TypedOperation α) → TypedSession α × List (TypedAnswer α)
  | session, [] => (session, [])
  | session, operation :: rest =>
    let first := session.exec ambient operation
    let later := execAll ambient first.1 rest
    (later.1, first.2 :: later.2)

end TypedSession

namespace Encoding

variable {α : Type} [TenantModel α]

section Relations

variable {schema : ModelSchema} (encoding : Encoding α schema)

/-- A typed answer as that of the hooked operations. -/
def answer : TypedAnswer α → Result
  | .records found => .documents (found.map encoding.document)
  | .rows rows => .rows rows
  | .threw (.error message) => .failed (.hook message)
  | .threw (.validation _) => .failed .validation
  | .threw .documentNotFound => .failed .documentNotFound
  | .threw _ => .failed (.write .duplicateKey)
  | .unreturned => .failed .noDocument

/-- A session holds the encoded records of a typed one. -/
structure Mirrors (session : Session) (typed : TypedSession α) : Prop where
  rows : session.database (TenantModel.modelName α) = typed.rows.map encoding.document
  loaded : session.loaded =
    typed.loaded.map (fun record => (TenantModel.modelName α, encoding.document record))

/-- Identities are distinct and no unique index relates two records. -/
structure Settled (rows : List α) : Prop where
  distinct : Records.Distinct TenantModel.id rows
  apart : ∀ stored ∈ rows, ∀ other ∈ rows, TenantModel.id stored ≠ TenantModel.id other →
    TenantModel.clashes stored other = false

/-- A hooked operation on documents performs a typed one: its filter names no tenant and decides
the typed test, its stages compute the typed pipeline, its update the typed change, and its
assignments the typed edit. -/
inductive Performs : TypedOperation α → Operation → Prop where
  | find {matching : α → Bool} {filter : Filter}
      (unnamed : ∀ clause ∈ filter, clause.path? ≠ some "tenantId")
      (decides : ∀ record, matchesFilter (encoding.document record) filter = matching record) :
      Performs (.find matching) (.query (TenantModel.modelName α) (.find filter {}))
  | findOne {matching : α → Bool} {filter : Filter}
      (unnamed : ∀ clause ∈ filter, clause.path? ≠ some "tenantId")
      (decides : ∀ record, matchesFilter (encoding.document record) filter = matching record) :
      Performs (.findOne matching) (.query (TenantModel.modelName α) (.findOne filter {}))
  | aggregate {pipeline : List α → List Row} {stages : List Stage}
      (computes : ∀ records,
        runPipeline stages (records.map encoding.document) = pipeline records) :
      Performs (.aggregate pipeline) (.aggregate (TenantModel.modelName α) stages)
  | create (record : α) :
      Performs (.create record) (.create (TenantModel.modelName α) (encoding.document record))
  | findOneAndUpdate {matching : α → Bool} {change : α → α} {filter : Filter} {update : Update}
      (unnamed : ∀ clause ∈ filter, clause.path? ≠ some "tenantId")
      (decides : ∀ record, matchesFilter (encoding.document record) filter = matching record)
      (computes : ∀ record,
        update.apply false (encoding.document record) = .ok (encoding.document (change record)))
      (quiet : ∀ stored record, TenantModel.clashes stored (change record) =
        TenantModel.clashes stored record) :
      Performs (.findOneAndUpdate matching change)
        (.query (TenantModel.modelName α) (.findOneAndUpdate filter update {} none true))
  | save {edit : α → α} {changes : List (String × Option Value)} (handle : Nat)
      (edits : ∀ record, assign (encoding.document record) changes =
        encoding.document (edit record)) :
      Performs (.save handle edit) (.save handle changes)

end Relations

/-- An index compares two documents alike from either side. -/
theorem collides_comm (index : UniqueIndex) (stored candidate : Document) :
    index.collides stored candidate = index.collides candidate stored := by
  have keys : (index.keys.all (fun key =>
      decide ((stored.get key).getD .null = (candidate.get key).getD .null))) =
      index.keys.all (fun key =>
        decide ((candidate.get key).getD .null = (stored.get key).getD .null)) := by
    simp only [eq_comm]
  have ids : decide (stored.id ≠ candidate.id) = decide (candidate.id ≠ stored.id) :=
    decide_eq_decide.mpr ne_comm
  simp only [UniqueIndex.collides, keys, ids]
  ac_rfl

section Documents

variable {schema : ModelSchema} {encoding : Encoding α schema} {rows : List α}

/-- Unique indexes relate two records alike from either side. -/
theorem clashes_comm (encoding : Encoding α schema) {stored candidate : α}
    (apart : TenantModel.id stored ≠ TenantModel.id candidate) :
    TenantModel.clashes stored candidate = TenantModel.clashes candidate stored := by
  rw [← encoding.clashes stored candidate apart, ← encoding.clashes candidate stored apart.symm]
  simp only [collides_comm]

/-- The unique indexes refuse an encoded record when they relate it to another one. -/
theorem collision_encoded (encoding : Encoding α schema) (rows : List α) (candidate : α) :
    collision schema.uniqueIndexes (rows.map encoding.document) (encoding.document candidate) =
      rows.any (fun stored => decide (TenantModel.id stored ≠ TenantModel.id candidate) &&
        TenantModel.clashes stored candidate) := by
  have each (stored : α) :
      schema.uniqueIndexes.any (fun index =>
          index.collides (encoding.document stored) (encoding.document candidate)) =
        (decide (TenantModel.id stored ≠ TenantModel.id candidate) &&
          TenantModel.clashes stored candidate) := by
    by_cases same : TenantModel.id stored = TenantModel.id candidate
    · simp [UniqueIndex.collides, (encoding.identity stored candidate).mpr same, same]
    · rw [encoding.clashes stored candidate same]
      simp [same]
  rw [Bool.eq_iff_iff, List.any_eq_true]
  simp only [← each, collision, List.any_eq_true, List.mem_map, exists_exists_and_eq_and]
  constructor
  · rintro ⟨index, declared, stored, member, collides⟩
    exact ⟨stored, member, index, declared, collides⟩
  · rintro ⟨stored, member, index, declared, collides⟩
    exact ⟨index, declared, stored, member, collides⟩

/-- Storing an encoded record anew is refused or adds it. -/
theorem insert_encoded (encoding : Encoding α schema) (rows : List α) (candidate : α) :
    insertOne schema.uniqueIndexes (rows.map encoding.document) (encoding.document candidate) =
      if rows.any (fun stored => decide (TenantModel.id stored = TenantModel.id candidate) ||
          TenantModel.clashes stored candidate) then .error .duplicateKey
      else .ok ((rows ++ [candidate]).map encoding.document) := by
  have tested : ((rows.map encoding.document).any (fun stored =>
        decide (stored.id = (encoding.document candidate).id)) ||
      collision schema.uniqueIndexes (rows.map encoding.document) (encoding.document candidate)) =
      rows.any (fun stored => decide (TenantModel.id stored = TenantModel.id candidate) ||
        TenantModel.clashes stored candidate) := by
    rw [collision_encoded, List.any_map, Bool.eq_iff_iff]
    simp only [Bool.or_eq_true, List.any_eq_true, Function.comp_apply, encoding.identity,
      Bool.and_eq_true, decide_eq_true_eq]
    constructor
    · rintro (⟨stored, member, same⟩ | ⟨stored, member, _, clash⟩)
      · exact ⟨stored, member, .inl same⟩
      · exact ⟨stored, member, .inr clash⟩
    · rintro ⟨stored, member, taken⟩
      by_cases same : TenantModel.id stored = TenantModel.id candidate
      · exact .inl ⟨stored, member, same⟩
      · exact .inr ⟨stored, member, same, taken.resolve_left same⟩
  simp only [insertOne, tested, List.map_append, List.map_cons, List.map_nil]

/-- Writing an encoded record in its place is refused or puts it there. -/
theorem write_encoded (encoding : Encoding α schema) (rows : List α) (candidate : α) :
    writeOne schema.uniqueIndexes (rows.map encoding.document) (encoding.document candidate) =
      if rows.any (fun stored => decide (TenantModel.id stored ≠ TenantModel.id candidate) &&
          TenantModel.clashes stored candidate) then .error .duplicateKey
      else .ok ((Records.modify TenantModel.id (TenantModel.id candidate) (fun _ => candidate)
        rows).map encoding.document) := by
  have placed : replaceStored (rows.map encoding.document) (encoding.document candidate) =
      (Records.modify TenantModel.id (TenantModel.id candidate) (fun _ => candidate) rows).map
        encoding.document := by
    simp only [replaceStored, Records.modify, List.map_map]
    apply List.map_congr_left
    intro stored _
    simp only [Function.comp_apply, encoding.identity]
    split <;> rfl
  simp only [writeOne, collision_encoded, placed]

/-- The validation hook and the schema's validators do on an encoded record what the model does. -/
theorem validate_encoded (encoding : Encoding α schema) (ambient : Ambient) (record : α) :
    (∃ message, TenantModel.validate ambient record = .error (.error message) ∧
      preValidate ambient (TenantModel.modelName α) (encoding.document record) = .error message) ∨
    (∃ path stamped, TenantModel.validate ambient record = .error (.validation path) ∧
      preValidate ambient (TenantModel.modelName α) (encoding.document record) = .ok stamped ∧
      schema.validates stamped = false) ∨
    ∃ tenant, TenantModel.validate ambient record = .ok (TenantModel.withTenantId tenant record) ∧
      preValidate ambient (TenantModel.modelName α) (encoding.document record) =
        .ok (encoding.document (TenantModel.withTenantId tenant record)) ∧
      schema.validates (encoding.document (TenantModel.withTenantId tenant record)) = true := by
  have held : tenantIdOf (encoding.document record) = some (TenantModel.tenantId record) := by
    simp only [tenantIdOf, encoding.tenant]
  unfold TenantModel.validate preValidate
  rw [held]
  cases stamp : stampTenant ambient (TenantModel.modelName α)
      (some (TenantModel.tenantId record)) with
  | error message => exact .inl ⟨message, rfl, rfl⟩
  | ok tenant =>
    have validated := encoding.validates (TenantModel.withTenantId tenant record)
    simp only [← encoding.stamped]
    cases refused : TenantModel.refusedPath (TenantModel.withTenantId tenant record) with
    | some path =>
      rw [refused] at validated
      exact .inr (.inl ⟨path, _, rfl, rfl, validated⟩)
    | none =>
      rw [refused] at validated
      exact .inr (.inr ⟨tenant, rfl, rfl, validated⟩)

/-- A hooked filter selects the encoded records that the scope lets the typed test see. -/
theorem select_encoded (encoding : Encoding α schema) {ambient : Ambient} {matching : α → Bool}
    {filter : Filter} (unnamed : ∀ clause ∈ filter, clause.path? ≠ some "tenantId")
    (decides : ∀ record, matchesFilter (encoding.document record) filter = matching record)
    {scope : Option String}
    (confines : queryScope ambient "query" (TenantModel.modelName α) = .ok scope) :
    ∃ confined, preQuery ambient (TenantModel.modelName α) filter = .ok confined ∧
      ∀ rows : List α, select confined (rows.map encoding.document) =
        (rows.filter (fun record => TenantModel.visible scope record && matching record)).map
          encoding.document := by
  cases scope with
  | none =>
    refine ⟨filter, by simp only [preQuery, confines], fun rows => ?_⟩
    simp only [select, List.filter_map, TenantModel.visible, Bool.true_and]
    congr 1
    exact List.filter_congr (fun record _ => decides record)
  | some tenant =>
    refine ⟨filter.withKey "tenantId" (.string tenant), by simp only [preQuery, confines],
      fun rows => ?_⟩
    simp only [select, List.filter_map, TenantModel.visible]
    congr 1
    apply List.filter_congr
    intro record _
    have kept : filter.filter (fun clause => clause.path? ≠ some "tenantId") = filter :=
      List.filter_eq_self.mpr (fun clause member => by simpa using unnamed clause member)
    simp only [Function.comp_apply, matches_with_key, kept, decides, encoding.tenant,
      Option.getD_some, beq_eq_decide, Value.string.injEq]
    exact Bool.and_comm _ _

/-- What writing certain paths of one document onto another leaves under a path. -/
theorem put_each_fields (current : Document) (paths : List String) (stored : Document)
    (path : String) :
    (paths.foldl (fun document path => document.put path (current.get path)) stored).fields path =
      if path ∈ paths then current.get path else stored.fields path := by
  induction paths generalizing stored with
  | nil => rfl
  | cons first rest inductionHypothesis =>
    rw [List.foldl_cons, inductionHypothesis]
    by_cases later : path ∈ rest
    · simp [later]
    · by_cases same : path = first
      · simp [same, Document.put]
      · simp [later, same, Document.put]

/-- Writing paths of one document onto another keeps its identity. -/
theorem put_each_id (current : Document) (paths : List String) (stored : Document) :
    (paths.foldl (fun document path => document.put path (current.get path)) stored).id =
      stored.id := by
  induction paths generalizing stored with
  | nil => rfl
  | cons first rest inductionHypothesis => exact inductionHypothesis _

/-- Assignments leave every other path as it was. -/
theorem assign_fields (document : Document) {changes : List (String × Option Value)} {path : String}
    (apart : path ∉ changes.map Prod.fst) :
    (assign document changes).fields path = document.fields path := by
  induction changes generalizing document with
  | nil => rfl
  | cons change rest inductionHypothesis =>
    simp only [List.map_cons, List.mem_cons, not_or] at apart
    have first : (document.put change.1 change.2).fields path = document.fields path :=
      if_neg apart.1
    exact (inductionHypothesis _ apart.2).trans first

/-- The stored document after a save of an encoded record is the encoding of what the model writes
back.

Proof: path by path. A path that differs in memory from what was loaded was assigned or is the
tenant's, so it is among those that are set. -/
theorem saved_encoded (encoding : Encoding α schema) {loaded current : α}
    {changes : List (String × Option Value)} (tenant : String) (stored : α)
    (assigned : assign (encoding.document loaded) changes = encoding.document current) :
    saved (encoding.document stored) (encoding.document loaded)
        (encoding.document (TenantModel.withTenantId tenant current)) changes =
      encoding.document
        (TenantModel.writeBack loaded (TenantModel.withTenantId tenant current) stored) := by
  have stamps := encoding.stamped tenant current
  generalize TenantModel.withTenantId tenant current = stamped at stamps ⊢
  have sameId : (encoding.document stamped).id = (encoding.document loaded).id := by
    rw [stamps, ← assigned]
    exact TenantIsolation.assign_id _ _
  have fields (path : String) : (saved (encoding.document stored) (encoding.document loaded)
        (encoding.document stamped) changes).fields path =
      (encoding.document (TenantModel.writeBack loaded stamped stored)).fields path := by
    rw [saved, put_each_fields, encoding.written]
    simp only [List.mem_filter, decide_eq_true_eq, List.mem_append, List.mem_singleton]
    by_cases identity : path = "_id"
    · subst identity
      simp [Document.get, sameId, encoding.bare]
    · simp only [Document.get, if_neg identity]
      by_cases same : (encoding.document stamped).fields path =
          (encoding.document loaded).fields path
      · simp [same]
      · have listed : path ∈ changes.map Prod.fst ∨ path = "tenantId" := by
          by_contra unlisted
          rw [not_or] at unlisted
          apply same
          rw [stamps, Document.put]
          simp only [if_neg unlisted.2]
          rw [← assigned, assign_fields _ unlisted.1]
        rw [if_neg same, if_pos ⟨listed, same⟩]
  have ids : (saved (encoding.document stored) (encoding.document loaded)
        (encoding.document stamped) changes).id =
      (encoding.document (TenantModel.writeBack loaded stamped stored)).id := by
    rw [saved, put_each_id]
    exact ((encoding.identity _ _).mpr (TenantModel.write_back_keeps _ _ _)).symm
  generalize saved _ _ _ _ = one at fields ids ⊢
  generalize encoding.document (TenantModel.writeBack loaded stamped stored) = other at fields ids ⊢
  obtain ⟨oneId, oneFields⟩ := one
  obtain ⟨otherId, otherFields⟩ := other
  obtain rfl : oneId = otherId := ids
  obtain rfl : oneFields = otherFields := funext fields
  rfl

/-- A record that the unique indexes do not relate to the stored ones can be added. -/
theorem settled_append (encoding : Encoding α schema) (settled : Settled rows) {candidate : α}
    (free : rows.any (fun stored =>
      decide (TenantModel.id stored = TenantModel.id candidate) ||
        TenantModel.clashes stored candidate) = false) : Settled (rows ++ [candidate]) := by
  have unrelated (stored : α) (member : stored ∈ rows) :
      TenantModel.id stored ≠ TenantModel.id candidate ∧
        TenantModel.clashes stored candidate = false := by
    simpa using List.any_eq_false.mp free stored member
  refine ⟨Records.append_distinct settled.distinct (fun stored member =>
    (unrelated stored member).1), ?_⟩
  intro stored member other otherMember apart
  rcases List.mem_append.mp member with old | new <;>
    rcases List.mem_append.mp otherMember with otherOld | otherNew
  · exact settled.apart stored old other otherOld apart
  · obtain rfl := List.mem_singleton.mp otherNew
    exact (unrelated stored old).2
  · obtain rfl := List.mem_singleton.mp new
    rw [encoding.clashes_comm apart]
    exact (unrelated other otherOld).2
  · obtain rfl := List.mem_singleton.mp new
    exact absurd (congrArg TenantModel.id (List.mem_singleton.mp otherNew).symm) apart

/-- A record that the unique indexes do not relate to the others can be put in its place. -/
theorem settled_write (encoding : Encoding α schema) (settled : Settled rows) {candidate : α}
    (free : rows.any (fun stored => decide (TenantModel.id stored ≠ TenantModel.id candidate) &&
      TenantModel.clashes stored candidate) = false) :
    Settled (Records.modify TenantModel.id (TenantModel.id candidate) (fun _ => candidate)
      rows) := by
  have unrelated (stored : α) (member : stored ∈ rows)
      (apart : TenantModel.id stored ≠ TenantModel.id candidate) :
      TenantModel.clashes stored candidate = false := by
    simpa [apart] using List.any_eq_false.mp free stored member
  refine ⟨Records.replace_distinct rfl settled.distinct, ?_⟩
  intro stored member other otherMember apart
  rcases Records.mem_replace member with rfl | ⟨old, _⟩ <;>
    rcases Records.mem_replace otherMember with rfl | ⟨otherOld, _⟩
  · exact absurd rfl apart
  · rw [encoding.clashes_comm apart]
    exact unrelated other otherOld apart.symm
  · exact unrelated stored old apart
  · exact settled.apart stored old other otherOld apart

/-- Among records with distinct identities a change of one puts its image in its place. -/
theorem modify_found (distinct : Records.Distinct TenantModel.id rows) {stored : α}
    (member : stored ∈ rows) (change : α → α) :
    Records.modify TenantModel.id (TenantModel.id stored) change rows =
      Records.modify TenantModel.id (TenantModel.id stored) (fun _ => change stored) rows := by
  apply Records.modify_agree
  intro other held same
  rw [Records.same_record distinct held member same]

end Documents

section Steps

variable {schemas : String → ModelSchema}
  {encoding : Encoding α (schemas (TenantModel.modelName α))} {session : Session}
  {typed : TypedSession α}

/-- What a hooked operation leaves mirrors what a typed one leaves, and is answered alike. -/
def StepMirrors (encoding : Encoding α (schemas (TenantModel.modelName α)))
    (whole : Session × Result) (typed : TypedSession α × TypedAnswer α) : Prop :=
  encoding.Mirrors whole.1 typed.1 ∧ whole.2 = encoding.answer typed.2 ∧ Settled typed.1.rows

/-- A refused operation leaves both sessions as they were. -/
theorem refused_mirrors (mirrors : encoding.Mirrors session typed) (settled : Settled typed.rows)
    {failure : Failure} {thrown : Thrown}
    (alike : encoding.answer (.threw thrown) = .failed failure) :
    StepMirrors encoding (session, .failed failure) (typed, .threw thrown) :=
  ⟨mirrors, alike.symm, settled⟩

/-- Storing encoded rows and returning encoded records. -/
theorem commit_mirrors (mirrors : encoding.Mirrors session typed) {rows : List α}
    (settled : Settled rows) (found : List α) :
    StepMirrors encoding
      (session.commit (TenantModel.modelName α)
        (rows.map encoding.document, .documents (found.map encoding.document)))
      ({ typed with rows := rows }.returning found) := by
  refine ⟨⟨?_, ?_⟩, rfl, settled⟩
  · exact if_pos rfl
  · simp only [Session.commit, Session.load, Session.store, Result.returned, TypedSession.returning,
      mirrors.loaded, List.map_append, List.map_map]
    rfl

/-- A write that is refused leaves the documents as they were. -/
theorem commit_refused (mirrors : encoding.Mirrors session typed) (settled : Settled typed.rows) :
    StepMirrors encoding
      (session.commit (TenantModel.modelName α)
        (typed.rows.map encoding.document, .failed (.write .duplicateKey)))
      (typed, .threw .duplicateKey) := by
  refine ⟨⟨if_pos rfl, ?_⟩, rfl, settled⟩
  simp only [Session.commit, Session.load, Session.store, Result.returned, List.map_nil,
    List.append_nil]
  exact mirrors.loaded

variable (ambient : Ambient)

/-- A read of many. -/
theorem find_performs (mirrors : encoding.Mirrors session typed) (settled : Settled typed.rows)
    {matching : α → Bool} {filter : Filter}
    (unnamed : ∀ clause ∈ filter, clause.path? ≠ some "tenantId")
    (decides : ∀ record, matchesFilter (encoding.document record) filter = matching record) :
    StepMirrors encoding
      (exec schemas ambient session (.query (TenantModel.modelName α) (.find filter {})))
      (typed.exec ambient (.find matching)) := by
  simp only [exec, TypedSession.exec, TenantModel.find, if_pos (QueryOperation.hooked _)]
  cases confines : queryScope ambient "query" (TenantModel.modelName α) with
  | error message =>
    simp only [preQuery, confines]
    exact refused_mirrors mirrors settled rfl
  | ok scope =>
    obtain ⟨confined, rewritten, selects⟩ := encoding.select_encoded unnamed decides confines
    simp only [QueryOperation.filter, rewritten, QueryOperation.withFilter, execQuery,
      QueryOptions.arrange, List.drop_zero, mirrors.rows, selects]
    exact commit_mirrors mirrors settled _

/-- A read of one. -/
theorem find_one_performs (mirrors : encoding.Mirrors session typed)
    (settled : Settled typed.rows) {matching : α → Bool} {filter : Filter}
    (unnamed : ∀ clause ∈ filter, clause.path? ≠ some "tenantId")
    (decides : ∀ record, matchesFilter (encoding.document record) filter = matching record) :
    StepMirrors encoding
      (exec schemas ambient session (.query (TenantModel.modelName α) (.findOne filter {})))
      (typed.exec ambient (.findOne matching)) := by
  simp only [exec, TypedSession.exec, TenantModel.findOne, if_pos (QueryOperation.hooked _)]
  cases confines : queryScope ambient "query" (TenantModel.modelName α) with
  | error message =>
    simp only [preQuery, confines]
    exact refused_mirrors mirrors settled rfl
  | ok scope =>
    obtain ⟨confined, rewritten, selects⟩ := encoding.select_encoded unnamed decides confines
    simp only [QueryOperation.filter, rewritten, QueryOperation.withFilter, execQuery,
      QueryOptions.arrange, List.drop_zero, mirrors.rows, selects, List.head?_map,
      List.head?_filter, Option.toList_map]
    exact commit_mirrors mirrors settled _

/-- An aggregation. -/
theorem aggregate_performs (mirrors : encoding.Mirrors session typed)
    (settled : Settled typed.rows) {pipeline : List α → List Row} {stages : List Stage}
    (computes : ∀ records, runPipeline stages (records.map encoding.document) = pipeline records) :
    StepMirrors encoding
      (exec schemas ambient session (.aggregate (TenantModel.modelName α) stages))
      (typed.exec ambient (.aggregate pipeline)) := by
  simp only [exec, TypedSession.exec, TenantModel.aggregate]
  cases confines : queryScope ambient "aggregation" (TenantModel.modelName α) with
  | error message =>
    simp only [preAggregate, confines]
    exact refused_mirrors mirrors settled rfl
  | ok scope =>
    refine ⟨?_, ?_, settled⟩
    · cases scope <;> simp only [preAggregate, confines] <;> exact mirrors
    · cases scope with
      | none =>
        have all : typed.rows.filter (TenantModel.visible none) = typed.rows :=
          List.filter_eq_self.mpr (fun _ _ => rfl)
        simp only [preAggregate, confines, mirrors.rows, computes, all]
        rfl
      | some tenant =>
        have matched : matchStage "tenantId" (.string tenant)
            ((typed.rows.map encoding.document).map Document.get) =
              ((typed.rows.filter (TenantModel.visible (some tenant))).map
                encoding.document).map Document.get := by
          simp only [matchStage, List.filter_map, List.map_map]
          congr 1
          apply List.filter_congr
          intro record _
          simp only [Function.comp_apply, encoding.tenant, Option.getD_some, beq_eq_decide,
            Value.string.injEq, TenantModel.visible]
        simp only [preAggregate, confines, mirrors.rows, runPipeline, List.foldl_cons, matched]
        exact congrArg Result.rows (computes _)

/-- A creation. -/
theorem create_performs (mirrors : encoding.Mirrors session typed) (settled : Settled typed.rows)
    (record : α) :
    StepMirrors encoding
      (exec schemas ambient session
        (.create (TenantModel.modelName α) (encoding.document record)))
      (typed.exec ambient (.create record)) := by
  simp only [exec, TypedSession.exec, TenantModel.create, validateEach]
  rcases encoding.validate_encoded ambient record with
    ⟨message, refuses, hook⟩ | ⟨path, stamped, refuses, hook, invalid⟩ |
      ⟨tenant, accepts, hook, valid⟩
  · simp only [refuses, hook]
    exact refused_mirrors mirrors settled rfl
  · simp only [refuses, hook, invalid, Bool.false_eq_true, if_false]
    exact refused_mirrors mirrors settled rfl
  · simp only [accepts, hook, valid, if_true, Except.map, insertEach, mirrors.rows,
      encoding.insert_encoded]
    generalize TenantModel.withTenantId tenant record = stamped
    cases taken : typed.rows.any (fun stored =>
        decide (TenantModel.id stored = TenantModel.id stamped) ||
          TenantModel.clashes stored stamped) with
    | true =>
      simp only [if_true, ofWrite]
      exact commit_refused mirrors settled
    | false =>
      simp only [Bool.false_eq_true, if_false, ofWrite]
      exact commit_mirrors mirrors (settled_append encoding settled taken) [stamped]

/-- An update of the first match that returns its new image. -/
theorem update_performs (mirrors : encoding.Mirrors session typed) (settled : Settled typed.rows)
    {matching : α → Bool} {change : α → α} {filter : Filter} {update : Update}
    (unnamed : ∀ clause ∈ filter, clause.path? ≠ some "tenantId")
    (decides : ∀ record, matchesFilter (encoding.document record) filter = matching record)
    (computes : ∀ record,
      update.apply false (encoding.document record) = .ok (encoding.document (change record)))
    (quiet : ∀ stored record, TenantModel.clashes stored (change record) =
      TenantModel.clashes stored record) :
    StepMirrors encoding
      (exec schemas ambient session
        (.query (TenantModel.modelName α) (.findOneAndUpdate filter update {} none true)))
      (typed.exec ambient (.findOneAndUpdate matching change)) := by
  simp only [exec, TypedSession.exec, TenantModel.findOneAndUpdate,
    if_pos (QueryOperation.hooked _)]
  cases confines : queryScope ambient "query" (TenantModel.modelName α) with
  | error message =>
    simp only [preQuery, confines]
    exact refused_mirrors mirrors settled rfl
  | ok scope =>
    obtain ⟨confined, rewritten, selects⟩ := encoding.select_encoded unnamed decides confines
    simp only [QueryOperation.filter, rewritten, QueryOperation.withFilter, execQuery,
      QueryOptions.arrange, List.drop_zero, mirrors.rows, selects, List.head?_map,
      List.head?_filter]
    cases found : typed.rows.find? (fun record =>
        TenantModel.visible scope record && matching record) with
    | none => exact commit_mirrors mirrors settled []
    | some stored =>
      have member := List.mem_of_find?_eq_some found
      have sameId : TenantModel.id (change stored) = TenantModel.id stored := by
        refine (encoding.identity _ _).mp ?_
        have applied := computes stored
        unfold Update.apply at applied
        split at applied
        · cases applied
        · rename_i kept
          split at applied
          · exact (fold_keeps_path update false _ _ "_id" kept applied).1
          · cases applied
      have free : typed.rows.any (fun other =>
          decide (TenantModel.id other ≠ TenantModel.id (change stored)) &&
            TenantModel.clashes other (change stored)) = false := by
        refine List.any_eq_false.mpr (fun other held => ?_)
        simp only [Bool.and_eq_true, decide_eq_true_eq, not_and, Bool.not_eq_true, sameId, quiet]
        exact settled.apart other held stored member
      simp only [Option.map_some, writeFirst, computes, encoding.write_encoded, free,
        Bool.false_eq_true, if_false, ofWrite, image, if_true, modify_found settled.distinct member]
      rw [← sameId]
      exact commit_mirrors mirrors (settled_write encoding settled free) [change stored]

/-- A save of a record that was returned earlier. -/
theorem save_performs (mirrors : encoding.Mirrors session typed) (settled : Settled typed.rows)
    {edit : α → α} {changes : List (String × Option Value)} (handle : Nat)
    (edits : ∀ record, assign (encoding.document record) changes =
      encoding.document (edit record)) :
    StepMirrors encoding (exec schemas ambient session (.save handle changes))
      (typed.exec ambient (.save handle edit)) := by
  simp only [exec, TypedSession.exec, mirrors.loaded, List.getElem?_map]
  cases held : typed.loaded[handle]? with
  | none => exact ⟨mirrors, rfl, settled⟩
  | some loaded =>
    simp only [Option.map_some, TenantModel.save, edits]
    rcases encoding.validate_encoded ambient (edit loaded) with
      ⟨message, refuses, hook⟩ | ⟨path, stamped, refuses, hook, invalid⟩ |
        ⟨tenant, accepts, hook, valid⟩
    · simp only [refuses, hook]
      exact refused_mirrors mirrors settled rfl
    · simp only [refuses, hook, invalid, Bool.false_eq_true, if_false]
      exact refused_mirrors mirrors settled rfl
    · have looks : (typed.rows.map encoding.document).find? (fun stored =>
            decide (stored.id = (encoding.document loaded).id)) =
          (Records.lookup TenantModel.id (TenantModel.id loaded) typed.rows).map
            encoding.document := by
        rw [List.find?_map, Records.lookup]
        congr 2
        funext stored
        exact decide_eq_decide.mpr (encoding.identity stored loaded)
      simp only [accepts, hook, valid, if_true, mirrors.rows, looks]
      cases found : Records.lookup TenantModel.id (TenantModel.id loaded) typed.rows with
      | none => exact refused_mirrors mirrors settled rfl
      | some stored =>
        obtain ⟨member, sameId⟩ := Records.lookup_some found
        simp only [Option.map_some, encoding.saved_encoded tenant stored (edits loaded),
          encoding.write_encoded, TenantModel.write_back_keeps, sameId]
        generalize TenantModel.withTenantId tenant (edit loaded) = stamped
        cases taken : typed.rows.any (fun other =>
            decide (TenantModel.id other ≠ TenantModel.id loaded) &&
              TenantModel.clashes other (TenantModel.writeBack loaded stamped stored)) with
        | true => exact refused_mirrors mirrors settled rfl
        | false =>
          have written :=
            modify_found settled.distinct member (TenantModel.writeBack loaded stamped)
          have still : TenantModel.id (TenantModel.writeBack loaded stamped stored) =
              TenantModel.id loaded := (TenantModel.write_back_keeps _ _ _).trans sameId
          have kept := settled_write encoding settled (by rw [still]; exact taken)
          rw [sameId] at written
          rw [still, ← written] at kept
          simp only [Bool.false_eq_true, if_false, ← written]
          refine ⟨⟨if_pos rfl, ?_⟩, rfl, kept⟩
          simp only [List.map_set]

/-- A hooked operation that performs a typed one mirrors it. -/
theorem exec_performs (mirrors : encoding.Mirrors session typed) (settled : Settled typed.rows)
    {operation : TypedOperation α} {hooked : Operation}
    (performs : encoding.Performs operation hooked) :
    StepMirrors encoding (exec schemas ambient session hooked) (typed.exec ambient operation) := by
  cases performs with
  | find unnamed decides => exact find_performs ambient mirrors settled unnamed decides
  | findOne unnamed decides => exact find_one_performs ambient mirrors settled unnamed decides
  | aggregate computes => exact aggregate_performs ambient mirrors settled computes
  | create record => exact create_performs ambient mirrors settled record
  | findOneAndUpdate unnamed decides computes quiet =>
    exact update_performs ambient mirrors settled unnamed decides computes quiet
  | save handle edits => exact save_performs ambient mirrors settled handle edits

end Steps

/-- In every context a run of typed operations on a model is answered as the run of the hooked
operations that perform them on the encoded documents, whose session mirrors the typed one at the
end. This holds for every encoding, from all records with distinct identities that no unique index
relates.

Proof: by induction on the operations, each of which mirrors its typed one and keeps the records
settled. -/
theorem typed_runs_mirrored {schemas : String → ModelSchema}
    (encoding : Encoding α (schemas (TenantModel.modelName α))) (ambient : Ambient)
    {session : Session} {typed : TypedSession α} (mirrors : encoding.Mirrors session typed)
    (settled : Settled typed.rows) {operations : List (TypedOperation α)} {hooked : List Operation}
    (performs : List.Forall₂ encoding.Performs operations hooked) :
    encoding.Mirrors (runAll schemas ambient session hooked).1
        (typed.execAll ambient operations).1 ∧
      (runAll schemas ambient session hooked).2 =
        (typed.execAll ambient operations).2.map encoding.answer := by
  induction performs generalizing session typed with
  | nil => exact ⟨mirrors, rfl⟩
  | cons first _ inductionHypothesis =>
    obtain ⟨next, answered, kept⟩ := exec_performs ambient mirrors settled first
    obtain ⟨ended, answers⟩ := inductionHypothesis next kept
    exact ⟨ended, List.cons_eq_cons.mpr ⟨answered, answers⟩⟩

end Encoding

/-- How a payment's status is written. -/
def PaymentStatus.text : PaymentStatus → String
  | .created => "created"
  | .captured => "captured"
  | .failed => "failed"

namespace Payment

/-- The paths of a stored payment. -/
def fields (payment : Payment) : Row
  | "tenantId" => some (.string payment.tenantId)
  | "invoiceId" => some (.objectId payment.invoiceId.hex)
  | "studentId" => some (.objectId payment.studentId.hex)
  | "amount" => some (.number payment.amount)
  | "gatewayOrderId" => some (.string payment.gatewayOrderId)
  | "gatewayPaymentId" => payment.gatewayPaymentId.map .string
  | "gatewaySignature" => payment.gatewaySignature.map .string
  | "status" => some (.string payment.status.text)
  | "paidAt" => payment.paidAt.map .date
  | "receiptUrl" => payment.receiptUrl.map .string
  | _ => none

/-- The schema of payments. -/
def schema : ModelSchema where
  uniqueIndexes := TenantScoping.declaredIndexes "Payment"
  validates := fun document =>
    match document.get "amount", document.get "gatewayOrderId" with
    | some (.number amount), some (.string gatewayOrderId) =>
      decide (0 ≤ amount) && decide (gatewayOrderId ≠ "")
    | _, _ => false

/-- A value that is written back is written back under an encoding of it. -/
theorem written_encoded {β γ : Type} [DecidableEq β] [DecidableEq γ] {encode : β → γ}
    (injective : Function.Injective encode) (loaded current stored : β) :
    encode (written loaded current stored) =
      if encode current = encode loaded then encode stored else encode current := by
  simp only [written, injective.eq_iff]
  split <;> rfl

/-- Statuses are written apart. -/
theorem status_text_injective : Function.Injective PaymentStatus.text := by
  intro first second
  cases first <;> cases second <;> decide

/-- Payments as the documents of their collection. -/
def encoding : Encoding Payment schema where
  document := fun payment => ⟨.objectId payment.id.hex, payment.fields⟩
  identity := fun first second =>
    ⟨fun same => ObjectId.hex_injective (Value.objectId.inj same), fun same => by
      rw [show first.id = second.id from same]⟩
  bare := fun _ => rfl
  tenant := fun _ => rfl
  stamped := by
    intro tenant payment
    refine congrArg (Document.mk _) (funext fun path => ?_)
    by_cases named : path = "tenantId"
    · subst named
      rfl
    · simp only [if_neg named]
      unfold fields
      split <;> first | exact absurd rfl named | rfl
  validates := by
    intro payment
    show (decide (0 ≤ payment.amount) && decide (payment.gatewayOrderId ≠ "")) =
      (firstRefused [(decide (payment.amount < 0), "amount"),
        (decide (payment.gatewayOrderId = ""), "gatewayOrderId")]).isNone
    by_cases negative : payment.amount < 0
    · simp [firstRefused, negative]
    · by_cases blank : payment.gatewayOrderId = "" <;>
        simp [firstRefused, negative, blank, not_lt.mp negative]
  clashes := by
    intro stored candidate apart
    have ids : (Value.objectId stored.id.hex) ≠ .objectId candidate.id.hex :=
      fun same => apart (ObjectId.hex_injective (Value.objectId.inj same))
    simp only [schema, TenantScoping.declaredIndexes, List.any_cons, List.any_nil, Bool.or_false,
      UniqueIndex.collides, UniqueIndex.covers, List.all_cons, List.all_nil, Bool.and_true,
      TenantModel.clashes, Document.get, fields]
    cases one : stored.gatewayPaymentId <;> cases other : candidate.gatewayPaymentId <;>
      simp [ids]
  written := by
    intro loaded current stored path
    show fields (TenantModel.writeBack loaded current stored) path =
      if fields current path = fields loaded path then fields stored path else fields current path
    have text : Function.Injective (fun text => some (Value.string text)) :=
      fun _ _ same => Value.string.inj (Option.some.inj same)
    have identity : Function.Injective (fun id : ObjectId => some (Value.objectId id.hex)) :=
      fun _ _ same => ObjectId.hex_injective (Value.objectId.inj (Option.some.inj same))
    have number : Function.Injective (fun amount => some (Value.number amount)) :=
      fun _ _ same => Value.number.inj (Option.some.inj same)
    have optionalText : Function.Injective (Option.map Value.string) :=
      Option.map_injective (fun _ _ => Value.string.inj)
    have optionalDate : Function.Injective (Option.map Value.date) :=
      Option.map_injective (fun _ _ => Value.date.inj)
    unfold fields
    split
    · exact @written_encoded _ _ _ _ _ text loaded.tenantId current.tenantId stored.tenantId
    · exact @written_encoded _ _ _ _ _ identity loaded.invoiceId current.invoiceId stored.invoiceId
    · exact @written_encoded _ _ _ _ _ identity loaded.studentId current.studentId stored.studentId
    · exact @written_encoded _ _ _ _ _ number loaded.amount current.amount stored.amount
    · exact @written_encoded _ _ _ _ _ text loaded.gatewayOrderId current.gatewayOrderId
        stored.gatewayOrderId
    · exact @written_encoded _ _ _ _ _ optionalText loaded.gatewayPaymentId
        current.gatewayPaymentId stored.gatewayPaymentId
    · exact @written_encoded _ _ _ _ _ optionalText loaded.gatewaySignature
        current.gatewaySignature stored.gatewaySignature
    · exact @written_encoded _ _ _ _ _ (text.comp status_text_injective) loaded.status
        current.status stored.status
    · exact @written_encoded _ _ _ _ _ optionalDate loaded.paidAt current.paidAt stored.paidAt
    · exact @written_encoded _ _ _ _ _ optionalText loaded.receiptUrl current.receiptUrl
        stored.receiptUrl
    · simp

/-- An open order of the first institute and a captured payment of the second one. -/
def twoPayments : TypedSession Payment where
  rows :=
    [{ id := .repeated '1', tenantId := "institute-a", invoiceId := .repeated '2',
       studentId := .repeated '3', amount := 400, gatewayOrderId := "order_1" },
     { id := .repeated '4', tenantId := "institute-b", invoiceId := .repeated '5',
       studentId := .repeated '6', amount := 900, gatewayOrderId := "order_2",
       gatewayPaymentId := some "pay_2", status := .captured }]

/-- The order's payment once it is captured. -/
def captured (payment : Payment) : Payment :=
  { payment with status := .captured, gatewayPaymentId := some "pay_1" }

/-- A payment that claims the second institute's gateway payment. -/
def claimant : Payment :=
  { id := .repeated '7', invoiceId := .repeated '2', studentId := .repeated '3', amount := 400
    gatewayOrderId := "order_3", gatewayPaymentId := some "pay_2" }

/-- The order is looked up and captured, the claim is made, and the payments are listed. -/
def capturing : List (TypedOperation Payment) :=
  [.findOne (fun payment => decide (payment.gatewayOrderId = "order_1")), .save 0 captured,
    .create claimant, .find (fun _ => true)]

/-- The same on documents. -/
def capturingDocuments : List Operation :=
  [.query "Payment" (.findOne [.field "gatewayOrderId" (.equals (.string "order_1"))] {}),
    .save 0 [("status", some (.string "captured")), ("gatewayPaymentId", some (.string "pay_1"))],
    .create "Payment" (encoding.document claimant), .query "Payment" (.find [] {})]

/-- In the first institute's context the hooked operations find and capture its order, refuse the
claim, and list its payment only. -/
theorem capturing_mirrored :
    (runAll (fun _ => schema) (some { tenantId := some "institute-a" })
        ⟨fun _ => twoPayments.rows.map encoding.document, []⟩ capturingDocuments).2 =
      [.documents (twoPayments.rows.head?.toList.map encoding.document),
        .documents (twoPayments.rows.head?.toList.map (fun payment =>
          encoding.document (captured payment))),
        .failed (.write .duplicateKey),
        .documents (twoPayments.rows.head?.toList.map (fun payment =>
          encoding.document (captured payment)))] := by
  have settled : Encoding.Settled twoPayments.rows := by
    constructor <;> decide +kernel
  have performs : List.Forall₂ encoding.Performs capturing capturingDocuments := by
    refine .cons (.findOne (by simp [Clause.path?]) ?_) (.cons (.save 0 ?_)
      (.cons (.create claimant) (.cons (.find (by simp) (fun _ => rfl)) .nil)))
    · intro payment
      simp [matchesFilter, clauseHolds, Condition.holds, encoding, Document.get, fields,
        beq_eq_decide]
    · intro payment
      refine congrArg (Document.mk _) (funext fun path => ?_)
      by_cases status : path = "status"
      · subst status
        rfl
      · by_cases claimed : path = "gatewayPaymentId"
        · subst claimed
          rfl
        · have kept : (captured payment).fields path = payment.fields path := by
            unfold fields
            split <;> first | exact absurd rfl status | exact absurd rfl claimed | rfl
          show (if path = "gatewayPaymentId" then _ else
            if path = "status" then _ else payment.fields path) = (captured payment).fields path
          rw [if_neg claimed, if_neg status, kept]
  have mirrored := @Encoding.typed_runs_mirrored _ _ (fun _ => schema) encoding
    (some { tenantId := some "institute-a" }) ⟨fun _ => twoPayments.rows.map encoding.document, []⟩
    twoPayments ⟨rfl, rfl⟩ settled _ _ performs
  rw [mirrored.2]
  rfl

end Payment

end CoachingApi
