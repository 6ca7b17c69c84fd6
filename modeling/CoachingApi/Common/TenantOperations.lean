import CoachingApi.Common.TenantPlugin

/-!
# Database operations through the tenant plugin

A session holds the collections of every model and the documents its operations
have returned so far, which are the ones that can be saved again. Query operations
pass their filter through the query hook when their name is one of the hooked
middleware names, aggregations pass their pipeline, saves run the validation hook,
and batch inserts run both the batch hook and the validation hook.

Identities that an insertion would generate are inputs of the operation. Projection,
population and `lean` only reshape what is returned and are left out.
-/

namespace CoachingApi

open DocumentStore TenantContextStore TenantPlugin

namespace TenantOperations

/-- The query operations of a model. An upsert carries the identity it would
generate; `returnNew` selects the image a find-and-modify returns. -/
inductive QueryOperation where
  | find (filter : Filter) (options : QueryOptions)
  | findOne (filter : Filter) (options : QueryOptions)
  | countDocuments (filter : Filter)
  | updateOne (filter : Filter) (update : Update) (upsert : Option Value)
  | updateMany (filter : Filter) (update : Update) (upsert : Option Value)
  | replaceOne (filter : Filter) (replacement : Row) (upsert : Option Value)
  | deleteOne (filter : Filter)
  | deleteMany (filter : Filter)
  | findOneAndUpdate (filter : Filter) (update : Update) (options : QueryOptions)
      (upsert : Option Value) (returnNew : Bool)
  | findOneAndReplace (filter : Filter) (replacement : Row) (options : QueryOptions)
      (upsert : Option Value) (returnNew : Bool)
  | findOneAndDelete (filter : Filter) (options : QueryOptions)

namespace QueryOperation

/-- The middleware name under which an operation runs its hooks. -/
def hook : QueryOperation → String
  | .find .. => "find"
  | .findOne .. => "findOne"
  | .countDocuments .. => "countDocuments"
  | .updateOne .. => "updateOne"
  | .updateMany .. => "updateMany"
  | .replaceOne .. => "replaceOne"
  | .deleteOne .. => "deleteOne"
  | .deleteMany .. => "deleteMany"
  | .findOneAndUpdate .. => "findOneAndUpdate"
  | .findOneAndReplace .. => "findOneAndReplace"
  | .findOneAndDelete .. => "findOneAndDelete"

/-- The filter `getQuery` reads. -/
def filter : QueryOperation → Filter
  | .find filter _ | .findOne filter _ | .countDocuments filter | .updateOne filter _ _
  | .updateMany filter _ _ | .replaceOne filter _ _ | .deleteOne filter | .deleteMany filter
  | .findOneAndUpdate filter _ _ _ _ | .findOneAndReplace filter _ _ _ _
  | .findOneAndDelete filter _ => filter

/-- The operation after `setQuery`. -/
def withFilter (filter : Filter) : QueryOperation → QueryOperation
  | .find _ options => .find filter options
  | .findOne _ options => .findOne filter options
  | .countDocuments _ => .countDocuments filter
  | .updateOne _ update upsert => .updateOne filter update upsert
  | .updateMany _ update upsert => .updateMany filter update upsert
  | .replaceOne _ replacement upsert => .replaceOne filter replacement upsert
  | .deleteOne _ => .deleteOne filter
  | .deleteMany _ => .deleteMany filter
  | .findOneAndUpdate _ update options upsert returnNew =>
    .findOneAndUpdate filter update options upsert returnNew
  | .findOneAndReplace _ replacement options upsert returnNew =>
    .findOneAndReplace filter replacement options upsert returnNew
  | .findOneAndDelete _ options => .findOneAndDelete filter options

/-- Every query operation is hooked. -/
theorem hooked (operation : QueryOperation) : operation.hook ∈ QUERY_HOOKS := by
  cases operation <;> simp [hook, QUERY_HOOKS]

end QueryOperation

/-- What the model's schema contributes to writes: its unique indexes and the
checks a document passes after its hooks. -/
structure ModelSchema where
  uniqueIndexes : List UniqueIndex
  validates : Document → Bool

/-- Why an operation failed. -/
inductive Failure where
  | hook (message : String)
  | write (refused : WriteError)
  | validation
  | documentNotFound
  | noDocument

/-- What an operation returned. -/
inductive Result where
  | documents (returned : List Document)
  | counted (count : Nat)
  | written (report : WriteReport)
  | rows (rows : List Row)
  | failed (failure : Failure)

/-- The documents a result contains. -/
def Result.returned : Result → List Document
  | .documents returned => returned
  | .written report => report.matched.toList ++ report.stored.toList
  | _ => []

/-- Read a write's outcome as a result. -/
def ofWrite {α : Type} (result : α → Result) (outcome : List Document × Except WriteError α) :
    List Document × Result :=
  (outcome.1, match outcome.2 with
    | .error refused => .failed (.write refused)
    | .ok value => result value)

/-- The image a find-and-modify returns. -/
def image (returnNew : Bool) (report : WriteReport) : Result :=
  .documents (if returnNew then report.stored.toList else report.matched.toList)

/-- Overwrite every field of a document, keeping its identity. -/
def replaceFields (replacement : Row) (document : Document) : Except WriteError Document :=
  .ok ⟨document.id, replacement⟩

/-- A replacing upsert takes nothing but the identity from the filter. -/
def replacementDocument (filter : Filter) (replacement : Row) (generated : Value) :
    Except WriteError Document :=
  .ok ⟨((filterEqualities filter).lookup "_id").getD generated, replacement⟩

/-- Run a query operation, its hooks done, on the documents of its model. -/
def execQuery (schema : ModelSchema) (documents : List Document) :
    QueryOperation → List Document × Result
  | .find filter options => (documents, .documents (options.arrange (select filter documents)))
  | .findOne filter options =>
    (documents, .documents (options.arrange (select filter documents)).head?.toList)
  | .countDocuments filter => (documents, .counted (select filter documents).length)
  | .updateOne filter update upsert =>
    ofWrite .written (writeFirst schema.uniqueIndexes (select filter documents).head?
      (update.apply false) (upsert.map (upsertDocument filter update)) documents)
  | .updateMany filter update upsert =>
    if (select filter documents).isEmpty then
      ofWrite .written (writeFirst schema.uniqueIndexes none
        (update.apply false) (upsert.map (upsertDocument filter update)) documents)
    else
      ofWrite .counted (writeEach schema.uniqueIndexes (update.apply false)
        (select filter documents) documents)
  | .replaceOne filter replacement upsert =>
    ofWrite .written (writeFirst schema.uniqueIndexes (select filter documents).head?
      (replaceFields replacement) (upsert.map (replacementDocument filter replacement)) documents)
  | .deleteOne filter =>
    match (select filter documents).head? with
    | none => (documents, .counted 0)
    | some document => (eraseStored documents document.id, .counted 1)
  | .deleteMany filter =>
    (documents.filter (fun document => !matchesFilter document filter),
      .counted (select filter documents).length)
  | .findOneAndUpdate filter update options upsert returnNew =>
    ofWrite (image returnNew) (writeFirst schema.uniqueIndexes
      (options.arrange (select filter documents)).head? (update.apply false)
      (upsert.map (upsertDocument filter update)) documents)
  | .findOneAndReplace filter replacement options upsert returnNew =>
    ofWrite (image returnNew) (writeFirst schema.uniqueIndexes
      (options.arrange (select filter documents)).head? (replaceFields replacement)
      (upsert.map (replacementDocument filter replacement)) documents)
  | .findOneAndDelete filter options =>
    match (options.arrange (select filter documents)).head? with
    | none => (documents, .documents [])
    | some document => (eraseStored documents document.id, .documents [document])

/-- Run a pipeline on a collection's own stream. -/
def runPipeline (pipeline : List Stage) (documents : List Document) : List Row :=
  pipeline.foldl (fun rows stage => stage rows) (documents.map Document.get)

/-- The collections of every model, and the documents returned so far with the
model each belongs to. -/
structure Session where
  database : String → List Document
  loaded : List (String × Document)

/-- Put one model's documents in place. -/
def Session.store (session : Session) (modelName : String) (documents : List Document) : Session :=
  { session with database := fun tested =>
      if tested = modelName then documents else session.database tested }

/-- Keep returned documents at hand. -/
def Session.load (session : Session) (modelName : String) (returned : List Document) : Session :=
  { session with loaded := session.loaded ++ returned.map (fun document => (modelName, document)) }

/-- Store a model's new documents and keep what was returned. -/
def Session.commit (session : Session) (modelName : String)
    (outcome : List Document × Result) : Session × Result :=
  ((session.store modelName outcome.1).load modelName outcome.2.returned, outcome.2)

/-- Every operation the plugin hooks. A save changes a document returned earlier,
named by its position; a creation saves a new document. -/
inductive Operation where
  | query (modelName : String) (operation : QueryOperation)
  | aggregate (modelName : String) (pipeline : List Stage)
  | create (modelName : String) (document : Document)
  | save (handle : Nat) (changes : List (String × Option Value))
  | insertMany (modelName : String) (documents : List Document)

/-- Assign the changed paths in memory. -/
def assign (document : Document) (changes : List (String × Option Value)) : Document :=
  changes.foldl (fun changed change => changed.put change.1 change.2) document

/-- The stored document after `$set` and `$unset` of the modified paths alone. A
path is modified when its value in memory is no longer the one loaded. -/
def saved (stored loaded current : Document) (changes : List (String × Option Value)) : Document :=
  ((changes.map Prod.fst ++ ["tenantId"]).filter
      (fun path => decide (current.get path ≠ loaded.get path))).foldl
    (fun document path => document.put path (current.get path)) stored

/-- Validate new documents in order, or refuse them with the first refusal. -/
def validateEach (ambient : Ambient) (modelName : String) (schema : ModelSchema) :
    List Document → Except Failure (List Document)
  | [] => .ok []
  | document :: rest =>
    match preValidate ambient modelName document with
    | .error message => .error (.hook message)
    | .ok stamped =>
      if schema.validates stamped then (validateEach ambient modelName schema rest).map (stamped :: ·)
      else .error .validation

/-- Run one operation in the ambient context. -/
def exec (schemas : String → ModelSchema) (ambient : Ambient) (session : Session) :
    Operation → Session × Result
  | .query modelName operation =>
    let rewritten := if operation.hook ∈ QUERY_HOOKS then
        preQuery ambient modelName operation.filter else .ok operation.filter
    match rewritten with
    | .error message => (session, .failed (.hook message))
    | .ok filter =>
      session.commit modelName (execQuery (schemas modelName) (session.database modelName)
        (operation.withFilter filter))
  | .aggregate modelName pipeline =>
    match preAggregate ambient modelName pipeline with
    | .error message => (session, .failed (.hook message))
    | .ok prefixed => (session, .rows (runPipeline prefixed (session.database modelName)))
  | .create modelName document =>
    match validateEach ambient modelName (schemas modelName) [document] with
    | .error failure => (session, .failed failure)
    | .ok stamped =>
      session.commit modelName (ofWrite (fun _ => .documents stamped)
        (insertEach (schemas modelName).uniqueIndexes stamped (session.database modelName)))
  | .save handle changes =>
    match session.loaded[handle]? with
    | none => (session, .failed .noDocument)
    | some (modelName, loaded) =>
      match preValidate ambient modelName (assign loaded changes) with
      | .error message => (session, .failed (.hook message))
      | .ok current =>
        if (schemas modelName).validates current then
          match (session.database modelName).find? (fun stored => decide (stored.id = loaded.id)) with
          | none => (session, .failed .documentNotFound)
          | some stored =>
            match writeOne (schemas modelName).uniqueIndexes (session.database modelName)
                (saved stored loaded current changes) with
            | .error refused => (session, .failed (.write refused))
            | .ok updated =>
              ({ session.store modelName updated with
                  loaded := session.loaded.set handle (modelName, current) },
                .documents [current])
        else (session, .failed .validation)
  | .insertMany modelName documents =>
    match preInsertMany ambient documents with
    | .error message => (session, .failed (.hook message))
    | .ok stamped =>
      match validateEach ambient modelName (schemas modelName) stamped with
      | .error failure => (session, .failed failure)
      | .ok validated =>
        session.commit modelName (ofWrite (fun _ => .documents validated)
          (insertEach (schemas modelName).uniqueIndexes validated (session.database modelName)))

/-- Run operations one after the other and collect their results. -/
def runAll (schemas : String → ModelSchema) (ambient : Ambient) :
    Session → List Operation → Session × List Result
  | session, [] => (session, [])
  | session, operation :: rest =>
    let first := exec schemas ambient session operation
    let later := runAll schemas ambient first.1 rest
    (later.1, first.2 :: later.2)

end TenantOperations

end CoachingApi
