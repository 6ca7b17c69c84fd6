import CoachingApi.Common.TenantOperations

/-!
# Scoped operations on one collection

A tenant's documents form a class of every collection. A filter with the tenant
forced in matches own documents only, an upsert takes the tenant from the equality
the hook added, and an update that leaves the tenant path keeps every document in
its class. With unique indexes that contain the tenant, the confinement laws of
collections then settle each query operation: it acts on the whole collection as on
the tenant's part, and it returns own documents only.

Updates that write the tenant path and whole replacements are outside these laws.
-/

namespace CoachingApi

open DocumentStore TenantContextStore TenantPlugin TenantOperations

namespace TenantScoping

/-- The documents of a tenant. -/
def own (tenantId : String) (document : Document) : Bool :=
  decide (document.get "tenantId" = some (.string tenantId))

/-- Every unique index contains the tenant path. -/
def TenantLed (schema : ModelSchema) : Prop :=
  ∀ index ∈ schema.uniqueIndexes, "tenantId" ∈ index.keys

/-- The unique indexes the schemas under the plugin declare, by model. -/
def declaredIndexes : String → List UniqueIndex
  | "User" => [{ keys := ["tenantId", "email"] }]
  | "Student" => [{ keys := ["tenantId", "rollNo"] }, { keys := ["tenantId", "userId"] }]
  | "Attendance" => [{ keys := ["tenantId", "studentId", "batchId", "date"] }]
  | "Submission" => [{ keys := ["tenantId", "assignmentId", "studentId"] }]
  | "TestScore" => [{ keys := ["tenantId", "testId", "studentId"] }]
  | "Payment" => [{ keys := ["gatewayPaymentId"], sparse := true }]
  | _ => []

/-- Every declared unique index contains the tenant path, with one deliberate
exception: a gateway payment id is unique across tenants. -/
theorem declared_tenant_led (modelName : String) (other : modelName ≠ "Payment")
    (validates : Document → Bool) : TenantLed ⟨declaredIndexes modelName, validates⟩ := by
  intro index declared
  unfold declaredIndexes at declared
  split at declared <;> simp only [List.mem_cons, List.not_mem_nil, or_false] at declared
  case h_6 => exact False.elim (other rfl)
  all_goals first
    | exact False.elim declared
    | (rcases declared with rfl | rfl <;> decide)

/-- A query operation that leaves the tenant path to the plugin. -/
def LeavesTenantId : QueryOperation → Prop
  | .updateOne _ update _ | .updateMany _ update _ | .findOneAndUpdate _ update _ _ _ =>
    "tenantId" ∉ update.targets
  | .replaceOne .. | .findOneAndReplace .. => False
  | _ => True

/-- The identity an upsert would store: the filter's, otherwise the generated one. -/
def upsertId (filter : Filter) (upsert : Option Value) : List Value :=
  (upsert.map (fun generated => ((filterEqualities filter).lookup "_id").getD generated)).toList

/-- The identities a query operation may insert with. -/
def queryIds : QueryOperation → List Value
  | .updateOne filter _ upsert | .updateMany filter _ upsert | .replaceOne filter _ upsert
  | .findOneAndUpdate filter _ _ upsert _ | .findOneAndReplace filter _ _ upsert _ =>
    upsertId filter upsert
  | _ => []

/-- A document apart from every foreign one by its identity. -/
def Apart (tenantId : String) (documents : List Document) (document : Document) : Prop :=
  own tenantId document = true ∧
    ∀ foreign ∈ outside (own tenantId) documents, foreign.id ≠ document.id

/-- What isolation says of one operation's outcome on a collection: the same result
as on the tenant's part, a confined collection, and only own documents returned. -/
structure Agrees (tenantId : String) (documents : List Document)
    (whole inner : List Document × Result) : Prop where
  result : whole.2 = inner.2
  confined : Confined (own tenantId) documents whole.1 inner.1
  returned : ∀ document ∈ whole.2.returned, Apart tenantId documents document

/-- Stamping a document makes it the tenant's. -/
theorem put_own (tenantId : String) (document : Document) :
    own tenantId (document.put "tenantId" (some (.string tenantId))) = true := by
  simp [own, Document.put_get_same]

/-- Keeping the tenant path keeps the class. -/
theorem own_congr {tenantId : String} {document changed : Document}
    (same : changed.get "tenantId" = document.get "tenantId") :
    own tenantId changed = own tenantId document := by
  simp only [own, same]

/-- The tenant's equality condition holds of exactly its own documents. -/
theorem own_iff (tenantId : String) (document : Document) :
    ((document.get "tenantId").getD .null == Value.string tenantId) = own tenantId document := by
  cases held : document.get "tenantId" with
  | none => simp [own, held]
  | some value => simp [own, held, beq_eq_decide]

/-- Indexes that contain the tenant path separate the classes. -/
theorem tenant_led_separates {schema : ModelSchema} (led : TenantLed schema) (tenantId : String) :
    Separates (own tenantId) schema.uniqueIndexes := by
  intro index declared stored candidate collides
  simp only [UniqueIndex.collides, Bool.and_eq_true, List.all_eq_true, decide_eq_true_eq] at collides
  have sameTenant := collides.2.2.2 "tenantId" (led index declared)
  rw [← own_iff, ← own_iff, sameTenant]

/-- A filter with the tenant forced in matches own documents only. -/
theorem scoped_matches_own {tenantId : String} {filter : Filter} {document : Document}
    (matching : matchesFilter document (filter.withKey "tenantId" (.string tenantId)) = true) :
    own tenantId document = true := by
  rw [matches_with_key, Bool.and_eq_true] at matching
  rw [← own_iff]
  exact matching.2

/-- A scoped filter selects the same documents from the tenant's part. -/
theorem select_inside (tenantId : String) (filter : Filter) (documents : List Document) :
    select (filter.withKey "tenantId" (.string tenantId)) documents =
      select (filter.withKey "tenantId" (.string tenantId))
        (inside (own tenantId) documents) := by
  simp only [select, inside, List.filter_filter]
  apply List.filter_congr
  intro document _
  cases matching : matchesFilter document (filter.withKey "tenantId" (.string tenantId)) with
  | false => simp
  | true => simp [scoped_matches_own matching]

/-- Documents a scoped filter selects are stored and own. -/
theorem select_own {tenantId : String} {filter : Filter} {documents : List Document}
    {document : Document}
    (selected : document ∈ select (filter.withKey "tenantId" (.string tenantId)) documents) :
    document ∈ documents ∧ own tenantId document = true := by
  have member := List.mem_filter.mp selected
  exact ⟨member.1, scoped_matches_own member.2⟩

/-- A stored own document is apart from the foreign ones. -/
theorem stored_apart {tenantId : String} {documents : List Document} (unique : UniqueIds documents)
    {document : Document} (stored : document ∈ documents) (owned : own tenantId document = true) :
    Apart tenantId documents document := by
  refine ⟨owned, ?_⟩
  intro foreign member same
  have foreignStored := mem_outside.mp member
  have identical : foreign = document := unique_document unique foreignStored.1 stored same
  rw [identical, owned] at foreignStored
  exact Bool.noConfusion foreignStored.2

/-- An update that leaves the tenant path keeps identity and class. -/
theorem update_keeps (tenantId : String) {update : Update} (apart : "tenantId" ∉ update.targets)
    (inserting : Bool) (document changed : Document)
    (applied : update.apply inserting document = .ok changed) :
    changed.id = document.id ∧ own tenantId changed = own tenantId document := by
  unfold Update.apply at applied
  by_cases identity : "_id" ∈ update.targets
  · simp [identity] at applied
  · rw [if_neg identity] at applied
    by_cases distinct : update.targets.Nodup
    · rw [if_pos distinct] at applied
      obtain ⟨sameId, samePath⟩ :=
        fold_keeps_path update inserting document changed "tenantId" apart applied
      exact ⟨sameId, own_congr samePath⟩
    · simp [distinct] at applied

/-- Dropping the entries of one key keeps the first equality fixed at another. -/
theorem lookup_drop_key (filter : Filter) (dropped path : String) (different : path ≠ dropped) :
    (filterEqualities (filter.filter (fun clause => clause.path? ≠ some dropped))).lookup path =
      (filterEqualities filter).lookup path := by
  induction filter with
  | nil => rfl
  | cons clause rest inductionHypothesis =>
    by_cases same : clause.path? = some dropped
    · have absent : (clauseEqualities clause).lookup path = none := by
        cases clause with
        | field held condition =>
          simp only [Clause.path?, Option.some.injEq] at same
          subst held
          cases condition with
          | equals value => simp [clauseEqualities, List.lookup_cons, beq_false_of_ne different]
          | satisfies predicate => rfl
        | and branches => simp [Clause.path?] at same
        | or branches => simp [Clause.path?] at same
        | nor branches => simp [Clause.path?] at same
        | expr predicate => simp [Clause.path?] at same
      rw [List.filter_cons_of_neg (by simp [same]), inductionHypothesis]
      simp [filterEqualities, List.lookup_append, absent]
    · rw [List.filter_cons_of_pos (by simp [same])]
      simp only [filterEqualities, List.lookup_append, inductionHypothesis]

/-- Forcing the tenant in keeps the identity an upsert's filter fixes. -/
theorem lookup_id_scoped (filter : Filter) (value : Value) :
    (filterEqualities (filter.withKey "tenantId" value)).lookup "_id" =
      (filterEqualities filter).lookup "_id" := by
  have last : (filterEqualities [Clause.field "tenantId" (.equals value)]).lookup "_id" = none := by
    simp [filterEqualities, clauseEqualities, List.lookup_cons]
  rw [Filter.withKey, equalities_append, List.lookup_append, last,
    lookup_drop_key filter "tenantId" "_id" (by decide), Option.or_none]

/-- A scoped filter that fixes every path once fixes the tenant. -/
theorem scoped_fixes_tenant {tenantId : String} {filter : Filter}
    (distinct : ((filterEqualities
      (filter.withKey "tenantId" (.string tenantId))).map Prod.fst).Nodup) :
    (filterEqualities (filter.withKey "tenantId" (.string tenantId))).lookup "tenantId" =
      some (.string tenantId) := by
  have earlier : (filterEqualities
      (filter.filter (fun clause => clause.path? ≠ some "tenantId"))).lookup "tenantId" = none := by
    rw [Filter.withKey, equalities_append, List.map_append, List.nodup_append] at distinct
    rw [List.lookup_eq_none_iff]
    intro entry member
    have different := distinct.2.2 entry.1 (List.mem_map.mpr ⟨entry, member, rfl⟩) "tenantId"
      (by simp [filterEqualities, clauseEqualities])
    simp [Ne.symm different]
  rw [Filter.withKey, equalities_append, List.lookup_append, earlier]
  simp [filterEqualities, clauseEqualities]

/-- A scoped upsert stores the tenant's document under its announced identity. -/
theorem upsert_own {tenantId : String} {filter : Filter} {update : Update} {generated : Value}
    {candidate : Document} (apart : "tenantId" ∉ update.targets)
    (built : upsertDocument (filter.withKey "tenantId" (.string tenantId)) update generated =
      .ok candidate) :
    own tenantId candidate = true ∧
      candidate.id = ((filterEqualities filter).lookup "_id").getD generated := by
  unfold upsertDocument at built
  by_cases distinct : ((filterEqualities
      (filter.withKey "tenantId" (.string tenantId))).map Prod.fst).Nodup
  · simp only [if_pos distinct] at built
    obtain ⟨sameId, sameClass⟩ := update_keeps tenantId apart true _ candidate built
    refine ⟨?_, ?_⟩
    · rw [sameClass]
      simp only [own, Document.get]
      simp [scoped_fixes_tenant distinct]
    · rw [sameId, lookup_id_scoped]
  · simp [if_neg distinct] at built

/-- Reads of own documents change nothing. -/
theorem read_agrees {tenantId : String} {documents : List Document} (unique : UniqueIds documents)
    (result : Result) (owned : ∀ document ∈ result.returned,
      document ∈ documents ∧ own tenantId document = true) :
    Agrees tenantId documents (documents, result) (inside (own tenantId) documents, result) :=
  ⟨rfl, Confined.unchanged _ unique, fun document member =>
    stored_apart unique (owned document member).1 (owned document member).2⟩

/-- A write to the first match agrees with the tenant's part when it found an own
document, its change keeps identity and class, and its insertion is own and fresh.
The result shows nothing but the report's documents. -/
theorem write_first_agrees {tenantId : String} {schema : ModelSchema} (led : TenantLed schema)
    {documents : List Document} (unique : UniqueIds documents) (found : Option Document)
    (change : Document → Except WriteError Document)
    (insertion : Option (Except WriteError Document)) (result : WriteReport → Result)
    (shows : ∀ report document, document ∈ (result report).returned →
      report.matched = some document ∨ report.stored = some document)
    (matched : ∀ document, found = some document →
      document ∈ documents ∧ own tenantId document = true)
    (keeps : ∀ document changed, change document = .ok changed →
      changed.id = document.id ∧ own tenantId changed = own tenantId document)
    (inserts : ∀ candidate, insertion = some (.ok candidate) →
      Apart tenantId documents candidate) :
    Agrees tenantId documents
      (ofWrite result (writeFirst schema.uniqueIndexes found change insertion documents))
      (ofWrite result (writeFirst schema.uniqueIndexes found change insertion
        (inside (own tenantId) documents))) := by
  obtain ⟨sameReport, confined⟩ := write_first_confined (tenant_led_separates led tenantId) unique
    found change insertion matched
    (fun document changed owned applied =>
      ⟨(keeps document changed applied).1, (keeps document changed applied).2.trans owned⟩)
    inserts
  refine ⟨by simp only [ofWrite, sameReport], confined, ?_⟩
  intro document shown
  cases outcome : (writeFirst schema.uniqueIndexes found change insertion documents).2 with
  | error refused => simp [ofWrite, outcome, Result.returned] at shown
  | ok report =>
    simp only [ofWrite, outcome] at shown
    obtain ⟨reported, stores⟩ := write_first_report outcome
    rcases shows report document shown with before | after
    · obtain ⟨stored, owned⟩ := matched document (reported.symm.trans before)
      exact stored_apart unique stored owned
    · rcases stores document after with ⟨original, was, changed⟩ | ⟨_, inserted⟩
      · obtain ⟨stored, owned⟩ := matched original was
        obtain ⟨sameId, sameClass⟩ := keeps original document changed
        obtain ⟨_, apart⟩ := stored_apart unique stored owned
        exact ⟨sameClass.trans owned, fun foreign member => sameId ▸ apart foreign member⟩
      · exact inserts document inserted

/-- The written result shows the report's two documents. -/
theorem written_shows (report : WriteReport) (document : Document)
    (shown : document ∈ (Result.written report).returned) :
    report.matched = some document ∨ report.stored = some document := by
  simpa [Result.returned, Option.mem_toList] using shown

/-- A find-and-modify shows one of the report's two documents. -/
theorem image_shows (returnNew : Bool) (report : WriteReport) (document : Document)
    (shown : document ∈ (image returnNew report).returned) :
    report.matched = some document ∨ report.stored = some document := by
  cases returnNew with
  | false => exact Or.inl (by simpa [image, Result.returned, Option.mem_toList] using shown)
  | true => exact Or.inr (by simpa [image, Result.returned, Option.mem_toList] using shown)

/-- Removing the first selected document agrees with the tenant's part. -/
theorem erase_agrees {tenantId : String} {documents : List Document} (unique : UniqueIds documents)
    (document : Document) (stored : document ∈ documents) (owned : own tenantId document = true)
    (result : Result) (shows : ∀ shown ∈ result.returned, shown = document) :
    Agrees tenantId documents (eraseStored documents document.id, result)
      (eraseStored (inside (own tenantId) documents) document.id, result) := by
  obtain ⟨_, apart⟩ := stored_apart unique stored owned
  refine ⟨rfl, erase_confined unique _ ?_, ?_⟩
  · intro other member foreign
    simpa using apart other (mem_outside.mpr ⟨member, foreign⟩)
  · intro shown member
    rw [shows shown member]
    exact stored_apart unique stored owned

/-- One scoped query operation on a collection: the result of the tenant's part, a
confined collection, and only own documents returned.

Proof: the scoped filter selects the same documents from both, all own. Reads stop
there. Writes and upserts keep the class because their update leaves the tenant
path, and an upsert's document takes the tenant from the filter's equality. -/
theorem query_agrees {tenantId : String} {schema : ModelSchema} (led : TenantLed schema)
    {documents : List Document} (unique : UniqueIds documents) (operation : QueryOperation)
    (leaves : LeavesTenantId operation)
    (fresh : ∀ id ∈ queryIds operation, ∀ foreign ∈ outside (own tenantId) documents,
      foreign.id ≠ id) :
    Agrees tenantId documents
      (execQuery schema documents (operation.withFilter
        (operation.filter.withKey "tenantId" (.string tenantId))))
      (execQuery schema (inside (own tenantId) documents) (operation.withFilter
        (operation.filter.withKey "tenantId" (.string tenantId)))) := by
  have arranged (filter : Filter) (options : QueryOptions) (document : Document)
      (member : document ∈ options.arrange
        (select (filter.withKey "tenantId" (.string tenantId)) documents)) :
      document ∈ documents ∧ own tenantId document = true :=
    select_own (arrange_subset options _ document member)
  have upserts (filter : Filter) (update : Update) (upsert : Option Value)
      (apart : "tenantId" ∉ update.targets)
      (freshId : ∀ id ∈ upsertId filter upsert, ∀ foreign ∈ outside (own tenantId) documents,
        foreign.id ≠ id) (candidate : Document)
      (built : upsert.map (upsertDocument (filter.withKey "tenantId" (.string tenantId)) update) =
        some (.ok candidate)) : Apart tenantId documents candidate := by
    obtain ⟨generated, supplied, constructed⟩ := Option.map_eq_some_iff.mp built
    obtain ⟨owned, identity⟩ := upsert_own apart constructed
    exact ⟨owned, identity ▸ freshId _ (by simp [upsertId, supplied])⟩
  cases operation with
  | find filter options =>
    simp only [QueryOperation.withFilter, QueryOperation.filter, execQuery, ← select_inside]
    exact read_agrees unique _ (arranged filter options)
  | findOne filter options =>
    simp only [QueryOperation.withFilter, QueryOperation.filter, execQuery, ← select_inside]
    refine read_agrees unique _ ?_
    intro document first
    exact arranged filter options document (List.mem_of_mem_head? (Option.mem_toList.mp first))
  | countDocuments filter =>
    simp only [QueryOperation.withFilter, QueryOperation.filter, execQuery, ← select_inside]
    exact read_agrees unique _ (by simp [Result.returned])
  | updateOne filter update upsert =>
    simp only [QueryOperation.withFilter, QueryOperation.filter, execQuery, ← select_inside]
    exact write_first_agrees led unique _ _ _ _ written_shows
      (fun document first => select_own (List.mem_of_mem_head? first))
      (update_keeps tenantId leaves false) (upserts filter update upsert leaves fresh)
  | updateMany filter update upsert =>
    simp only [QueryOperation.withFilter, QueryOperation.filter, execQuery, ← select_inside]
    split
    · exact write_first_agrees led unique none _ _ _ written_shows (by simp)
        (update_keeps tenantId leaves false) (upserts filter update upsert leaves fresh)
    · obtain ⟨sameReport, confined⟩ := write_each_confined (tenant_led_separates led tenantId)
        (update.apply false)
        (fun document changed owned applied =>
          ⟨(update_keeps tenantId leaves false document changed applied).1,
            (update_keeps tenantId leaves false document changed applied).2.trans owned⟩)
        (select (filter.withKey "tenantId" (.string tenantId)) documents) documents unique
        (fun target selected => ⟨(select_own selected).2, target, (select_own selected).1, rfl,
          (select_own selected).2⟩)
      refine ⟨by simp only [ofWrite, sameReport], confined, ?_⟩
      intro document shown
      cases outcome : (writeEach schema.uniqueIndexes (update.apply false)
        (select (filter.withKey "tenantId" (.string tenantId)) documents) documents).2 <;>
        simp [ofWrite, outcome, Result.returned] at shown
  | replaceOne filter replacement upsert => exact False.elim leaves
  | deleteOne filter =>
    simp only [QueryOperation.withFilter, QueryOperation.filter, execQuery, ← select_inside]
    cases first : (select (filter.withKey "tenantId" (.string tenantId)) documents).head? with
    | none => exact read_agrees unique _ (by simp [Result.returned])
    | some document =>
      obtain ⟨stored, owned⟩ := select_own (List.mem_of_mem_head? first)
      exact erase_agrees unique document stored owned _ (by simp [Result.returned])
  | deleteMany filter =>
    simp only [QueryOperation.withFilter, QueryOperation.filter, execQuery, ← select_inside]
    refine ⟨rfl, erase_confined unique _ ?_, by simp [Result.returned]⟩
    intro document _ foreign
    cases matching : matchesFilter document (filter.withKey "tenantId" (.string tenantId)) with
    | false => rfl
    | true => exact Bool.noConfusion (foreign.symm.trans (scoped_matches_own matching))
  | findOneAndUpdate filter update options upsert returnNew =>
    simp only [QueryOperation.withFilter, QueryOperation.filter, execQuery, ← select_inside]
    exact write_first_agrees led unique _ _ _ _ (image_shows returnNew)
      (fun document first => arranged filter options document (List.mem_of_mem_head? first))
      (update_keeps tenantId leaves false) (upserts filter update upsert leaves fresh)
  | findOneAndReplace filter replacement options upsert returnNew => exact False.elim leaves
  | findOneAndDelete filter options =>
    simp only [QueryOperation.withFilter, QueryOperation.filter, execQuery, ← select_inside]
    cases first : (options.arrange
        (select (filter.withKey "tenantId" (.string tenantId)) documents)).head? with
    | none => exact read_agrees unique _ (by simp [Result.returned])
    | some document =>
      obtain ⟨stored, owned⟩ := arranged filter options document (List.mem_of_mem_head? first)
      exact erase_agrees unique document stored owned _ (by simp [Result.returned])

end TenantScoping

end CoachingApi
