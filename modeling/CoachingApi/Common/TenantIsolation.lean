import CoachingApi.Common.TenantScoping

/-!
# Isolation of tenants over runs of hooked operations

Each hooked operation in a tenant's context behaves on a session as on the tenant's
part of it. A run follows by induction, with the invariant that identities are
unique and that no document returned earlier has the identity of a foreign one, so
that saving it again stays among the tenant's documents. Two stores with the same
part therefore have runs with the same results.

Global unique indexes are excluded by requiring every unique index to contain the
tenant path. The index of `_id` is global too: an upsert whose filter fixes an identity,
or an insertion that is given one, learns whether another tenant's document has it, so
identities that are inserted have to be new to the foreign documents. Without a tenant
and without bypass no operation runs at all.
-/

namespace CoachingApi

open DocumentStore TenantContextStore TenantPlugin TenantOperations TenantScoping

namespace TenantIsolation

/-- The identities an operation may insert with, by model. -/
def newIds : Operation → List (String × Value)
  | .query modelName operation => (queryIds operation).map (fun id => (modelName, id))
  | .create modelName document => [(modelName, document.id)]
  | .insertMany modelName documents => documents.map (fun document => (modelName, document.id))
  | .aggregate .. | .save .. => []

/-- An operation that leaves the tenant path to the plugin. Creations, saves and
batch inserts may name any tenant: the hooks settle it. -/
def LeavesTenant : Operation → Prop
  | .query _ operation => LeavesTenantId operation
  | _ => True

/-- No inserted identity is that of a foreign document. -/
def Fresh (tenantId : String) (session : Session) (operation : Operation) : Prop :=
  ∀ entry ∈ newIds operation, ∀ foreign ∈ outside (own tenantId) (session.database entry.1),
    foreign.id ≠ entry.2

/-- The tenant's part of a session. -/
def part (tenantId : String) (session : Session) : Session :=
  { session with database := fun modelName => inside (own tenantId) (session.database modelName) }

/-- Identities are unique, and a document returned earlier never has the identity
of a foreign document of its model. -/
structure Isolated (tenantId : String) (session : Session) : Prop where
  unique : ∀ modelName, UniqueIds (session.database modelName)
  loaded : ∀ entry ∈ session.loaded, ∀ stored ∈ session.database entry.1,
    stored.id = entry.2.id → own tenantId stored = true

/-- What isolation says of one step of a session: the result and the next part are
those of the tenant's part alone, foreign documents stay, the invariant is kept,
and only own documents are returned. -/
structure StepIsolated (tenantId : String) (session : Session)
    (whole inner : Session × Result) : Prop where
  result : whole.2 = inner.2
  part_eq : part tenantId whole.1 = inner.1
  foreign : ∀ modelName, outside (own tenantId) (whole.1.database modelName) =
    outside (own tenantId) (session.database modelName)
  isolated : Isolated tenantId whole.1
  returned : ∀ document ∈ whole.2.returned, own tenantId document = true

/-- A step that fails, or only returns rows, leaves everything as it was. -/
theorem step_unchanged {tenantId : String} {session : Session}
    (isolated : Isolated tenantId session) (result : Result) (silent : result.returned = []) :
    StepIsolated tenantId session (session, result) (part tenantId session, result) :=
  ⟨rfl, rfl, fun _ => rfl, isolated, by simp [silent]⟩

/-- A confined collection keeps own what was own by identity. -/
theorem confined_loaded {tenantId : String} {documents updated inner : List Document}
    (confined : Confined (own tenantId) documents updated inner) (id : Value)
    (before : ∀ stored ∈ documents, stored.id = id → own tenantId stored = true) :
    ∀ stored ∈ updated, stored.id = id → own tenantId stored = true := by
  intro stored member same
  cases class_ : own tenantId stored with
  | true => rfl
  | false =>
    have foreign : stored ∈ outside (own tenantId) documents := by
      rw [← confined.outside_eq]
      exact mem_outside.mpr ⟨member, class_⟩
    exact class_.symm.trans (before stored (mem_outside.mp foreign).1 same)

/-- Storing a confined collection keeps the parts of every model in step. -/
theorem part_store {tenantId : String} (session : Session) (modelName : String)
    {documents updated inner : List Document}
    (confined : Confined (own tenantId) documents updated inner) :
    part tenantId (session.store modelName updated) =
      (part tenantId session).store modelName inner := by
  simp only [part, Session.store, Session.mk.injEq, and_true]
  funext tested
  by_cases same : tested = modelName
  · simp only [same, if_true]
    exact confined.inside_eq
  · simp only [if_neg same]

/-- Storing a confined collection leaves every model's foreign documents alone. -/
theorem foreign_store {tenantId : String} (session : Session) (modelName : String)
    {updated inner : List Document}
    (confined : Confined (own tenantId) (session.database modelName) updated inner)
    (tested : String) :
    outside (own tenantId) ((session.store modelName updated).database tested) =
      outside (own tenantId) (session.database tested) := by
  by_cases same : tested = modelName
  · subst same
    simpa only [Session.store, if_true] using confined.outside_eq
  · simp only [Session.store, if_neg same]

/-- Storing a confined collection keeps the invariant. -/
theorem isolated_store {tenantId : String} {session : Session} (modelName : String)
    (isolated : Isolated tenantId session) {updated inner : List Document}
    (confined : Confined (own tenantId) (session.database modelName) updated inner) :
    Isolated tenantId (session.store modelName updated) := by
  refine ⟨?_, ?_⟩
  · intro tested
    by_cases same : tested = modelName
    · simpa only [Session.store, if_pos same] using confined.unique
    · simpa only [Session.store, if_neg same] using isolated.unique tested
  · intro entry member
    by_cases same : entry.1 = modelName
    · simp only [Session.store, if_pos same]
      exact confined_loaded confined entry.2.id
        (same ▸ isolated.loaded entry member)
    · simp only [Session.store, if_neg same]
      exact isolated.loaded entry member

/-- Committing an outcome that agrees with the tenant's part is an isolated step. -/
theorem commit_isolated {tenantId : String} {session : Session}
    (isolated : Isolated tenantId session) (modelName : String)
    {whole inner : List Document × Result}
    (agrees : Agrees tenantId (session.database modelName) whole inner) :
    StepIsolated tenantId session (session.commit modelName whole)
      ((part tenantId session).commit modelName inner) := by
  have stored : Isolated tenantId (session.store modelName whole.1) :=
    isolated_store modelName isolated agrees.confined
  refine ⟨agrees.result, ?_, ?_, ⟨stored.unique, ?_⟩, fun document shown =>
    (agrees.returned document shown).1⟩
  · have parts := part_store session modelName agrees.confined
    simp only [Session.commit, Session.load, ← agrees.result]
    rw [← parts]
    rfl
  · exact foreign_store session modelName agrees.confined
  · intro entry member
    rcases List.mem_append.mp member with earlier | now
    · exact stored.loaded entry earlier
    · obtain ⟨document, shown, rfl⟩ := List.mem_map.mp now
      simp only [Session.commit, Session.load, Session.store, if_true]
      refine confined_loaded agrees.confined document.id ?_
      intro held member same
      cases class_ : own tenantId held with
      | true => rfl
      | false =>
        exact False.elim ((agrees.returned document shown).2 held
          (mem_outside.mpr ⟨member, class_⟩) same)

/-- A validated document carries the tenant of the context and its own identity. -/
theorem validate_bound {ambient : Ambient} {tenantId : String} (bound : Bound ambient tenantId)
    (modelName : String) {document stamped : Document}
    (accepted : preValidate ambient modelName document = .ok stamped) :
    stamped = document.put "tenantId" (some (.string tenantId)) := by
  unfold preValidate at accepted
  cases stamp : stampTenant ambient modelName (tenantIdOf document) with
  | error message => simp [stamp] at accepted
  | ok chosen =>
    have same : chosen = tenantId := stamp_bound bound modelName _ stamp
    simp only [stamp, Except.ok.injEq] at accepted
    rw [← accepted, same]

/-- A validated batch is own and keeps its identities. -/
theorem validate_each_bound {ambient : Ambient} {tenantId : String}
    (bound : Bound ambient tenantId) (modelName : String) (schema : ModelSchema)
    (documents validated : List Document)
    (accepted : validateEach ambient modelName schema documents = .ok validated) :
    ∀ document ∈ validated, own tenantId document = true ∧
      ∃ original ∈ documents, document.id = original.id := by
  induction documents generalizing validated with
  | nil =>
    obtain rfl : [] = validated := Except.ok.inj accepted
    simp
  | cons document rest inductionHypothesis =>
    unfold validateEach at accepted
    cases stamp : preValidate ambient modelName document with
    | error message => simp [stamp] at accepted
    | ok stamped =>
      have same := validate_bound bound modelName stamp
      by_cases valid : schema.validates stamped = true
      · cases later : validateEach ambient modelName schema rest with
        | error failure => simp [stamp, valid, later, Except.map] at accepted
        | ok others =>
          simp only [stamp, valid, later, if_true, Except.map, Except.ok.injEq] at accepted
          subst accepted
          intro tested member
          rcases List.mem_cons.mp member with rfl | member
          · exact ⟨same ▸ put_own tenantId document, document, by simp, same ▸ rfl⟩
          · obtain ⟨owned, original, inRest, identity⟩ := inductionHypothesis others later tested member
            exact ⟨owned, original, by simp [inRest], identity⟩
      · simp [stamp, valid] at accepted

/-- Inserting a validated batch agrees with the tenant's part. -/
theorem insert_agrees {tenantId : String} {schema : ModelSchema} (led : TenantLed schema)
    {documents : List Document} (unique : UniqueIds documents) (candidates : List Document)
    (apart : ∀ candidate ∈ candidates, Apart tenantId documents candidate) :
    Agrees tenantId documents
      (ofWrite (fun _ => .documents candidates)
        (insertEach schema.uniqueIndexes candidates documents))
      (ofWrite (fun _ => .documents candidates)
        (insertEach schema.uniqueIndexes candidates (inside (own tenantId) documents))) := by
  obtain ⟨sameReport, confined⟩ := insert_each_confined (tenant_led_separates led tenantId)
    candidates documents unique (fun candidate member => (apart candidate member).1)
    (fun candidate member => (apart candidate member).2)
  refine ⟨by simp only [ofWrite, sameReport], confined, ?_⟩
  intro document shown
  cases outcome : (insertEach schema.uniqueIndexes candidates documents).2 with
  | error refused => simp [ofWrite, outcome, Result.returned] at shown
  | ok _ =>
    simp only [ofWrite, outcome, Result.returned] at shown
    exact apart document shown

/-- Writing back the modified paths of an own document keeps identity and class. -/
theorem saved_own {tenantId : String} (stored loaded current : Document)
    (changes : List (String × Option Value)) (owned : own tenantId stored = true)
    (stamped : own tenantId current = true) :
    (saved stored loaded current changes).id = stored.id ∧
      own tenantId (saved stored loaded current changes) = true := by
  have fold (paths : List String) (document : Document)
      (identity : document.id = stored.id) (class_ : own tenantId document = true) :
      (paths.foldl (fun held path => held.put path (current.get path)) document).id = stored.id ∧
        own tenantId
          (paths.foldl (fun held path => held.put path (current.get path)) document) = true := by
    induction paths generalizing document with
    | nil => exact ⟨identity, class_⟩
    | cons path rest inductionHypothesis =>
      refine inductionHypothesis (document.put path (current.get path)) identity ?_
      by_cases tenantPath : path = "tenantId"
      · subst tenantPath
        rw [own_congr (document.put_get_same "tenantId" _ (by decide))]
        exact stamped
      · rw [own_congr (document.put_get_other path "tenantId" _ (Ne.symm tenantPath))]
        exact class_
  exact fold _ stored rfl owned

/-- Assignment in memory keeps the identity. -/
theorem assign_id (document : Document) (changes : List (String × Option Value)) :
    (assign document changes).id = document.id := by
  induction changes generalizing document with
  | nil => rfl
  | cons change rest inductionHypothesis => exact inductionHypothesis _

/-- Looking a document up among own candidates finds the same one in the part. -/
theorem find_inside {tenantId : String} (documents : List Document) (tested : Document → Bool)
    (owned : ∀ document ∈ documents, tested document = true → own tenantId document = true) :
    (inside (own tenantId) documents).find? tested = documents.find? tested := by
  induction documents with
  | nil => rfl
  | cons document rest inductionHypothesis =>
    have later := inductionHypothesis (fun other member => owned other (by simp [member]))
    unfold inside at later ⊢
    cases found : tested document with
    | true =>
      rw [List.filter_cons_of_pos (owned document (by simp) found)]
      simp [found]
    | false =>
      cases class_ : own tenantId document with
      | true =>
        rw [List.filter_cons_of_pos class_]
        simp only [List.find?_cons, found, later]
      | false =>
        rw [List.filter_cons_of_neg (by simp [class_])]
        simp only [List.find?_cons, found, later]

/-- One operation in the tenant's context is an isolated step.

Proof: queries are scoped by their hook, pipelines by the prefixed match, and new
documents by the stamp. A saved document was returned earlier, so whatever is
stored under its identity is own and is the same document in the tenant's part. -/
theorem exec_isolated {schemas : String → ModelSchema} (led : ∀ modelName, TenantLed (schemas modelName))
    {ambient : Ambient} {tenantId : String} (bound : Bound ambient tenantId) {session : Session}
    (isolated : Isolated tenantId session) (operation : Operation)
    (leaves : LeavesTenant operation) (fresh : Fresh tenantId session operation) :
    StepIsolated tenantId session (exec schemas ambient session operation)
      (exec schemas ambient (part tenantId session) operation) := by
  cases operation with
  | query modelName operation =>
    have agrees := query_agrees (led modelName) (isolated.unique modelName) operation leaves
      (fun id announced => fresh (modelName, id) (List.mem_map.mpr ⟨id, announced, rfl⟩))
    simp only [exec, if_pos operation.hooked, preQuery, scope_bound bound]
    exact commit_isolated isolated modelName agrees
  | aggregate modelName pipeline =>
    have prefixed : runPipeline (matchStage "tenantId" (.string tenantId) :: pipeline)
        (session.database modelName) =
        runPipeline (matchStage "tenantId" (.string tenantId) :: pipeline)
          ((part tenantId session).database modelName) := by
      have rows : matchStage "tenantId" (.string tenantId)
          ((session.database modelName).map Document.get) =
          matchStage "tenantId" (.string tenantId)
            (((part tenantId session).database modelName).map Document.get) := by
        simp only [matchStage, part, inside, List.filter_map, List.filter_filter]
        congr 1
        apply List.filter_congr
        intro document _
        simp only [Function.comp_apply, own_iff, Bool.and_self]
      simp only [runPipeline, List.foldl_cons, rows]
    simp only [exec, preAggregate, scope_bound bound, ← prefixed]
    exact step_unchanged isolated _ rfl
  | create modelName document =>
    simp only [exec]
    cases validated : validateEach ambient modelName (schemas modelName) [document] with
    | error failure => exact step_unchanged isolated _ rfl
    | ok stamped =>
      refine commit_isolated isolated modelName
        (insert_agrees (led modelName) (isolated.unique modelName) stamped ?_)
      intro candidate member
      obtain ⟨owned, original, supplied, identity⟩ :=
        validate_each_bound bound modelName _ _ _ validated candidate member
      obtain rfl : original = document := by simpa using supplied
      exact ⟨owned, fun foreign outside_ =>
        identity ▸ fresh (modelName, original.id) (by simp [newIds]) foreign outside_⟩
  | save handle changes =>
    simp only [exec]
    cases held : session.loaded[handle]? with
    | none =>
      simp only [part, held]
      exact step_unchanged isolated _ rfl
    | some entry =>
      obtain ⟨modelName, loaded⟩ := entry
      have heldPart : (part tenantId session).loaded[handle]? = some (modelName, loaded) := held
      have member : (modelName, loaded) ∈ session.loaded := List.mem_of_getElem? held
      simp only [heldPart]
      cases stamp : preValidate ambient modelName (assign loaded changes) with
      | error message => exact step_unchanged isolated _ rfl
      | ok current =>
        have stamped : own tenantId current = true := by
          rw [validate_bound bound modelName stamp]
          exact put_own tenantId _
        by_cases valid : (schemas modelName).validates current = true
        · have sameFind : ((part tenantId session).database modelName).find?
              (fun stored => decide (stored.id = loaded.id)) =
              (session.database modelName).find?
                (fun stored => decide (stored.id = loaded.id)) := by
            apply find_inside
            intro stored place same
            exact isolated.loaded _ member stored place (of_decide_eq_true same)
          simp only [if_pos valid, sameFind]
          cases found : (session.database modelName).find?
              (fun stored => decide (stored.id = loaded.id)) with
          | none => exact step_unchanged isolated _ rfl
          | some stored =>
            have place : stored ∈ session.database modelName := List.mem_of_find?_eq_some found
            have same : stored.id = loaded.id := by simpa using List.find?_some found
            have owned : own tenantId stored = true := isolated.loaded _ member stored place same
            obtain ⟨identity, kept⟩ := saved_own stored loaded current changes owned stamped
            rcases write_confined (tenant_led_separates (led modelName) tenantId)
                (isolated.unique modelName) place identity.symm owned kept with
              ⟨updated, inner, whole, inside_, confined⟩ | ⟨refused, whole, inside_⟩
            · have stepped : Isolated tenantId (session.store modelName updated) :=
                isolated_store modelName isolated confined
              have currentId : current.id = loaded.id := by
                rw [validate_bound bound modelName stamp, Document.put_id]
                exact assign_id loaded changes
              simp only [whole, part, inside_]
              refine ⟨rfl, ?_, foreign_store session modelName confined, ⟨stepped.unique, ?_⟩, ?_⟩
              · have parts := part_store session modelName confined
                simp only [part, Session.store, Session.mk.injEq, and_true] at parts ⊢
                exact parts
              · intro entry inLoaded
                rcases List.mem_or_eq_of_mem_set inLoaded with earlier | rfl
                · exact stepped.loaded entry earlier
                · simp only [currentId]
                  exact stepped.loaded _ member
              · intro document shown
                obtain rfl : document = current := by simpa [Result.returned] using shown
                exact stamped
            · simp only [whole, part, inside_]
              exact step_unchanged isolated _ rfl
        · simp only [if_neg valid]
          exact step_unchanged isolated _ rfl
  | insertMany modelName documents =>
    simp only [exec, preInsertMany, bound.enforced, bound.tenant, present_nonempty bound.nonempty,
      Bool.false_eq_true, if_false]
    cases validated : validateEach ambient modelName (schemas modelName)
        (documents.map (fun document => document.put "tenantId" (some (.string tenantId)))) with
    | error failure => exact step_unchanged isolated _ rfl
    | ok stamped =>
      refine commit_isolated isolated modelName
        (insert_agrees (led modelName) (isolated.unique modelName) stamped ?_)
      intro candidate member
      obtain ⟨owned, original, supplied, identity⟩ :=
        validate_each_bound bound modelName _ _ _ validated candidate member
      obtain ⟨document, given, rfl⟩ := List.mem_map.mp supplied
      exact ⟨owned, fun foreign outside_ =>
        identity ▸ fresh (modelName, document.id) (List.mem_map.mpr ⟨document, given, rfl⟩)
          foreign outside_⟩

/-- Freshness against unchanged foreign documents is kept by isolated steps. -/
theorem fresh_kept {tenantId : String} {session next : Session} {operation : Operation}
    (foreign : ∀ modelName, outside (own tenantId) (next.database modelName) =
      outside (own tenantId) (session.database modelName))
    (fresh : Fresh tenantId session operation) : Fresh tenantId next operation := by
  intro entry announced held member
  rw [foreign] at member
  exact fresh entry announced held member

/-- A run in the tenant's context: every result and the final part are those of the
tenant's part alone, foreign documents stay, and only own documents are returned. -/
theorem run_isolated {schemas : String → ModelSchema}
    (led : ∀ modelName, TenantLed (schemas modelName)) {ambient : Ambient} {tenantId : String}
    (bound : Bound ambient tenantId) (operations : List Operation) {session : Session}
    (isolated : Isolated tenantId session)
    (leaves : ∀ operation ∈ operations, LeavesTenant operation)
    (fresh : ∀ operation ∈ operations, Fresh tenantId session operation) :
    (runAll schemas ambient session operations).2 =
        (runAll schemas ambient (part tenantId session) operations).2 ∧
      part tenantId (runAll schemas ambient session operations).1 =
        (runAll schemas ambient (part tenantId session) operations).1 ∧
      (∀ modelName,
        outside (own tenantId) ((runAll schemas ambient session operations).1.database modelName) =
          outside (own tenantId) (session.database modelName)) ∧
      ∀ result ∈ (runAll schemas ambient session operations).2,
        ∀ document ∈ result.returned, own tenantId document = true := by
  induction operations generalizing session with
  | nil => exact ⟨rfl, rfl, fun _ => rfl, by simp [runAll]⟩
  | cons operation rest inductionHypothesis =>
    have step := exec_isolated led bound isolated operation (leaves operation (by simp))
      (fresh operation (by simp))
    obtain ⟨results, parts, foreign, returned⟩ := inductionHypothesis step.isolated
      (fun other member => leaves other (by simp [member]))
      (fun other member => fresh_kept step.foreign (fresh other (by simp [member])))
    simp only [runAll]
    rw [← step.part_eq, ← step.result]
    refine ⟨by rw [results], parts, ?_, ?_⟩
    · intro modelName
      exact (foreign modelName).trans (step.foreign modelName)
    · intro result member
      rcases List.mem_cons.mp member with rfl | later
      · exact step.returned
      · exact returned result later

/-- Without a tenant and without bypass every operation fails and changes nothing. -/
theorem exec_unbound (schemas : String → ModelSchema) {ambient : Ambient}
    (unbound : Unbound ambient) (session : Session) (operation : Operation) :
    ∃ failure, exec schemas ambient session operation = (session, .failed failure) := by
  cases operation with
  | query modelName operation =>
    obtain ⟨message, refused⟩ := (unbound_refuses unbound modelName).1 operation.filter
    exact ⟨.hook message, by simp only [exec, if_pos operation.hooked, refused]⟩
  | aggregate modelName pipeline =>
    obtain ⟨message, refused⟩ := (unbound_refuses unbound modelName).2.1 pipeline
    exact ⟨.hook message, by simp only [exec, refused]⟩
  | create modelName document =>
    obtain ⟨message, refused⟩ := (unbound_refuses unbound modelName).2.2.1 document
    exact ⟨.hook message, by simp only [exec, validateEach, refused]⟩
  | save handle changes =>
    simp only [exec]
    cases held : session.loaded[handle]? with
    | none => exact ⟨.noDocument, rfl⟩
    | some entry =>
      obtain ⟨message, refused⟩ :=
        (unbound_refuses unbound entry.1).2.2.1 (assign entry.2 changes)
      exact ⟨.hook message, by simp only [refused]⟩
  | insertMany modelName documents =>
    obtain ⟨message, refused⟩ := (unbound_refuses unbound "").2.2.2 documents
    exact ⟨.hook message, by simp only [exec, refused]⟩

/-- A session on a database from which nothing has been read yet. -/
def opened (database : String → List Document) : Session := ⟨database, []⟩

/-- Unique identities are all the invariant needs before the first read. -/
theorem opened_isolated (tenantId : String) (database : String → List Document)
    (unique : ∀ modelName, UniqueIds (database modelName)) :
    Isolated tenantId (opened database) := ⟨unique, by simp [opened]⟩

/-- Two stores that agree on a tenant's documents are indistinguishable to any run
of hooked operations in that tenant's context: the results are the same, they are
the results on the tenant's documents alone, every returned document is own, and
afterwards the stores still agree on the tenant's documents while each keeps its
foreign documents as they were. Without a tenant and without bypass every operation
fails and changes nothing.

Proof: either run is the run on the tenant's part, which the two stores share. -/
theorem tenant_noninterference (schemas : String → ModelSchema) (tenantId : String)
    (led : ∀ modelName, TenantLed (schemas modelName)) :
    (∀ (ambient : Ambient) (operations : List Operation) (first second : String → List Document),
      Bound ambient tenantId →
      (∀ operation ∈ operations, LeavesTenant operation) →
      (∀ modelName, UniqueIds (first modelName)) → (∀ modelName, UniqueIds (second modelName)) →
      (∀ operation ∈ operations, Fresh tenantId (opened first) operation) →
      (∀ operation ∈ operations, Fresh tenantId (opened second) operation) →
      (∀ modelName, inside (own tenantId) (first modelName) =
        inside (own tenantId) (second modelName)) →
      (runAll schemas ambient (opened first) operations).2 =
          (runAll schemas ambient (opened second) operations).2 ∧
        (runAll schemas ambient (opened first) operations).2 =
          (runAll schemas ambient (part tenantId (opened first)) operations).2 ∧
        (∀ result ∈ (runAll schemas ambient (opened first) operations).2,
          ∀ document ∈ result.returned, own tenantId document = true) ∧
        ∀ modelName,
          inside (own tenantId)
              ((runAll schemas ambient (opened first) operations).1.database modelName) =
            inside (own tenantId)
              ((runAll schemas ambient (opened second) operations).1.database modelName) ∧
          outside (own tenantId)
              ((runAll schemas ambient (opened first) operations).1.database modelName) =
            outside (own tenantId) (first modelName) ∧
          outside (own tenantId)
              ((runAll schemas ambient (opened second) operations).1.database modelName) =
            outside (own tenantId) (second modelName)) ∧
    ∀ (ambient : Ambient), Unbound ambient → ∀ (session : Session) (operation : Operation),
      ∃ failure, exec schemas ambient session operation = (session, .failed failure) := by
  refine ⟨?_, fun ambient unbound => exec_unbound schemas unbound⟩
  intro ambient operations first second bound leaves firstUnique secondUnique firstFresh
    secondFresh agree
  obtain ⟨firstResults, firstPart, firstForeign, firstReturned⟩ := run_isolated led bound
    operations (opened_isolated tenantId first firstUnique) leaves firstFresh
  obtain ⟨secondResults, secondPart, secondForeign, _⟩ := run_isolated led bound
    operations (opened_isolated tenantId second secondUnique) leaves secondFresh
  have shared : part tenantId (opened first) = part tenantId (opened second) := by
    simp only [part, opened, Session.mk.injEq, and_true]
    exact funext agree
  rw [shared] at firstResults firstPart
  refine ⟨firstResults.trans secondResults.symm, shared ▸ firstResults, firstReturned, ?_⟩
  intro modelName
  have sameEnd : part tenantId (runAll schemas ambient (opened first) operations).1 =
      part tenantId (runAll schemas ambient (opened second) operations).1 :=
    firstPart.trans secondPart.symm
  exact ⟨congrFun (congrArg Session.database sameEnd) modelName, firstForeign modelName,
    secondForeign modelName⟩

/-- A user record of an institute, with a name. -/
def userRecord (id tenantId name : String) : Document :=
  ⟨.objectId id, fun path =>
    if path = "tenantId" then some (.string tenantId)
    else if path = "name" then some (.string name) else none⟩

/-- A database whose only collection holds users. -/
def userDatabase (users : List Document) (modelName : String) : List Document :=
  if modelName = "User" then users else []

/-- The declared indexes, without the one that is global on purpose. -/
def instituteSchemas (modelName : String) : ModelSchema :=
  ⟨if modelName = "Payment" then [] else declaredIndexes modelName, fun _ => true⟩

/-- An upsert by identity in a store where a foreign document has it, and in one where none has,
both empty for the tenant: the first is refused, and the second stores a document. What would be
generated is new to both. -/
theorem fixed_identity_observed :
    let upsert := Operation.query "User"
      (.updateOne [.field "_id" (.equals (.objectId "2"))] [.set "email" (.string "a@bright.test")]
        (some (.objectId "generated")))
    let first := userDatabase [userRecord "2" "institute-b" "Bob"]
    let second := userDatabase []
    let context : Ambient := some { tenantId := some "institute-a" }
    LeavesTenant upsert ∧
      (∀ modelName, inside (own "institute-a") (first modelName) =
        inside (own "institute-a") (second modelName)) ∧
      (∀ stored ∈ first "User", stored.id ≠ .objectId "generated") ∧
      (runAll instituteSchemas context (opened first) [upsert]).2 =
        [.failed (.write .duplicateKey)] ∧
      (∃ report, (runAll instituteSchemas context (opened second) [upsert]).2 =
        [.written report]) ∧
      ((runAll instituteSchemas context (opened second) [upsert]).1.database "User").length = 1 := by
  refine ⟨?_, ?_, ?_, rfl, ⟨_, rfl⟩, rfl⟩
  · simp [LeavesTenant, LeavesTenantId, Update.targets, UpdateOperator.targets]
  · intro modelName
    by_cases users : modelName = "User"
    · simp [users, userDatabase, userRecord, inside, own, Document.get]
    · simp [userDatabase, users]
  · simp [userDatabase, userRecord]

/-- A run that names the other institute in filters, rewrites every user it reaches,
upserts, creates, reads, saves and aggregates. -/
def instituteRun : List Operation :=
  [.query "User" (.find [.field "tenantId" (.equals (.string "institute-b"))] {}),
    .query "User" (.updateMany
      [.or [[.field "tenantId" (.equals (.string "institute-b"))], []]]
      [.set "name" (.string "renamed")] none),
    .query "User" (.updateOne [.field "name" (.equals (.string "Dora"))]
      [.set "phone" (.string "1")] (some (.objectId "upserted"))),
    .create "User" (userRecord "created" "" "Eve"),
    .save 0 [("name", some (.string "saved"))],
    .aggregate "User" []]

/-- The law at two user collections that share the first institute's user and differ
in the second institute's. -/
theorem institute_runs_agree :
    (runAll instituteSchemas (some { tenantId := some "institute-a" })
        (opened (userDatabase
          [userRecord "1" "institute-a" "Alice", userRecord "2" "institute-b" "Bob"]))
        instituteRun).2 =
      (runAll instituteSchemas (some { tenantId := some "institute-a" })
        (opened (userDatabase
          [userRecord "3" "institute-b" "Carol", userRecord "1" "institute-a" "Alice"]))
        instituteRun).2 := by
  have led (modelName : String) : TenantLed (instituteSchemas modelName) := by
    by_cases payment : modelName = "Payment"
    · simp [TenantLed, instituteSchemas, payment]
    · simpa only [instituteSchemas, if_neg payment] using
        declared_tenant_led modelName payment (fun _ => true)
  have unique (users : List Document) (distinct : (users.map Document.id).Nodup)
      (modelName : String) : UniqueIds (userDatabase users modelName) := by
    by_cases users_ : modelName = "User"
    · simpa only [UniqueIds, userDatabase, if_pos users_] using distinct
    · simp [userDatabase, users_, UniqueIds]
  refine ((tenant_noninterference instituteSchemas "institute-a" led).1 _ instituteRun _ _
    (bound_run "institute-a" (by decide)) ?_ (unique _ (by decide)) (unique _ (by decide))
    ?_ ?_ ?_).1
  · simp [instituteRun, LeavesTenant, LeavesTenantId, Update.targets, UpdateOperator.targets]
  · simp [instituteRun, Fresh, newIds, queryIds, upsertId, filterEqualities, clauseEqualities,
      opened, userDatabase, userRecord, outside, own, Document.get, List.lookup_cons]
  · simp [instituteRun, Fresh, newIds, queryIds, upsertId, filterEqualities, clauseEqualities,
      opened, userDatabase, userRecord, outside, own, Document.get, List.lookup_cons]
  · intro modelName
    by_cases users_ : modelName = "User"
    · simp [users_, userDatabase, userRecord, inside, own, Document.get]
    · simp [userDatabase, users_]

end TenantIsolation

end CoachingApi
