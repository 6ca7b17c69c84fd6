import CoachingApi.Common.TenantIsolation

/-!
# When a write leaves documents with their tenant

The query hook rewrites filters and never looks at a payload, so an update that
names the tenant path, or a replacement without it, takes the documents it writes
away from the tenant. New documents and batches are stamped whatever they carry. A
save stamps the document in memory and writes modified paths back by identity.

The condition on a payload is syntactic: no operator removes the tenant path or
gives it another value. It is required of the documents the database accepts the
write for; a refused write stores nothing. Together with the stored and loaded
tenant of a saved document it is exactly when an operation stores own documents only.
-/

namespace CoachingApi

open DocumentStore TenantContextStore TenantPlugin TenantOperations TenantScoping TenantIsolation

namespace TenantOwnership

/-- An operator that leaves the tenant on a document of the tenant: it writes
another path, or that tenant. Removal and renaming away never do. -/
def OperatorKeeps (tenantId : String) (inserting : Bool) (document : Document) :
    UpdateOperator → Prop
  | .set path value => path = "tenantId" → value = .string tenantId
  | .unset path => path ≠ "tenantId"
  | .setOnInsert path value => inserting = true → path = "tenantId" → value = .string tenantId
  | .rename source target => source ≠ "tenantId" ∧
      (target = "tenantId" → document.get source = none ∨
        document.get source = some (.string tenantId))
  | .modify path change => path = "tenantId" → ∀ value,
      change (some (.string tenantId)) = .ok value → value = some (.string tenantId)

/-- An update all of whose operators leave the tenant on the document. -/
def UpdateKeeps (tenantId : String) (inserting : Bool) (document : Document)
    (update : Update) : Prop :=
  ∀ operator ∈ update, OperatorKeeps tenantId inserting document operator

/-- Every document that is new or changed is the tenant's. -/
def Carried (tenantId : String) (before after : List Document) : Prop :=
  ∀ document ∈ after, document ∉ before → own tenantId document = true

/-- An own document has the tenant at its path. -/
theorem own_get {tenantId : String} {document : Document} (owned : own tenantId document = true) :
    document.get "tenantId" = some (.string tenantId) := of_decide_eq_true owned

/-- An operator on other paths keeps the tenant. -/
theorem apart_keeps (tenantId : String) (inserting : Bool) (document : Document)
    (operator : UpdateOperator) (apart : "tenantId" ∉ operator.targets) :
    OperatorKeeps tenantId inserting document operator := by
  cases operator with
  | set path value =>
    intro same
    exact False.elim (apart (by simp [UpdateOperator.targets, same]))
  | unset path =>
    intro same
    exact apart (by simp [UpdateOperator.targets, same])
  | setOnInsert path value =>
    intro _ same
    exact False.elim (apart (by simp [UpdateOperator.targets, same]))
  | rename source target =>
    simp only [UpdateOperator.targets, List.mem_cons, List.not_mem_nil, or_false, not_or] at apart
    exact ⟨Ne.symm apart.1, fun same => False.elim (apart.2 same.symm)⟩
  | modify path change =>
    intro same
    exact False.elim (apart (by simp [UpdateOperator.targets, same]))

/-- One operator stores the tenant exactly when it keeps it. A rename from and to
different paths is assumed, as the conflict check ensures. -/
theorem operator_own_iff {tenantId : String} {inserting : Bool} {document changed : Document}
    (owned : own tenantId document = true) (operator : UpdateOperator)
    (distinct : operator.targets.Nodup) (ordinary : "_id" ∉ operator.targets)
    (ran : operator.run inserting document = .ok changed) :
    own tenantId changed = true ↔ OperatorKeeps tenantId inserting document operator := by
  by_cases apart : "tenantId" ∉ operator.targets
  · have same := (operator_keeps_path operator inserting document changed "tenantId" apart ran).2
    rw [own_congr same]
    exact ⟨fun _ => apart_keeps tenantId inserting document operator apart, fun _ => owned⟩
  · rw [Decidable.not_not] at apart
    cases operator with
    | set path value =>
      obtain rfl : "tenantId" = path := by simpa [UpdateOperator.targets] using apart
      obtain rfl : document.put "tenantId" (some value) = changed := Except.ok.inj ran
      simp [own, Document.put_get_same, OperatorKeeps]
    | unset path =>
      obtain rfl : "tenantId" = path := by simpa [UpdateOperator.targets] using apart
      obtain rfl : document.put "tenantId" none = changed := Except.ok.inj ran
      simp [own, Document.put_get_same, OperatorKeeps]
    | setOnInsert path value =>
      obtain rfl : "tenantId" = path := by simpa [UpdateOperator.targets] using apart
      cases inserting with
      | false =>
        obtain rfl : document = changed := Except.ok.inj ran
        simp [OperatorKeeps, owned]
      | true =>
        obtain rfl : document.put "tenantId" (some value) = changed := Except.ok.inj ran
        simp [own, Document.put_get_same, OperatorKeeps]
    | rename source target =>
      have different : source ≠ target := by
        simpa [UpdateOperator.targets] using distinct
      have ordinarySource : source ≠ "_id" ∧ target ≠ "_id" := by
        simpa [UpdateOperator.targets, eq_comm] using ordinary
      by_cases away : source = "tenantId"
      · subst away
        simp only [UpdateOperator.run, own_get owned, Except.ok.injEq] at ran
        subst ran
        have removed : ((document.put "tenantId" none).put target
            (some (.string tenantId))).get "tenantId" = none := by
          rw [Document.put_get_other _ target _ _ different, Document.put_get_same _ _ _ (by decide)]
        simp [own, removed, OperatorKeeps]
      · obtain rfl : "tenantId" = target := by
          simpa [UpdateOperator.targets, Ne.symm away] using apart
        cases held : document.get source with
        | none =>
          simp only [UpdateOperator.run, held, Except.ok.injEq] at ran
          subst ran
          simp [OperatorKeeps, owned, away, held]
        | some value =>
          simp only [UpdateOperator.run, held, Except.ok.injEq] at ran
          subst ran
          simp [own, Document.put_get_same, OperatorKeeps, away, held]
    | modify path change =>
      obtain rfl : "tenantId" = path := by simpa [UpdateOperator.targets] using apart
      cases computed : change (some (.string tenantId)) with
      | error message => simp [UpdateOperator.run, own_get owned, computed] at ran
      | ok value =>
        simp only [UpdateOperator.run, own_get owned, computed, Except.ok.injEq] at ran
        subst ran
        simp [own, Document.put_get_same, OperatorKeeps, computed]

/-- What an operator keeps depends on the paths it writes alone. -/
theorem operator_keeps_congr {tenantId : String} {inserting : Bool} {document other : Document}
    (operator : UpdateOperator)
    (same : ∀ path ∈ operator.targets, other.get path = document.get path) :
    OperatorKeeps tenantId inserting other operator ↔
      OperatorKeeps tenantId inserting document operator := by
  cases operator with
  | rename source target =>
    have sameSource : other.get source = document.get source :=
      same source (by simp [UpdateOperator.targets])
    simp only [OperatorKeeps, sameSource]
  | set path value => exact Iff.rfl
  | unset path => exact Iff.rfl
  | setOnInsert path value => exact Iff.rfl
  | modify path change => exact Iff.rfl

/-- The operators in order store the tenant exactly when each of them keeps it.

Proof: their paths are distinct, so the tenant path belongs to one operator at most
and no operator changes what a later one reads. -/
theorem fold_own_iff {tenantId : String} {inserting : Bool} (update : Update)
    (document changed : Document) (owned : own tenantId document = true)
    (distinct : update.targets.Nodup) (ordinary : "_id" ∉ update.targets)
    (ran : Update.fold inserting document update = .ok changed) :
    own tenantId changed = true ↔ UpdateKeeps tenantId inserting document update := by
  induction update generalizing document with
  | nil =>
    obtain rfl : document = changed := Except.ok.inj ran
    simp [UpdateKeeps, owned]
  | cons operator rest inductionHypothesis =>
    simp only [Update.targets, List.flatMap_cons, List.nodup_append, List.mem_append, not_or]
      at distinct ordinary
    obtain ⟨headDistinct, restDistinct, disjoint⟩ := distinct
    cases first : operator.run inserting document with
    | error refused => simp [Update.fold, first] at ran
    | ok middle =>
      simp only [Update.fold, first] at ran
      have headIff := operator_own_iff owned operator headDistinct ordinary.1 first
      have restSame : ∀ other ∈ rest, ∀ path ∈ other.targets,
          middle.get path = document.get path := by
        intro other member path target
        refine (operator_keeps_path operator inserting document middle path ?_ first).2
        intro shared
        exact disjoint path shared path (List.mem_flatMap.mpr ⟨other, member, target⟩) rfl
      have restKeeps : UpdateKeeps tenantId inserting middle rest ↔
          UpdateKeeps tenantId inserting document rest := by
        constructor <;> intro keeps other member
        · exact (operator_keeps_congr other (restSame other member)).mp (keeps other member)
        · exact (operator_keeps_congr other (restSame other member)).mpr (keeps other member)
      simp only [UpdateKeeps, List.forall_mem_cons]
      by_cases tenantPath : "tenantId" ∈ operator.targets
      · have later : "tenantId" ∉ Update.targets rest :=
          fun shared => disjoint "tenantId" tenantPath "tenantId" shared rfl
        have kept := (fold_keeps_path rest inserting middle changed "tenantId" later ran).2
        rw [own_congr kept, headIff]
        refine ⟨fun head => ⟨head, ?_⟩, And.left⟩
        intro other member
        exact apart_keeps tenantId inserting document other
          (fun shared => later (List.mem_flatMap.mpr ⟨other, member, shared⟩))
      · have middleOwn : own tenantId middle = true := by
          rw [headIff]
          exact apart_keeps tenantId inserting document operator tenantPath
        rw [inductionHypothesis middle middleOwn restDistinct ordinary.2 ran, restKeeps]
        exact ⟨fun keeps => ⟨headIff.mp middleOwn, keeps⟩, And.right⟩

/-- An accepted update of an own document stores the tenant exactly when each
operator keeps it. -/
theorem apply_own_iff {tenantId : String} {inserting : Bool} {update : Update}
    {document changed : Document} (owned : own tenantId document = true)
    (applied : update.apply inserting document = .ok changed) :
    own tenantId changed = true ↔ UpdateKeeps tenantId inserting document update := by
  unfold Update.apply at applied
  by_cases identity : "_id" ∈ update.targets
  · simp [identity] at applied
  · by_cases distinct : update.targets.Nodup
    · rw [if_neg identity, if_pos distinct] at applied
      exact fold_own_iff update document changed owned distinct identity applied
    · simp [identity, distinct] at applied

/-- Nothing new or changed needs no tenant. -/
theorem carried_self (tenantId : String) (documents : List Document) :
    Carried tenantId documents documents := fun _ stored absent => False.elim (absent stored)

/-- Replacing an own document carries the tenant exactly when the candidate does. -/
theorem carried_replace {tenantId : String} {documents : List Document}
    (unique : UniqueIds documents) {stored candidate : Document} (place : stored ∈ documents)
    (same : stored.id = candidate.id) :
    Carried tenantId documents (replaceStored documents candidate) ↔
      own tenantId candidate = true ∨ candidate = stored := by
  have placed : candidate ∈ replaceStored documents candidate :=
    List.mem_map.mpr ⟨stored, place, by simp [same]⟩
  constructor
  · intro carried
    by_cases present_ : candidate ∈ documents
    · exact Or.inr (unique_document unique present_ place same.symm)
    · exact Or.inl (carried candidate placed present_)
  · intro kept document member absent
    obtain ⟨original, held, result⟩ := List.mem_map.mp member
    by_cases touched : original.id = candidate.id
    · rw [if_pos touched] at result
      subst result
      rcases kept with owned | rfl
      · exact owned
      · exact False.elim (absent place)
    · rw [if_neg touched] at result
      exact False.elim (absent (result ▸ held))

/-- Inserting under a new identity carries the tenant exactly when the new document
does. -/
theorem carried_insert {tenantId : String} {indexes : List UniqueIndex}
    {documents updated : List Document} {candidate : Document}
    (inserted : insertOne indexes documents candidate = .ok updated) :
    Carried tenantId documents updated ↔ own tenantId candidate = true := by
  unfold insertOne at inserted
  by_cases refused : (documents.any (fun stored => decide (stored.id = candidate.id)) ||
      collision indexes documents candidate) = true
  · simp [refused] at inserted
  · rw [if_neg refused] at inserted
    obtain rfl : documents ++ [candidate] = updated := Except.ok.inj inserted
    simp only [Bool.or_eq_true, not_or, List.any_eq_true, decide_eq_true_eq, not_exists,
      not_and] at refused
    constructor
    · intro carried
      exact carried candidate (by simp) (fun stored => refused.1 candidate stored rfl)
    · intro owned document member absent
      rcases List.mem_append.mp member with stored | last
      · exact False.elim (absent stored)
      · exact List.mem_singleton.mp last ▸ owned

/-- An accepted rewrite is the replacement of the stored document. -/
theorem write_one_replaces {indexes : List UniqueIndex} {documents updated : List Document}
    {candidate : Document} (written : writeOne indexes documents candidate = .ok updated) :
    updated = replaceStored documents candidate := by
  by_cases collides : collision indexes documents candidate = true
  · simp [writeOne, collides] at written
  · simpa [writeOne, collides] using written.symm

/-- The condition on a write to the first match: a change the database accepts keeps
the tenant on the found document, and so does an insertion it accepts. -/
def FirstKept (indexes : List UniqueIndex) (found : Option Document)
    (change : Document → Except WriteError Document)
    (insertion : Option (Except WriteError Document)) (keeps : Document → Prop)
    (keepsNew : Prop) (documents : List Document) : Prop :=
  (∀ document, found = some document → ∀ changed updated, change document = .ok changed →
      writeOne indexes documents changed = .ok updated → keeps document) ∧
    (found = none → ∀ candidate updated, insertion = some (.ok candidate) →
      insertOne indexes documents candidate = .ok updated → keepsNew)

/-- A write to the first match carries the tenant exactly under that condition, when
keeping is what decides the tenant of a changed and of an inserted document. -/
theorem first_carried_iff {tenantId : String} {indexes : List UniqueIndex}
    {documents : List Document} (unique : UniqueIds documents) (found : Option Document)
    (change : Document → Except WriteError Document)
    (insertion : Option (Except WriteError Document)) (keeps : Document → Prop) (keepsNew : Prop)
    (matched : ∀ document, found = some document →
      document ∈ documents ∧ own tenantId document = true)
    (decides : ∀ document changed, own tenantId document = true → change document = .ok changed →
      changed.id = document.id ∧ (own tenantId changed = true ↔ keeps document))
    (decidesNew : ∀ candidate, insertion = some (.ok candidate) →
      (own tenantId candidate = true ↔ keepsNew)) :
    Carried tenantId documents (writeFirst indexes found change insertion documents).1 ↔
      FirstKept indexes found change insertion keeps keepsNew documents := by
  cases found with
  | some document =>
    obtain ⟨place, owned⟩ := matched document rfl
    cases changes : change document with
    | error refused =>
      simp only [writeFirst, changes, FirstKept]
      refine ⟨fun _ => ⟨?_, by simp⟩, fun _ => carried_self tenantId documents⟩
      rintro _ ⟨⟩ changed _ applied
      simp [changes] at applied
    | ok changed =>
      obtain ⟨sameId, changedIff⟩ := decides document changed owned changes
      cases written : writeOne indexes documents changed with
      | error refused =>
        simp only [writeFirst, changes, written, FirstKept]
        refine ⟨fun _ => ⟨?_, by simp⟩, fun _ => carried_self tenantId documents⟩
        rintro _ ⟨⟩ other updated applied accepted
        obtain rfl : changed = other := Except.ok.inj (changes.symm.trans applied)
        simp [written] at accepted
      | ok updated =>
        simp only [writeFirst, changes, written]
        rw [write_one_replaces written, carried_replace unique place sameId.symm]
        constructor
        · intro kept
          refine ⟨?_, by simp⟩
          rintro _ ⟨⟩ _ _ _ _
          rcases kept with changedOwn | unchanged
          · exact changedIff.mp changedOwn
          · exact changedIff.mp (unchanged ▸ owned)
        · intro kept
          exact Or.inl (changedIff.mpr (kept.1 document rfl changed updated changes written))
  | none =>
    cases inserted : insertion with
    | none =>
      simp only [writeFirst, FirstKept]
      exact ⟨fun _ => ⟨by simp, by simp⟩, fun _ => carried_self tenantId documents⟩
    | some attempt =>
      cases attempt with
      | error refused =>
        simp only [writeFirst, FirstKept]
        exact ⟨fun _ => ⟨by simp, by simp⟩, fun _ => carried_self tenantId documents⟩
      | ok candidate =>
        have newIff := decidesNew candidate inserted
        cases stored : insertOne indexes documents candidate with
        | error refused =>
          simp only [writeFirst, stored, FirstKept]
          refine ⟨fun _ => ⟨by simp, ?_⟩, fun _ => carried_self tenantId documents⟩
          rintro _ other updated ⟨⟩ accepted
          simp [stored] at accepted
        | ok updated =>
          simp only [writeFirst, stored]
          rw [carried_insert stored, newIff]
          constructor
          · intro kept
            exact ⟨by simp, fun _ _ _ _ _ => kept⟩
          · intro kept
            exact kept.2 rfl candidate updated rfl stored

/-- The condition on a write to every target: each target whose write the database
accepts, in order and up to the first refusal, keeps the tenant. -/
def EachKept (indexes : List UniqueIndex) (change : Document → Except WriteError Document)
    (keeps : Document → Prop) : List Document → List Document → Prop
  | [], _ => True
  | target :: rest, documents =>
    ∀ changed updated, change target = .ok changed →
      writeOne indexes documents changed = .ok updated →
        keeps target ∧ EachKept indexes change keeps rest updated

/-- Writing targets keeps the identities, and every document under another one. -/
theorem write_each_frame {indexes : List UniqueIndex}
    {change : Document → Except WriteError Document}
    (sameId : ∀ document changed, change document = .ok changed → changed.id = document.id)
    (targets documents : List Document) :
    (writeEach indexes change targets documents).1.map Document.id = documents.map Document.id ∧
      ∀ document ∈ documents, document.id ∉ targets.map Document.id →
        document ∈ (writeEach indexes change targets documents).1 := by
  induction targets generalizing documents with
  | nil => exact ⟨rfl, fun document stored _ => stored⟩
  | cons target rest inductionHypothesis =>
    cases changes : change target with
    | error refused =>
      simp only [writeEach, changes]
      exact ⟨trivial, fun document stored _ => stored⟩
    | ok changed =>
      cases written : writeOne indexes documents changed with
      | error refused =>
        simp only [writeEach, changes, written]
        exact ⟨trivial, fun document stored _ => stored⟩
      | ok updated =>
        obtain ⟨ids, frame⟩ := inductionHypothesis updated
        have replaced := write_one_replaces written
        simp only [writeEach, changes, written]
        refine ⟨ids.trans (by rw [replaced, replace_ids]), ?_⟩
        intro document stored apart
        simp only [List.map_cons, List.mem_cons, not_or] at apart
        refine frame document ?_ apart.2
        rw [replaced]
        refine List.mem_map.mpr ⟨document, stored, ?_⟩
        rw [if_neg (fun same => apart.1 (same.trans (sameId target changed changes)))]

/-- A write to every target carries the tenant exactly under that condition.

Proof: identities of the targets are distinct, so what one write stores is still
stored at the end, and the remaining writes are compared with the state after it. -/
theorem each_carried_iff {tenantId : String} {indexes : List UniqueIndex}
    (change : Document → Except WriteError Document) (keeps : Document → Prop)
    (decides : ∀ document changed, own tenantId document = true → change document = .ok changed →
      (own tenantId changed = true ↔ keeps document))
    (sameId : ∀ document changed, change document = .ok changed → changed.id = document.id)
    (targets documents : List Document) (unique : UniqueIds documents)
    (distinct : (targets.map Document.id).Nodup)
    (held : ∀ target ∈ targets, target ∈ documents ∧ own tenantId target = true) :
    Carried tenantId documents (writeEach indexes change targets documents).1 ↔
      EachKept indexes change keeps targets documents := by
  induction targets generalizing documents with
  | nil => exact ⟨fun _ => trivial, fun _ => carried_self tenantId documents⟩
  | cons target rest inductionHypothesis =>
    obtain ⟨place, owned⟩ := held target (by simp)
    simp only [List.map_cons, List.nodup_cons] at distinct
    cases changes : change target with
    | error refused =>
      simp only [writeEach, changes, EachKept]
      exact ⟨fun _ => by simp, fun _ => carried_self tenantId documents⟩
    | ok changed =>
      have changedId := sameId target changed changes
      have changedIff := decides target changed owned changes
      cases written : writeOne indexes documents changed with
      | error refused =>
        simp only [writeEach, changes, written, EachKept]
        refine ⟨fun _ => ?_, fun _ => carried_self tenantId documents⟩
        rintro other updated ⟨⟩ accepted
        simp [written] at accepted
      | ok updated =>
        have replaced := write_one_replaces written
        have updatedUnique : UniqueIds updated := by
          unfold UniqueIds
          rw [replaced, replace_ids]
          exact unique
        have changedPlace : changed ∈ updated := by
          rw [replaced]
          exact List.mem_map.mpr ⟨target, place, by simp [changedId]⟩
        have otherPlace (other : Document) (stored : other ∈ documents)
            (apart : other.id ≠ target.id) : other ∈ updated := by
          rw [replaced]
          exact List.mem_map.mpr ⟨other, stored, by simp [changedId, apart]⟩
        have restHeld : ∀ other ∈ rest, other ∈ updated ∧ own tenantId other = true := by
          intro other member
          obtain ⟨stored, otherOwn⟩ := held other (by simp [member])
          refine ⟨otherPlace other stored ?_, otherOwn⟩
          intro same
          exact distinct.1 (same ▸ List.mem_map.mpr ⟨other, member, rfl⟩)
        obtain ⟨finalIds, frame⟩ := write_each_frame sameId rest updated
        have finalUnique : UniqueIds (writeEach indexes change rest updated).1 := by
          unfold UniqueIds
          rw [finalIds]
          exact updatedUnique
        have changedFinal : changed ∈ (writeEach indexes change rest updated).1 :=
          frame changed changedPlace (changedId ▸ distinct.1)
        have restIff := inductionHypothesis updated updatedUnique distinct.2 restHeld
        simp only [writeEach, changes, written, EachKept]
        constructor
        · intro carried
          rintro other accepted ⟨⟩ acceptance
          obtain rfl : updated = accepted := Except.ok.inj (written.symm.trans acceptance)
          refine ⟨?_, restIff.mp ?_⟩
          · rw [← changedIff]
            by_cases before : changed ∈ documents
            · exact (unique_document unique before place changedId) ▸ owned
            · exact carried changed changedFinal before
          · intro document final absent
            refine carried document final ?_
            intro before
            by_cases same : document.id = target.id
            · have identical : document = changed :=
                unique_document finalUnique final changedFinal (same.trans changedId.symm)
              exact absent (identical ▸ changedPlace)
            · exact absent (otherPlace document before same)
        · intro kept document final absent
          obtain ⟨headKept, restKept⟩ := kept changed updated rfl written
          by_cases middle : document ∈ updated
          · rw [replaced] at middle
            obtain ⟨original, stored, result⟩ := List.mem_map.mp middle
            by_cases touched : original.id = changed.id
            · rw [if_pos touched] at result
              exact result ▸ changedIff.mpr headKept
            · rw [if_neg touched] at result
              exact False.elim (absent (result ▸ stored))
          · exact restIff.mpr restKept document final middle

/-- A filter with the tenant forced in, as the query hook leaves it. -/
def confinedTo (tenantId : String) (filter : Filter) : Filter :=
  filter.withKey "tenantId" (.string tenantId)

/-- The document an upsert starts from: the equalities its filter fixes. -/
def upsertBase (filter : Filter) (generated : Value) : Document :=
  ⟨((filterEqualities filter).lookup "_id").getD generated,
    fun path => (filterEqualities filter).lookup path⟩

/-- The condition on an update: operators that keep the tenant on the document found,
or on the upsert's, wherever the database accepts the write. -/
def UpdateFirstKept (tenantId : String) (schema : ModelSchema) (found : Option Document)
    (filter : Filter) (update : Update) (upsert : Option Value) (documents : List Document) : Prop :=
  FirstKept schema.uniqueIndexes found (update.apply false)
    (upsert.map (upsertDocument (confinedTo tenantId filter) update))
    (fun document => UpdateKeeps tenantId false document update)
    (∀ generated, upsert = some generated →
      UpdateKeeps tenantId true (upsertBase (confinedTo tenantId filter) generated) update)
    documents

/-- The condition on a replacement: it names the tenant itself, wherever the database
accepts it. -/
def ReplacementFirstKept (tenantId : String) (schema : ModelSchema) (found : Option Document)
    (filter : Filter) (replacement : Row) (upsert : Option Value) (documents : List Document) :
    Prop :=
  FirstKept schema.uniqueIndexes found (replaceFields replacement)
    (upsert.map (replacementDocument (confinedTo tenantId filter) replacement))
    (fun _ => replacement "tenantId" = some (.string tenantId))
    (replacement "tenantId" = some (.string tenantId)) documents

/-- When a query operation stores own documents only. -/
def QueryKeeps (tenantId : String) (schema : ModelSchema) (documents : List Document) :
    QueryOperation → Prop
  | .updateOne filter update upsert =>
    UpdateFirstKept tenantId schema (select (confinedTo tenantId filter) documents).head?
      filter update upsert documents
  | .updateMany filter update upsert =>
    if (select (confinedTo tenantId filter) documents).isEmpty then
      UpdateFirstKept tenantId schema none filter update upsert documents
    else
      EachKept schema.uniqueIndexes (update.apply false)
        (fun document => UpdateKeeps tenantId false document update)
        (select (confinedTo tenantId filter) documents) documents
  | .replaceOne filter replacement upsert =>
    ReplacementFirstKept tenantId schema (select (confinedTo tenantId filter) documents).head?
      filter replacement upsert documents
  | .findOneAndUpdate filter update options upsert _ =>
    UpdateFirstKept tenantId schema
      (options.arrange (select (confinedTo tenantId filter) documents)).head?
      filter update upsert documents
  | .findOneAndReplace filter replacement options upsert _ =>
    ReplacementFirstKept tenantId schema
      (options.arrange (select (confinedTo tenantId filter) documents)).head?
      filter replacement upsert documents
  | .find .. | .findOne .. | .countDocuments .. | .deleteOne .. | .deleteMany ..
  | .findOneAndDelete .. => True

/-- The paths a save writes back: those whose value in memory is not the loaded one. -/
def modifiedPaths (loaded current : Document) (changes : List (String × Option Value)) :
    List String :=
  (changes.map Prod.fst ++ ["tenantId"]).filter
    (fun path => decide (current.get path ≠ loaded.get path))

/-- When an operation stores own documents only. A save that is accepted does so when
the stored document is own, when the loaded one was not, so that the stamp is written
back, or when it writes nothing new. -/
def KeepsTenant (tenantId : String) (schemas : String → ModelSchema) (ambient : Ambient)
    (session : Session) : Operation → Prop
  | .query modelName operation =>
    QueryKeeps tenantId (schemas modelName) (session.database modelName) operation
  | .save handle changes =>
    ∀ modelName loaded current stored updated,
      session.loaded[handle]? = some (modelName, loaded) →
      preValidate ambient modelName (assign loaded changes) = .ok current →
      (schemas modelName).validates current = true →
      (session.database modelName).find? (fun held => decide (held.id = loaded.id)) = some stored →
      writeOne (schemas modelName).uniqueIndexes (session.database modelName)
        (saved stored loaded current changes) = .ok updated →
      own tenantId stored = true ∨ own tenantId loaded = false ∨
        ∀ path ∈ modifiedPaths loaded current changes, stored.get path = current.get path
  | .aggregate .. | .create .. | .insertMany .. => True

/-- Fewer documents need no tenant. -/
theorem carried_subset {tenantId : String} {documents remaining : List Document}
    (subset : ∀ document ∈ remaining, document ∈ documents) :
    Carried tenantId documents remaining :=
  fun document stored absent => False.elim (absent (subset document stored))

/-- An accepted update changes no identity. -/
theorem apply_id {update : Update} {inserting : Bool} {document changed : Document}
    (applied : update.apply inserting document = .ok changed) : changed.id = document.id := by
  unfold Update.apply at applied
  by_cases identity : "_id" ∈ update.targets
  · simp [identity] at applied
  · by_cases distinct : update.targets.Nodup
    · rw [if_neg identity, if_pos distinct] at applied
      exact (fold_keeps_path update inserting document changed "_id" identity applied).1
    · simp [identity, distinct] at applied

/-- An accepted upsert stores the tenant exactly when its operators keep it. -/
theorem upsert_own_iff {tenantId : String} {filter : Filter} {update : Update}
    {generated : Value} {candidate : Document}
    (built : upsertDocument (confinedTo tenantId filter) update generated = .ok candidate) :
    own tenantId candidate = true ↔
      UpdateKeeps tenantId true (upsertBase (confinedTo tenantId filter) generated) update := by
  unfold upsertDocument at built
  by_cases distinct : ((filterEqualities (confinedTo tenantId filter)).map Prod.fst).Nodup
  · simp only [if_pos distinct] at built
    refine apply_own_iff ?_ built
    simp only [own, Document.get, confinedTo]
    simp [upsertBase, scoped_fixes_tenant distinct]
  · simp [if_neg distinct] at built

/-- An update of the document found carries the tenant exactly under its condition. -/
theorem update_first_carried_iff {tenantId : String} {schema : ModelSchema}
    {documents : List Document} (unique : UniqueIds documents) (found : Option Document)
    (filter : Filter) (update : Update) (upsert : Option Value)
    (matched : ∀ document, found = some document →
      document ∈ documents ∧ own tenantId document = true) :
    Carried tenantId documents (writeFirst schema.uniqueIndexes found (update.apply false)
        (upsert.map (upsertDocument (confinedTo tenantId filter) update)) documents).1 ↔
      UpdateFirstKept tenantId schema found filter update upsert documents := by
  refine first_carried_iff unique found _ _ _ _ matched ?_ ?_
  · intro document changed owned applied
    exact ⟨apply_id applied, apply_own_iff owned applied⟩
  · intro candidate inserted
    obtain ⟨generated, supplied, built⟩ := Option.map_eq_some_iff.mp inserted
    rw [upsert_own_iff built]
    constructor
    · rintro keeps other again
      obtain rfl : generated = other := Option.some.inj (supplied.symm.trans again)
      exact keeps
    · intro keeps
      exact keeps generated supplied

/-- A replacement of the document found carries the tenant exactly when it names it. -/
theorem replacement_first_carried_iff {tenantId : String} {schema : ModelSchema}
    {documents : List Document} (unique : UniqueIds documents) (found : Option Document)
    (filter : Filter) (replacement : Row) (upsert : Option Value)
    (matched : ∀ document, found = some document →
      document ∈ documents ∧ own tenantId document = true) :
    Carried tenantId documents (writeFirst schema.uniqueIndexes found (replaceFields replacement)
        (upsert.map (replacementDocument (confinedTo tenantId filter) replacement)) documents).1 ↔
      ReplacementFirstKept tenantId schema found filter replacement upsert documents := by
  refine first_carried_iff unique found _ _ _ _ matched ?_ ?_
  · intro document changed _ applied
    obtain rfl : (⟨document.id, replacement⟩ : Document) = changed := Except.ok.inj applied
    exact ⟨rfl, by simp [own, Document.get]⟩
  · intro candidate inserted
    obtain ⟨generated, _, built⟩ := Option.map_eq_some_iff.mp inserted
    rw [← Except.ok.inj built]
    simp [own, Document.get]

/-- One scoped query operation carries the tenant exactly under its condition. -/
theorem query_carried_iff {tenantId : String} {schema : ModelSchema} {documents : List Document}
    (unique : UniqueIds documents) (operation : QueryOperation) :
    Carried tenantId documents (execQuery schema documents
        (operation.withFilter (confinedTo tenantId operation.filter))).1 ↔
      QueryKeeps tenantId schema documents operation := by
  have first (filter : Filter) (document : Document)
      (found : (select (confinedTo tenantId filter) documents).head? = some document) :
      document ∈ documents ∧ own tenantId document = true :=
    select_own (List.mem_of_mem_head? found)
  have arranged (filter : Filter) (options : QueryOptions) (document : Document)
      (found : (options.arrange (select (confinedTo tenantId filter) documents)).head? =
        some document) :
      document ∈ documents ∧ own tenantId document = true :=
    select_own (arrange_subset options _ document (List.mem_of_mem_head? found))
  cases operation with
  | find filter options => exact ⟨fun _ => trivial, fun _ => carried_self tenantId documents⟩
  | findOne filter options => exact ⟨fun _ => trivial, fun _ => carried_self tenantId documents⟩
  | countDocuments filter => exact ⟨fun _ => trivial, fun _ => carried_self tenantId documents⟩
  | updateOne filter update upsert =>
    exact update_first_carried_iff unique _ filter update upsert (first filter)
  | updateMany filter update upsert =>
    simp only [QueryOperation.withFilter, QueryOperation.filter, execQuery, QueryKeeps]
    split
    · exact update_first_carried_iff unique none filter update upsert (by simp)
    · refine each_carried_iff (update.apply false) _ (fun document changed owned applied =>
        apply_own_iff owned applied) (fun document changed applied => apply_id applied)
        (select (confinedTo tenantId filter) documents) documents unique ?_
        (fun target selected => select_own selected)
      exact unique.sublist (List.filter_sublist.map Document.id)
  | replaceOne filter replacement upsert =>
    exact replacement_first_carried_iff unique _ filter replacement upsert (first filter)
  | deleteOne filter =>
    refine ⟨fun _ => trivial, fun _ => carried_subset ?_⟩
    simp only [QueryOperation.withFilter, QueryOperation.filter, execQuery]
    split
    · exact fun document stored => stored
    · exact fun document stored => List.mem_of_mem_filter stored
  | deleteMany filter =>
    exact ⟨fun _ => trivial, fun _ => carried_subset
      (fun document stored => List.mem_of_mem_filter stored)⟩
  | findOneAndUpdate filter update options upsert returnNew =>
    exact update_first_carried_iff unique _ filter update upsert (arranged filter options)
  | findOneAndReplace filter replacement options upsert returnNew =>
    exact replacement_first_carried_iff unique _ filter replacement upsert (arranged filter options)
  | findOneAndDelete filter options =>
    refine ⟨fun _ => trivial, fun _ => carried_subset ?_⟩
    simp only [QueryOperation.withFilter, QueryOperation.filter, execQuery]
    split
    · exact fun document stored => stored
    · exact fun document stored => List.mem_of_mem_filter stored

/-- What writing paths back leaves at each field: the value in memory at a written
path, and the stored one elsewhere. -/
theorem written_back_fields (paths : List String) (stored current : Document) (path : String) :
    (paths.foldl (fun held written => held.put written (current.get written)) stored).fields path =
      if path ∈ paths then current.get path else stored.fields path := by
  induction paths generalizing stored with
  | nil => simp
  | cons written rest inductionHypothesis =>
    rw [List.foldl_cons, inductionHypothesis]
    by_cases later : path ∈ rest
    · simp [later]
    · by_cases now : path = written <;> simp [later, now, Document.put]

/-- Writing paths back keeps the identity. -/
theorem written_back_id (paths : List String) (stored current : Document) :
    (paths.foldl (fun held written => held.put written (current.get written)) stored).id =
      stored.id := by
  induction paths generalizing stored with
  | nil => rfl
  | cons written rest inductionHypothesis => exact inductionHypothesis _

/-- The document a save stores is own when the stored one was, or when the tenant is
among the modified paths; and it is the stored one when nothing differs. -/
theorem saved_own_iff {tenantId : String} (stored loaded current : Document)
    (changes : List (String × Option Value)) (sameId : current.id = loaded.id)
    (stamped : own tenantId current = true) :
    (own tenantId (saved stored loaded current changes) = true ∨
        saved stored loaded current changes = stored) ↔
      (own tenantId stored = true ∨ own tenantId loaded = false ∨
        ∀ path ∈ modifiedPaths loaded current changes, stored.get path = current.get path) := by
  have modified : "tenantId" ∈ modifiedPaths loaded current changes ↔
      own tenantId loaded = false := by
    simp only [modifiedPaths, List.mem_filter, List.mem_append, List.mem_singleton, or_true,
      true_and, own_get stamped, decide_eq_true_eq, own, decide_eq_false_iff_not]
    exact not_congr eq_comm
  have ordinary (path : String) (member : path ∈ modifiedPaths loaded current changes) :
      path ≠ "_id" := by
    rintro rfl
    simp [modifiedPaths, Document.get, sameId] at member
  have tenantField : (saved stored loaded current changes).get "tenantId" =
      if own tenantId loaded = false then some (.string tenantId) else stored.get "tenantId" := by
    have field := written_back_fields (modifiedPaths loaded current changes) stored current
      "tenantId"
    simp only [modified, own_get stamped] at field
    exact field
  have unchanged : saved stored loaded current changes = stored ↔
      ∀ path ∈ modifiedPaths loaded current changes, stored.get path = current.get path := by
    constructor
    · intro same path member
      have field := written_back_fields (modifiedPaths loaded current changes) stored current path
      rw [if_pos member] at field
      have kept : (saved stored loaded current changes).fields path = current.get path := field
      rw [same] at kept
      simpa only [Document.get, if_neg (ordinary path member)] using kept
    · intro same
      have sameFields : (saved stored loaded current changes).fields = stored.fields := by
        funext path
        refine (written_back_fields (modifiedPaths loaded current changes) stored current path).trans
          ?_
        by_cases member : path ∈ modifiedPaths loaded current changes
        · rw [if_pos member, ← same path member, Document.get, if_neg (ordinary path member)]
        · rw [if_neg member]
      have identity : (saved stored loaded current changes).id = stored.id :=
        written_back_id (modifiedPaths loaded current changes) stored current
      cases outcome : saved stored loaded current changes with
      | mk id fields =>
        rw [outcome] at sameFields identity
        cases stored
        simp_all
  rw [unchanged]
  cases loadedOwn : own tenantId loaded with
  | false =>
    rw [loadedOwn, if_pos rfl] at tenantField
    have savedOwn : own tenantId (saved stored loaded current changes) = true :=
      decide_eq_true tenantField
    exact ⟨fun _ => Or.inr (Or.inl rfl), fun _ => Or.inl savedOwn⟩
  | true =>
    rw [loadedOwn, if_neg (by decide)] at tenantField
    rw [own_congr tenantField]
    simp

/-- Inserting a batch adds nothing but the batch. -/
theorem insert_each_subset {indexes : List UniqueIndex} (candidates documents : List Document) :
    ∀ document ∈ (insertEach indexes candidates documents).1,
      document ∈ documents ∨ document ∈ candidates := by
  induction candidates generalizing documents with
  | nil => exact fun document stored => Or.inl stored
  | cons candidate rest inductionHypothesis =>
    intro document final
    cases inserted : insertOne indexes documents candidate with
    | error refused =>
      simp only [insertEach, inserted] at final
      exact Or.inl final
    | ok updated =>
      simp only [insertEach, inserted] at final
      rcases inductionHypothesis updated document final with stored | later
      · unfold insertOne at inserted
        split at inserted
        · simp at inserted
        · obtain rfl : documents ++ [candidate] = updated := Except.ok.inj inserted
          rcases List.mem_append.mp stored with before | now
          · exact Or.inl before
          · exact Or.inr (by simp [List.mem_singleton.mp now])
      · exact Or.inr (by simp [later])

/-- Only the model an operation stores to can change, so its carrying is that model's. -/
theorem stored_carried {tenantId : String} (session : Session) (modelName : String)
    (updated : List Document) :
    (∀ tested, Carried tenantId (session.database tested)
        ((session.store modelName updated).database tested)) ↔
      Carried tenantId (session.database modelName) updated := by
  constructor
  · intro carried
    simpa only [Session.store, if_true] using carried modelName
  · intro carried tested
    by_cases same : tested = modelName
    · simpa only [same, Session.store, if_true] using carried
    · simpa only [Session.store, if_neg same] using carried_self tenantId (session.database tested)

/-- An accepted save leaves the document with the tenant exactly when the stored one was own,
the loaded one was not, or nothing it writes differs from what is stored. -/
theorem saved_carried_iff {ambient : Ambient} {tenantId modelName : String}
    (bound : Bound ambient tenantId) {indexes : List UniqueIndex}
    {documents updated : List Document} (unique : UniqueIds documents)
    {loaded current stored : Document} {changes : List (String × Option Value)}
    (stamp : preValidate ambient modelName (assign loaded changes) = .ok current)
    (lookup : documents.find? (fun held => decide (held.id = loaded.id)) = some stored)
    (accepted : writeOne indexes documents (saved stored loaded current changes) = .ok updated) :
    Carried tenantId documents updated ↔
      (own tenantId stored = true ∨ own tenantId loaded = false ∨
        ∀ path ∈ modifiedPaths loaded current changes, stored.get path = current.get path) := by
  have place : stored ∈ documents := List.mem_of_find?_eq_some lookup
  have currentEq := validate_bound bound modelName stamp
  have currentId : current.id = loaded.id := by
    rw [currentEq, Document.put_id, assign_id]
  have stamped : own tenantId current = true := by
    rw [currentEq]
    exact put_own tenantId _
  have savedId : (saved stored loaded current changes).id = stored.id :=
    written_back_id (modifiedPaths loaded current changes) stored current
  rw [write_one_replaces accepted, carried_replace unique place savedId.symm]
  exact saved_own_iff stored loaded current changes currentId stamped

/-- An operation in a tenant's context leaves every document it inserts or modifies
with that tenant exactly when its payload does: no accepted update removes, renames
away or reassigns the tenant path, every accepted replacement names the tenant, and an
accepted save finds the stored document still own or writes the stamp back. Creations
and batches always do.

Proof: the scoped filter finds own documents, so each write starts from one. What its
payload does to the tenant path is decided operator by operator. -/
theorem ownership_iff (schemas : String → ModelSchema) (ambient : Ambient) (tenantId : String)
    (bound : Bound ambient tenantId) (session : Session)
    (unique : ∀ modelName, UniqueIds (session.database modelName)) (operation : Operation) :
    (∀ modelName, Carried tenantId (session.database modelName)
        ((exec schemas ambient session operation).1.database modelName)) ↔
      KeepsTenant tenantId schemas ambient session operation := by
  have silent : ∀ modelName, Carried tenantId (session.database modelName)
      (session.database modelName) := fun modelName => carried_self tenantId _
  have batch (modelName : String) (documents validated : List Document)
      (accepted : validateEach ambient modelName (schemas modelName) documents = .ok validated) :
      Carried tenantId (session.database modelName)
        (insertEach (schemas modelName).uniqueIndexes validated (session.database modelName)).1 := by
    intro document final absent
    rcases insert_each_subset validated (session.database modelName) document final with
      before | new
    · exact False.elim (absent before)
    · exact (validate_each_bound bound modelName _ documents validated accepted document new).1
  cases operation with
  | query modelName operation =>
    simp only [exec, if_pos operation.hooked, preQuery, scope_bound bound, Session.commit,
      Session.load, KeepsTenant]
    rw [← query_carried_iff (unique modelName) operation]
    exact stored_carried session modelName _
  | aggregate modelName pipeline =>
    simp only [exec, preAggregate, scope_bound bound]
    exact ⟨fun _ => trivial, fun _ => silent⟩
  | create modelName document =>
    refine ⟨fun _ => trivial, fun _ => ?_⟩
    simp only [exec]
    cases validated : validateEach ambient modelName (schemas modelName) [document] with
    | error failure => exact silent
    | ok stamped =>
      exact (stored_carried session modelName _).mpr (batch modelName [document] stamped validated)
  | save handle changes =>
    simp only [KeepsTenant]
    cases held : session.loaded[handle]? with
    | none =>
      simp only [exec, held]
      exact ⟨fun _ => by simp, fun _ => silent⟩
    | some entry =>
      obtain ⟨modelName, loaded⟩ := entry
      cases stamp : preValidate ambient modelName (assign loaded changes) with
      | error message =>
        simp only [exec, held, stamp]
        refine ⟨fun _ => ?_, fun _ => silent⟩
        rintro _ _ current _ _ ⟨⟩ accepted
        simp [stamp] at accepted
      | ok current =>
        by_cases valid : (schemas modelName).validates current = true
        · cases lookup : (session.database modelName).find?
              (fun held => decide (held.id = loaded.id)) with
          | none =>
            simp only [exec, held, stamp, valid, if_true, lookup]
            refine ⟨fun _ => ?_, fun _ => silent⟩
            rintro _ _ _ stored _ ⟨⟩ _ _ found
            simp [lookup] at found
          | some stored =>
            cases written : writeOne (schemas modelName).uniqueIndexes
                (session.database modelName) (saved stored loaded current changes) with
            | error refused =>
              simp only [exec, held, stamp, valid, if_true, lookup, written]
              refine ⟨fun _ => ?_, fun _ => silent⟩
              rintro _ _ _ _ updated ⟨⟩ again _ found accepted
              obtain rfl : current = _ := Except.ok.inj (stamp.symm.trans again)
              obtain rfl : stored = _ := Option.some.inj (lookup.symm.trans found)
              simp [written] at accepted
            | ok updated =>
              simp only [exec, held, stamp, valid, if_true, lookup, written]
              refine (stored_carried session modelName updated).trans ?_
              rw [saved_carried_iff bound (unique modelName) stamp lookup written]
              constructor
              · rintro kept _ _ _ _ _ ⟨⟩ again _ found _
                obtain rfl : current = _ := Except.ok.inj (stamp.symm.trans again)
                obtain rfl : stored = _ := Option.some.inj (lookup.symm.trans found)
                exact kept
              · intro kept
                exact kept modelName loaded current stored updated rfl stamp valid lookup written
        · simp only [exec, held, stamp, valid, Bool.false_eq_true, if_false]
          refine ⟨fun _ => ?_, fun _ => silent⟩
          rintro _ _ other _ _ ⟨⟩ again accepted
          obtain rfl : current = other := Except.ok.inj (stamp.symm.trans again)
          exact False.elim (valid accepted)
  | insertMany modelName documents =>
    refine ⟨fun _ => trivial, fun _ => ?_⟩
    simp only [exec]
    cases prepared : preInsertMany ambient documents with
    | error message => exact silent
    | ok stamped =>
      cases validated : validateEach ambient modelName (schemas modelName) stamped with
      | error failure => simpa only [validated] using silent
      | ok accepted =>
        simp only [validated]
        exact (stored_carried session modelName _).mpr
          (batch modelName stamped accepted validated)

/-- The session of an institute with one user. -/
def oneUser : Session := opened (userDatabase [userRecord "1" "institute-a" "Alice"])

/-- The identities of a session with one user are unique. -/
theorem one_user_unique (modelName : String) : UniqueIds (oneUser.database modelName) := by
  by_cases users : modelName = "User"
  · subst users
    simp [oneUser, opened, userDatabase, UniqueIds]
  · simp [oneUser, opened, userDatabase, users, UniqueIds]

/-- The condition at a save of the user under another name, which meets it, and at an
update that hands the user over, which does not. -/
theorem one_user_ownership :
    KeepsTenant "institute-a" instituteSchemas (some { tenantId := some "institute-a" }) oneUser
        (.query "User" (.updateOne [] [.set "name" (.string "Eve")] none)) ∧
      ∀ modelName, Carried "institute-a" (oneUser.database modelName)
        ((exec instituteSchemas (some { tenantId := some "institute-a" }) oneUser
          (.query "User" (.updateOne [] [.set "name" (.string "Eve")] none))).1.database
            modelName) := by
  have keeps : KeepsTenant "institute-a" instituteSchemas
      (some { tenantId := some "institute-a" }) oneUser
      (.query "User" (.updateOne [] [.set "name" (.string "Eve")] none)) := by
    refine ⟨?_, ?_⟩
    · intro document _ changed updated _ _ operator member
      obtain rfl : operator = .set "name" (.string "Eve") := by simpa using member
      intro same
      exact absurd same (by decide)
    · intro _ candidate updated inserted
      simp at inserted
  exact ⟨keeps, (ownership_iff instituteSchemas _ "institute-a"
    (bound_run "institute-a" (by decide)) oneUser one_user_unique _).mpr keeps⟩

/-- An update that sets the tenant path hands the user to another institute, and a
replacement without it leaves the user with none. -/
theorem payload_moves_user :
    ¬ Carried "institute-a" (oneUser.database "User")
        ((exec instituteSchemas (some { tenantId := some "institute-a" }) oneUser
          (.query "User" (.updateOne [] [.set "tenantId" (.string "institute-b")] none))
            ).1.database "User") ∧
      ¬ Carried "institute-a" (oneUser.database "User")
        ((exec instituteSchemas (some { tenantId := some "institute-a" }) oneUser
          (.query "User" (.replaceOne [] (fun _ => none) none))).1.database "User") := by
  have refuted (after : List Document)
      (lost : after.all (own "institute-a") = false) :
      ¬ Carried "institute-a" (oneUser.database "User") after := by
    intro carried
    have all : after.all (own "institute-a") = true := by
      rw [List.all_eq_true]
      intro document final
      by_cases before : document ∈ oneUser.database "User"
      · obtain rfl : document = userRecord "1" "institute-a" "Alice" := by
          simpa [oneUser, opened, userDatabase] using before
        decide
      · exact carried document final before
    simp [lost] at all
  exact ⟨refuted _ (by decide), refuted _ (by decide)⟩

end TenantOwnership

end CoachingApi
