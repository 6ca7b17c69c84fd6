import CoachingApi.Common.TenantOperations
import CoachingApi.Library.Records
import CoachingApi.Shared.Enums

/-!
# Typed models under the tenant plugin

The services read and write records of fixed schemas. A model says how a record
names its identity and tenant, which stored records its unique indexes compare with
it, which path its validators refuse, and how a save merges the modified paths of a
document in memory into the stored one. Reads are confined by the plugin's scope
decision, creations and saves pass its stamp decision. These are the decisions that the
hooks of documents carry too.
-/

namespace CoachingApi

open DocumentStore TenantContextStore TenantPlugin

/-- What a service call throws. -/
inductive Thrown where
  | badRequest (message : String)
  | notFound (message : String)
  | unauthorized (message : String)
  | forbidden (message : String)
  | conflict (message : String)
  | error (message : String)
  | validation (path : String)
  | documentNotFound
  | duplicateKey
  | storage
  deriving DecidableEq

/-- The identity a text names, or the casting error of a query on `_id`. -/
def castId (modelName text : String) : Except Thrown ObjectId :=
  match ObjectId.cast text with
  | some id => .ok id
  | none =>
    .error (.error (s!"Cast to ObjectId failed for value \"{text}\" (type string) " ++
      s!"at path \"_id\" for model \"{modelName}\""))

/-- A text casts to the identity the ODM reads from it. -/
theorem cast_id_ok {modelName text : String} {id : ObjectId} :
    castId modelName text = .ok id ↔ ObjectId.cast text = some id := by
  unfold castId
  cases ObjectId.cast text with
  | none => simp
  | some found => simp

/-- A model whose schema carries the tenant plugin. -/
class TenantModel (α : Type) where
  modelName : String
  id : α → ObjectId
  tenantId : α → String
  withTenantId : String → α → α
  /-- A unique index other than that of `_id` relates a stored record to a candidate. -/
  clashes : α → α → Bool
  /-- The first path whose validators refuse the record. -/
  refusedPath : α → Option String
  /-- The stored record with the paths of the loaded document that are modified in the
  current one. -/
  writeBack : (loaded current stored : α) → α
  with_tenant_id : ∀ tenant record, tenantId (withTenantId tenant record) = tenant
  with_tenant_same : ∀ record, withTenantId (tenantId record) record = record
  with_tenant_keeps : ∀ tenant record, id (withTenantId tenant record) = id record
  write_back_keeps : ∀ loaded current stored, id (writeBack loaded current stored) = id stored

/-- A path's stored value after a save: written when it was modified. -/
def written {β : Type} [DecidableEq β] (loaded current stored : β) : β :=
  if current = loaded then stored else current

/-- A path nobody modified keeps its stored value. -/
@[simp] theorem written_same {β : Type} [DecidableEq β] (loaded stored : β) :
    written loaded loaded stored = stored := by simp [written]

/-- A modified path is written. -/
theorem written_changed {β : Type} [DecidableEq β] {loaded current : β} (stored : β)
    (changed : current ≠ loaded) : written loaded current stored = current := if_neg changed

/-- A save onto the document as it was loaded stores what is in memory. -/
@[simp] theorem written_current {β : Type} [DecidableEq β] (loaded current : β) :
    written loaded current loaded = current := by
  by_cases same : current = loaded <;> simp [written, same]

/-- Writing the value that is stored stores it. -/
@[simp] theorem written_settled {β : Type} [DecidableEq β] (loaded current : β) :
    written loaded current current = current := by
  by_cases same : current = loaded <;> simp [written, same]

namespace TenantModel

variable {α : Type} [TenantModel α]

/-- A record the scope lets a query see. -/
def visible (scope : Option String) (record : α) : Bool :=
  match scope with
  | none => true
  | some tenant => decide (tenantId record = tenant)

/-- `Model.find`. -/
def find (ambient : Ambient) (matching : α → Bool) (rows : List α) : Except Thrown (List α) :=
  match queryScope ambient "query" (modelName α) with
  | .error message => .error (.error message)
  | .ok scope => .ok (rows.filter (fun record => visible scope record && matching record))

/-- `Model.findOne`. -/
def findOne (ambient : Ambient) (matching : α → Bool) (rows : List α) : Except Thrown (Option α) :=
  match queryScope ambient "query" (modelName α) with
  | .error message => .error (.error message)
  | .ok scope => .ok (rows.find? (fun record => visible scope record && matching record))

/-- `Model.aggregate` of a pipeline that reads every record the scope lets it see. -/
def aggregate {β : Type} (ambient : Ambient) (pipeline : List α → List β) (rows : List α) :
    Except Thrown (List β) :=
  match queryScope ambient "aggregation" (modelName α) with
  | .error message => .error (.error message)
  | .ok scope => .ok (pipeline (rows.filter (visible scope)))

/-- `Model.findById`, which is a `findOne` on `_id`. -/
def findById (ambient : Ambient) (target : ObjectId) (rows : List α) : Except Thrown (Option α) :=
  findOne ambient (fun record => decide (id record = target)) rows

/-- `Model.findById` of a text: the scope is settled before the text is cast. -/
def findByText (ambient : Ambient) (text : String) (rows : List α) : Except Thrown (Option α) :=
  match queryScope ambient "query" (modelName α) with
  | .error message => .error (.error message)
  | .ok _ =>
    match castId (modelName α) text with
    | .error thrown => .error thrown
    | .ok target => findById ambient target rows

/-- `Model.findById` of what a record holds as a reference, of which a text is cast. -/
def findByReference (ambient : Ambient) (reference : Reference) (rows : List α) :
    Except Thrown (Option α) :=
  match reference with
  | .text given => findByText ambient given rows
  | .id given => findById ambient given rows

/-- The validation hook and the validators. -/
def validate (ambient : Ambient) (record : α) : Except Thrown α :=
  match stampTenant ambient (modelName α) (some (tenantId record)) with
  | .error message => .error (.error message)
  | .ok tenant =>
    match refusedPath (withTenantId tenant record) with
    | some path => .error (.validation path)
    | none => .ok (withTenantId tenant record)

/-- `Model.create`: the stored record, and the table with it. -/
def create (ambient : Ambient) (record : α) (rows : List α) : Except Thrown (α × List α) :=
  match validate ambient record with
  | .error thrown => .error thrown
  | .ok stamped =>
    if rows.any (fun stored => decide (id stored = id stamped) || clashes stored stamped) then
      .error .duplicateKey
    else .ok (stamped, rows ++ [stamped])

/-- `document.save()` of a stored document: an update by `_id` of the modified paths.
The unique indexes compare the result with other documents only. -/
def save (ambient : Ambient) (loaded current : α) (rows : List α) : Except Thrown (α × List α) :=
  match validate ambient current with
  | .error thrown => .error thrown
  | .ok stamped =>
    match Records.lookup id (id loaded) rows with
    | none => .error .documentNotFound
    | some stored =>
      if rows.any (fun other => decide (id other ≠ id loaded) &&
          clashes other (writeBack loaded stamped stored)) then .error .duplicateKey
      else .ok (stamped, Records.modify id (id loaded) (writeBack loaded stamped) rows)

/-- In a tenant's context a read sees that tenant's records. -/
theorem find_one_bound {ambient : Ambient} {tenant : String} (bound : Bound ambient tenant)
    (matching : α → Bool) (rows : List α) :
    findOne ambient matching rows =
      .ok (rows.find? (fun record => decide (tenantId record = tenant) && matching record)) := by
  simp only [findOne, scope_bound bound, visible]

/-- In a tenant's context a read of many sees that tenant's records. -/
theorem find_bound {ambient : Ambient} {tenant : String} (bound : Bound ambient tenant)
    (matching : α → Bool) (rows : List α) :
    find ambient matching rows =
      .ok (rows.filter (fun record => decide (tenantId record = tenant) && matching record)) := by
  simp only [find, scope_bound bound, visible]

/-- In a tenant's context an aggregation sees that tenant's records. -/
theorem aggregate_bound {β : Type} {ambient : Ambient} {tenant : String}
    (bound : Bound ambient tenant) (pipeline : List α → List β) (rows : List α) :
    aggregate ambient pipeline rows =
      .ok (pipeline (rows.filter (fun record => decide (tenantId record = tenant)))) := by
  simp only [aggregate, scope_bound bound]
  rfl

/-- Without a tenant and without bypass no read runs. -/
theorem find_one_unbound {ambient : Ambient} (unbound : Unbound ambient) (matching : α → Bool)
    (rows : List α) : ∃ thrown, findOne ambient matching rows = .error thrown := by
  obtain ⟨message, scope⟩ := scope_unbound unbound "query" (modelName α)
  exact ⟨.error message, by simp only [findOne, scope]⟩

/-- Without a tenant and without bypass nothing is created. -/
theorem create_unbound {ambient : Ambient} (unbound : Unbound ambient) (record : α)
    (rows : List α) : ∃ thrown, create ambient record rows = .error thrown := by
  obtain ⟨message, stamp⟩ := stamp_unbound unbound (modelName α) (some (tenantId record))
  exact ⟨.error message, by simp only [create, validate, stamp]⟩

/-- What a read finds is stored and matches. -/
theorem find_one_some {ambient : Ambient} {matching : α → Bool} {rows : List α} {record : α}
    (found : findOne ambient matching rows = .ok (some record)) :
    record ∈ rows ∧ matching record = true := by
  unfold findOne at found
  cases scope : queryScope ambient "query" (modelName α) with
  | error message => simp [scope] at found
  | ok confined =>
    simp only [scope, Except.ok.injEq] at found
    have tested := List.find?_some found
    simp only [Bool.and_eq_true] at tested
    exact ⟨List.mem_of_find?_eq_some found, tested.2⟩

/-- What a read in a tenant's context finds is that tenant's. -/
theorem find_one_owned {ambient : Ambient} {tenant : String} (bound : Bound ambient tenant)
    {matching : α → Bool} {rows : List α} {record : α}
    (found : findOne ambient matching rows = .ok (some record)) :
    record ∈ rows ∧ tenantId record = tenant ∧ matching record = true := by
  rw [find_one_bound bound, Except.ok.injEq] at found
  have tested := List.find?_some found
  simp only [Bool.and_eq_true, decide_eq_true_eq] at tested
  exact ⟨List.mem_of_find?_eq_some found, tested.1, tested.2⟩

/-- A read in a tenant's context that finds nothing has no record of that tenant to find. -/
theorem find_one_absent {ambient : Ambient} {tenant : String} (bound : Bound ambient tenant)
    {matching : α → Bool} {rows : List α} (absent : findOne ambient matching rows = .ok none)
    {record : α} (stored : record ∈ rows) (owned : tenantId record = tenant) :
    matching record = false := by
  rw [find_one_bound bound, Except.ok.injEq, List.find?_eq_none] at absent
  simpa [owned] using absent record stored

/-- In a tenant's context a stored document of that tenant is found by its identity. -/
theorem find_by_id_stored {ambient : Ambient} {tenant : String} (bound : Bound ambient tenant)
    {rows : List α} (distinct : Records.Distinct id rows) {record : α} (stored : record ∈ rows)
    (owned : tenantId record = tenant) :
    findById ambient (id record) rows = .ok (some record) := by
  rw [findById, find_one_bound bound, Except.ok.injEq]
  cases found : rows.find? (fun other =>
      decide (tenantId other = tenant) && decide (id other = id record)) with
  | none =>
    have missed := List.find?_eq_none.mp found record stored
    simp [owned] at missed
  | some other =>
    have tested := List.find?_some found
    simp only [Bool.and_eq_true, decide_eq_true_eq] at tested
    rw [Records.same_record distinct (List.mem_of_find?_eq_some found) stored tested.2]

/-- In a tenant's context a read by text casts it and reads by the identity. -/
theorem find_by_text_bound {ambient : Ambient} {tenant : String} (bound : Bound ambient tenant)
    (text : String) (rows : List α) :
    findByText ambient text rows =
      match castId (modelName α) text with
      | .error thrown => .error thrown
      | .ok target => findById ambient target rows := by
  simp only [findByText, scope_bound bound]

/-- In a tenant's context a read by a reference reads by the identity it casts to. -/
theorem find_by_reference_bound {ambient : Ambient} {tenant : String}
    (bound : Bound ambient tenant) {reference : Reference} {target : ObjectId}
    (casts : reference.cast = some target) (rows : List α) :
    findByReference ambient reference rows = findById ambient target rows := by
  cases reference with
  | text given =>
    have named : castId (modelName α) given = .ok target := cast_id_ok.mpr casts
    simp only [findByReference, find_by_text_bound bound, named]
  | id given =>
    obtain rfl : given = target := Option.some.inj casts
    rfl

/-- What a read by text in a tenant's context finds is that tenant's, under the identity the
text casts to. -/
theorem find_by_text_owned {ambient : Ambient} {tenant : String} (bound : Bound ambient tenant)
    {text : String} {rows : List α} {record : α}
    (found : findByText ambient text rows = .ok (some record)) :
    record ∈ rows ∧ tenantId record = tenant ∧ ObjectId.cast text = some (id record) := by
  rw [find_by_text_bound bound] at found
  cases casts : castId (modelName α) text with
  | error thrown => simp [casts] at found
  | ok target =>
    simp only [casts] at found
    obtain ⟨stored, owned, same⟩ := find_one_owned bound found
    refine ⟨stored, owned, ?_⟩
    rw [of_decide_eq_true same]
    exact cast_id_ok.mp casts

/-- A read by text in a tenant's context that finds nothing has no record of that tenant under
an identity the text casts to. -/
theorem find_by_text_absent {ambient : Ambient} {tenant : String} (bound : Bound ambient tenant)
    {text : String} {rows : List α}
    (absent : ∀ record, findByText ambient text rows ≠ .ok (some record)) {record : α}
    (stored : record ∈ rows) (owned : tenantId record = tenant) :
    ObjectId.cast text ≠ some (id record) := by
  intro casts
  have target : castId (modelName α) text = .ok (id record) := cast_id_ok.mpr casts
  rw [find_by_text_bound bound, target] at absent
  simp only [findById, find_one_bound bound, ne_eq, Except.ok.injEq] at absent
  have missing : rows.find? (fun other =>
      decide (tenantId other = tenant) && decide (id other = id record)) = none :=
    Option.eq_none_iff_forall_ne_some.mpr absent
  have missed := List.find?_eq_none.mp missing record stored
  simp [owned] at missed

/-- Without a tenant and without bypass no read by text runs. -/
theorem find_by_text_unbound {ambient : Ambient} (unbound : Unbound ambient) (text : String)
    (rows : List α) : ∃ thrown, findByText ambient text rows = .error thrown := by
  obtain ⟨message, scope⟩ := scope_unbound unbound "query" (modelName α)
  exact ⟨.error message, by simp only [findByText, scope]⟩

/-- Under bypass a read sees every record. -/
theorem find_one_bypass (actor : String) (matching : α → Bool) (rows : List α) :
    findOne (some { bypass := some true, bypassActor := some actor }) matching rows =
      .ok (rows.find? matching) := by
  simp [findOne, queryScope, visible]

/-- In a tenant's context a record of that tenant passes the stamp as it is. -/
theorem validate_bound {ambient : Ambient} {tenant : String} (bound : Bound ambient tenant)
    {record : α} (owned : tenantId record = tenant) :
    validate ambient record =
      match refusedPath record with
      | some path => .error (.validation path)
      | none => .ok record := by
  have stamp : stampTenant ambient (modelName α) (some (tenantId record)) = .ok (tenantId record) := by
    rw [owned]
    exact stamp_accepts bound _ _ (Or.inr rfl)
  simp only [validate, stamp, with_tenant_same]

/-- In a tenant's context a record whose tenant is not set is stamped with that tenant
before its validators run. -/
theorem validate_stamped {ambient : Ambient} {tenant : String} (bound : Bound ambient tenant)
    {record : α} (unset : tenantId record = "") :
    validate ambient record =
      match refusedPath (withTenantId tenant record) with
      | some path => .error (.validation path)
      | none => .ok (withTenantId tenant record) := by
  have blank : present (some (tenantId record)) = none := by simp [present, unset]
  have stamp : stampTenant ambient (modelName α) (some (tenantId record)) = .ok tenant := by
    simp only [stampTenant, bound.enforced, bound.tenant, present_nonempty bound.nonempty,
      Bool.false_eq_true, if_false, blank]
  simp only [validate, stamp]

/-- In a tenant's context a record whose tenant is not set is stamped with that tenant. -/
theorem validate_unset {ambient : Ambient} {tenant : String} (bound : Bound ambient tenant)
    {record : α} (unset : tenantId record = "")
    (accepted : refusedPath (withTenantId tenant record) = none) :
    validate ambient record = .ok (withTenantId tenant record) := by
  rw [validate_stamped bound unset, accepted]

/-- Under bypass a record whose tenant is set passes the stamp as it is. -/
theorem validate_bypass (actor : String) {record : α} (named : tenantId record ≠ "") :
    validate (some { bypass := some true, bypassActor := some actor }) record =
      match refusedPath record with
      | some path => .error (.validation path)
      | none => .ok record := by
  have stamp : stampTenant (some { bypass := some true, bypassActor := some actor }) (modelName α)
      (some (tenantId record)) = .ok (tenantId record) := by
    simp only [stampTenant, is_bypassed_bypass, if_true, present_nonempty named]
  simp only [validate, stamp, with_tenant_same]

/-- Validation changes nothing but the tenant. -/
theorem validate_stamps {ambient : Ambient} {record stamped : α}
    (valid : validate ambient record = .ok stamped) :
    ∃ tenant, stamped = withTenantId tenant record ∧ refusedPath stamped = none := by
  unfold validate at valid
  cases stamp : stampTenant ambient (modelName α) (some (tenantId record)) with
  | error message => simp [stamp] at valid
  | ok chosen =>
    cases refused : refusedPath (withTenantId chosen record) with
    | some path => simp [stamp, refused] at valid
    | none =>
      simp only [stamp, refused, Except.ok.injEq] at valid
      exact ⟨chosen, valid.symm, valid ▸ refused⟩

/-- A refused validation names its reason; it is no duplicate, no storage failure and no bad
request. -/
theorem validate_refused {ambient : Ambient} {record : α} {thrown : Thrown}
    (refused : validate ambient record = .error thrown) :
    thrown ≠ .duplicateKey ∧ thrown ≠ .storage ∧ ∀ message, thrown ≠ .badRequest message := by
  unfold validate at refused
  cases stamp : stampTenant ambient (modelName α) (some (tenantId record)) with
  | error message =>
    simp only [stamp, Except.error.injEq] at refused
    simp [← refused]
  | ok chosen =>
    cases invalid : refusedPath (withTenantId chosen record) with
    | some path =>
      simp only [stamp, invalid, Except.error.injEq] at refused
      simp [← refused]
    | none => simp [stamp, invalid] at refused

/-- What validates in a tenant's context is that tenant's, under its own identity. -/
theorem validate_ok {ambient : Ambient} {tenant : String} (bound : Bound ambient tenant)
    {record stamped : α} (valid : validate ambient record = .ok stamped) :
    stamped = withTenantId tenant record ∧ refusedPath stamped = none := by
  unfold validate at valid
  cases stamp : stampTenant ambient (modelName α) (some (tenantId record)) with
  | error message => simp [stamp] at valid
  | ok chosen =>
    have same := stamp_bound bound _ _ stamp
    cases refused : refusedPath (withTenantId chosen record) with
    | some path => simp [stamp, refused] at valid
    | none =>
      simp only [stamp, refused, Except.ok.injEq] at valid
      rw [← valid, same]
      exact ⟨rfl, same ▸ refused⟩

/-- A creation appends the stamped record, under an identity and index keys that no
stored record holds. -/
theorem create_ok {ambient : Ambient} {record stamped : α} {rows updated : List α}
    (created : create ambient record rows = .ok (stamped, updated)) :
    validate ambient record = .ok stamped ∧ updated = rows ++ [stamped] ∧
      ∀ stored ∈ rows, id stored ≠ id stamped ∧ clashes stored stamped = false := by
  unfold create at created
  cases valid : validate ambient record with
  | error thrown => simp [valid] at created
  | ok accepted =>
    simp only [valid] at created
    split at created
    · simp at created
    · rename_i free
      obtain ⟨rfl, rfl⟩ : accepted = stamped ∧ rows ++ [accepted] = updated := by
        simpa using created
      refine ⟨rfl, rfl, ?_⟩
      simpa [not_or] using free

/-- A record that validates is created when no stored record holds its identity or its
index keys. -/
theorem create_accepted {ambient : Ambient} {record stamped : α} {rows : List α}
    (valid : validate ambient record = .ok stamped)
    (free : ∀ stored ∈ rows, id stored ≠ id stamped ∧ clashes stored stamped = false) :
    create ambient record rows = .ok (stamped, rows ++ [stamped]) := by
  have unclaimed : rows.any (fun stored =>
      decide (id stored = id stamped) || clashes stored stamped) = false := by
    rw [List.any_eq_false]
    intro stored member
    simp [free stored member]
  simp only [create, valid, unclaimed, Bool.false_eq_true, if_false]

/-- A document that validates is saved when it is stored and no other document holds its
index keys. -/
theorem save_accepted {ambient : Ambient} {loaded current stamped stored : α} {rows : List α}
    (valid : validate ambient current = .ok stamped)
    (found : Records.lookup id (id loaded) rows = some stored)
    (free : ∀ other ∈ rows, id other ≠ id loaded →
      clashes other (writeBack loaded stamped stored) = false) :
    save ambient loaded current rows =
      .ok (stamped, Records.modify id (id loaded) (writeBack loaded stamped) rows) := by
  have unclaimed : rows.any (fun other => decide (id other ≠ id loaded) &&
      clashes other (writeBack loaded stamped stored)) = false := by
    rw [List.any_eq_false]
    intro other member
    by_cases same : id other = id loaded
    · simp [same]
    · simp [same, free other member same]
  simp only [save, valid, found, unclaimed, Bool.false_eq_true, if_false]

/-- In a tenant's context a document of that tenant that is stored as it was loaded and
passes its validators is saved as it is in memory. -/
theorem save_loaded {ambient : Ambient} {tenant : String} (bound : Bound ambient tenant)
    {loaded current : α} {rows : List α} (distinct : Records.Distinct id rows)
    (stored : loaded ∈ rows) (owned : tenantId current = tenant)
    (accepted : refusedPath current = none) (whole : writeBack loaded current loaded = current)
    (free : ∀ other ∈ rows, id other ≠ id loaded → clashes other current = false) :
    save ambient loaded current rows =
      .ok (current, Records.modify id (id loaded) (fun _ => current) rows) := by
  have valid : validate ambient current = .ok current := by
    rw [validate_bound bound owned, accepted]
  have unclaimed : ∀ other ∈ rows, id other ≠ id loaded →
      clashes other (writeBack loaded current loaded) = false := by
    rw [whole]
    exact free
  have rewritten : Records.modify id (id loaded) (writeBack loaded current) rows =
      Records.modify id (id loaded) (fun _ => current) rows :=
    Records.modify_agree (fun other member same => by
      rw [Records.same_record distinct member stored same, whole])
  rw [save_accepted valid (Records.lookup_stored distinct stored) unclaimed, rewritten]

/-- A save rewrites the stored document under the loaded identity, and no other
document holds its index keys. -/
theorem save_ok {ambient : Ambient} {loaded current stamped : α} {rows updated : List α}
    (saved : save ambient loaded current rows = .ok (stamped, updated)) :
    validate ambient current = .ok stamped ∧
      updated = Records.modify id (id loaded) (writeBack loaded stamped) rows ∧
      ∃ stored, Records.lookup id (id loaded) rows = some stored ∧
        ∀ other ∈ rows, id other ≠ id loaded →
          clashes other (writeBack loaded stamped stored) = false := by
  unfold save at saved
  cases valid : validate ambient current with
  | error thrown => simp [valid] at saved
  | ok accepted =>
    cases found : Records.lookup id (id loaded) rows with
    | none => simp [valid, found] at saved
    | some stored =>
      simp only [valid, found] at saved
      split at saved
      · simp at saved
      · rename_i free
        obtain ⟨rfl, rfl⟩ : accepted = stamped ∧
            Records.modify id (id loaded) (writeBack loaded accepted) rows = updated := by
          simpa using saved
        refine ⟨rfl, rfl, stored, rfl, ?_⟩
        simpa using free

/-- In a tenant's context a save stores the stamp of that tenant. -/
theorem save_bound {ambient : Ambient} {tenant : String} (bound : Bound ambient tenant)
    {loaded current stamped : α} {rows updated : List α}
    (saved : save ambient loaded current rows = .ok (stamped, updated)) :
    stamped = withTenantId tenant current ∧
      updated = Records.modify id (id loaded) (writeBack loaded stamped) rows :=
  ⟨(validate_ok bound (save_ok saved).1).1, (save_ok saved).2.1⟩

/-- A save is refused as a duplicate only when another document holds the index keys. -/
theorem save_duplicate {ambient : Ambient} {loaded current : α} {rows : List α}
    (refused : save ambient loaded current rows = .error .duplicateKey) :
    ∃ stamped stored other, validate ambient current = .ok stamped ∧
      Records.lookup id (id loaded) rows = some stored ∧ other ∈ rows ∧ id other ≠ id loaded ∧
        clashes other (writeBack loaded stamped stored) = true := by
  unfold save at refused
  cases valid : validate ambient current with
  | error thrown =>
    simp only [valid, Except.error.injEq] at refused
    exact False.elim ((validate_refused valid).1 refused)
  | ok stamped =>
    cases found : Records.lookup id (id loaded) rows with
    | none => simp [valid, found] at refused
    | some stored =>
      simp only [valid, found] at refused
      split at refused
      · rename_i taken
        obtain ⟨other, member, clash⟩ := List.any_eq_true.mp taken
        simp only [Bool.and_eq_true, decide_eq_true_eq] at clash
        exact ⟨stamped, stored, other, rfl, rfl, member, clash.1, clash.2⟩
      · simp at refused

/-- A refused creation is neither a storage failure nor a bad request. -/
theorem create_refused {ambient : Ambient} {record : α} {rows : List α} {thrown : Thrown}
    (refused : create ambient record rows = .error thrown) :
    thrown ≠ .storage ∧ ∀ message, thrown ≠ .badRequest message := by
  unfold create at refused
  cases valid : validate ambient record with
  | error reason =>
    simp only [valid, Except.error.injEq] at refused
    exact refused ▸ (validate_refused valid).2
  | ok stamped =>
    simp only [valid] at refused
    split at refused
    · simp only [Except.error.injEq] at refused
      simp [← refused]
    · simp at refused

/-- A refused save is not a storage failure. -/
theorem save_refused {ambient : Ambient} {loaded current : α} {rows : List α} {thrown : Thrown}
    (refused : save ambient loaded current rows = .error thrown) : thrown ≠ .storage := by
  unfold save at refused
  cases valid : validate ambient current with
  | error reason =>
    simp only [valid, Except.error.injEq] at refused
    exact refused ▸ (validate_refused valid).2.1
  | ok stamped =>
    cases found : Records.lookup id (id loaded) rows with
    | none =>
      simp only [valid, found, Except.error.injEq] at refused
      simp [← refused]
    | some stored =>
      simp only [valid, found] at refused
      split at refused
      · simp only [Except.error.injEq] at refused
        simp [← refused]
      · simp at refused

end TenantModel

end CoachingApi
