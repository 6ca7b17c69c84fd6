import CoachingApi.Common.TenantContext
import CoachingApi.Library.Collections

/-!
# The tenant plugin's hooks

Two decisions carry the whole plugin. `queryScope` settles which tenant a query or
an aggregation is confined to, and `stampTenant` settles which tenant a validated
document carries; each refuses to run when the context binds no tenant and no
bypass. The four hooks apply them to filters, pipelines, documents and batches.

The hooks are read as functions of the ambient context. Their registration on a
schema, casting of filter values and middleware ordering belong to the ODM.
-/

namespace CoachingApi

open DocumentStore TenantContextStore

namespace TenantPlugin

/-- The query middleware that carries a filter and is scoped. -/
def QUERY_HOOKS : List String :=
  ["find", "findOne", "findOneAndUpdate", "findOneAndDelete", "findOneAndReplace", "count",
    "countDocuments", "updateOne", "updateMany", "deleteOne", "deleteMany", "replaceOne"]

/-- A tenant that is set: an absent or empty one is falsy. -/
def present : Option String → Option String
  | some tenantId => if tenantId = "" then none else some tenantId
  | none => none

/-- The tenant a query is confined to, or no confinement under bypass. The refusal
names what ran and on which model. -/
def queryScope (ambient : Ambient) (kind modelName : String) : Except String (Option String) :=
  if isBypassed ambient then .ok none
  else
    match present (getTenantId ambient) with
    | none =>
      .error (s!"Tenant-scoped {kind} on \"{modelName}\" ran with no tenant context and no bypass. " ++
        "Refusing to run (fail-closed).")
    | some tenantId => .ok (some tenantId)

/-- The tenant a validated document carries. Under bypass it must be set already;
in a tenant's context an unset one is stamped and another tenant's is refused. -/
def stampTenant (ambient : Ambient) (modelName : String) (current : Option String) :
    Except String String :=
  if isBypassed ambient then
    match present current with
    | none => .error s!"Bypass save on \"{modelName}\" must set tenantId explicitly."
    | some held => .ok held
  else
    match present (getTenantId ambient) with
    | none => .error "Cannot save tenant document with no tenant context (fail-closed)."
    | some tenantId =>
      match present current with
      | none => .ok tenantId
      | some held =>
        if held = tenantId then .ok tenantId
        else
          .error (s!"Refusing to save document with tenantId \"{held}\" " ++
            s!"under context tenant \"{tenantId}\".")

/-- The document's tenant as its string-typed path reads it. -/
def tenantIdOf (document : Document) : Option String :=
  match document.get "tenantId" with
  | some (.string tenantId) => some tenantId
  | _ => none

/-- Query hook: force the tenant into the filter; a supplied one is overridden. -/
def preQuery (ambient : Ambient) (modelName : String) (filter : Filter) : Except String Filter :=
  match queryScope ambient "query" modelName with
  | .error message => .error message
  | .ok none => .ok filter
  | .ok (some tenantId) => .ok (filter.withKey "tenantId" (.string tenantId))

/-- An aggregation stage: a transformation of the row stream. -/
abbrev Stage := List Row → List Row

/-- The stage `{ $match: { [path]: value } }`. -/
def matchStage (path : String) (value : Value) : Stage :=
  fun rows => rows.filter (fun row => (row path).getD .null == value)

/-- Aggregation hook: prepend a match on the tenant. -/
def preAggregate (ambient : Ambient) (modelName : String) (pipeline : List Stage) :
    Except String (List Stage) :=
  match queryScope ambient "aggregation" modelName with
  | .error message => .error message
  | .ok none => .ok pipeline
  | .ok (some tenantId) => .ok (matchStage "tenantId" (.string tenantId) :: pipeline)

/-- Validation hook: stamp the document before its required fields are checked. -/
def preValidate (ambient : Ambient) (modelName : String) (document : Document) :
    Except String Document :=
  match stampTenant ambient modelName (tenantIdOf document) with
  | .error message => .error message
  | .ok tenantId => .ok (document.put "tenantId" (some (.string tenantId)))

/-- Batch hook: stamp every document, whatever tenant it names. -/
def preInsertMany (ambient : Ambient) (documents : List Document) :
    Except String (List Document) :=
  if isBypassed ambient then .ok documents
  else
    match present (getTenantId ambient) with
    | none => .error "Cannot insertMany tenant documents with no tenant context."
    | some tenantId =>
      .ok (documents.map (fun document => document.put "tenantId" (some (.string tenantId))))

/-- An ambient context bound to a tenant: scoping is on and the tenant is set. -/
structure Bound (ambient : Ambient) (tenantId : String) : Prop where
  enforced : isBypassed ambient = false
  tenant : getTenantId ambient = some tenantId
  nonempty : tenantId ≠ ""

/-- An ambient context with neither a bypass nor a tenant that is set. -/
structure Unbound (ambient : Ambient) : Prop where
  enforced : isBypassed ambient = false
  absent : present (getTenantId ambient) = none

/-- Running under a tenant binds it. -/
theorem bound_run (tenantId : String) (nonempty : tenantId ≠ "") :
    Bound (some { tenantId := some tenantId }) tenantId := ⟨rfl, rfl, nonempty⟩

/-- A nonempty tenant is present. -/
theorem present_nonempty {tenantId : String} (nonempty : tenantId ≠ "") :
    present (some tenantId) = some tenantId := by simp [present, nonempty]

/-- A present tenant is the nonempty one supplied. -/
theorem present_some {supplied : Option String} {tenantId : String}
    (found : present supplied = some tenantId) : supplied = some tenantId ∧ tenantId ≠ "" := by
  cases supplied with
  | none => simp [present] at found
  | some held =>
    by_cases empty : held = ""
    · simp [present, empty] at found
    · simp only [present, if_neg empty, Option.some.injEq] at found
      exact ⟨congrArg some found, found ▸ empty⟩

/-- In a tenant's context every query is confined to that tenant. -/
theorem scope_bound {ambient : Ambient} {tenantId : String} (bound : Bound ambient tenantId)
    (kind modelName : String) : queryScope ambient kind modelName = .ok (some tenantId) := by
  simp [queryScope, bound.enforced, bound.tenant, present_nonempty bound.nonempty]

/-- In a tenant's context an accepted document carries that tenant. -/
theorem stamp_bound {ambient : Ambient} {tenantId stamped : String}
    (bound : Bound ambient tenantId) (modelName : String) (current : Option String)
    (accepted : stampTenant ambient modelName current = .ok stamped) : stamped = tenantId := by
  simp only [stampTenant, bound.enforced, bound.tenant, present_nonempty bound.nonempty,
    Bool.false_eq_true, if_false] at accepted
  cases held : present current with
  | none =>
    rw [held] at accepted
    exact (Except.ok.inj accepted).symm
  | some other =>
    rw [held] at accepted
    by_cases same : other = tenantId
    · simp only [same, if_true] at accepted
      exact (Except.ok.inj accepted).symm
    · simp [same] at accepted

/-- In a tenant's context a document of that tenant, or of none, is accepted. -/
theorem stamp_accepts {ambient : Ambient} {tenantId : String} (bound : Bound ambient tenantId)
    (modelName : String) (current : Option String)
    (compatible : current = none ∨ current = some tenantId) :
    stampTenant ambient modelName current = .ok tenantId := by
  simp only [stampTenant, bound.enforced, bound.tenant, present_nonempty bound.nonempty,
    Bool.false_eq_true, if_false]
  rcases compatible with rfl | rfl
  · rfl
  · simp [present_nonempty bound.nonempty]

/-- Without a tenant and without bypass no query has a scope. -/
theorem scope_unbound {ambient : Ambient} (unbound : Unbound ambient) (kind modelName : String) :
    ∃ message, queryScope ambient kind modelName = .error message := by
  simp [queryScope, unbound.enforced, unbound.absent]

/-- Without a tenant and without bypass no document is stamped. -/
theorem stamp_unbound {ambient : Ambient} (unbound : Unbound ambient) (modelName : String)
    (current : Option String) : ∃ message, stampTenant ambient modelName current = .error message := by
  simp [stampTenant, unbound.enforced, unbound.absent]

/-- Without a tenant and without bypass every hook refuses to run. -/
theorem unbound_refuses {ambient : Ambient} (unbound : Unbound ambient) (modelName : String) :
    (∀ filter, ∃ message, preQuery ambient modelName filter = .error message) ∧
      (∀ pipeline, ∃ message, preAggregate ambient modelName pipeline = .error message) ∧
      (∀ document, ∃ message, preValidate ambient modelName document = .error message) ∧
      (∀ documents, ∃ message, preInsertMany ambient documents = .error message) := by
  refine ⟨fun filter => ?_, fun pipeline => ?_, fun document => ?_, fun documents => ?_⟩
  · obtain ⟨message, scope⟩ := scope_unbound unbound "query" modelName
    exact ⟨message, by simp only [preQuery, scope]⟩
  · obtain ⟨message, scope⟩ := scope_unbound unbound "aggregation" modelName
    exact ⟨message, by simp only [preAggregate, scope]⟩
  · obtain ⟨message, stamp⟩ := stamp_unbound unbound modelName (tenantIdOf document)
    exact ⟨message, by simp only [preValidate, stamp]⟩
  · simp [preInsertMany, unbound.enforced, unbound.absent]

end TenantPlugin

end CoachingApi
