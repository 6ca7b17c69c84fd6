import CoachingApi.Schemas.Fees

/-!
# The platform's own collections

Institutes and the audit trail are not scoped by the tenant plugin. Queries by
subdomain pass the schema's setters, queries by identity cast their text. Writing an
audit entry never fails its caller: a refused entry is only logged. The unique indexes
and the validators of institutes and users are kept by every write that passes them.
Which assignments to a path of mixed type a save takes for modifications is the ODM's:
assignments that change the value are.
-/

namespace CoachingApi

/-- When an assignment to a path of mixed type counts as a modification: at least when it
changes the value. -/
structure MixedPath (β : Type) where
  modifies : (loaded assigned : β) → Bool
  changed : ∀ loaded assigned, assigned ≠ loaded → modifies loaded assigned = true

/-- Every assignment is a modification. -/
def MixedPath.always {β : Type} : MixedPath β := ⟨fun _ _ => true, fun _ _ _ => rfl⟩

/-- An assignment of an equal value is no modification. -/
def MixedPath.unlessEqual {β : Type} [DecidableEq β] : MixedPath β :=
  ⟨fun loaded assigned => decide (assigned ≠ loaded), fun _ _ changed => decide_eq_true changed⟩

namespace Tenant

/-- `findOne({ subdomain })`. -/
def findBySubdomain (toLowerCase : Text.CaseFolding) (subdomain : String) (tenants : List Tenant) :
    Option Tenant :=
  Records.lookup Tenant.subdomain (toLowerCase.canonical subdomain) tenants

/-- `findById`. -/
def findById (text : String) (tenants : List Tenant) : Except Thrown (Option Tenant) :=
  match castId "Tenant" text with
  | .error thrown => .error thrown
  | .ok id => .ok (Records.lookup Tenant.id id tenants)

/-- The first path whose validators refuse an institute. -/
def refusedPath (tenant : Tenant) : Option String :=
  firstRefused [(tenant.name = "", "name"), (tenant.subdomain = "", "subdomain")]

/-- `create`, after the setters. -/
def create (tenant : Tenant) (tenants : List Tenant) : Except Thrown (List Tenant) :=
  match tenant.refusedPath with
  | some path => .error (.validation path)
  | none =>
    if tenants.any (fun stored =>
        decide (stored.id = tenant.id ∨ stored.subdomain = tenant.subdomain)) then
      .error .duplicateKey
    else .ok (tenants ++ [tenant])

/-- `findByIdAndUpdate` with the new document as its answer. -/
def findByIdAndUpdate (text : String) (update : Tenant → Tenant) (tenants : List Tenant) :
    Except Thrown (Option Tenant × List Tenant) :=
  match castId "Tenant" text with
  | .error thrown => .error thrown
  | .ok id =>
    match Records.lookup Tenant.id id tenants with
    | none => .ok (none, tenants)
    | some tenant => .ok (some (update tenant), Records.modify Tenant.id id update tenants)

/-- The stored institute with the paths of the loaded document that are modified in the
current one. The flags are a path of mixed type and are written as a whole. -/
def writeBack (mixed : MixedPath Flags) (loaded current stored : Tenant) : Tenant :=
  { stored with
    name := written loaded.name current.name stored.name
    subdomain := written loaded.subdomain current.subdomain stored.subdomain
    planId := written loaded.planId current.planId stored.planId
    timezone := written loaded.timezone current.timezone stored.timezone
    status := written loaded.status current.status stored.status
    flags := if mixed.modifies loaded.flags current.flags then current.flags else stored.flags }

/-- `document.save()` of a stored institute: an update by `_id` of the modified paths, with no
check of the document's version. -/
def save (mixed : MixedPath Flags) (loaded current : Tenant) (tenants : List Tenant) :
    Except Thrown (List Tenant) :=
  match current.refusedPath with
  | some path => .error (.validation path)
  | none =>
    match Records.lookup Tenant.id loaded.id tenants with
    | none => .error .documentNotFound
    | some stored =>
      if tenants.any (fun other => decide (other.id ≠ loaded.id ∧
          other.subdomain = (writeBack mixed loaded current stored).subdomain)) then
        .error .duplicateKey
      else .ok (Records.modify Tenant.id loaded.id (writeBack mixed loaded current) tenants)

/-- An institute found by subdomain is stored under the canonical subdomain. -/
theorem find_by_subdomain_some {toLowerCase : Text.CaseFolding} {subdomain : String}
    {tenants : List Tenant} {tenant : Tenant}
    (found : findBySubdomain toLowerCase subdomain tenants = some tenant) :
    tenant ∈ tenants ∧ tenant.subdomain = toLowerCase.canonical subdomain :=
  Records.lookup_some found

/-- An institute passes its validators when its name and its subdomain are set. -/
theorem tenant_accepted {tenant : Tenant} :
    tenant.refusedPath = none ↔ tenant.name ≠ "" ∧ tenant.subdomain ≠ "" := by
  simp [refusedPath, first_refused_none]

/-- A creation appends the institute, under an identity and a subdomain of its own. -/
theorem create_ok {tenant : Tenant} {tenants updated : List Tenant}
    (created : create tenant tenants = .ok updated) :
    tenant.refusedPath = none ∧ updated = tenants ++ [tenant] ∧
      ∀ stored ∈ tenants, stored.id ≠ tenant.id ∧ stored.subdomain ≠ tenant.subdomain := by
  unfold create at created
  cases valid : tenant.refusedPath with
  | some path => simp [valid] at created
  | none =>
    simp only [valid] at created
    split at created
    · simp at created
    · rename_i free
      refine ⟨rfl, (Except.ok.inj created).symm, ?_⟩
      simpa [not_or] using free

/-- A valid institute under a new identity and subdomain is created. -/
theorem create_accepted {tenant : Tenant} {tenants : List Tenant}
    (valid : tenant.refusedPath = none)
    (free : ∀ stored ∈ tenants, stored.id ≠ tenant.id ∧ stored.subdomain ≠ tenant.subdomain) :
    create tenant tenants = .ok (tenants ++ [tenant]) := by
  have unclaimed : tenants.any (fun stored =>
      decide (stored.id = tenant.id ∨ stored.subdomain = tenant.subdomain)) = false := by
    rw [List.any_eq_false]
    intro stored member
    simp [free stored member]
  simp only [create, valid, unclaimed, Bool.false_eq_true, if_false]

/-- A save that changed nothing but the flags writes at most the flags. -/
theorem write_back_flags (mixed : MixedPath Flags) (loaded stored : Tenant) (flags : Flags) :
    writeBack mixed loaded { loaded with flags := flags } stored =
      { stored with
        flags := if mixed.modifies loaded.flags flags then flags else stored.flags } := by
  simp [writeBack]

/-- With unique identities and subdomains a save of a stored, valid institute that changed
nothing but the flags succeeds. -/
theorem save_flags (mixed : MixedPath Flags) {loaded stored : Tenant} {tenants : List Tenant}
    (flags : Flags) (valid : loaded.refusedPath = none)
    (ids : Records.Distinct Tenant.id tenants)
    (subdomains : Records.Distinct Tenant.subdomain tenants) (member : stored ∈ tenants)
    (same : stored.id = loaded.id) :
    save mixed loaded { loaded with flags := flags } tenants =
      .ok (Records.modify Tenant.id loaded.id (fun other =>
        { other with
          flags := if mixed.modifies loaded.flags flags then flags else other.flags })
        tenants) := by
  have accepted : refusedPath { loaded with flags := flags } = none := valid
  have found : Records.lookup Tenant.id loaded.id tenants = some stored := by
    rw [← same]
    exact Records.lookup_stored ids member
  have unclaimed : tenants.any (fun other => decide (other.id ≠ loaded.id ∧
      other.subdomain = stored.subdomain)) = false := by
    rw [List.any_eq_false]
    intro other otherStored
    rw [decide_eq_true_eq]
    rintro ⟨apart, clash⟩
    have one := Records.same_record subdomains otherStored member clash
    exact apart (one ▸ same)
  have writes : writeBack mixed loaded { loaded with flags := flags } = fun other =>
      { other with
        flags := if mixed.modifies loaded.flags flags then flags else other.flags } :=
    funext (fun other => write_back_flags mixed loaded other flags)
  simp only [save, accepted, found, unclaimed, Bool.false_eq_true, if_false, writes]

end Tenant

/-- What the unique indexes and the validators promise of stored institutes and users. -/
structure Kept (database : Database) : Prop where
  tenantIds : Records.Distinct Tenant.id database.tenants
  subdomains : Records.Distinct Tenant.subdomain database.tenants
  userIds : Records.Distinct User.id database.users
  addresses : ∀ first ∈ database.users, ∀ second ∈ database.users,
    first.tenantId = second.tenantId → first.email = second.email → first = second
  required : ∀ user ∈ database.users, user.name ≠ "" ∧ user.email ≠ ""

/-- The indexes and validators of a store can be tested. -/
instance decidableKept (database : Database) : Decidable (Kept database) :=
  decidable_of_iff
    (Records.Distinct Tenant.id database.tenants ∧
      Records.Distinct Tenant.subdomain database.tenants ∧
      Records.Distinct User.id database.users ∧
      (∀ first ∈ database.users, ∀ second ∈ database.users,
        first.tenantId = second.tenantId → first.email = second.email → first = second) ∧
      ∀ user ∈ database.users, user.name ≠ "" ∧ user.email ≠ "")
    ⟨fun ⟨tenantIds, subdomains, userIds, addresses, required⟩ =>
        ⟨tenantIds, subdomains, userIds, addresses, required⟩,
      fun kept => ⟨kept.tenantIds, kept.subdomains, kept.userIds, kept.addresses, kept.required⟩⟩

/-- The indexes and validators of institutes and users look at nothing else. -/
theorem Kept.same {before after : Database} (kept : Kept before)
    (tenants : after.tenants = before.tenants) (users : after.users = before.users) :
    Kept after := by
  obtain ⟨tenantIds, subdomains, userIds, addresses, required⟩ := kept
  rw [← tenants] at tenantIds subdomains
  rw [← users] at userIds addresses required
  exact ⟨tenantIds, subdomains, userIds, addresses, required⟩

/-- A new user at a free address keeps the indexes and validators. -/
theorem Kept.append_user {database : Database} (kept : Kept database) {user : User}
    (fresh : ∀ other ∈ database.users, other.id ≠ user.id)
    (free : ∀ other ∈ database.users, ¬ (other.tenantId = user.tenantId ∧ other.email = user.email))
    (required : user.name ≠ "" ∧ user.email ≠ "") :
    Kept { database with users := database.users ++ [user] } where
  tenantIds := kept.tenantIds
  subdomains := kept.subdomains
  userIds := Records.append_distinct kept.userIds fresh
  addresses := by
    intro first firstStored second secondStored sameTenant sameEmail
    rcases List.mem_append.mp firstStored with earlier | added
    · rcases List.mem_append.mp secondStored with earlier' | added'
      · exact kept.addresses first earlier second earlier' sameTenant sameEmail
      · obtain rfl := List.mem_singleton.mp added'
        exact False.elim (free first earlier ⟨sameTenant, sameEmail⟩)
    · obtain rfl := List.mem_singleton.mp added
      rcases List.mem_append.mp secondStored with earlier' | added'
      · exact False.elim (free second earlier' ⟨sameTenant.symm, sameEmail.symm⟩)
      · exact (List.mem_singleton.mp added').symm
  required := by
    intro other stored
    rcases List.mem_append.mp stored with earlier | added
    · exact kept.required other earlier
    · exact List.mem_singleton.mp added ▸ required

/-- A new institute under a new identity and subdomain keeps the indexes and validators. -/
theorem Kept.append_tenant {database : Database} (kept : Kept database) {tenant : Tenant}
    (free : ∀ other ∈ database.tenants,
      other.id ≠ tenant.id ∧ other.subdomain ≠ tenant.subdomain) :
    Kept { database with tenants := database.tenants ++ [tenant] } where
  tenantIds := Records.append_distinct kept.tenantIds (fun other stored => (free other stored).1)
  subdomains := Records.append_distinct kept.subdomains (fun other stored => (free other stored).2)
  userIds := kept.userIds
  addresses := kept.addresses
  required := kept.required

/-- A rewrite of institutes that keeps identities and subdomains keeps the indexes. -/
theorem Kept.modify_tenants {database : Database} (kept : Kept database) (target : ObjectId)
    {change : Tenant → Tenant}
    (keeps : ∀ tenant, (change tenant).id = tenant.id ∧ (change tenant).subdomain = tenant.subdomain) :
    Kept { database with tenants := Records.modify Tenant.id target change database.tenants } where
  tenantIds := Records.modify_distinct (fun tenant => (keeps tenant).1) kept.tenantIds
  subdomains :=
    Records.same_keys_distinct
      (Records.modify_reading Tenant.subdomain (fun tenant _ _ => (keeps tenant).2))
      kept.subdomains
  userIds := kept.userIds
  addresses := kept.addresses
  required := kept.required

/-- Replacing a stored user by one with its identity, address and name keeps the indexes and
validators. -/
theorem Kept.replace_user {database : Database} (kept : Kept database) {user replacement : User}
    (stored : user ∈ database.users) (sameId : replacement.id = user.id)
    (sameTenant : replacement.tenantId = user.tenantId) (sameEmail : replacement.email = user.email)
    (sameName : replacement.name = user.name) :
    Kept { database with
      users := Records.modify User.id user.id (fun _ => replacement) database.users } where
  tenantIds := kept.tenantIds
  subdomains := kept.subdomains
  userIds := Records.replace_distinct sameId kept.userIds
  addresses := by
    intro first firstStored second secondStored tenants emails
    rcases Records.mem_replace firstStored with rfl | ⟨earlier, other⟩
    · rcases Records.mem_replace secondStored with rfl | ⟨earlier', other'⟩
      · rfl
      · have same := kept.addresses user stored second earlier' (sameTenant ▸ tenants)
          (sameEmail ▸ emails)
        exact False.elim (other' (congrArg User.id same.symm))
    · rcases Records.mem_replace secondStored with rfl | ⟨earlier', _⟩
      · have same := kept.addresses first earlier user stored (sameTenant ▸ tenants)
          (sameEmail ▸ emails)
        exact False.elim (other (congrArg User.id same))
      · exact kept.addresses first earlier second earlier' tenants emails
  required := by
    intro other member
    rcases Records.mem_replace member with rfl | ⟨earlier, _⟩
    · rw [sameName, sameEmail]
      exact kept.required user stored
    · exact kept.required other earlier

/-- What an operation that may bypass the scoping leaves: the store, its answer, and whose bypass
it executed. -/
structure Outcome (α : Type) where
  database : Database
  answer : Except Thrown α
  bypassedBy : Option String

namespace Outcome

variable {α : Type}

/-- An operation that ends before its bypass. -/
def unbypassed (ended : Database × Except Thrown α) : Outcome α := ⟨ended.1, ended.2, none⟩

/-- An operation that executes its bypass, whatever becomes of it then. -/
def bypassed (actor : String) (ended : Database × Except Thrown α) : Outcome α :=
  ⟨ended.1, ended.2, some actor⟩

/-- The store and the answer. -/
def ended (outcome : Outcome α) : Database × Except Thrown α := (outcome.database, outcome.answer)

/-- The outcome without its answer. -/
def forget (outcome : Outcome α) : Outcome Unit :=
  { outcome with answer := outcome.answer.map (fun _ => ()) }

@[simp] theorem ended_unbypassed (ended : Database × Except Thrown α) :
    (unbypassed ended).ended = ended := rfl

@[simp] theorem ended_bypassed (actor : String) (ended : Database × Except Thrown α) :
    (bypassed actor ended).ended = ended := rfl

end Outcome

namespace AuditService

/-- `record`: append an entry that passes its validators; a refused one is only logged. -/
def record (entry : AuditLog) (database : Database) : Database :=
  if entry.actor = "" ∨ entry.action = "" ∨
      database.auditLogs.any (fun stored => decide (stored.id = entry.id)) = true then database
  else { database with auditLogs := database.auditLogs ++ [entry] }

/-- What a listing of the trail asks for. -/
structure Filter where
  actor : Option String := none
  action : Option String := none
  targetTenantId : Option String := none
  limit : Option Nat := none

/-- An entry is what a listing asks for; an empty text asks for nothing. -/
def Filter.matching (filter : Filter) (entry : AuditLog) : Bool :=
  decide ((∀ actor ∈ TenantPlugin.present filter.actor, entry.actor = actor) ∧
    (∀ action ∈ TenantPlugin.present filter.action, entry.action = action) ∧
    ∀ target ∈ TenantPlugin.present filter.targetTenantId, entry.targetTenantId = some target)

/-- `list`, the newest first: a hundred entries where no limit is given, five hundred at most, and
a limit of nothing is none. Creation times are taken to grow with the order of creation. -/
def list (filter : Filter) (database : Database) : List AuditLog :=
  let found := (database.auditLogs.filter filter.matching).reverse
  match min (filter.limit.getD 100) 500 with
  | 0 => found
  | limit => found.take limit

/-- The audit trail is all that an audit entry writes. -/
theorem record_writes (entry : AuditLog) (database : Database) :
    record entry database = { database with auditLogs := (record entry database).auditLogs } := by
  unfold record
  split <;> rfl

@[simp] theorem record_tenants (entry : AuditLog) (database : Database) :
    (record entry database).tenants = database.tenants := by rw [record_writes]

@[simp] theorem record_users (entry : AuditLog) (database : Database) :
    (record entry database).users = database.users := by rw [record_writes]

/-- An entry with an actor and an action under a new identity is appended. -/
theorem record_accepted {entry : AuditLog} {database : Database} (named : entry.actor ≠ "")
    (acted : entry.action ≠ "") (fresh : ∀ stored ∈ database.auditLogs, stored.id ≠ entry.id) :
    (record entry database).auditLogs = database.auditLogs ++ [entry] := by
  have unclaimed : database.auditLogs.any (fun stored => decide (stored.id = entry.id)) ≠ true := by
    rw [ne_eq, Bool.not_eq_true, List.any_eq_false]
    intro stored member
    simp [fresh stored member]
  have accepted : ¬ (entry.actor = "" ∨ entry.action = "" ∨
      database.auditLogs.any (fun stored => decide (stored.id = entry.id)) = true) := by
    rintro (unnamed | inactive | taken)
    · exact named unnamed
    · exact acted inactive
    · exact unclaimed taken
  unfold record
  rw [if_neg accepted]

end AuditService

end CoachingApi
