import CoachingApi.Auth.TokenService
import CoachingApi.Common.PlatformModels
import CoachingApi.Common.Queries

/-!
# Provisioning and standing of institutes

Provisioning stores the institute first and its first administrator second, so an
administrator that is refused leaves the institute behind. A change of standing only
writes the institute, as a change of plan does, where a change of flags loads the institute,
merges the flags in memory and saves it.
-/

namespace CoachingApi

open TenantContextStore TenantPlugin

/-- The body of a provisioning. -/
structure CreateTenantDto where
  name : String
  subdomain : String
  planId : Option String := none
  timezone : Option String := none
  adminName : String
  adminEmail : String
  adminPassword : String
  deriving DecidableEq

/-- The body of a change of flags. -/
structure UpdateFlagsDto where
  flags : Flags
  deriving DecidableEq

namespace TenantsService

/-- `list`, the newest first. Creation times are taken to grow with the order of creation. -/
def list (database : Database) : List Tenant := database.tenants.reverse

/-- `get`. -/
def get (id : String) (database : Database) : Except Thrown Tenant :=
  match Tenant.findById id database.tenants with
  | .error thrown => .error thrown
  | .ok none => .error (.notFound "Tenant not found")
  | .ok (some tenant) => .ok tenant

/-- The institute a provisioning creates. -/
def provisionedTenant (deployment : AuthDeployment) (draws : Draws) (dto : CreateTenantDto) :
    Tenant :=
  Tenant.cast deployment.toLowerCase
    { id := draws.tenantId, name := dto.name,
      subdomain := deployment.toLowerCase.fold dto.subdomain, planId := dto.planId.map .text,
      timezone := dto.timezone.getD "Asia/Kolkata", status := .active }

/-- The first administrator of a provisioned institute. -/
def provisionedAdmin (deployment : AuthDeployment) (draws : Draws) (dto : CreateTenantDto) : User :=
  User.cast deployment.toLowerCase
    { id := draws.userId, tenantId := draws.tenantId.hex, role := .admin, name := dto.adminName,
      email := deployment.toLowerCase.fold dto.adminEmail,
      passwordHash := some (deployment.passwords.hash draws.salt dto.adminPassword),
      status := .active }

/-- The awaited operations of a provisioning. Writing the audit entry throws nothing. -/
inductive ProvisionPoint where
  | lookup | tenantCreate | hashing | userCreate
  deriving DecidableEq

/-- `provision` with what its awaited operations fail with: the new institute's id. -/
def provisioning (failing : ProvisionPoint → Option Thrown) (deployment : AuthDeployment)
    (actor : String) (draws : Draws) (dto : CreateTenantDto) (database : Database) :
    Outcome String :=
  match failing .lookup with
  | some thrown => .unbypassed (database, .error thrown)
  | none =>
    match Tenant.findBySubdomain deployment.toLowerCase
        (deployment.toLowerCase.fold dto.subdomain) database.tenants with
    | some _ => .unbypassed (database, .error (.conflict "Subdomain already in use"))
    | none =>
      let tenant := provisionedTenant deployment draws dto
      match failing .tenantCreate with
      | some thrown => .unbypassed (database, .error thrown)
      | none =>
        match Tenant.create tenant database.tenants with
        | .error thrown => .unbypassed (database, .error thrown)
        | .ok tenants =>
          match failing .hashing with
          | some thrown => .unbypassed ({ database with tenants := tenants }, .error thrown)
          | none =>
            .bypassed actor
              (match failing .userCreate with
              | some thrown => ({ database with tenants := tenants }, .error thrown)
              | none =>
                match runWithBypass actor (fun ambient =>
                    TenantModel.create ambient (provisionedAdmin deployment draws dto)
                      database.users) with
                | .error thrown => ({ database with tenants := tenants }, .error thrown)
                | .ok (_, users) =>
                  (AuditService.record
                    { id := draws.auditId, actor := actor, action := "tenant.provision",
                      targetTenantId := some tenant.id.hex,
                      metadata := [("subdomain", tenant.subdomain),
                        ("adminEmail", deployment.toLowerCase.fold dto.adminEmail)] }
                    { database with tenants := tenants, users := users }, .ok tenant.id.hex))

/-- `provision`, of which nothing that is awaited fails. -/
def provision (deployment : AuthDeployment) (actor : String) (draws : Draws)
    (dto : CreateTenantDto) (database : Database) : Database × Except Thrown String :=
  (provisioning (fun _ => none) deployment actor draws dto database).ended

/-- `setStatus`. -/
def setStatus (actor : String) (draws : Draws) (id : String) (status : TenantStatus)
    (database : Database) : Database × Except Thrown Tenant :=
  match Tenant.findByIdAndUpdate id (fun tenant => { tenant with status := status })
      database.tenants with
  | .error thrown => (database, .error thrown)
  | .ok (none, _) => (database, .error (.notFound "Tenant not found"))
  | .ok (some tenant, tenants) =>
    (AuditService.record
      { id := draws.auditId, actor := actor,
        action := if status = .suspended then "tenant.suspend" else "tenant.activate",
        targetTenantId := some id }
      { database with tenants := tenants }, .ok tenant)

/-- `tenant.flags = { ...tenant.flags, ...dto.flags }`. -/
def mergeFlags (dto : UpdateFlagsDto) (tenant : Tenant) : Tenant :=
  { tenant with flags := tenant.flags.spread dto.flags }

/-- The audit entry of a change of flags. -/
def flagsEntry (actor : String) (draws : Draws) (id : String) (dto : UpdateFlagsDto) : AuditLog :=
  { id := draws.auditId, actor := actor, action := "tenant.flags.update",
    targetTenantId := some id,
    metadata := dto.flags.entries.map (fun flag => ("flags." ++ flag.1, toString flag.2)) }

/-- `updateFlags`. -/
def updateFlags (mixed : MixedPath Flags) (actor : String) (draws : Draws) (id : String)
    (dto : UpdateFlagsDto) (database : Database) : Database × Except Thrown Tenant :=
  match Tenant.findById id database.tenants with
  | .error thrown => (database, .error thrown)
  | .ok none => (database, .error (.notFound "Tenant not found"))
  | .ok (some tenant) =>
    match Tenant.save mixed tenant (mergeFlags dto tenant) database.tenants with
    | .error thrown => (database, .error thrown)
    | .ok tenants =>
      (AuditService.record (flagsEntry actor draws id dto) { database with tenants := tenants },
        .ok (mergeFlags dto tenant))

/-- `setPlan`: the text is stored as it is given. -/
def setPlan (actor : String) (draws : Draws) (id planId : String) (database : Database) :
    Database × Except Thrown Tenant :=
  if planId = "" then (database, .error (.badRequest "planId required"))
  else
    match Tenant.findByIdAndUpdate id (fun tenant => { tenant with planId := some (.text planId) })
        database.tenants with
    | .error thrown => (database, .error thrown)
    | .ok (none, _) => (database, .error (.notFound "Tenant not found"))
    | .ok (some tenant, tenants) =>
      (AuditService.record
        { id := draws.auditId, actor := actor, action := "tenant.plan.set",
          targetTenantId := some id, metadata := [("planId", planId)] }
        { database with tenants := tenants }, .ok tenant)

/-- A provisioning under a taken subdomain is refused and writes nothing. -/
theorem provision_taken {deployment : AuthDeployment} {actor : String} {draws : Draws}
    {dto : CreateTenantDto} {database : Database} {tenant : Tenant}
    (taken : Records.lookup Tenant.subdomain (queryKey deployment dto.subdomain) database.tenants =
      some tenant) :
    provision deployment actor draws dto database =
      (database, .error (.conflict "Subdomain already in use")) := by
  have existing : Tenant.findBySubdomain deployment.toLowerCase
      (deployment.toLowerCase.fold dto.subdomain) database.tenants = some tenant := taken
  simp only [provision, provisioning, existing, Outcome.ended_unbypassed]

/-- A provisioning with a blank name or subdomain is refused and writes nothing. -/
theorem provision_refused {deployment : AuthDeployment} (actor : String) (draws : Draws)
    {dto : CreateTenantDto} {database : Database}
    (free : Records.lookup Tenant.subdomain (queryKey deployment dto.subdomain) database.tenants =
      none)
    (invalid : Text.trim dto.name = "" ∨ queryKey deployment dto.subdomain = "") :
    ∃ thrown, provision deployment actor draws dto database = (database, .error thrown) := by
  have unused : Tenant.findBySubdomain deployment.toLowerCase
      (deployment.toLowerCase.fold dto.subdomain) database.tenants = none := free
  have blank : (provisionedTenant deployment draws dto).refusedPath ≠ none := by
    rw [ne_eq, Tenant.tenant_accepted, not_and_or, not_not, not_not]
    exact invalid
  obtain ⟨path, refused⟩ := Option.ne_none_iff_exists'.mp blank
  exact ⟨.validation path, by
    simp only [provision, provisioning, unused, Tenant.create, refused, Outcome.ended_unbypassed]⟩

section Stored

variable {deployment : AuthDeployment} (actor : String) (draws : Draws) {dto : CreateTenantDto}
  {database : Database}

/-- A provisioning of a valid institute under a new identity stores it. What becomes of the
call depends on its administrator. -/
theorem provision_stores
    (free : Records.lookup Tenant.subdomain (queryKey deployment dto.subdomain) database.tenants =
      none)
    (named : Text.trim dto.name ≠ "")
    (addressed : queryKey deployment dto.subdomain ≠ "")
    (fresh : ∀ tenant ∈ database.tenants, tenant.id ≠ draws.tenantId) :
    (∀ stored ∈ database.tenants,
      stored.id ≠ (provisionedTenant deployment draws dto).id ∧
        stored.subdomain ≠ (provisionedTenant deployment draws dto).subdomain) ∧
    provision deployment actor draws dto database =
      match runWithBypass actor (fun ambient =>
          TenantModel.create ambient (provisionedAdmin deployment draws dto) database.users) with
      | .error thrown =>
        ({ database with
            tenants := database.tenants ++ [provisionedTenant deployment draws dto] },
          .error thrown)
      | .ok (_, users) =>
        (AuditService.record
          { id := draws.auditId, actor := actor, action := "tenant.provision",
            targetTenantId := some draws.tenantId.hex,
            metadata := [("subdomain", queryKey deployment dto.subdomain),
              ("adminEmail", deployment.toLowerCase.fold dto.adminEmail)] }
          { database with
            tenants := database.tenants ++ [provisionedTenant deployment draws dto]
            users := users }, .ok draws.tenantId.hex) := by
  have unused : Tenant.findBySubdomain deployment.toLowerCase
      (deployment.toLowerCase.fold dto.subdomain) database.tenants = none := free
  have accepted : (provisionedTenant deployment draws dto).refusedPath = none :=
    Tenant.tenant_accepted.mpr ⟨named, addressed⟩
  have unclaimed : ∀ stored ∈ database.tenants,
      stored.id ≠ (provisionedTenant deployment draws dto).id ∧
        stored.subdomain ≠ (provisionedTenant deployment draws dto).subdomain := by
    intro stored member
    refine ⟨fresh stored member, fun same => ?_⟩
    have missed := List.find?_eq_none.mp free stored member
    exact missed (decide_eq_true same)
  refine ⟨unclaimed, ?_⟩
  simp only [provision, provisioning, unused, Tenant.create_accepted accepted unclaimed]
  rfl

/-- A blank administrator is refused. -/
theorem admin_refused (database : Database) (invalid : Text.trim dto.adminName = "" ∨
      queryKey deployment dto.adminEmail = "") :
    ∃ thrown, runWithBypass actor (fun ambient =>
      TenantModel.create ambient (provisionedAdmin deployment draws dto) database.users) =
        .error thrown := by
  have blank : TenantModel.refusedPath (provisionedAdmin deployment draws dto) ≠ none := by
    rw [ne_eq, user_accepted, not_and_or, not_not, not_not]
    exact invalid
  obtain ⟨path, refused⟩ := Option.ne_none_iff_exists'.mp blank
  have named : TenantModel.tenantId (provisionedAdmin deployment draws dto) ≠ "" :=
    draws.tenantId.hex_nonempty
  exact ⟨.validation path, by
    simp only [runWithBypass, TenantModel.create, TenantModel.validate_bypass actor named, refused]⟩

/-- An administrator with a name and an email, of a tenant nobody is in, is stored. -/
theorem admin_accepted (named : Text.trim dto.adminName ≠ "")
    (addressed : queryKey deployment dto.adminEmail ≠ "")
    (fresh : ∀ user ∈ database.users, user.id ≠ draws.userId ∧ user.tenantId ≠ draws.tenantId.hex) :
    runWithBypass actor (fun ambient =>
      TenantModel.create ambient (provisionedAdmin deployment draws dto) database.users) =
        .ok (provisionedAdmin deployment draws dto,
          database.users ++ [provisionedAdmin deployment draws dto]) := by
  have accepted : TenantModel.refusedPath (provisionedAdmin deployment draws dto) = none :=
    user_accepted.mpr ⟨named, addressed⟩
  have owned : TenantModel.tenantId (provisionedAdmin deployment draws dto) ≠ "" :=
    draws.tenantId.hex_nonempty
  have valid : TenantModel.validate (some { bypass := some true, bypassActor := some actor })
      (provisionedAdmin deployment draws dto) = .ok (provisionedAdmin deployment draws dto) := by
    rw [TenantModel.validate_bypass actor owned, accepted]
  refine TenantModel.create_accepted valid (fun stored member => ?_)
  refine ⟨(fresh stored member).1, decide_eq_false ?_⟩
  rintro ⟨sameTenant, _⟩
  exact (fresh stored member).2 sameTenant

end Stored

/-- A provisioning keeps the indexes and validators, and stores no user but the administrator
it seeds. -/
theorem provision_kept {database : Database} (kept : Kept database) (deployment : AuthDeployment)
    (actor : String) (draws : Draws) (dto : CreateTenantDto) :
    Kept (provision deployment actor draws dto database).1 ∧
      ((provision deployment actor draws dto database).1.users = database.users ∨
        (provision deployment actor draws dto database).1.users =
          database.users ++ [provisionedAdmin deployment draws dto]) := by
  unfold provision provisioning
  cases Tenant.findBySubdomain deployment.toLowerCase
      (deployment.toLowerCase.fold dto.subdomain) database.tenants with
  | some tenant => exact ⟨kept, .inl rfl⟩
  | none =>
    simp only
    cases created : Tenant.create (provisionedTenant deployment draws dto)
        database.tenants with
    | error thrown => exact ⟨kept, .inl rfl⟩
    | ok tenants =>
      obtain ⟨_, rfl, free⟩ := Tenant.create_ok created
      have provisioned := kept.append_tenant free
      cases seeded : runWithBypass actor (fun ambient =>
          TenantModel.create ambient (provisionedAdmin deployment draws dto) database.users) with
      | error thrown => exact ⟨provisioned, .inl rfl⟩
      | ok outcome =>
        obtain ⟨admin, users⟩ := outcome
        obtain ⟨valid, rfl, unclaimed⟩ := TenantModel.create_ok seeded
        have same : admin = provisionedAdmin deployment draws dto := by
          have owned : TenantModel.tenantId (provisionedAdmin deployment draws dto) ≠ "" :=
            draws.tenantId.hex_nonempty
          rw [TenantModel.validate_bypass actor owned] at valid
          split at valid
          · cases valid
          · exact (Except.ok.inj valid).symm
        subst same
        obtain ⟨_, _, accepted⟩ := TenantModel.validate_stamps valid
        refine ⟨?_, .inr (AuditService.record_users _ _)⟩
        refine (provisioned.append_user (fun other stored => (unclaimed other stored).1)
          (fun other stored => of_decide_eq_false (unclaimed other stored).2)
          (user_accepted.mp accepted)).same ?_ ?_
        · exact AuditService.record_tenants _ _
        · exact AuditService.record_users _ _

/-- A change of standing that answers rewrites the standing of one institute. -/
theorem set_status_ok {actor : String} {draws : Draws} {id : String} {status : TenantStatus}
    {database after : Database} {tenant : Tenant}
    (answered : setStatus actor draws id status database = (after, .ok tenant)) :
    ∃ target, ObjectId.cast id = some target ∧ (∃ stored ∈ database.tenants, stored.id = target) ∧
      after.tenants = Records.modify Tenant.id target
        (fun stored => { stored with status := status }) database.tenants ∧
      after.users = database.users := by
  unfold setStatus at answered
  cases updated : Tenant.findByIdAndUpdate id (fun tenant => { tenant with status := status })
      database.tenants with
  | error thrown => simp [updated] at answered
  | ok outcome =>
    obtain ⟨found, tenants⟩ := outcome
    cases found with
    | none => simp [updated] at answered
    | some document =>
      simp only [updated, Prod.mk.injEq] at answered
      cases casts : castId "Tenant" id with
      | error thrown => simp [Tenant.findByIdAndUpdate, casts] at updated
      | ok target =>
        cases looked : Records.lookup Tenant.id target database.tenants with
        | none => simp [Tenant.findByIdAndUpdate, casts, looked] at updated
        | some stored =>
          simp only [Tenant.findByIdAndUpdate, casts, looked, Except.ok.injEq, Prod.mk.injEq]
            at updated
          refine ⟨target, cast_id_ok.mp casts, ⟨stored, Records.lookup_some looked⟩, ?_, ?_⟩
          · rw [← answered.1, AuditService.record_tenants, ← updated.2]
          · rw [← answered.1, AuditService.record_users]

end TenantsService

end CoachingApi
