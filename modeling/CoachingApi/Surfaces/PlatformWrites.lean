import CoachingApi.Surfaces.PlatformApi
import CoachingApi.Surfaces.RouteRoles

/-!
# What the platform surface writes

A call that is served provisions an institute, changes the standing or the flags of one, adds or
changes a plan, or writes an audit entry for an impersonation; everything else it leaves as it is.
So in every run of calls the records of institutes and their members stay as they are, institutes
and users are only added, and whoever changed something was admitted in a role for it.
-/

namespace CoachingApi

open TenantContextStore

namespace TenantsService

variable (actor : String) (draws : Draws) (database : Database)

/-- The audit entry of a provisioning. -/
def provisionEntry (deployment : AuthDeployment) (tenant : Tenant) (dto : CreateTenantDto) :
    AuditLog :=
  { id := draws.auditId, actor := actor, action := "tenant.provision",
    targetTenantId := some tenant.id.hex,
    metadata := [("subdomain", tenant.subdomain),
      ("adminEmail", deployment.toLowerCase.fold dto.adminEmail)] }

/-- The audit entry of a change of standing. -/
def statusEntry (id : String) (status : TenantStatus) : AuditLog :=
  { id := draws.auditId, actor := actor,
    action := if status = .suspended then "tenant.suspend" else "tenant.activate",
    targetTenantId := some id }

/-- A provisioning leaves everything as it is, or stores an institute under an identity of its own
and its administrator, or stores the institute only. -/
theorem provision_cases (deployment : AuthDeployment) (dto : CreateTenantDto) :
    (∃ thrown, provision deployment actor draws dto database = (database, .error thrown)) ∨
      (∀ stored ∈ database.tenants,
          stored.id ≠ (provisionedTenant deployment draws dto).id) ∧
        ((∃ thrown, runWithBypass actor (fun ambient =>
              TenantModel.create ambient (provisionedAdmin deployment draws dto) database.users) =
                .error thrown ∧
            provision deployment actor draws dto database =
              ({ database with
                  tenants := database.tenants ++ [provisionedTenant deployment draws dto] },
                .error thrown)) ∨
          provision deployment actor draws dto database =
            (AuditService.record
              (provisionEntry actor draws deployment
                (provisionedTenant deployment draws dto) dto)
              { database with
                tenants := database.tenants ++ [provisionedTenant deployment draws dto]
                users := database.users ++ [provisionedAdmin deployment draws dto] },
              .ok (provisionedTenant deployment draws dto).id.hex)) := by
  unfold provision provisioning
  cases Tenant.findBySubdomain deployment.toLowerCase
      (deployment.toLowerCase.fold dto.subdomain) database.tenants with
  | some tenant => exact .inl ⟨_, rfl⟩
  | none =>
    simp only
    cases created : Tenant.create (provisionedTenant deployment draws dto)
        database.tenants with
    | error thrown => exact .inl ⟨_, rfl⟩
    | ok tenants =>
      obtain ⟨_, rfl, free⟩ := Tenant.create_ok created
      refine .inr ⟨fun stored member => (free stored member).1, ?_⟩
      cases seeded : runWithBypass actor (fun ambient =>
          TenantModel.create ambient (provisionedAdmin deployment draws dto) database.users) with
      | error thrown => exact .inl ⟨thrown, rfl, rfl⟩
      | ok outcome =>
        obtain ⟨admin, users⟩ := outcome
        obtain ⟨valid, rfl, _⟩ := TenantModel.create_ok seeded
        have same : admin = provisionedAdmin deployment draws dto := by
          have owned : TenantModel.tenantId (provisionedAdmin deployment draws dto) ≠ "" :=
            draws.tenantId.hex_nonempty
          rw [TenantModel.validate_bypass actor owned] at valid
          split at valid
          · cases valid
          · exact (Except.ok.inj valid).symm
        subst same
        exact .inr rfl

/-- A change of standing rewrites the institute its text names and writes its entry, or leaves
everything as it is. -/
theorem set_status_cases (id : String) (status : TenantStatus) :
    (∃ thrown, setStatus actor draws id status database = (database, .error thrown)) ∨
      ∃ tenant ∈ database.tenants, ObjectId.cast id = some tenant.id ∧
        setStatus actor draws id status database =
          (AuditService.record (statusEntry actor draws id status)
            { database with
              tenants := Records.modify Tenant.id tenant.id
                (fun stored => { stored with status := status }) database.tenants },
            .ok { tenant with status := status }) := by
  unfold setStatus Tenant.findByIdAndUpdate castId
  cases casts : ObjectId.cast id with
  | none => exact .inl ⟨_, rfl⟩
  | some target =>
    simp only
    cases found : Records.lookup Tenant.id target database.tenants with
    | none => exact .inl ⟨_, rfl⟩
    | some tenant =>
      obtain ⟨stored, rfl⟩ := Records.lookup_some found
      exact .inr ⟨tenant, stored, rfl, rfl⟩

/-- What a save of merged flags writes to the institute they were merged for. -/
theorem merged_written (mixed : MixedPath Flags) (dto : UpdateFlagsDto) (tenant : Tenant) :
    Tenant.writeBack mixed tenant (mergeFlags dto tenant) tenant = mergeFlags dto tenant := by
  unfold mergeFlags
  rw [Tenant.write_back_flags]
  split
  · rfl
  · rename_i unmodified
    have same : tenant.flags.spread dto.flags = tenant.flags := by
      by_contra changed
      exact unmodified (mixed.changed _ _ changed)
    rw [same]

/-- A change of flags spreads its flags over those of the institute its text names and writes its
entry, or leaves everything as it is. -/
theorem update_flags_cases (mixed : MixedPath Flags) (id : String) (dto : UpdateFlagsDto)
    (distinct : Records.Distinct Tenant.id database.tenants) :
    (∃ thrown, updateFlags mixed actor draws id dto database = (database, .error thrown)) ∨
      ∃ tenant ∈ database.tenants, ObjectId.cast id = some tenant.id ∧
        updateFlags mixed actor draws id dto database =
          (AuditService.record (flagsEntry actor draws id dto)
            { database with
              tenants := Records.modify Tenant.id tenant.id (mergeFlags dto) database.tenants },
            .ok (mergeFlags dto tenant)) := by
  unfold updateFlags Tenant.findById castId
  cases casts : ObjectId.cast id with
  | none => exact .inl ⟨_, rfl⟩
  | some target =>
    simp only
    cases found : Records.lookup Tenant.id target database.tenants with
    | none => exact .inl ⟨_, rfl⟩
    | some tenant =>
      obtain ⟨stored, rfl⟩ := Records.lookup_some found
      simp only
      cases saved : Tenant.save mixed tenant (mergeFlags dto tenant) database.tenants with
      | error thrown => exact .inl ⟨_, rfl⟩
      | ok tenants =>
        have written : tenants =
            Records.modify Tenant.id tenant.id (mergeFlags dto) database.tenants := by
          unfold Tenant.save at saved
          simp only [found] at saved
          split at saved
          · cases saved
          · split at saved
            · cases saved
            · rw [← Except.ok.inj saved]
              apply Records.modify_agree
              intro other member same
              obtain rfl := Records.same_record distinct member stored same
              exact merged_written mixed dto other
        rw [written]
        exact .inr ⟨tenant, stored, rfl, rfl⟩

end TenantsService

namespace SupportService

/-- An impersonation leaves everything as it is or writes its audit entry. -/
theorem impersonate_cases (deployment : AuthDeployment) (draws : Draws) (actor tenantId : String)
    (database : Database) :
    (impersonate deployment draws actor tenantId database).1 = database ∨
      ∃ metadata, (impersonate deployment draws actor tenantId database).1 =
        AuditService.record
          { id := draws.auditId, actor := actor, action := "impersonate",
            targetTenantId := some tenantId, metadata := metadata } database := by
  unfold impersonate impersonating
  cases Tenant.findById tenantId database.tenants with
  | error thrown => exact .inl rfl
  | ok found =>
    cases found with
    | none => exact .inl rfl
    | some tenant =>
      by_cases active : tenant.status = .active
      · simp only [active, ne_eq, not_true_eq_false, if_false, runWithBypass]
        split
        · exact .inl rfl
        · exact .inl rfl
        · exact .inr ⟨_, rfl⟩
      · simp [active]

end SupportService

namespace PlatformApi

/-- What of an institute no route of the platform changes. -/
def profile (tenant : Tenant) : ObjectId × String × String × Option Reference × String :=
  (tenant.id, tenant.name, tenant.subdomain, tenant.planId, tenant.timezone)

/-- The first administrator of an institute that is new. -/
def FirstAdmin (before after : Estate) (user : User) : Prop :=
  user.role = .admin ∧ user.status = .active ∧
    ∃ tenant ∈ after.database.tenants, user.tenantId = tenant.id.hex ∧
      ∀ old ∈ before.database.tenants, old.id ≠ tenant.id

/-- The estate is carried on: institutes, users, plans and audit entries are only added, users as
first administrators of new institutes, one for each of these at most; institutes keep their
profiles and plans their tiers; and every other collection is as it was. -/
structure Carried (before after : Estate) : Prop where
  members : ∀ holding : Holding, holding ∉ [.tenants, .users, .auditLogs] →
    holding.Same before.campus after.campus
  subscriptions : after.subscriptions = before.subscriptions
  staff : after.staff = before.staff
  tenants : before.database.tenants.map profile <+: after.database.tenants.map profile
  users : ∃ seeded, after.database.users = before.database.users ++ seeded ∧
    (∀ user ∈ seeded, FirstAdmin before after user) ∧ (seeded.map User.tenantId).Nodup
  plans : before.plans.map (fun plan => (plan.id, plan.tier)) <+:
    after.plans.map (fun plan => (plan.id, plan.tier))
  trail : before.database.auditLogs <+: after.database.auditLogs

/-- An institute that was there is there under the same identity. -/
theorem Carried.tenant {before after : Estate} (carried : Carried before after) {tenant : Tenant}
    (stored : tenant ∈ before.database.tenants) :
    ∃ kept ∈ after.database.tenants, kept.id = tenant.id := by
  have member := carried.tenants.subset (List.mem_map_of_mem stored)
  obtain ⟨kept, held, same⟩ := List.mem_map.mp member
  exact ⟨kept, held, congrArg Prod.fst same⟩

/-- Everything is carried to itself. -/
theorem carried_refl (estate : Estate) : Carried estate estate where
  members := fun _ _ => rfl
  subscriptions := rfl
  staff := rfl
  tenants := List.prefix_rfl
  users := ⟨[], by simp, by simp, by simp⟩
  plans := List.prefix_rfl
  trail := List.prefix_rfl

/-- What is carried further is carried. -/
theorem carried_trans {first second third : Estate} (one : Carried first second)
    (two : Carried second third) : Carried first third where
  members := fun holding foreign =>
    (two.members holding foreign).trans (one.members holding foreign)
  subscriptions := two.subscriptions.trans one.subscriptions
  staff := two.staff.trans one.staff
  tenants := one.tenants.trans two.tenants
  users := by
    obtain ⟨seeded, early, admins, apart⟩ := one.users
    obtain ⟨more, late, others, moreApart⟩ := two.users
    refine ⟨seeded ++ more, by rw [late, early, List.append_assoc], ?_, ?_⟩
    · intro user member
      rcases List.mem_append.mp member with old | new
      · obtain ⟨role, status, tenant, stored, named, fresh⟩ := admins user old
        obtain ⟨kept, held, same⟩ := two.tenant stored
        exact ⟨role, status, kept, held, same ▸ named, same ▸ fresh⟩
      · obtain ⟨role, status, tenant, stored, named, fresh⟩ := others user new
        refine ⟨role, status, tenant, stored, named, ?_⟩
        intro original there same
        obtain ⟨kept, held, equal⟩ := one.tenant there
        exact fresh kept held (equal.trans same)
    -- An institute of the second part is new there, so it is none of the first part.
    · rw [List.map_append, List.nodup_append]
      refine ⟨apart, moreApart, ?_⟩
      intro owner early other late same
      obtain ⟨user, old, rfl⟩ := List.mem_map.mp early
      obtain ⟨laterUser, new, rfl⟩ := List.mem_map.mp late
      obtain ⟨_, _, tenant, stored, named, _⟩ := admins user old
      obtain ⟨_, _, laterTenant, _, laterNamed, fresh⟩ := others laterUser new
      exact fresh tenant stored (ObjectId.hex_injective (named.symm.trans (same.trans laterNamed)))
  plans := one.plans.trans two.plans
  trail := one.trail.trans two.trail

/-- Writing an audit entry adds to the trail at most. -/
theorem record_adds (entry : AuditLog) (database : Database) :
    database.auditLogs <+: (AuditService.record entry database).auditLogs := by
  unfold AuditService.record
  split
  · exact List.prefix_rfl
  · exact List.prefix_append _ _

/-- Other institutes, users and audit entries carry the estate on when they only add to what was
there. -/
theorem carried_database {estate : Estate} {tenants : List Tenant} {users : List User}
    {auditLogs : List AuditLog} (profiles : estate.database.tenants.map profile <+: tenants.map profile)
    (seeded : ∃ seeded, users = estate.database.users ++ seeded ∧ (∀ user ∈ seeded,
      user.role = .admin ∧ user.status = .active ∧ ∃ tenant ∈ tenants,
        user.tenantId = tenant.id.hex ∧ ∀ old ∈ estate.database.tenants, old.id ≠ tenant.id) ∧
      (seeded.map User.tenantId).Nodup)
    (trail : estate.database.auditLogs <+: auditLogs) :
    Carried estate
      { estate with
        campus := { estate.campus with
          database := { estate.campus.database with
            tenants := tenants, users := users, auditLogs := auditLogs } } } where
  members := by
    intro holding foreign
    cases holding <;> first | rfl | simp at foreign
  subscriptions := rfl
  staff := rfl
  tenants := profiles
  users := seeded
  plans := List.prefix_rfl
  trail := trail

/-- A rewrite of institutes that keeps profiles, with an audit entry, carries the estate on and
keeps identities distinct. -/
theorem carried_rewrite {estate : Estate} (distinct : Records.Distinct Tenant.id estate.database.tenants)
    {target : ObjectId} {change : Tenant → Tenant}
    (keeps : ∀ tenant, profile (change tenant) = profile tenant) (entry : AuditLog) :
    let ended := AuditService.record entry
      { estate.database with
        tenants := Records.modify Tenant.id target change estate.database.tenants }
    Records.Distinct Tenant.id ended.tenants ∧
      Carried estate { estate with campus := { estate.campus with database := ended } } := by
  intro ended
  have keepsId : ∀ tenant, (change tenant).id = tenant.id :=
    fun tenant => congrArg Prod.fst (keeps tenant)
  constructor
  · unfold ended
    rw [AuditService.record_tenants]
    exact Records.modify_distinct keepsId distinct
  · unfold ended
    rw [AuditService.record_writes]
    apply carried_database
    · have kept := @Records.modify_reading _ _ _ _ Tenant.id target change
        estate.database.tenants profile (fun tenant _ _ => keeps tenant)
      exact ⟨[], by rw [kept, List.append_nil]⟩
    · exact ⟨[], by simp, by simp, by simp⟩
    · exact record_adds entry
        { estate.database with
          tenants := Records.modify Tenant.id target change estate.database.tenants }

/-- An admitted call carries the estate on and keeps the identities of institutes distinct. -/
theorem serve_carried (deployment : PlatformApiDeployment) (actor : PlatformPrincipal)
    {estate : Estate} (distinct : Records.Distinct Tenant.id estate.database.tenants)
    (request : PlatformRequest) :
    Records.Distinct Tenant.id (serve deployment actor estate request).1.database.tenants ∧
      Carried estate (serve deployment actor estate request).1 := by
  have nothing : Records.Distinct Tenant.id estate.database.tenants ∧ Carried estate estate :=
    ⟨distinct, carried_refl estate⟩
  cases request with
  | provision draws dto =>
    rcases TenantsService.provision_cases actor.platformUserId draws estate.database
      deployment.auth.toAuthDeployment dto with
      ⟨thrown, refused⟩ | ⟨fresh, ⟨thrown, _, stranded⟩ | provisioned⟩
    · simp only [serve, stored, refused]
      exact nothing
    · simp only [serve, stored, stranded]
      refine ⟨Records.append_distinct distinct fresh, carried_database ?_
        ⟨[], by simp, by simp, by simp⟩ List.prefix_rfl⟩
      rw [List.map_append]
      exact List.prefix_append _ _
    · simp only [serve, stored, provisioned]
      constructor
      · rw [Estate.database, AuditService.record_tenants]
        exact Records.append_distinct distinct fresh
      · rw [AuditService.record_writes]
        apply carried_database
        · rw [List.map_append]
          exact List.prefix_append _ _
        · refine ⟨[TenantsService.provisionedAdmin deployment.auth.toAuthDeployment draws dto], rfl,
            ?_, List.nodup_singleton _⟩
          intro user member
          obtain rfl := List.mem_singleton.mp member
          exact ⟨rfl, rfl, TenantsService.provisionedTenant deployment.auth.toAuthDeployment draws
            dto, by simp, rfl, fresh⟩
        · exact record_adds _ { estate.database with
            tenants := estate.database.tenants ++
              [TenantsService.provisionedTenant deployment.auth.toAuthDeployment draws dto]
            users := estate.database.users ++
              [TenantsService.provisionedAdmin deployment.auth.toAuthDeployment draws dto] }
  | setStatus draws id status =>
    rcases TenantsService.set_status_cases actor.platformUserId draws estate.database id status with
      ⟨thrown, refused⟩ | ⟨tenant, _, _, changed⟩
    · simp only [serve, stored, refused]
      exact nothing
    · simp only [serve, stored, changed]
      exact @carried_rewrite estate distinct tenant.id (fun stored => { stored with status := status })
        (fun _ => rfl) _
  | updateFlags draws id dto =>
    rcases TenantsService.update_flags_cases actor.platformUserId draws estate.database
      deployment.mixed id dto distinct with ⟨thrown, refused⟩ | ⟨tenant, _, _, changed⟩
    · simp only [serve, stored, refused]
      exact nothing
    · simp only [serve, stored, changed]
      exact @carried_rewrite estate distinct tenant.id (TenantsService.mergeFlags dto)
        (fun _ => rfl) _
  | createPlan generated dto =>
    refine ⟨distinct, ?_⟩
    rcases PlansService.create_cases generated dto estate.plans with
      ⟨thrown, refused⟩ | ⟨created, _⟩
    · simp only [serve, offered, refused]
      exact carried_refl estate
    · simp only [serve, offered, created]
      refine { carried_refl estate with plans := ?_ }
      rw [List.map_append]
      exact List.prefix_append _ _
  | updatePlan id dto =>
    refine ⟨distinct, ?_⟩
    rcases PlansService.update_cases id dto estate.plans with
      ⟨thrown, refused⟩ | ⟨plan, _, _, updated⟩
    · simp only [serve, offered, refused]
      exact carried_refl estate
    · simp only [serve, offered, updated]
      refine { carried_refl estate with plans := ?_ }
      have kept : (Records.modify Plan.id plan.id (PlansService.changePlan dto) estate.plans).map
          (fun plan : Plan => (plan.id, plan.tier)) =
            estate.plans.map (fun plan => (plan.id, plan.tier)) :=
        Records.modify_reading (fun plan : Plan => (plan.id, plan.tier)) (fun _ _ _ => rfl)
      exact ⟨[], by rw [kept, List.append_nil]⟩
  | overview =>
    simp only [serve, stored, BypassTrail.PlatformOperation.overview_writes]
    exact nothing
  | impersonate draws id =>
    rcases SupportService.impersonate_cases deployment.auth.toAuthDeployment draws
      actor.platformUserId id estate.database with same | ⟨metadata, written⟩
    · simp only [serve, stored, same]
      exact nothing
    · simp only [serve, stored, written]
      constructor
      · rw [Estate.database, AuditService.record_tenants]
        exact distinct
      · rw [AuditService.record_writes]
        exact carried_database List.prefix_rfl ⟨[], by simp, by simp, by simp⟩
          (record_adds _ estate.database)
  | _ => exact nothing

/-- A call carries the estate on and keeps the identities of institutes distinct. -/
theorem after_carried (deployment : PlatformApiDeployment) {estate : Estate}
    (distinct : Records.Distinct Tenant.id estate.database.tenants) (call : Call) :
    Records.Distinct Tenant.id (after deployment estate call).database.tenants ∧
      Carried estate (after deployment estate call) := by
  cases admits : admitted deployment call with
  | error thrown =>
    rw [after_refused admits]
    exact ⟨distinct, carried_refl estate⟩
  | ok actor =>
    rw [after_admitted admits]
    exact serve_carried deployment actor distinct call.request

/-- Every run of calls of the platform carries the estate on, whoever calls and whatever is
answered: nothing that is stored is taken away, no institute is renamed or moved to another
subdomain or plan, nobody enters an institute but the administrator it is opened with, and the
institutes' own collections stay as they are.

Proof: a call carries the estate on where the institutes have distinct identities, which it keeps,
and what is carried on in turn is carried on. -/
theorem platform_carries (deployment : PlatformApiDeployment) {start : Estate}
    (distinct : Records.Distinct Tenant.id start.database.tenants) (calls : List Call) :
    Carried start (Runs.run (after deployment) start calls) := by
  have kept : Records.Distinct Tenant.id
        (Runs.run (after deployment) start calls).database.tenants ∧
      Carried start (Runs.run (after deployment) start calls) := by
    apply Runs.run_invariant (fun estate =>
      Records.Distinct Tenant.id estate.database.tenants ∧ Carried start estate)
    · rintro estate call ⟨apart, carried⟩
      obtain ⟨still, further⟩ := after_carried deployment apart call
      exact ⟨still, carried_trans carried further⟩
    · exact ⟨distinct, carried_refl start⟩
  exact kept.2

/-- A provisioning, a change of flags and a suspension carry the empty estate on. -/
theorem first_institute_carried :
    Carried {} (Runs.run (after desk) {} provisionedThenSuspended) :=
  @platform_carries desk {} List.nodup_nil provisionedThenSuspended

/-- What an audit entry of a request says: what was done, and to which institute. -/
def Audited (entry : AuditLog) : PlatformRequest → Prop
  | .provision draws _ =>
    entry.action = "tenant.provision" ∧ entry.targetTenantId = some draws.tenantId.hex
  | .setStatus _ id status =>
    entry.action = (if status = .suspended then "tenant.suspend" else "tenant.activate") ∧
      entry.targetTenantId = some id
  | .updateFlags _ id _ => entry.action = "tenant.flags.update" ∧ entry.targetTenantId = some id
  | .impersonate _ id => entry.action = "impersonate" ∧ entry.targetTenantId = some id
  | _ => False

/-- What audits requires a role. -/
theorem audited_guarded {entry : AuditLog} {request : PlatformRequest}
    (audited : Audited entry request) : request.requiredRoles ≠ [] := by
  cases request <;> first | exact audited.elim | simp [PlatformRequest.requiredRoles]

/-- The trail is as before, or has one entry more. -/
theorem record_trail (entry : AuditLog) (database : Database) :
    (AuditService.record entry database).auditLogs = database.auditLogs ∨
      (AuditService.record entry database).auditLogs = database.auditLogs ++ [entry] := by
  unfold AuditService.record
  split
  · exact .inl rfl
  · exact .inr rfl

/-- An admitted call adds at most one entry to the trail, of its request, in its actor's name. -/
theorem serve_trail (deployment : PlatformApiDeployment) (actor : PlatformPrincipal)
    {estate : Estate} (distinct : Records.Distinct Tenant.id estate.database.tenants)
    (request : PlatformRequest) :
    (serve deployment actor estate request).1.database.auditLogs = estate.database.auditLogs ∨
      ∃ entry, (serve deployment actor estate request).1.database.auditLogs =
          estate.database.auditLogs ++ [entry] ∧
        entry.actor = actor.platformUserId ∧ Audited entry request := by
  have recorded (entry : AuditLog) (database : Database)
      (same : database.auditLogs = estate.database.auditLogs)
      (named : entry.actor = actor.platformUserId) (audited : Audited entry request) :
      (AuditService.record entry database).auditLogs = estate.database.auditLogs ∨
        ∃ added, (AuditService.record entry database).auditLogs =
            estate.database.auditLogs ++ [added] ∧
          added.actor = actor.platformUserId ∧ Audited added request := by
    rw [← same]
    rcases record_trail entry database with nothing | one
    · exact .inl nothing
    · exact .inr ⟨entry, one, named, audited⟩
  cases request with
  | provision draws dto =>
    rcases TenantsService.provision_cases actor.platformUserId draws estate.database
      deployment.auth.toAuthDeployment dto with
      ⟨thrown, refused⟩ | ⟨_, ⟨thrown, _, stranded⟩ | provisioned⟩
    · left
      simp only [serve, stored, refused]
    · left
      simp only [serve, stored, stranded]
    · simp only [serve, stored, provisioned]
      exact recorded _ _ rfl rfl ⟨rfl, rfl⟩
  | setStatus draws id status =>
    rcases TenantsService.set_status_cases actor.platformUserId draws estate.database id status with
      ⟨thrown, refused⟩ | ⟨tenant, _, _, changed⟩
    · left
      simp only [serve, stored, refused]
    · simp only [serve, stored, changed]
      exact recorded _ _ rfl rfl ⟨rfl, rfl⟩
  | updateFlags draws id dto =>
    rcases TenantsService.update_flags_cases actor.platformUserId draws estate.database
      deployment.mixed id dto distinct with ⟨thrown, refused⟩ | ⟨tenant, _, _, changed⟩
    · left
      simp only [serve, stored, refused]
    · simp only [serve, stored, changed]
      exact recorded _ _ rfl rfl ⟨rfl, rfl⟩
  | overview =>
    left
    simp only [serve, stored, BypassTrail.PlatformOperation.overview_writes]
  | impersonate draws id =>
    rcases SupportService.impersonate_cases deployment.auth.toAuthDeployment draws
      actor.platformUserId id estate.database with same | ⟨metadata, written⟩
    · left
      simp only [serve, stored, same]
    · simp only [serve, stored, written]
      exact recorded _ _ rfl rfl ⟨rfl, rfl⟩
  | _ => exact .inl rfl

/-- What of the estate the surface changes. -/
inductive Part where
  | institutes | plans | trail

/-- A part of the estate is the same before and after. -/
def Part.Same (before after : Estate) : Part → Prop
  | .institutes =>
    after.database.tenants = before.database.tenants ∧ after.database.users = before.database.users
  | .plans => after.plans = before.plans
  | .trail => after.database.auditLogs = before.database.auditLogs

/-- A part is the same as itself. -/
theorem Part.same_refl (part : Part) (estate : Estate) : part.Same estate estate := by
  cases part with
  | institutes => exact ⟨rfl, rfl⟩
  | plans | trail => exact rfl

/-- The super roles whose requests change a part. -/
def Part.writers : Part → List SuperRole
  | .trail => [.owner, .support]
  | _ => [.owner]

/-- The parts that a request changes. -/
def writes : PlatformRequest → List Part
  | .provision .. | .setStatus .. | .updateFlags .. => [.institutes, .trail]
  | .createPlan .. | .updatePlan .. => [.plans]
  | .impersonate .. => [.trail]
  | _ => []

/-- A request that changes a part requires a role, and requires one of the part's. -/
theorem writes_guarded {request : PlatformRequest} {part : Part} (written : part ∈ writes request) :
    request.requiredRoles ≠ [] ∧ ∀ role ∈ request.requiredRoles, role ∈ part.writers := by
  cases request with
  | provision | setStatus | updateFlags =>
    rcases List.mem_pair.mp written with rfl | rfl
    · simp [PlatformRequest.requiredRoles, Part.writers]
    · simp [PlatformRequest.requiredRoles, Part.writers]
  | createPlan | updatePlan | impersonate =>
    obtain rfl := List.mem_singleton.mp written
    simp [PlatformRequest.requiredRoles, Part.writers]
  | _ => cases written

/-- An admitted call leaves the parts that its request does not change as they are. -/
theorem serve_same (deployment : PlatformApiDeployment) (actor : PlatformPrincipal)
    (estate : Estate) (request : PlatformRequest) {part : Part} (foreign : part ∉ writes request) :
    part.Same estate (serve deployment actor estate request).1 := by
  cases request with
  | provision | setStatus | updateFlags =>
    cases part with
    | plans => exact rfl
    | institutes | trail => simp [writes] at foreign
  | createPlan | updatePlan =>
    cases part with
    | plans => simp [writes] at foreign
    | institutes => exact ⟨rfl, rfl⟩
    | trail => exact rfl
  | overview =>
    simp only [serve, stored, BypassTrail.PlatformOperation.overview_writes]
    exact part.same_refl estate
  | impersonate draws id =>
    cases part with
    | trail => simp [writes] at foreign
    | plans => exact rfl
    | institutes =>
      rcases SupportService.impersonate_cases deployment.auth.toAuthDeployment draws
        actor.platformUserId id estate.database with same | ⟨metadata, written⟩
      · simp only [serve, stored, same]
        exact ⟨rfl, rfl⟩
      · simp only [serve, stored, written]
        exact ⟨AuditService.record_tenants _ _, AuditService.record_users _ _⟩
  | _ =>
    exact part.same_refl estate

/-- A call that changes a part is admitted in one of its roles. -/
theorem after_authorized (deployment : PlatformApiDeployment) {estate : Estate} {call : Call}
    {part : Part} (changed : ¬ part.Same estate (after deployment estate call)) :
    AdmittedAs deployment part.writers call := by
  cases admits : admitted deployment call with
  | error thrown =>
    rw [after_refused admits] at changed
    exact absurd (part.same_refl estate) changed
  | ok actor =>
    rw [after_admitted admits] at changed
    have written : part ∈ writes call.request := by
      by_contra foreign
      exact changed (serve_same deployment actor estate call.request foreign)
    obtain ⟨required, allowed⟩ := writes_guarded written
    obtain ⟨_, granted, role, listed, held⟩ := admitted_as admits required
    exact ⟨_, granted, role, allowed role listed, held⟩

/-- A call adds at most entries of its request to the trail, in the name of who it is admitted
for. -/
theorem after_trail (deployment : PlatformApiDeployment) {estate : Estate}
    (distinct : Records.Distinct Tenant.id estate.database.tenants) (call : Call) :
    ∃ added, (after deployment estate call).database.auditLogs =
        estate.database.auditLogs ++ added ∧
      ∀ entry ∈ added, ∃ actor, admitted deployment call = .ok actor ∧
        entry.actor = actor.platformUserId ∧ Audited entry call.request := by
  cases admits : admitted deployment call with
  | error thrown =>
    rw [after_refused admits]
    exact ⟨[], by simp, by simp⟩
  | ok actor =>
    rw [after_admitted admits]
    rcases serve_trail deployment actor distinct call.request with
      nothing | ⟨entry, one, named, audited⟩
    · exact ⟨[], by rw [nothing, List.append_nil], by simp⟩
    · refine ⟨[entry], one, ?_⟩
      intro other member
      obtain rfl := List.mem_singleton.mp member
      exact ⟨actor, rfl, named, audited⟩

/-- A part that is the same after two runs in turn is the same after both. -/
theorem Part.Same.trans {first second third : Estate} {part : Part} (one : part.Same first second)
    (two : part.Same second third) : part.Same first third := by
  cases part with
  | institutes => exact ⟨two.1.trans one.1, two.2.trans one.2⟩
  | plans | trail => exact Eq.trans two one

/-- In every run of calls, a part that is left different was changed by a call admitted in one of
its roles, and every new entry of the trail is of a call of the run, in the name of who that was
admitted for, in a role of its route.

Proof: some call of the run leaves the part different from what it found, and a call that does was
admitted. The entries are those that the calls add one after the other. -/
theorem platform_changes_attributed (deployment : PlatformApiDeployment) {start : Estate}
    (distinct : Records.Distinct Tenant.id start.database.tenants) (calls : List Call) :
    (∀ part : Part, ¬ part.Same start (Runs.run (after deployment) start calls) →
      Runs.Somewhere (after deployment) (fun estate call =>
        ¬ part.Same estate (after deployment estate call) ∧
          AdmittedAs deployment part.writers call) start calls) ∧
    ∃ added, (Runs.run (after deployment) start calls).database.auditLogs =
        start.database.auditLogs ++ added ∧
      ∀ entry ∈ added, ∃ call ∈ calls, ∃ actor, admitted deployment call = .ok actor ∧
        entry.actor = actor.platformUserId ∧ Audited entry call.request ∧
        ∃ role ∈ call.request.requiredRoles, actor.superRole = some role := by
  constructor
  · intro part changed
    have somewhere := @Runs.somewhere_changed _ _ (after deployment) part.Same part.same_refl
      (fun _ _ _ earlier later => earlier.trans later) start calls changed
    exact somewhere.weaken (fun _ _ differs => ⟨differs, after_authorized deployment differs⟩)
  · induction calls generalizing start with
    | nil => exact ⟨[], by simp, by simp⟩
    | cons call rest inductionHypothesis =>
      rw [Runs.run_cons]
      obtain ⟨late, more, attributed⟩ :=
        inductionHypothesis (after_carried deployment distinct call).1
      obtain ⟨early, added, own⟩ := after_trail deployment distinct call
      refine ⟨early ++ late, by rw [more, added, List.append_assoc], ?_⟩
      intro entry member
      rcases List.mem_append.mp member with new | later
      · obtain ⟨actor, admits, named, audited⟩ := own entry new
        obtain ⟨_, granted, role, listed, held⟩ := admitted_as admits (audited_guarded audited)
        obtain rfl := Except.ok.inj (admits.symm.trans granted)
        exact ⟨call, List.mem_cons_self, actor, admits, named, audited, role, listed, held⟩
      · obtain ⟨auditing, inside, rest⟩ := attributed entry later
        exact ⟨auditing, List.mem_cons_of_mem call inside, rest⟩

/-- The institute was provisioned in the name of an owner. -/
theorem first_institute_attributed :
    Runs.Somewhere (after desk) (fun estate call =>
      ¬ Part.institutes.Same estate (after desk estate call) ∧ AdmittedAs desk [.owner] call)
      {} provisionedThenSuspended := by
  have changed : ¬ Part.institutes.Same {} (Runs.run (after desk) {} provisionedThenSuspended) := by
    rintro ⟨same, _⟩
    have provisioned : (Runs.run (after desk) {} provisionedThenSuspended).database.tenants ≠ [] :=
      by decide
    exact provisioned same
  exact (@platform_changes_attributed desk {} List.nodup_nil provisionedThenSuspended).1
    .institutes changed

end PlatformApi

end CoachingApi
