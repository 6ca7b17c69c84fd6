import CoachingApi.Library.Histories
import CoachingApi.Surfaces.PlatformWrites

/-!
# The audit trail tells the standing of institutes

A provisioning, a suspension and any other change of standing say in the trail whether their
institute is suspended, and a change of flags says which flags it set. Read in order, the trail of
every run whose entries are accepted tells of every institute whether it is suspended, and each of
its flags. Of an institute whose provisioning failed after it was stored nothing is told, and
nothing has to be: it is not suspended and has no flags.
-/

namespace CoachingApi

open Histories

namespace AuditReplay

/-- What an entry tells of an institute: whether it is suspended from then on. -/
def standingTold (entry : AuditLog) : List ((ObjectId × Unit) × Bool) :=
  match entry.targetTenantId.bind ObjectId.cast with
  | none => []
  | some tenantId =>
    if entry.action = "tenant.suspend" then [((tenantId, ()), true)]
    else if entry.action = "tenant.activate" ∨ entry.action = "tenant.provision" then
      [((tenantId, ()), false)]
    else []

/-- The flag that a field of an entry's detail names, with its value. -/
def flagTold (field : String × String) : String × Option Bool :=
  (String.ofList (field.1.toList.drop "flags.".length), some (decide (field.2 = "true")))

/-- What an entry tells of an institute's flags. -/
def flagsTold (entry : AuditLog) : List ((ObjectId × String) × Option Bool) :=
  match entry.targetTenantId.bind ObjectId.cast with
  | none => []
  | some tenantId =>
    if entry.action = "tenant.flags.update" then
      entry.metadata.map (fun field => ((tenantId, (flagTold field).1), (flagTold field).2))
    else []

/-- Whether an institute is suspended. -/
def suspended (tenant : Tenant) (_ : Unit) : Bool := decide (tenant.status = .suspended)

/-- Read in order, the trail tells the standing and the flags of every institute. -/
structure Tells (database : Database) : Prop where
  distinct : Records.Distinct Tenant.id database.tenants
  standing : Replays Tenant.id suspended false database.tenants
    (database.auditLogs.flatMap standingTold)
  flags : Replays Tenant.id (fun tenant => tenant.flags.read) none database.tenants
    (database.auditLogs.flatMap flagsTold)

/-- What is told of a flag is what its entry set. -/
theorem flag_told (flag : String × Bool) :
    flagTold ("flags." ++ flag.1, toString flag.2) = (flag.1, some flag.2) := by
  obtain ⟨key, value⟩ := flag
  have named : String.ofList (("flags." ++ key).toList.drop "flags.".length) = key := by
    rw [String.toList_append, List.drop_left' (by decide), String.ofList_toList]
  unfold flagTold
  rw [named]
  cases value with
  | true => rfl
  | false => rfl

/-- What a change of flags tells is read as the flags that it set. -/
theorem flags_entry_told (actor : String) (draws : Draws) (id : String) (dto : UpdateFlagsDto)
    {tenantId : ObjectId} (casts : ObjectId.cast id = some tenantId) :
    flagsTold (TenantsService.flagsEntry actor draws id dto) =
      dto.flags.entries.map (fun flag => ((tenantId, flag.1), some flag.2)) := by
  simp only [flagsTold, TenantsService.flagsEntry, Option.bind_some, casts, if_true, List.map_map]
  apply List.map_congr_left
  intro flag _
  simp only [Function.comp_apply, flag_told]

/-- What a change of flags tells of a flag is what it set it to, if it did. -/
theorem flags_entry_reads (actor : String) (draws : Draws) (id : String) (dto : UpdateFlagsDto)
    {tenantId : ObjectId} (casts : ObjectId.cast id = some tenantId) (key : String) :
    Revisions.lastUnder (tenantId, key)
        (flagsTold (TenantsService.flagsEntry actor draws id dto)) =
      (dto.flags.read key).map some := by
  have apart : Function.Injective (fun key : String => (tenantId, key)) :=
    fun _ _ same => congrArg Prod.snd same
  rw [flags_entry_told actor draws id dto casts]
  exact (last_under_map apart some key dto.flags.entries).trans
    (congrArg (Option.map some) (dto.flags.last_under_entries key))

/-- The trail with an entry tells what it told and what the entry tells. -/
theorem tells_entry {database : Database} {tenants : List Tenant} {users : List User}
    {entry : AuditLog} (distinct : Records.Distinct Tenant.id tenants)
    (standing : Replays Tenant.id suspended false tenants
      (database.auditLogs.flatMap standingTold ++ standingTold entry))
    (flags : Replays Tenant.id (fun tenant => tenant.flags.read) none tenants
      (database.auditLogs.flatMap flagsTold ++ flagsTold entry))
    (recorded : (AuditService.record entry
        { database with tenants := tenants, users := users }).auditLogs =
      database.auditLogs ++ [entry]) :
    Tells (AuditService.record entry { database with tenants := tenants, users := users }) where
  distinct := by
    rw [AuditService.record_tenants]
    exact distinct
  standing := by
    rw [AuditService.record_tenants, recorded, List.flatMap_append, List.flatMap_singleton]
    exact standing
  flags := by
    rw [AuditService.record_tenants, recorded, List.flatMap_append, List.flatMap_singleton]
    exact flags

/-- What a request that audits draws. -/
def draws : PlatformRequest → Option Draws
  | .provision draws _ | .setStatus draws _ _ | .updateFlags draws _ _ | .impersonate draws _ =>
    some draws
  | _ => none

/-- An audit entry of an actor's request is accepted: the actor is named, and the identity that is
drawn for the entry is new. -/
def Recordable (estate : Estate) (request : PlatformRequest) (actor : PlatformPrincipal) : Prop :=
  ∀ drawn ∈ draws request, actor.platformUserId ≠ "" ∧
    ∀ stored ∈ estate.database.auditLogs, stored.id ≠ drawn.auditId

/-- Whether an entry is accepted can be tested. -/
instance (estate : Estate) (request : PlatformRequest) (actor : PlatformPrincipal) :
    Decidable (Recordable estate request actor) :=
  inferInstanceAs (Decidable (∀ drawn ∈ draws request, actor.platformUserId ≠ "" ∧
    ∀ stored ∈ estate.database.auditLogs, stored.id ≠ drawn.auditId))

/-- Other institutes in a store of the same trail, of which nothing was told. -/
theorem tells_silent {database : Database} {tenants : List Tenant}
    (distinct : Records.Distinct Tenant.id tenants)
    (standing : Replays Tenant.id suspended false tenants
      (database.auditLogs.flatMap standingTold ++ []))
    (flags : Replays Tenant.id (fun tenant => tenant.flags.read) none tenants
      (database.auditLogs.flatMap flagsTold ++ [])) :
    Tells { database with tenants := tenants } where
  distinct := distinct
  standing := by
    rw [List.append_nil] at standing
    exact standing
  flags := by
    rw [List.append_nil] at flags
    exact flags

/-- A provisioning keeps what the trail tells. -/
theorem provision_tells (deployment : AuthDeployment) (actor : PlatformPrincipal) (drawn : Draws)
    (dto : CreateTenantDto) {estate : Estate} (tells : Tells estate.database)
    (recordable : Recordable estate (.provision drawn dto) actor) :
    Tells (TenantsService.provision deployment actor.platformUserId drawn dto
      estate.database).1 := by
  obtain ⟨named, fresh⟩ := recordable drawn rfl
  rcases TenantsService.provision_cases actor.platformUserId drawn estate.database deployment dto with
    ⟨thrown, refused⟩ | ⟨own, ⟨thrown, _, stranded⟩ | provisioned⟩
  · rw [refused]
    exact tells
  · rw [stranded]
    apply tells_silent (Records.append_distinct tells.distinct own)
    · exact tells.standing.append own (by simp) (fun _ => rfl)
    · exact tells.flags.append own (by simp) (fun _ => rfl)
  · have told : (TenantsService.provisionEntry actor.platformUserId drawn deployment
        (TenantsService.provisionedTenant deployment drawn dto) dto).targetTenantId.bind
          ObjectId.cast = some drawn.tenantId := ObjectId.cast_hex drawn.tenantId
    rw [provisioned]
    apply tells_entry (Records.append_distinct tells.distinct own)
    · have one : standingTold (TenantsService.provisionEntry actor.platformUserId drawn deployment
          (TenantsService.provisionedTenant deployment drawn dto) dto) =
            [((drawn.tenantId, ()), false)] := by
        unfold standingTold
        rw [told]
        rfl
      rw [one]
      apply tells.standing.append own
      · intro entry member
        rw [List.mem_singleton.mp member]
        rfl
      · intro sought
        exact (congrArg (fun last => last.getD false)
          (last_under_one (drawn.tenantId, sought) false)).symm
    · have nothing : flagsTold (TenantsService.provisionEntry actor.platformUserId drawn deployment
          (TenantsService.provisionedTenant deployment drawn dto) dto) = [] := by
        unfold flagsTold
        rw [told]
        rfl
      rw [nothing]
      exact tells.flags.append own (by simp) (fun _ => rfl)
    · exact AuditService.record_accepted named (by simp [TenantsService.provisionEntry]) fresh

/-- A change of standing keeps what the trail tells. -/
theorem set_status_tells (actor : PlatformPrincipal) (drawn : Draws) (id : String)
    (status : TenantStatus) {estate : Estate} (tells : Tells estate.database)
    (recordable : Recordable estate (.setStatus drawn id status) actor) :
    Tells (TenantsService.setStatus actor.platformUserId drawn id status estate.database).1 := by
  obtain ⟨named, fresh⟩ := recordable drawn rfl
  rcases TenantsService.set_status_cases actor.platformUserId drawn estate.database id status with
    ⟨thrown, refused⟩ | ⟨tenant, stored, casts, changed⟩
  · rw [refused]
    exact tells
  · have told : (TenantsService.statusEntry actor.platformUserId drawn id
        status).targetTenantId.bind ObjectId.cast = some tenant.id := casts
    have one : standingTold (TenantsService.statusEntry actor.platformUserId drawn id status) =
        [((tenant.id, ()), decide (status = .suspended))] := by
      unfold standingTold
      rw [told]
      unfold TenantsService.statusEntry
      cases status <;> rfl
    have nothing : flagsTold (TenantsService.statusEntry actor.platformUserId drawn id status) =
        [] := by
      unfold flagsTold
      rw [told]
      unfold TenantsService.statusEntry
      cases status <;> rfl
    rw [changed]
    apply tells_entry
    · exact Records.modify_distinct (fun _ => rfl) tells.distinct
    · rw [one]
      refine tells.standing.modify stored ?_ ?_ ?_
      · exact fun _ => rfl
      · intro entry member
        rw [List.mem_singleton.mp member]
      · intro row sought same
        exact (congrArg (fun last => last.getD (suspended row sought))
          (last_under_one (tenant.id, sought) (decide (status = .suspended)))).symm
    · rw [nothing]
      exact tells.flags.modify stored (fun _ => rfl) (by simp) (fun _ _ _ => rfl)
    · apply AuditService.record_accepted named
      · unfold TenantsService.statusEntry
        cases status <;> simp
      · exact fresh

/-- A change of flags keeps what the trail tells. -/
theorem update_flags_tells (mixed : MixedPath Flags) (actor : PlatformPrincipal) (drawn : Draws)
    (id : String) (dto : UpdateFlagsDto) {estate : Estate} (tells : Tells estate.database)
    (recordable : Recordable estate (.updateFlags drawn id dto) actor) :
    Tells (TenantsService.updateFlags mixed actor.platformUserId drawn id dto
      estate.database).1 := by
  obtain ⟨named, fresh⟩ := recordable drawn rfl
  rcases TenantsService.update_flags_cases actor.platformUserId drawn estate.database mixed id dto
    tells.distinct with ⟨thrown, refused⟩ | ⟨tenant, stored, casts, changed⟩
  · rw [refused]
    exact tells
  · have nothing : standingTold (TenantsService.flagsEntry actor.platformUserId drawn id dto) =
        [] := by
      unfold standingTold TenantsService.flagsEntry
      simp [casts]
    rw [changed]
    apply tells_entry
    · exact Records.modify_distinct (fun _ => rfl) tells.distinct
    · rw [nothing]
      exact tells.standing.modify stored (fun _ => rfl) (by simp) (fun _ _ _ => rfl)
    · refine tells.flags.modify stored ?_ ?_ ?_
      · exact fun _ => rfl
      · intro entry member
        rw [flags_entry_told _ _ _ _ casts] at member
        obtain ⟨flag, _, rfl⟩ := List.mem_map.mp member
        rfl
      · intro row key same
        rw [flags_entry_reads _ _ _ _ casts]
        unfold TenantsService.mergeFlags
        rw [PlainObject.read_spread]
        cases dto.flags.read key with
        | none => rfl
        | some value => rfl
    · exact AuditService.record_accepted named (by simp [TenantsService.flagsEntry]) fresh

/-- An impersonation keeps what the trail tells. -/
theorem impersonate_tells (deployment : AuthDeployment) (actor : PlatformPrincipal)
    (drawn : Draws) (id : String) {estate : Estate} (tells : Tells estate.database)
    (recordable : Recordable estate (.impersonate drawn id) actor) :
    Tells (SupportService.impersonate deployment drawn actor.platformUserId id
      estate.database).1 := by
  obtain ⟨named, fresh⟩ := recordable drawn rfl
  rcases SupportService.impersonate_cases deployment drawn actor.platformUserId id
    estate.database with same | ⟨metadata, written⟩
  · rw [same]
    exact tells
  · rw [written]
    apply tells_entry tells.distinct
    · apply tells.standing.silent
      unfold standingTold
      split
      · rfl
      · simp
    · apply tells.flags.silent
      unfold flagsTold
      split
      · rfl
      · simp
    · exact AuditService.record_accepted named (by simp) fresh

open PlatformApi

/-- An admitted call keeps what the trail tells. -/
theorem serve_tells (deployment : PlatformApiDeployment) (actor : PlatformPrincipal)
    {estate : Estate} (tells : Tells estate.database) (request : PlatformRequest)
    (recordable : Recordable estate request actor) :
    Tells (serve deployment actor estate request).1.database := by
  cases request with
  | provision drawn dto =>
    exact provision_tells deployment.auth.toAuthDeployment actor drawn dto tells recordable
  | setStatus drawn id status => exact set_status_tells actor drawn id status tells recordable
  | updateFlags drawn id dto =>
    exact update_flags_tells deployment.mixed actor drawn id dto tells recordable
  | impersonate drawn id =>
    exact impersonate_tells deployment.auth.toAuthDeployment actor drawn id tells recordable
  | overview =>
    simp only [serve, stored, BypassTrail.PlatformOperation.overview_writes]
    exact tells
  | _ => exact tells

/-- An audit entry of a call is accepted, if the call is admitted. -/
def Recorded (deployment : PlatformApiDeployment) (estate : Estate) (call : Call) : Prop :=
  ∀ actor ∈ (admitted deployment call).toOption, Recordable estate call.request actor

/-- Whether an entry of a call is accepted can be tested. -/
instance (deployment : PlatformApiDeployment) (estate : Estate) (call : Call) :
    Decidable (Recorded deployment estate call) :=
  inferInstanceAs (Decidable
    (∀ actor ∈ (admitted deployment call).toOption, Recordable estate call.request actor))

/-- Where the trail tells the standing and the flags of every institute, it tells them after every
run of calls whose entries are accepted.

Proof: a call that is refused changes nothing, and an admitted one tells what it changes. -/
theorem trail_tells_standing (deployment : PlatformApiDeployment) {start : Estate}
    {calls : List Call} (tells : Tells start.database)
    (recorded : Runs.Along (after deployment) (Recorded deployment) start calls) :
    Tells (Runs.run (after deployment) start calls).database := by
  have kept (estate : Estate) (call : Call) (told : Tells estate.database)
      (accepted : Recorded deployment estate call) :
      Tells (after deployment estate call).database := by
    cases admits : admitted deployment call with
    | error thrown =>
      rw [after_refused admits]
      exact told
    | ok actor =>
      rw [after_admitted admits]
      apply serve_tells deployment actor told call.request
      apply accepted
      rw [admits]
      rfl
  exact @Runs.run_preserves _ _ _ _ (fun estate => Tells estate.database) kept start calls tells
    recorded

/-- The trail of an empty estate tells of no institute. -/
theorem tells_nothing : Tells {} where
  distinct := List.nodup_nil
  standing := ⟨by simp, by simp⟩
  flags := ⟨by simp, by simp⟩

/-- The trail tells that the provisioned institute is suspended, and has a feature switched on. -/
theorem suspension_told :
    Tells (Runs.run (after desk) {} provisionedThenSuspended).database :=
  @trail_tells_standing desk {} provisionedThenSuspended tells_nothing (by decide)

end AuditReplay

end CoachingApi
