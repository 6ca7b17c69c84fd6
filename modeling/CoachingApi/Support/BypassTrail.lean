import CoachingApi.Fees.CaptureTransitions
import CoachingApi.Library.Runs
import CoachingApi.Support.SupportService
import CoachingApi.Tenants.Provisioning

/-!
# The bypass and its audit trail

Four operations run a query under the bypass, and writing the audit entry is a step of each
of its own. A provisioning and an impersonation write it last, so what throws between the
bypass and that step leaves none. The analytics overview and the webhook write none at all.
Each operation is told with what its awaited operations fail with; writing the entry throws
nothing. An operation leaves at most one entry, and only after its bypass.
-/

namespace CoachingApi

open TenantContextStore TenantPlugin

/-- What the platform's analytics answer. -/
structure AnalyticsOverview where
  total : Nat
  active : Nat
  suspended : Nat
  totalUsers : Nat
  deriving DecidableEq

namespace BypassTrail

/-- The awaited operations of the overview; the institutes are counted by one of them. -/
inductive OverviewPoint where
  | tenantCounts | userCount
  deriving DecidableEq

/-- `overview`: nothing is written. -/
def overview (failing : OverviewPoint → Option Thrown) (actor : String) (database : Database) :
    Outcome AnalyticsOverview :=
  match failing .tenantCounts with
  | some thrown => .unbypassed (database, .error thrown)
  | none =>
    .bypassed actor
      (match failing .userCount with
      | some thrown => (database, .error thrown)
      | none =>
        match runWithBypass actor (fun ambient =>
            TenantModel.find ambient (fun _ => true) database.users) with
        | .error thrown => (database, .error thrown)
        | .ok users =>
          (database, .ok
            { total := database.tenants.length
              active := database.tenants.countP (fun tenant => decide (tenant.status = .active))
              suspended :=
                database.tenants.countP (fun tenant => decide (tenant.status = .suspended))
              totalUsers := users.length }))

/-- `razorpay`, with what the lookup of the order fails with: a delivery that asks for no capture
is answered before the bypass. -/
def razorpay (orderLookup : Option Thrown) (deployment : Deployment)
    (inputs : AwaitPoint → StepInput) (delivery : Delivery) (database : Database) : Outcome Bool :=
  match WebhooksController.captureOf deployment delivery with
  | none => .unbypassed (WebhooksController.razorpay deployment inputs delivery database)
  | some _ =>
    .bypassed "system:webhook"
      (match orderLookup with
      | some thrown => (database, .error thrown)
      | none => WebhooksController.razorpay deployment inputs delivery database)

/-- An operation under the bypass, with what its awaited operations fail with. Those of the
platform surface are made by a platform user, under its identity. -/
inductive PlatformOperation where
  | provision (failing : TenantsService.ProvisionPoint → Option Thrown) (actor : ObjectId)
      (dto : CreateTenantDto)
  | impersonate (failing : SupportService.ImpersonatePoint → Option Thrown) (actor : ObjectId)
      (tenantId : String)
  | overview (failing : OverviewPoint → Option Thrown) (actor : ObjectId)
  | razorpay (orderLookup : Option Thrown) (inputs : AwaitPoint → StepInput) (delivery : Delivery)

namespace PlatformOperation

/-- Whose bypass an operation executes when it comes to it. -/
def actor : PlatformOperation → String
  | provision _ actor _ => actor.hex
  | impersonate _ actor _ => actor.hex
  | overview _ actor => actor.hex
  | razorpay .. => "system:webhook"

section Courses

variable (auth : AuthDeployment) (fees : Deployment) (draws : Draws)

/-- Run an operation from a store. -/
def perform (operation : PlatformOperation) (database : Database) : Outcome Unit :=
  match operation with
  | provision failing actor dto =>
    (TenantsService.provisioning failing auth actor.hex draws dto database).forget
  | impersonate failing actor tenantId =>
    (SupportService.impersonating failing auth draws actor.hex tenantId database).forget
  | overview failing actor => (BypassTrail.overview failing actor.hex database).forget
  | razorpay orderLookup inputs delivery =>
    (BypassTrail.razorpay orderLookup fees inputs delivery database).forget

/-- The operation comes to its bypass: a provisioning stores its institute and hashes the
password, an impersonation finds an active institute, an overview counts the institutes, and a
delivery asks for a capture. -/
def Reaches (database : Database) : PlatformOperation → Prop
  | provision failing _ dto =>
    TenantsService.StoresTenant failing auth dto database ∧ failing .hashing = none
  | impersonate failing _ tenantId =>
    failing .tenantLookup = none ∧
      ∃ tenant, Tenant.findById tenantId database.tenants = .ok (some tenant) ∧
        tenant.status = .active
  | overview failing _ => failing .tenantCounts = none
  | razorpay _ _ delivery => (WebhooksController.captureOf fees delivery).isSome = true

/-- From its bypass on the operation comes to its audit entry: a provisioning stores its
administrator, an impersonation finds one and signs its token. Nothing of an overview or of a
delivery does. -/
def Records (database : Database) : PlatformOperation → Prop
  | provision failing _ dto => TenantsService.SeedsAdmin failing auth dto
  | impersonate failing _ tenantId =>
    failing .adminLookup = none ∧
      (SupportService.firstAdmin tenantId database.users).isSome = true ∧ failing .signing = none
  | overview .. => False
  | razorpay .. => False

/-- What was drawn is new in the store, so that writing an audit entry succeeds. -/
structure Fresh (database : Database) : Prop where
  tenants : ∀ tenant ∈ database.tenants, tenant.id ≠ draws.tenantId
  users : ∀ user ∈ database.users, user.id ≠ draws.userId ∧ user.tenantId ≠ draws.tenantId.hex
  entries : ∀ entry ∈ database.auditLogs, entry.id ≠ draws.auditId

/-- How an operation ends: before its bypass, after its entry, or between the two. -/
inductive Course (before : Database) (operation : PlatformOperation) (outcome : Outcome Unit) :
    Prop where
  | ended (unreached : ¬ Reaches auth fees before operation) (quiet : outcome.bypassedBy = none)
      (kept : outcome.database.auditLogs = before.auditLogs)
  | recorded (records : Records auth before operation)
      (executed : outcome.bypassedBy = some operation.actor) (entry : AuditLog)
      (written : outcome.database.auditLogs = before.auditLogs ++ [entry])
      (author : entry.actor = operation.actor) (drawn : entry.id = draws.auditId)
  | unrecorded (reached : Reaches auth fees before operation)
      (missed : ¬ Records auth before operation)
      (executed : outcome.bypassedBy = some operation.actor)
      (kept : outcome.database.auditLogs = before.auditLogs)

variable {auth fees draws}

/-- The three ways an operation ends, told apart by how far it comes. -/
theorem course_of {α : Type} {before : Database} {operation : PlatformOperation}
    {outcome : Outcome α}
    (unreached : ¬ Reaches auth fees before operation → ∃ ended, outcome = .unbypassed ended ∧
      ended.1.auditLogs = before.auditLogs)
    (missed : Reaches auth fees before operation → ¬ Records auth before operation →
      ∃ ended, outcome = .bypassed operation.actor ended ∧
        ended.1.auditLogs = before.auditLogs)
    (recorded : Reaches auth fees before operation → Records auth before operation →
      ∃ ended entry, outcome = .bypassed operation.actor ended ∧
        ended.1.auditLogs = before.auditLogs ++ [entry] ∧ entry.actor = operation.actor ∧
        entry.id = draws.auditId) :
    Course auth fees draws before operation outcome.forget := by
  by_cases reached : Reaches auth fees before operation
  · by_cases records : Records auth before operation
    · obtain ⟨ended, entry, rfl, written, author, drawn⟩ := recorded reached records
      exact .recorded records rfl entry written author drawn
    · obtain ⟨ended, rfl, kept⟩ := missed reached records
      exact .unrecorded reached records rfl kept
  · obtain ⟨ended, rfl, kept⟩ := unreached reached
    exact .ended reached rfl kept

/-- A provisioning that does not come to its bypass keeps the trail. -/
theorem provision_unreached {failing : TenantsService.ProvisionPoint → Option Thrown}
    {actor : ObjectId} {dto : CreateTenantDto} {database : Database} (fresh : Fresh draws database)
    (unreached : ¬ Reaches auth fees database (.provision failing actor dto)) :
    ∃ ended, TenantsService.provisioning failing auth actor.hex draws dto database =
        .unbypassed ended ∧ ended.1.auditLogs = database.auditLogs := by
  by_cases stores : TenantsService.StoresTenant failing auth dto database
  · obtain ⟨thrown, fails⟩ := Option.ne_none_iff_exists'.mp
      (fun hashes => unreached ⟨stores, hashes⟩)
    rw [TenantsService.provisioning_stores actor.hex draws stores fresh.tenants, fails]
    exact ⟨_, rfl, rfl⟩
  · obtain ⟨thrown, stopped⟩ := TenantsService.provisioning_stops actor.hex draws stores
    exact ⟨_, stopped, rfl⟩

/-- A provisioning that stores the institute and its administrator leaves its entry. -/
theorem provisioning_records {failing : TenantsService.ProvisionPoint → Option Thrown}
    {dto : CreateTenantDto} {database : Database} (actor : ObjectId)
    (stores : TenantsService.StoresTenant failing auth dto database) (fresh : Fresh draws database)
    (seeds : TenantsService.SeedsAdmin failing auth dto) :
    ∃ entry,
      (TenantsService.provisioning failing auth actor.hex draws dto database).database.auditLogs =
        database.auditLogs ++ [entry] ∧ entry.actor = actor.hex ∧ entry.id = draws.auditId := by
  have stored := (TenantsService.provision_stores actor.hex draws stores.free stores.named
    stores.addressed fresh.tenants).2
  rw [TenantsService.admin_accepted actor.hex draws seeds.named seeds.addressed fresh.users]
    at stored
  rw [TenantsService.provisioning_stores actor.hex draws stores fresh.tenants, seeds.hashes,
    seeds.creates]
  simp only [stored]
  exact ⟨_, AuditService.record_accepted actor.hex_nonempty (by simp) fresh.entries, rfl, rfl⟩

variable (draws) in
/-- An impersonation that does not come to its bypass throws and writes nothing. -/
theorem impersonate_unreached {failing : SupportService.ImpersonatePoint → Option Thrown}
    {actor : ObjectId} {tenantId : String} {database : Database}
    (unreached : ¬ Reaches auth fees database (.impersonate failing actor tenantId)) :
    ∃ thrown, SupportService.impersonating failing auth draws actor.hex tenantId database =
      .unbypassed (database, .error thrown) := by
  unfold SupportService.impersonating
  cases looked : failing .tenantLookup with
  | some thrown => exact ⟨thrown, rfl⟩
  | none =>
    cases institute : Tenant.findById tenantId database.tenants with
    | error thrown => exact ⟨thrown, rfl⟩
    | ok found =>
      cases found with
      | none => exact ⟨_, rfl⟩
      | some tenant =>
        by_cases active : tenant.status = .active
        · exact False.elim (unreached ⟨looked, tenant, institute, active⟩)
        · simp only [active, ne_eq, not_false_eq_true, if_true]
          exact ⟨_, rfl⟩

/-- From its bypass on, an impersonation throws and writes nothing, or finds an administrator,
signs its token and leaves an entry. -/
theorem impersonate_reached {failing : SupportService.ImpersonatePoint → Option Thrown}
    {actor : ObjectId} {tenantId : String} {database : Database}
    (reached : Reaches auth fees database (.impersonate failing actor tenantId)) :
    (¬ Records auth database (.impersonate failing actor tenantId) →
      ∃ thrown, SupportService.impersonating failing auth draws actor.hex tenantId database =
        .bypassed actor.hex (database, .error thrown)) ∧
    (Records auth database (.impersonate failing actor tenantId) → Fresh draws database →
      ∃ ended entry, SupportService.impersonating failing auth draws actor.hex tenantId database =
          .bypassed actor.hex ended ∧
        ended.1.auditLogs = database.auditLogs ++ [entry] ∧ entry.actor = actor.hex ∧
        entry.id = draws.auditId) := by
  obtain ⟨looked, tenant, institute, active⟩ := reached
  have read : TenantModel.findOne (some { bypass := some true, bypassActor := some actor.hex })
      (fun user => decide (user.tenantId = tenantId ∧ user.role = .admin)) database.users =
      .ok (SupportService.firstAdmin tenantId database.users) :=
    TenantModel.find_one_bypass actor.hex _ _
  unfold SupportService.impersonating
  simp only [looked, institute, active, ne_eq, not_true_eq_false, if_false, runWithBypass, read]
  constructor
  · intro missed
    cases queried : failing .adminLookup with
    | some thrown => exact ⟨thrown, rfl⟩
    | none =>
      cases found : SupportService.firstAdmin tenantId database.users with
      | none => exact ⟨_, rfl⟩
      | some admin =>
        cases signs : failing .signing with
        | some thrown => exact ⟨thrown, rfl⟩
        | none => exact False.elim (missed ⟨queried, by rw [found]; rfl, signs⟩)
  · rintro ⟨queried, stored, signs⟩ fresh
    obtain ⟨admin, found⟩ := Option.isSome_iff_exists.mp stored
    simp only [queried, found, signs]
    exact ⟨_, _, rfl, AuditService.record_accepted actor.hex_nonempty (by simp) fresh.entries, rfl,
      rfl⟩

/-- An overview writes nothing. -/
theorem overview_writes (failing : OverviewPoint → Option Thrown) (actor : String)
    (database : Database) : (BypassTrail.overview failing actor database).database = database := by
  unfold BypassTrail.overview
  cases failing .tenantCounts with
  | some thrown => rfl
  | none =>
    cases failing .userCount with
    | some thrown => rfl
    | none =>
      simp only [runWithBypass]
      cases TenantModel.find (some { bypass := some true, bypassActor := some actor })
          (fun _ => true) database.users with
      | error thrown => rfl
      | ok users => rfl

/-- No step of a capture writes to the trail. -/
theorem transition_keeps_trail {deployment : Deployment} {ambient : Ambient}
    {params : CaptureParams} {before after : Database} {step next : CaptureStep}
    (transition : FeesService.CaptureTransition deployment ambient params before step after next) :
    after.auditLogs = before.auditLogs := by
  cases transition <;> rfl

/-- No number of steps of a capture writes to the trail. -/
theorem capture_keeps_trail {deployment : Deployment} {ambient : Ambient} {params : CaptureParams}
    (inputs : AwaitPoint → StepInput) (fuel : Nat) (database : Database) (step : CaptureStep) :
    (FeesService.settle deployment ambient params inputs fuel database step).1.auditLogs =
      database.auditLogs := by
  induction fuel generalizing database step with
  | zero => rfl
  | succ fuel inductionHypothesis =>
    simp only [FeesService.settle, inductionHypothesis]
    unfold FeesService.advance
    cases step.point with
    | none => rfl
    | some point =>
      exact transition_keeps_trail
        (FeesService.capture_step_transition deployment ambient params (inputs point) database step)

/-- A delivery writes nothing to the trail. -/
theorem delivery_keeps_trail (deployment : Deployment) (inputs : AwaitPoint → StepInput)
    (delivery : Delivery) (database : Database) :
    (WebhooksController.razorpay deployment inputs delivery database).1.auditLogs =
      database.auditLogs := by
  simp only [WebhooksController.razorpay, WebhooksController.handle_routes]
  cases WebhooksController.captureOf deployment delivery with
  | none => rfl
  | some params =>
    simp only
    cases WebhooksController.routedPayment params.gatewayOrderId database.payments with
    | none => rfl
    | some payment => exact capture_keeps_trail inputs 8 database .started

variable (auth fees) in
/-- How each operation ends. -/
theorem perform_course (operation : PlatformOperation) {database : Database}
    (fresh : Fresh draws database) :
    Course auth fees draws database operation (operation.perform auth fees draws database) := by
  cases operation with
  | provision failing actor dto =>
    refine course_of (provision_unreached fresh) ?_ ?_
    · rintro ⟨stores, hashes⟩ unseeded
      obtain ⟨thrown, stranded⟩ := TenantsService.provisioning_strands actor.hex draws stores
        fresh.tenants unseeded
      exact ⟨_, TenantsService.provisioning_bypasses actor.hex draws stores fresh.tenants hashes,
        by rw [stranded]⟩
    · rintro ⟨stores, hashes⟩ seeds
      obtain ⟨entry, left⟩ := provisioning_records actor stores fresh seeds
      exact ⟨_, entry, TenantsService.provisioning_bypasses actor.hex draws stores fresh.tenants
        hashes, left⟩
  | impersonate failing actor tenantId =>
    refine course_of ?_ ?_ ?_
    · intro unreached
      obtain ⟨thrown, ended⟩ := impersonate_unreached draws unreached
      exact ⟨_, ended, rfl⟩
    · intro reached missed
      obtain ⟨thrown, ended⟩ := (impersonate_reached reached).1 missed
      exact ⟨_, ended, rfl⟩
    · intro reached records
      exact (impersonate_reached reached).2 records fresh
  | overview failing actor =>
    have kept := congrArg Database.auditLogs (overview_writes failing actor.hex database)
    refine course_of ?_ ?_ (fun _ records => records.elim)
    · intro unreached
      obtain ⟨thrown, fails⟩ := Option.ne_none_iff_exists'.mp unreached
      refine ⟨(database, .error thrown), ?_, rfl⟩
      simp only [BypassTrail.overview, fails]
    · intro reached _
      have counts : failing .tenantCounts = none := reached
      unfold BypassTrail.overview at kept ⊢
      simp only [counts] at kept ⊢
      exact ⟨_, rfl, kept⟩
  | razorpay orderLookup inputs delivery =>
    refine course_of ?_ ?_ (fun _ records => records.elim)
    · intro unreached
      have nothing : WebhooksController.captureOf fees delivery = none := by
        simpa [Reaches] using unreached
      refine ⟨_, ?_, delivery_keeps_trail fees inputs delivery database⟩
      simp only [BypassTrail.razorpay, nothing]
    · intro reached _
      obtain ⟨params, asked⟩ := Option.isSome_iff_exists.mp reached
      unfold BypassTrail.razorpay
      simp only [asked]
      refine ⟨_, rfl, ?_⟩
      cases orderLookup with
      | some thrown => rfl
      | none => exact delivery_keeps_trail fees inputs delivery database

end Courses

end PlatformOperation

open PlatformOperation

section Runs

variable (auth : AuthDeployment) (fees : Deployment)

/-- The store after an operation. -/
def step (database : Database) (input : Draws × PlatformOperation) : Database :=
  (input.2.perform auth fees input.1 database).database

/-- Whose bypass an operation executed has an entry of that operation's own in the trail when it
returns or throws. -/
def Audits (database : Database) (input : Draws × PlatformOperation) : Prop :=
  ∀ actor, (input.2.perform auth fees input.1 database).bypassedBy = some actor →
    ∃ entry ∈ (step auth fees database input).auditLogs,
      entry ∉ database.auditLogs ∧ entry.actor = actor

/-- An operation that comes to its bypass comes to its audit entry. -/
def Completes (database : Database) (input : Draws × PlatformOperation) : Prop :=
  Reaches auth fees database input.2 → Records auth database input.2

/-- Whose bypass each operation of a run executed, in their order. -/
def bypasses : Database → List (Draws × PlatformOperation) → List String
  | _, [] => []
  | database, input :: rest =>
    (input.2.perform auth fees input.1 database).bypassedBy.toList ++
      bypasses (step auth fees database input) rest

variable {auth fees}

/-- An operation audits its bypass exactly when it does not end between the two. -/
theorem audits_iff {database : Database} {input : Draws × PlatformOperation}
    (fresh : Fresh input.1 database) :
    Audits auth fees database input ↔ Completes auth fees database input := by
  unfold Audits
  cases perform_course auth fees input.2 fresh with
  | ended unreached quiet _ =>
    constructor
    · intro _ reached
      exact False.elim (unreached reached)
    · intro _ actor executed
      rw [quiet] at executed
      cases executed
  | recorded records executed entry written author drawn =>
    constructor
    · intro _ _
      exact records
    · intro _ actor another
      rw [executed, Option.some.injEq] at another
      refine ⟨entry, ?_, fun earlier => fresh.entries entry earlier drawn, author.trans another⟩
      simp only [step, written, List.mem_append, List.mem_singleton, or_true]
  | unrecorded reached missed executed kept =>
    constructor
    · intro audits
      obtain ⟨entry, left, new, _⟩ := audits _ executed
      rw [step, kept] at left
      exact False.elim (new left)
    · intro completes
      exact False.elim (missed (completes reached))

/-- An operation that completes leaves one entry for its bypass, and none without. -/
theorem completes_leaves {database : Database} {input : Draws × PlatformOperation}
    (fresh : Fresh input.1 database) (completes : Completes auth fees database input) :
    ∃ entries, (step auth fees database input).auditLogs = database.auditLogs ++ entries ∧
      entries.map AuditLog.actor =
        (input.2.perform auth fees input.1 database).bypassedBy.toList := by
  cases perform_course auth fees input.2 fresh with
  | ended _ quiet kept => exact ⟨[], by simp [step, kept], by simp [quiet]⟩
  | recorded _ executed entry written author _ =>
    exact ⟨[entry], written, by simp [executed, author]⟩
  | unrecorded reached missed _ _ => exact False.elim (missed (completes reached))

/-- The entries of a run whose operations complete are those of its bypasses, in their order.

Proof: induction on the run; each operation's entries come before those of the rest. -/
theorem completed_run_leaves {database : Database} {calls : List (Draws × PlatformOperation)}
    (fresh : Runs.Along (step auth fees) (fun before input => Fresh input.1 before) database calls)
    (completes : Runs.Along (step auth fees) (Completes auth fees) database calls) :
    ∃ entries, (Runs.run (step auth fees) database calls).auditLogs =
        database.auditLogs ++ entries ∧
      entries.map AuditLog.actor = bypasses auth fees database calls := by
  induction calls generalizing database with
  | nil => exact ⟨[], by simp, rfl⟩
  | cons input rest inductionHypothesis =>
    obtain ⟨first, left, named⟩ := completes_leaves fresh.1 completes.1
    obtain ⟨later, followed, others⟩ := inductionHypothesis fresh.2 completes.2
    refine ⟨first ++ later, ?_, ?_⟩
    · rw [Runs.run_cons, followed, left, List.append_assoc]
    · rw [List.map_append, named, others, bypasses]

end Runs

/-- In every run of the four operations, with any of them failing anywhere, each bypass is
audited by the time its operation ends exactly when every operation that comes to its bypass
comes to its entry; for an overview or a delivery it never does. Then the trail grows by one
entry for each bypass of the run, in their order.

Proof: with fresh identities the write of an entry succeeds, so a single operation is audited
exactly when it does not come to its bypass or comes to its entry. A run follows step by step. -/
theorem bypasses_audited_iff (auth : AuthDeployment) (fees : Deployment) (database : Database)
    (calls : List (Draws × PlatformOperation))
    (fresh : Runs.Along (step auth fees) (fun before input => Fresh input.1 before) database
      calls) :
    (Runs.Along (step auth fees) (Audits auth fees) database calls ↔
      Runs.Along (step auth fees) (Completes auth fees) database calls) ∧
    (Runs.Along (step auth fees) (Completes auth fees) database calls →
      ∃ entries, (Runs.run (step auth fees) database calls).auditLogs =
          database.auditLogs ++ entries ∧
        entries.map AuditLog.actor = bypasses auth fees database calls) := by
  refine ⟨⟨?_, ?_⟩, completed_run_leaves fresh⟩
  · intro audits
    exact (Runs.along_both fresh audits).weaken
      (fun _ _ condition => (audits_iff condition.1).mp condition.2)
  · intro completes
    exact (Runs.along_both fresh completes).weaken
      (fun _ _ condition => (audits_iff condition.1).mpr condition.2)

/-- What an operation of a demonstration draws. -/
def trailDraws (digit : Char) : Draws :=
  { now := 0, salt := "salt", inviteToken := "", tenantId := .repeated digit,
    userId := .repeated digit, auditId := .repeated digit }

/-- Fee services in stub mode. -/
def stubFees : Deployment :=
  { hmac := fun secret text => secret ++ text, numberToString := fun _ => "" }

/-- A provisioning whose administrator has the given name. -/
def provisioningOf (adminName : String) : PlatformOperation :=
  .provision (fun _ => none) (.repeated '9')
    { name := "Bright", subdomain := "bright", adminName := adminName
      adminEmail := "head@bright.test", adminPassword := "head-password" }

/-- A verified delivery of a capture. -/
def capturing : Delivery :=
  { body :=
      { event := some "payment.captured"
        entity := some { id := some "pay_1", orderId := some "order_1", amount := some 100 } } }

/-- Identities are fresh for the empty store. -/
theorem fresh_empty (draws : Draws) : Fresh draws {} :=
  ⟨fun _ member => (List.not_mem_nil member).elim, fun _ member => (List.not_mem_nil member).elim,
    fun _ member => (List.not_mem_nil member).elim⟩

/-- An operation on the empty store that comes to its bypass and not to its entry leaves the
bypass unaudited. -/
theorem unaudited_empty {operation : PlatformOperation}
    (reached : Reaches .marking stubFees {} operation)
    (missed : ¬ Records .marking {} operation) :
    ¬ Runs.Along (step .marking stubFees) (Audits .marking stubFees) {}
      [(trailDraws '3', operation)] := by
  rintro ⟨audits, _⟩
  exact missed ((audits_iff (fresh_empty _)).mp audits reached)

/-- An overview, a delivery for an order that is not stored, and a provisioning whose
administrator's name is a blank: each executes its bypass and leaves no entry. -/
theorem bypasses_unaudited :
    ¬ Runs.Along (step .marking stubFees) (Audits .marking stubFees) {}
      [(trailDraws '3', .overview (fun _ => none) (.repeated '9'))] ∧
    ¬ Runs.Along (step .marking stubFees) (Audits .marking stubFees) {}
      [(trailDraws '3',
        .razorpay none (fun _ => { now := 0, notification := .repeated '4' }) capturing)] ∧
    ¬ Runs.Along (step .marking stubFees) (Audits .marking stubFees) {}
      [(trailDraws '3', provisioningOf " ")] := by
  refine ⟨unaudited_empty rfl id, unaudited_empty ?_ id, unaudited_empty ?_ ?_⟩
  · show (WebhooksController.captureOf stubFees capturing).isSome = true
    decide +kernel
  · exact ⟨⟨rfl, rfl, rfl, by decide +kernel, by decide +kernel⟩, rfl⟩
  · intro seeds
    exact seeds.named (by decide +kernel)

/-- A provisioning and an impersonation of its administrator, and one of an institute that is
not stored. -/
def auditedCalls : List (Draws × PlatformOperation) :=
  [(trailDraws '3', provisioningOf "Head"),
    (trailDraws '4', .impersonate (fun _ => none) (.repeated '8') (ObjectId.repeated '3').hex),
    (trailDraws '5', .impersonate (fun _ => none) (.repeated '8') (ObjectId.repeated '7').hex)]

/-- The three calls draw identities that are new. -/
theorem audited_calls_fresh :
    Runs.Along (step .marking stubFees) (fun before input => Fresh input.1 before) {}
      auditedCalls := by
  refine ⟨fresh_empty _, ⟨?_, ?_, ?_⟩, ⟨?_, ?_, ?_⟩, trivial⟩ <;> decide +kernel

/-- Each bypass of the three calls is audited; the third has none. -/
theorem audited_calls_leave :
    Runs.Along (step .marking stubFees) (Audits .marking stubFees) {} auditedCalls := by
  apply (bypasses_audited_iff .marking stubFees {} auditedCalls audited_calls_fresh).1.mpr
  refine ⟨fun _ => ⟨rfl, rfl, by decide +kernel, by decide +kernel⟩,
    fun _ => ⟨rfl, by decide +kernel, rfl⟩, ?_, trivial⟩
  rintro ⟨_, tenant, found, _⟩
  have missing : Tenant.findById (ObjectId.repeated '7').hex
      (Runs.run (step .marking stubFees) {} (auditedCalls.take 2)).tenants = .ok none := by
    decide +kernel
  cases found.symm.trans missing

end BypassTrail

end CoachingApi
