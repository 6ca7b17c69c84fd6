import CoachingApi.Surfaces.TokenProvenance

/-!
# Whose accounts change what

The guards look at tokens, and tokens name accounts. So whatever a run of the whole API leaves
different of an institute's classes, of institutes themselves, of the platform's plans or of the
audit trail was changed by a request of a stored account whose own role may change it. Users,
invoices, payments, notifications and what is pushed are left out: these are also written by
invitations that are accepted and by deliveries, which need no account.
-/

namespace CoachingApi

open TenantPlugin

/-- Who may change something: members of institutes in some roles, or the staff in some. -/
inductive Warrant where
  | members (roles : List UserRole)
  | staff (roles : List SuperRole)

/-- Something reaches the API that a guard admits, for a stored account with the warrant. -/
def Warrant.Acts (deployment : WholeDeployment) (world : World) (event : ApiEvent) :
    Warrant → Prop
  | .members roles =>
    ∃ call principal, event = .member call ∧
      TenantApi.admitted deployment.tenant call = .ok principal ∧
      ∃ user ∈ world.estate.database.users, principal.userId = user.id.hex ∧
        principal.tenantId = user.tenantId ∧ user.role ∈ roles
  | .staff roles =>
    ∃ call actor, event = .staff call ∧
      PlatformApi.admitted deployment.platform call = .ok actor ∧
      ∃ account ∈ world.estate.staff, actor.platformUserId = account.id.hex ∧
        account.superRole ∈ roles

/-- What may be found different: a collection of the institutes', or the platform's plans. -/
inductive Asset where
  | collection (holding : Holding)
  | offers

namespace Asset

/-- An asset is the same before and after. -/
def Same (before after : Estate) : Asset → Prop
  | .collection holding => holding.Same before.campus after.campus
  | .offers => after.plans = before.plans

/-- Who may change an asset; none where no account is needed. -/
def warrant : Asset → Option Warrant
  | .collection .users | .collection .invoices | .collection .payments
  | .collection .notifications | .collection .pushes => none
  | .collection .tenants => some (.staff [.owner])
  | .collection .auditLogs => some (.staff [.owner, .support])
  | .collection holding => holding.writers.map .members
  | .offers => some (.staff [.owner])

/-- An asset is the same as itself. -/
theorem same_refl (asset : Asset) (estate : Estate) : asset.Same estate estate := by
  cases asset with
  | collection holding => exact rfl
  | offers => exact rfl

/-- An asset that is the same after each of two runs is the same after both. -/
theorem Same.trans {asset : Asset} {first second third : Estate} (one : asset.Same first second)
    (two : asset.Same second third) : asset.Same first third := by
  cases asset with
  | collection holding => exact Eq.trans two one
  | offers => exact Eq.trans two one

end Asset

namespace World

variable {deployment : WholeDeployment} {world : World}

/-- A call of a member that changes an asset acts with its warrant. -/
theorem member_acts (founded : Founded world) {call : TenantApi.Call}
    (unforged : Unforged deployment world (.member call)) {asset : Asset} {warrant : Warrant}
    (warranted : asset.warrant = some warrant)
    (changed : ¬ asset.Same world.estate (take deployment world (.member call)).estate) :
    warrant.Acts deployment world (.member call) := by
  have acts {holding : Holding} {roles : List UserRole} (guarded : holding.writers = some roles)
      (differs : ¬ holding.Same world.estate.campus
        (TenantApi.after deployment.tenant world.estate.campus call)) :
      (Warrant.members roles).Acts deployment world (.member call) := by
    obtain ⟨principal, admits, role, allowed, held⟩ :=
      TenantApi.after_authorized deployment.tenant guarded differs
    obtain ⟨user, stored, named, owner, same⟩ := member_backed founded unforged admits
    have own : user.role ∈ roles := same role held ▸ allowed
    exact ⟨call, principal, rfl, admits, user, stored, named, owner, own⟩
  cases asset with
  | offers => exact absurd rfl changed
  | collection holding =>
    cases holding with
    | users | invoices | payments | notifications | pushes => cases warranted
    | tenants | auditLogs =>
      exact absurd (TenantApi.after_unwritten deployment.tenant world.estate.campus call rfl) changed
    | students | batches | plans | assignments | submissions | tests | scores | attendance
    | leads | materials =>
      obtain rfl := Option.some.inj warranted
      exact acts rfl changed

/-- A call of the staff that changes an asset acts with its warrant. -/
theorem staff_acts (founded : Founded world) {call : PlatformApi.Call}
    (unforged : Unforged deployment world (.staff call)) {asset : Asset} {warrant : Warrant}
    (warranted : asset.warrant = some warrant)
    (changed : ¬ asset.Same world.estate (take deployment world (.staff call)).estate) :
    warrant.Acts deployment world (.staff call) := by
  have acts {part : PlatformApi.Part}
      (differs : ¬ part.Same world.estate
        (PlatformApi.after deployment.platform world.estate call)) :
      (Warrant.staff part.writers).Acts deployment world (.staff call) := by
    obtain ⟨actor, admits, role, allowed, held⟩ :=
      PlatformApi.after_authorized deployment.platform differs
    obtain ⟨account, stored, named, same⟩ := staff_backed founded unforged admits
    have own : account.superRole ∈ part.writers := same role held ▸ allowed
    exact ⟨call, actor, rfl, admits, account, stored, named, own⟩
  have carried := (PlatformApi.after_carried deployment.platform founded.distinct call).2
  cases asset with
  | offers =>
    obtain rfl := Option.some.inj warranted
    exact @acts .plans changed
  | collection holding =>
    cases holding with
    | users | invoices | payments | notifications | pushes => cases warranted
    | tenants =>
      obtain rfl := Option.some.inj warranted
      exact @acts .institutes (fun same => changed same.1)
    | auditLogs =>
      obtain rfl := Option.some.inj warranted
      exact @acts .trail changed
    | students | batches | plans | assignments | submissions | tests | scores | attendance
    | leads | materials => exact absurd (carried.members _ (by simp)) changed

/-- What changes an asset acts with its warrant. -/
theorem take_acts (founded : Founded world) {event : ApiEvent}
    (unforged : Unforged deployment world event) {asset : Asset} {warrant : Warrant}
    (warranted : asset.warrant = some warrant)
    (changed : ¬ asset.Same world.estate (take deployment world event).estate) :
    warrant.Acts deployment world event := by
  cases event with
  | member call => exact member_acts founded unforged warranted changed
  | staff call => exact staff_acts founded unforged warranted changed
  | acceptInvite draws subdomain dto =>
    obtain ⟨users, written, _⟩ := TenantAuthService.accept_invite_writes deployment.tenant.auth
      draws subdomain dto world.estate.database
    simp only [take, written] at changed
    cases asset with
    | offers => exact absurd rfl changed
    | collection holding =>
      cases holding with
      | users => cases warranted
      | _ => exact absurd rfl changed
  | delivery inputs delivery =>
    have written := TenantApi.delivery_writes deployment.tenant.fees inputs delivery
      world.estate.campus
    cases asset with
    | offers => exact absurd rfl changed
    | collection holding =>
      cases holding with
      | users | invoices | payments | notifications | pushes => cases warranted
      | _ => exact absurd (written.same (by decide)) changed
  | _ => exact absurd (asset.same_refl world.estate) changed

/-- In every run of the whole API by clients who forge no tokens, whatever asset is left different
was changed by a request that a guard admitted for a stored account whose own role may change it.

Proof: what reaches the API leaves an asset as it was at the start, unless it changes the asset in
a world that is still founded, and then it acts with the asset's warrant. -/
theorem changes_warranted {start : World} {events : List ApiEvent} (founded : Founded start)
    (unforged : Runs.Along (take deployment) (Unforged deployment) start events) {asset : Asset}
    {warrant : Warrant} (warranted : asset.warrant = some warrant)
    (changed : ¬ asset.Same start.estate (Runs.run (take deployment) start events).estate) :
    Runs.Somewhere (take deployment) (fun world event =>
      ¬ asset.Same world.estate (take deployment world event).estate ∧
        warrant.Acts deployment world event) start events := by
  have kept (world : World) (event : ApiEvent) (sound : Founded world)
      (presented : Unforged deployment world event) (same : asset.Same start.estate world.estate) :
      asset.Same start.estate (take deployment world event).estate ∨
        ¬ asset.Same world.estate (take deployment world event).estate ∧
          warrant.Acts deployment world event := by
    by_cases still : asset.Same world.estate (take deployment world event).estate
    · exact .inl (same.trans still)
    · exact .inr ⟨still, take_acts sound presented warranted still⟩
  have ended := @Runs.run_keeps_unless _ _ (take deployment) (Unforged deployment)
    (fun world event => ¬ asset.Same world.estate (take deployment world event).estate ∧
      warrant.Acts deployment world event) Founded
    (fun world => asset.Same start.estate world.estate)
    (fun _ _ sound presented => take_founded sound presented) kept start events founded
    (asset.same_refl start.estate) unforged
  exact ended.resolve_left changed

/-- The lead was recorded for the account of a teacher or an administrator. -/
theorem lead_warranted :
    Runs.Somewhere (take twoRealms) (fun world event =>
      ¬ (Asset.collection .leads).Same world.estate (take twoRealms world event).estate ∧
        (Warrant.members [.admin, .teacher]).Acts twoRealms world event) opened
      leadThenSuspension := by
  have recorded : ¬ (Asset.collection .leads).Same opened.estate
      (Runs.run (take twoRealms) opened leadThenSuspension).estate := by
    intro same
    have one : (Runs.run (take twoRealms) opened leadThenSuspension).estate.campus.leads.length =
        1 := by decide
    have none : (Runs.run (take twoRealms) opened leadThenSuspension).estate.campus.leads = [] :=
      same
    rw [none] at one
    cases one
  exact changes_warranted opened_founded (by decide) rfl recorded

end World

end CoachingApi
