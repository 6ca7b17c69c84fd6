import CoachingApi.Common.ValidationPipe
import CoachingApi.Tenants.TenantsService

/-!
# Provisioning that fails on the way

A provisioning awaits a lookup, the institute's creation, the hashing of the password and
the administrator's creation, and each of them may fail. Nothing is undone: the institute is
stored before the other two. A request validator asks that texts are not empty, the schema
that they are not blank. So a provisioning is all or nothing exactly when the institute is
not stored, or neither the hashing nor the administrator fails.
-/

namespace CoachingApi

open TenantContextStore TenantPlugin

/-- A letter or digit of a subdomain. -/
def isLabelChar (char : Char) : Bool := char.isLower || char.isDigit

namespace CreateTenantDto

/-- The pattern of a subdomain: 3 to 32 small letters, digits and inner hyphens. -/
def matchesSubdomain (subdomain : String) : Bool :=
  let chars := subdomain.toList
  decide (3 ≤ chars.length ∧ chars.length ≤ 32) &&
    chars.all (fun char => isLabelChar char || char == '-') &&
    chars.head?.any isLabelChar && chars.getLast?.any isLabelChar

/-- What the request validators accept. Email addresses are the validation library's. -/
def accepted (isEmail : String → Bool) (dto : CreateTenantDto) : Bool :=
  decide (dto.name ≠ "") && matchesSubdomain dto.subdomain &&
    dto.planId.all Property.isMongoIdText &&
    decide (dto.adminName ≠ "") && isEmail dto.adminEmail &&
    decide (8 ≤ Text.characters dto.adminPassword)

end CreateTenantDto

namespace TenantsService

/-- The institute comes to be stored: the lookup finds no other, its creation does not fail,
and it has a name and a subdomain. -/
structure StoresTenant (failing : ProvisionPoint → Option Thrown) (deployment : AuthDeployment)
    (dto : CreateTenantDto) (database : Database) : Prop where
  looked : failing .lookup = none
  free : Records.lookup Tenant.subdomain (queryKey deployment dto.subdomain) database.tenants = none
  creates : failing .tenantCreate = none
  named : Text.trim dto.name ≠ ""
  addressed : queryKey deployment dto.subdomain ≠ ""

/-- The administrator comes to be stored: neither the hashing nor the creation fails, and the
name and the email are not blank. -/
structure SeedsAdmin (failing : ProvisionPoint → Option Thrown) (deployment : AuthDeployment)
    (dto : CreateTenantDto) : Prop where
  hashes : failing .hashing = none
  creates : failing .userCreate = none
  named : Text.trim dto.adminName ≠ ""
  addressed : queryKey deployment dto.adminEmail ≠ ""

/-- Either the institute and an active administrator of it are stored, or neither the
institutes nor the users have changed. -/
def AllOrNothing (before : Database) (outcome : Database × Except Thrown String) : Prop :=
  match outcome.2 with
  | .ok tenantId =>
    (∃ tenant ∈ outcome.1.tenants, tenant.id.hex = tenantId) ∧
      ∃ user ∈ outcome.1.users, user.tenantId = tenantId ∧ user.role = .admin ∧
        user.status = .active
  | .error _ => outcome.1.tenants = before.tenants ∧ outcome.1.users = before.users

section Outcomes

variable {failing : ProvisionPoint → Option Thrown} {deployment : AuthDeployment} (actor : String)
  (draws : Draws) {dto : CreateTenantDto} {database : Database}

/-- A provisioning that does not come to store the institute writes nothing and comes to no
bypass.

Proof: by cases where it ends before. -/
theorem provisioning_stops (stops : ¬ StoresTenant failing deployment dto database) :
    ∃ thrown, provisioning failing deployment actor draws dto database =
      .unbypassed (database, .error thrown) := by
  unfold provisioning
  cases looked : failing .lookup with
  | some thrown => exact ⟨thrown, rfl⟩
  | none =>
    simp only
    cases free : Tenant.findBySubdomain deployment.toLowerCase
        (deployment.toLowerCase.fold dto.subdomain) database.tenants with
    | some tenant => exact ⟨_, rfl⟩
    | none =>
      simp only
      cases creates : failing .tenantCreate with
      | some thrown => exact ⟨thrown, rfl⟩
      | none =>
        simp only
        cases created : Tenant.create (provisionedTenant deployment draws dto)
            database.tenants with
        | error thrown => exact ⟨thrown, rfl⟩
        | ok tenants =>
          obtain ⟨named, addressed⟩ := Tenant.tenant_accepted.mp (Tenant.create_ok created).1
          exact False.elim (stops ⟨looked, free, creates, named, addressed⟩)

/-- Past the creation of the institute, what becomes of the provisioning depends on its
administrator. -/
theorem provisioning_stores (stores : StoresTenant failing deployment dto database)
    (fresh : ∀ tenant ∈ database.tenants, tenant.id ≠ draws.tenantId) :
    provisioning failing deployment actor draws dto database =
      match failing .hashing, failing .userCreate with
      | some thrown, _ => .unbypassed
        ({ database with
            tenants := database.tenants ++ [provisionedTenant deployment draws dto] },
          .error thrown)
      | none, some thrown => .bypassed actor
        ({ database with
            tenants := database.tenants ++ [provisionedTenant deployment draws dto] },
          .error thrown)
      | none, none => .bypassed actor (provision deployment actor draws dto database) := by
  have unused : Tenant.findBySubdomain deployment.toLowerCase
      (deployment.toLowerCase.fold dto.subdomain) database.tenants = none := stores.free
  have accepted : (provisionedTenant deployment draws dto).refusedPath = none :=
    Tenant.tenant_accepted.mpr ⟨stores.named, stores.addressed⟩
  have unclaimed := (provision_stores actor draws stores.free stores.named stores.addressed
    fresh).1
  unfold provision provisioning
  simp only [stores.looked, unused, stores.creates, Tenant.create_accepted accepted unclaimed]
  cases failing .hashing with
  | some thrown => rfl
  | none =>
    cases failing .userCreate with
    | some thrown => rfl
    | none => rfl

/-- A provisioning that stores the institute and hashes the password comes to its bypass. -/
theorem provisioning_bypasses (stores : StoresTenant failing deployment dto database)
    (fresh : ∀ tenant ∈ database.tenants, tenant.id ≠ draws.tenantId)
    (hashes : failing .hashing = none) :
    provisioning failing deployment actor draws dto database =
      .bypassed actor (provisioning failing deployment actor draws dto database).ended := by
  rw [provisioning_stores actor draws stores fresh, hashes]
  cases failing .userCreate with
  | some thrown => rfl
  | none => rfl

/-- A provisioning that stores the institute and not its administrator throws and leaves the
institute behind. -/
theorem provisioning_strands (stores : StoresTenant failing deployment dto database)
    (fresh : ∀ tenant ∈ database.tenants, tenant.id ≠ draws.tenantId)
    (unseeded : ¬ SeedsAdmin failing deployment dto) :
    ∃ thrown, (provisioning failing deployment actor draws dto database).ended =
      ({ database with
          tenants := database.tenants ++ [provisionedTenant deployment draws dto] },
        .error thrown) := by
  rw [provisioning_stores actor draws stores fresh]
  cases hashes : failing .hashing with
  | some thrown => exact ⟨thrown, rfl⟩
  | none =>
    cases creates : failing .userCreate with
    | some thrown => exact ⟨thrown, rfl⟩
    | none =>
      have blank : Text.trim dto.adminName = "" ∨ queryKey deployment dto.adminEmail = "" := by
        by_contra filled
        rw [not_or] at filled
        exact unseeded ⟨hashes, creates, filled.1, filled.2⟩
      obtain ⟨thrown, refused⟩ := admin_refused actor draws database blank
      refine ⟨thrown, ?_⟩
      simp only [(provision_stores actor draws stores.free stores.named stores.addressed
        fresh).2, refused, Outcome.ended_bypassed]

/-- A provisioning that stores the institute and its administrator answers. -/
theorem provisioning_seeds (stores : StoresTenant failing deployment dto database)
    (fresh : ∀ tenant ∈ database.tenants, tenant.id ≠ draws.tenantId)
    (freshUser : ∀ user ∈ database.users,
      user.id ≠ draws.userId ∧ user.tenantId ≠ draws.tenantId.hex)
    (seeds : SeedsAdmin failing deployment dto) :
    ∃ after, (provisioning failing deployment actor draws dto database).ended =
        (after, .ok draws.tenantId.hex) ∧
      after.tenants = database.tenants ++ [provisionedTenant deployment draws dto] ∧
      after.users = database.users ++ [provisionedAdmin deployment draws dto] := by
  have stored := (provision_stores actor draws stores.free stores.named stores.addressed
    fresh).2
  rw [admin_accepted actor draws seeds.named seeds.addressed freshUser] at stored
  rw [provisioning_stores actor draws stores fresh, seeds.hashes, seeds.creates]
  exact ⟨_, stored, AuditService.record_tenants _ _, AuditService.record_users _ _⟩

/-- An institute that is left behind takes its subdomain. -/
theorem stranded_taken (stores : StoresTenant failing deployment dto database)
    (fresh : ∀ tenant ∈ database.tenants, tenant.id ≠ draws.tenantId) (retry : CreateTenantDto)
    (retryActor : String) (retryDraws : Draws)
    (same : queryKey deployment retry.subdomain = queryKey deployment dto.subdomain) :
    provision deployment retryActor retryDraws retry
        { database with
          tenants := database.tenants ++ [provisionedTenant deployment draws dto] } =
      ({ database with
          tenants := database.tenants ++ [provisionedTenant deployment draws dto] },
        .error (.conflict "Subdomain already in use")) := by
  have unclaimed := (provision_stores retryActor draws stores.free stores.named
    stores.addressed fresh).1
  apply provision_taken
  rw [same]
  exact Records.lookup_append (fun other stored => (unclaimed other stored).2)

end Outcomes

/-- A provisioning under new identities, of any body, is all or nothing exactly when storing the
institute implies storing its administrator. Otherwise the institute is left behind, and no later
provisioning under its subdomain succeeds.

Proof: by cases on how far it comes. Before the institute is stored nothing is written, with its
administrator both are, and without it the institute stays and holds its subdomain. -/
theorem provision_atomic_iff (deployment : AuthDeployment)
    (failing : ProvisionPoint → Option Thrown) (actor : String) (draws : Draws)
    (dto : CreateTenantDto) (database : Database)
    (fresh : ∀ tenant ∈ database.tenants, tenant.id ≠ draws.tenantId)
    (freshUser : ∀ user ∈ database.users,
      user.id ≠ draws.userId ∧ user.tenantId ≠ draws.tenantId.hex) :
    (AllOrNothing database (provisioning failing deployment actor draws dto database).ended ↔
      (StoresTenant failing deployment dto database → SeedsAdmin failing deployment dto)) ∧
    (¬ AllOrNothing database (provisioning failing deployment actor draws dto database).ended →
      ∀ retry retryActor retryDraws,
        queryKey deployment retry.subdomain = queryKey deployment dto.subdomain →
        provision deployment retryActor retryDraws retry
            (provisioning failing deployment actor draws dto database).database =
          ((provisioning failing deployment actor draws dto database).database,
            .error (.conflict "Subdomain already in use"))) := by
  by_cases stores : StoresTenant failing deployment dto database
  · by_cases seeds : SeedsAdmin failing deployment dto
    · obtain ⟨after, result, tenants, users⟩ :=
        provisioning_seeds actor draws stores fresh freshUser seeds
      have whole : AllOrNothing database
          (provisioning failing deployment actor draws dto database).ended := by
        rw [result]
        refine ⟨⟨_, by rw [tenants]; exact List.mem_concat_self, rfl⟩, _,
          by rw [users]; exact List.mem_concat_self, rfl, rfl, rfl⟩
      exact ⟨⟨fun _ _ => seeds, fun _ => whole⟩, fun stranded => False.elim (stranded whole)⟩
    · obtain ⟨thrown, result⟩ := provisioning_strands actor draws stores fresh seeds
      have stranded : ¬ AllOrNothing database
          (provisioning failing deployment actor draws dto database).ended := by
        rw [result]
        rintro ⟨tenants, _⟩
        have longer := congrArg List.length tenants
        simp at longer
      refine ⟨⟨fun whole => False.elim (stranded whole), fun all => False.elim (seeds (all stores))⟩,
        fun _ retry retryActor retryDraws same => ?_⟩
      have left := congrArg Prod.fst result
      simp only [Outcome.ended] at left
      rw [left]
      exact stranded_taken draws stores fresh retry retryActor retryDraws same
  · obtain ⟨thrown, result⟩ := provisioning_stops actor draws stores
    have nothing : AllOrNothing database
        (provisioning failing deployment actor draws dto database).ended := by
      rw [result]
      exact ⟨rfl, rfl⟩
    exact ⟨⟨fun _ held => False.elim (stores held), fun _ => nothing⟩,
      fun stranded => False.elim (stranded nothing)⟩

/-- A stand-in for the validation library's test of an email address: letters, digits and dots
around one at sign. -/
def plainEmail (text : String) : Bool :=
  let chars := text.toList
  chars.count '@' == 1 && chars.all (fun char => char.isAlphanum || char == '@' || char == '.') &&
    chars.head?.any Char.isAlphanum && chars.getLast?.any Char.isAlphanum

/-- The body of a provisioning whose administrator has the given name. -/
def brightDto (adminName : String) : CreateTenantDto :=
  { name := "Bright Future Coaching", subdomain := "bright", adminName := adminName
    adminEmail := "admin@bright.test", adminPassword := "bright-pass-1" }

/-- What the two provisionings draw. -/
def brightDraws : Draws :=
  { now := 0, salt := "salt", inviteToken := "", tenantId := .repeated '1',
    userId := .repeated '2', auditId := .repeated '3' }

/-- A name of one blank is accepted by the request and refused by the schema: the institute is
stored without an administrator, and the corrected request is a conflict. -/
theorem blank_admin_strands :
    (brightDto " ").accepted plainEmail = true ∧
    (provision AuthDeployment.marking "owner" brightDraws (brightDto " ") {}).2 =
      .error (.validation "name") ∧
    (provision AuthDeployment.marking "owner" brightDraws (brightDto " ") {}).1.users = [] ∧
    ¬ AllOrNothing {} (provision AuthDeployment.marking "owner" brightDraws (brightDto " ") {}) ∧
    (provision AuthDeployment.marking "owner" { brightDraws with tenantId := .repeated '4' }
        (brightDto "Admin")
        (provision AuthDeployment.marking "owner" brightDraws (brightDto " ") {}).1).2 =
      .error (.conflict "Subdomain already in use") := by
  have refused : (provision AuthDeployment.marking "owner" brightDraws (brightDto " ") {}).2 =
      .error (.validation "name") := by decide +kernel
  have stored : (provision AuthDeployment.marking "owner" brightDraws (brightDto " ")
      {}).1.tenants.map Tenant.subdomain = ["bright"] := by decide +kernel
  refine ⟨by decide +kernel, refused, by decide +kernel, ?_, by decide +kernel⟩
  unfold AllOrNothing
  rw [refused]
  rintro ⟨tenants, _⟩
  rw [tenants] at stored
  simp at stored

/-- The corrected request, made first, stores both. -/
theorem named_admin_provisioned :
    AllOrNothing {} (provisioning (fun _ => none) AuthDeployment.marking "owner" brightDraws
      (brightDto "Admin") {}).ended := by
  refine (provision_atomic_iff AuthDeployment.marking (fun _ => none) "owner" brightDraws
    (brightDto "Admin") {} (by simp) (by simp)).1.mpr (fun _ => ?_)
  exact ⟨rfl, rfl, by decide +kernel, by decide +kernel⟩

end TenantsService

end CoachingApi
