import CoachingApi.Auth.TokenService
import CoachingApi.Common.PlatformModels

/-!
# Support impersonation

The platform's support mints a short-lived access token for an administrator of an
active institute. The administrator is the first stored one, whatever its status.
-/

namespace CoachingApi

open TenantContextStore

namespace SupportService

/-- The awaited operations of an impersonation. Writing the audit entry throws nothing. -/
inductive ImpersonatePoint where
  | tenantLookup | adminLookup | signing
  deriving DecidableEq

/-- `impersonate` with what its awaited operations fail with: no refresh token is handed out. -/
def impersonating (failing : ImpersonatePoint → Option Thrown) (deployment : AuthDeployment)
    (draws : Draws) (actor tenantId : String) (database : Database) : Outcome AuthTokens :=
  match failing .tenantLookup with
  | some thrown => .unbypassed (database, .error thrown)
  | none =>
    match Tenant.findById tenantId database.tenants with
    | .error thrown => .unbypassed (database, .error thrown)
    | .ok none => .unbypassed (database, .error (.notFound "Active tenant not found"))
    | .ok (some tenant) =>
      if tenant.status ≠ .active then
        .unbypassed (database, .error (.notFound "Active tenant not found"))
      else
        .bypassed actor
          (match failing .adminLookup with
          | some thrown => (database, .error thrown)
          | none =>
            match runWithBypass actor (fun ambient =>
                TenantModel.findOne ambient
                  (fun user => decide (user.tenantId = tenantId ∧ user.role = .admin))
                  database.users) with
            | .error thrown => (database, .error thrown)
            | .ok none =>
              (database, .error (.notFound "No admin user to impersonate for this tenant"))
            | .ok (some admin) =>
              match failing .signing with
              | some thrown => (database, .error thrown)
              | none =>
                let accessExpires := deployment.impersonationExpires.getD "10m"
                let issued := TokenService.issueTenantTokens deployment draws.now
                  { userId := admin.id.hex, tenantId := tenantId, role := .admin,
                    impersonatedBy := some actor, accessExpires := some accessExpires }
                (AuditService.record
                  { id := draws.auditId, actor := actor, action := "impersonate",
                    targetTenantId := some tenantId,
                    metadata := [("impersonatedUserId", admin.id.hex),
                      ("accessExpires", accessExpires)] }
                  database,
                  .ok { issued with refreshToken := none }))

/-- `impersonate`, of which nothing that is awaited fails. -/
def impersonate (deployment : AuthDeployment) (draws : Draws) (actor tenantId : String)
    (database : Database) : Database × Except Thrown AuthTokens :=
  (impersonating (fun _ => none) deployment draws actor tenantId database).ended

/-- The first administrator of a tenant, as a bypassing query reads it. -/
def firstAdmin (tenantId : String) (users : List User) : Option User :=
  users.find? (fun user => decide (user.tenantId = tenantId ∧ user.role = .admin))

/-- The tokens of an impersonation. -/
def impersonationTokens (deployment : AuthDeployment) (draws : Draws) (actor tenantId : String)
    (admin : User) : AuthTokens :=
  { TokenService.issueTenantTokens deployment draws.now
      { userId := admin.id.hex, tenantId := tenantId, role := .admin, impersonatedBy := some actor,
        accessExpires := some (deployment.impersonationExpires.getD "10m") } with
    refreshToken := none }

/-- When an impersonation answers with tokens: the institute is active and has an
administrator, whose status is not looked at. -/
theorem impersonate_ok {deployment : AuthDeployment} {draws : Draws} {actor tenantId : String}
    {database : Database} {tokens : AuthTokens} :
    (impersonate deployment draws actor tenantId database).2 = .ok tokens ↔
      ∃ tenant admin, Tenant.findById tenantId database.tenants = .ok (some tenant) ∧
        tenant.status = .active ∧ firstAdmin tenantId database.users = some admin ∧
        impersonationTokens deployment draws actor tenantId admin = tokens := by
  have read : TenantModel.findOne (some { bypass := some true, bypassActor := some actor })
      (fun user => decide (user.tenantId = tenantId ∧ user.role = .admin)) database.users =
      .ok (firstAdmin tenantId database.users) := TenantModel.find_one_bypass actor _ _
  unfold impersonate impersonating
  simp only [runWithBypass, read]
  cases institute : Tenant.findById tenantId database.tenants with
  | error thrown => simp
  | ok found =>
    cases found with
    | none => simp
    | some tenant =>
      by_cases active : tenant.status = .active
      · cases admin : firstAdmin tenantId database.users with
        | none => simp [active]
        | some user => simp [active, impersonationTokens]
      · simp [active]

/-- An impersonation writes the audit trail only. -/
theorem impersonate_keeps (deployment : AuthDeployment) (draws : Draws) (actor tenantId : String)
    (database : Database) :
    (impersonate deployment draws actor tenantId database).1.tenants = database.tenants ∧
      (impersonate deployment draws actor tenantId database).1.users = database.users := by
  unfold impersonate impersonating
  cases Tenant.findById tenantId database.tenants with
  | error thrown => exact ⟨rfl, rfl⟩
  | ok found =>
    cases found with
    | none => exact ⟨rfl, rfl⟩
    | some tenant =>
      by_cases active : tenant.status = .active
      · simp only [active, ne_eq, not_true_eq_false, if_false, runWithBypass]
        split <;> simp
      · simp [active]

end SupportService

end CoachingApi
