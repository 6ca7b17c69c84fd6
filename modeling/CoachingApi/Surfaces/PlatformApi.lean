import CoachingApi.Auth.PlatformAuthService
import CoachingApi.Billing.BillingService
import CoachingApi.Billing.PlansService
import CoachingApi.Support.BypassTrail

/-!
# The platform surface

A request on a route of the platform's staff passes the guard with its bearer token and the super
roles that the route requires, and is served by one service in no institute's context: what it
reads and writes of institutes' documents goes through the bypass. Roles stand on handlers only.
The routes that are public, of logins and refreshes, are not among these. No route changes a
subscription or an institute's plan.
-/

namespace CoachingApi

open TenantContextStore

/-- What the outside has of the surface's services. -/
structure PlatformApiDeployment where
  auth : RealmDeployment
  mixed : MixedPath Flags

/-- A request, with what serving it draws. -/
inductive PlatformRequest where
  | listTenants
  | getTenant (id : String)
  | provision (draws : Draws) (dto : CreateTenantDto)
  | setStatus (draws : Draws) (id : String) (status : TenantStatus)
  | updateFlags (draws : Draws) (id : String) (dto : UpdateFlagsDto)
  | listPlans
  | createPlan (generated : ObjectId) (dto : CreatePlanDto)
  | updatePlan (id : String) (dto : UpdatePlanDto)
  | subscriptions
  | mrr
  | overview
  | impersonate (draws : Draws) (id : String)
  | auditLog (actor action targetTenantId : Option String)

/-- What a request is answered with. -/
inductive PlatformAnswer where
  | tenants (tenants : List Tenant)
  | tenant (tenant : Tenant)
  | provisioned (tenantId : String)
  | plans (plans : List Plan)
  | plan (plan : Plan)
  | subscriptions (subscriptions : List Subscription)
  | revenue (revenue : Revenue)
  | overview (overview : AnalyticsOverview)
  | tokens (tokens : AuthTokens)
  | trail (entries : List AuditLog)

/-- The super roles that the route of a request requires. -/
def PlatformRequest.requiredRoles : PlatformRequest → List SuperRole
  | .provision .. | .setStatus .. | .updateFlags .. => [.owner]
  | .createPlan .. | .updatePlan .. => [.owner]
  | .impersonate .. => [.owner, .support]
  | _ => []

namespace PlatformApi

/-- What a call on the institutes leaves, and is answered with. -/
def stored {β : Type} (estate : Estate) (answer : β → PlatformAnswer)
    (ended : Database × Except Thrown β) : Estate × Except Thrown PlatformAnswer :=
  ({ estate with campus := { estate.campus with database := ended.1 } }, ended.2.map answer)

/-- What a call on the plans leaves, and is answered with. -/
def offered (estate : Estate) (ended : List Plan × Except Thrown Plan) :
    Estate × Except Thrown PlatformAnswer :=
  ({ estate with plans := ended.1 }, ended.2.map .plan)

/-- The handlers of the surface's controllers, for the principal of a request. -/
def serve (deployment : PlatformApiDeployment) (actor : PlatformPrincipal) (estate : Estate) :
    PlatformRequest → Estate × Except Thrown PlatformAnswer
  | .listTenants => (estate, .ok (.tenants (TenantsService.list estate.database)))
  | .getTenant id => (estate, (TenantsService.get id estate.database).map .tenant)
  | .provision draws dto =>
    stored estate .provisioned
      (TenantsService.provision deployment.auth.toAuthDeployment actor.platformUserId draws dto
        estate.database)
  | .setStatus draws id status =>
    stored estate .tenant
      (TenantsService.setStatus actor.platformUserId draws id status estate.database)
  | .updateFlags draws id dto =>
    stored estate .tenant
      (TenantsService.updateFlags deployment.mixed actor.platformUserId draws id dto
        estate.database)
  | .listPlans => (estate, .ok (.plans (PlansService.list estate.plans)))
  | .createPlan generated dto =>
    offered estate (PlansService.create generated dto estate.plans)
  | .updatePlan id dto => offered estate (PlansService.update id dto estate.plans)
  | .subscriptions =>
    (estate, .ok (.subscriptions (BillingService.listSubscriptions estate.subscriptions)))
  | .mrr => (estate, .ok (.revenue (BillingService.mrr estate.plans estate.subscriptions)))
  | .overview =>
    let outcome := BypassTrail.overview (fun _ => none) actor.platformUserId estate.database
    stored estate .overview (outcome.database, outcome.answer)
  | .impersonate draws id =>
    stored estate .tokens
      (SupportService.impersonate deployment.auth.toAuthDeployment draws actor.platformUserId id
        estate.database)
  | .auditLog actor action targetTenantId =>
    (estate, .ok (.trail (AuditService.list
      { actor := actor, action := action, targetTenantId := targetTenantId } estate.database)))

/-- A request as it arrives: when, with which bearer token, and for what. -/
structure Call where
  now : Int
  bearer : Option Jwt
  request : PlatformRequest

/-- The guard's answer to a call. -/
def admitted (deployment : PlatformApiDeployment) (call : Call) :
    Except Thrown PlatformPrincipal :=
  PlatformAuthGuard.canActivate deployment.auth call.now call.request.requiredRoles call.bearer

/-- The surface: the guard and the handler. -/
def handle (deployment : PlatformApiDeployment) (estate : Estate) (call : Call) :
    Estate × Except Thrown PlatformAnswer :=
  match admitted deployment call with
  | .error thrown => (estate, .error thrown)
  | .ok actor => serve deployment actor estate call.request

/-- What is stored after a call. -/
def after (deployment : PlatformApiDeployment) (estate : Estate) (call : Call) : Estate :=
  (handle deployment estate call).1

/-- The guard admitted a call in one of some super roles. -/
def AdmittedAs (deployment : PlatformApiDeployment) (roles : List SuperRole) (call : Call) :
    Prop :=
  ∃ actor, admitted deployment call = .ok actor ∧ ∃ role ∈ roles, actor.superRole = some role

/-- A call whose route requires roles is admitted in one of them. -/
theorem admitted_as {deployment : PlatformApiDeployment} {call : Call} {actor : PlatformPrincipal}
    (admits : admitted deployment call = .ok actor) (required : call.request.requiredRoles ≠ []) :
    AdmittedAs deployment call.request.requiredRoles call := by
  obtain ⟨_, permitted⟩ := PlatformAuthGuard.can_activate_ok.mp admits
  exact ⟨actor, admits, permitted.resolve_left required⟩

/-- What an admitted call leaves is what serving it leaves. -/
theorem after_admitted {deployment : PlatformApiDeployment} {estate : Estate} {call : Call}
    {actor : PlatformPrincipal} (admits : admitted deployment call = .ok actor) :
    after deployment estate call = (serve deployment actor estate call.request).1 := by
  simp only [after, handle, admits]

/-- A call that is not admitted leaves everything as it is. -/
theorem after_refused {deployment : PlatformApiDeployment} {estate : Estate} {call : Call}
    {thrown : Thrown} (refused : admitted deployment call = .error thrown) :
    after deployment estate call = estate := by
  simp only [after, handle, refused]

/-- A deployment with secrets of its own in each realm. -/
def desk : PlatformApiDeployment where
  auth :=
    { AuthDeployment.marking with
      platformJwt :=
        { accessSecret := "platform-access", accessExpires := "15m",
          refreshSecret := "platform-refresh", refreshExpires := "7d" } }
  mixed := .always

/-- A call of a member of the staff, with the access token that a login granted. -/
def callOf (superRole : SuperRole) (request : PlatformRequest) : Call where
  now := 1
  bearer := some
    { payload := { realm := .platform, sub := (ObjectId.repeated '7').hex,
                   superRole := some superRole, twoFactor := some false }
      secret := "platform-access", issuedAt := 0, expiresIn := "15m" }
  request := request

/-- What serving a request draws, with identities of one digit. -/
def drawsOf (digit : Char) : Draws :=
  { now := 0, salt := "salt", inviteToken := "", tenantId := .repeated digit,
    userId := .repeated digit, auditId := .repeated digit }

/-- An owner provisions an institute, switches a feature on and suspends it. -/
def provisionedThenSuspended : List Call :=
  [callOf .owner (.provision (drawsOf '1')
      { name := "Bright", subdomain := "bright", adminName := "Asha",
        adminEmail := "head@bright.test", adminPassword := "head-password" }),
    callOf .owner (.updateFlags (drawsOf '2') (ObjectId.repeated '1').hex
      { flags := ⟨[("reports", true)], by decide⟩ }),
    callOf .owner (.setStatus (drawsOf '3') (ObjectId.repeated '1').hex .suspended)]

end PlatformApi

end CoachingApi
