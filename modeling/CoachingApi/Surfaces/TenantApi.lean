import CoachingApi.Academics.AcademicsService
import CoachingApi.Attendance.AttendanceService
import CoachingApi.Auth.JwtStrategies
import CoachingApi.Auth.TenantAuthService
import CoachingApi.Batches.BatchesService
import CoachingApi.Fees.FeesService
import CoachingApi.Leads.LeadsService
import CoachingApi.Materials.MaterialsService
import CoachingApi.Reports.ReportsService
import CoachingApi.Students.StudentsService

/-!
# The tenant surface

A request on a route of an institute's members passes the guard with its bearer token and the
roles that the route requires, runs in the context of the institute that the token names, and is
served by one service. Roles on a handler stand before those on its controller. Bodies are as
the validation pipe lets them through, and what a request draws from outside is part of it. The
routes that are public, of logins, refreshes and acceptances, are not among these.
-/

namespace CoachingApi

open TenantContextStore TenantPlugin

/-- What the outside has of the surface's services. -/
structure TenantApiDeployment where
  auth : AuthDeployment
  fees : Deployment
  classes : ClassDeployment
  academics : AcademicsDeployment
  cdn : CdnConfig
  presign : PutObjectCommand → Nat → Except Thrown String

/-- A request, with what serving it draws. -/
inductive TenantRequest where
  | invite (draws : Draws) (dto : InviteUserDto)
  | fcmToken (token : String)
  | listStudents
  | getStudent (id : String)
  | createStudent (generated : ObjectId) (now : Int) (dto : CreateStudentDto)
  | updateStudent (now : Int) (id : String) (dto : UpdateStudentDto)
  | removeStudent (id : String)
  | listBatches
  | getBatch (id : String)
  | createBatch (generated : ObjectId) (dto : CreateBatchDto)
  | updateBatch (id : String) (dto : UpdateBatchDto)
  | removeBatch (id : String)
  | enroll (reached : ObjectId → Bool) (now : Int) (id : String) (dto : EnrollDto)
  | listPlans
  | createPlan (generated : ObjectId) (now : Int) (dto : CreateFeePlanDto)
  | generateInvoices (draw : Nat → ObjectId × Int) (id : String) (dto : GenerateInvoicesDto)
  | listInvoices (filter : InvoiceFilter)
  | receipt (id : String)
  | createOrder (live : OrderRequest → Except Thrown OrderReply) (generated : ObjectId)
      (invoiceId : MongoId)
  | mark (draw : Nat → MarkDraw) (dto : MarkAttendanceDto)
  | queryAttendance (dto : QueryAttendanceDto)
  | listAssignments (batchId : Option String)
  | createAssignment (draw : AcademicsDraw) (dto : CreateAssignmentDto)
  | submit (draw : AcademicsDraw) (id : String) (dto : SubmitAssignmentDto)
  | listSubmissions (id : String)
  | grade (draw : AcademicsDraw) (id : String) (dto : GradeSubmissionDto)
  | listTests (batchId : Option String)
  | createTest (draw : AcademicsDraw) (dto : CreateTestDto)
  | recordScore (draw : AcademicsDraw) (id : String) (dto : RecordScoreDto)
  | listScores (id : String)
  | listMaterials (batchId : Option String)
  | uploadUrl (now : Int) (filename : List UInt16)
  | createMaterial (generated : ObjectId) (dto : CreateMaterialDto)
  | removeMaterial (id : String)
  | listLeads (status : Option String)
  | createLead (generated : ObjectId) (dto : CreateLeadDto)
  | updateLead (id : String) (dto : UpdateLeadDto)
  | addNote (now : Int) (id text : String)
  | listNotifications
  | feesSummary
      (arrange : List ReportsService.StatusRow → List ReportsService.StatusRow)
  | attendanceSummary
      (arrange : List ReportsService.PresenceRow → List ReportsService.PresenceRow)
  | performanceSummary
      (arrange : List ReportsService.MarksRow → List ReportsService.MarksRow)

/-- What a request is answered with. -/
inductive TenantAnswer where
  | nothing
  | invited (result : InviteResult)
  | students (students : List Student)
  | student (student : Student)
  | batches (batches : List Batch)
  | batch (batch : Batch)
  | enrolled (count : Nat)
  | plans (plans : List FeePlan)
  | plan (plan : FeePlan)
  | created (count : Nat)
  | invoices (invoices : List FeeInvoice)
  | receiptUrl (url : Option String)
  | order (order : PaymentOrder)
  | marked (result : MarkResult)
  | attendance (records : List Attendance)
  | assignments (assignments : List Assignment)
  | assignment (assignment : Assignment)
  | submissions (submissions : List Submission)
  | submission (submission : Submission)
  | tests (tests : List Test)
  | test (test : Test)
  | scores (scores : List TestScore)
  | score (score : TestScore)
  | materials (materials : List Material)
  | material (material : Material)
  | upload (upload : SignedUpload)
  | leads (leads : List Lead)
  | lead (lead : Lead)
  | notifications (notifications : List Notification)
  | fees (summary : ReportsService.FeesSummary)
  | presence (rows : List ReportsService.PresenceSummary)
  | marks (rows : List ReportsService.MarksSummary)

namespace TenantRequest

/-- The roles on the handler of a request, where it has any. -/
def handlerRoles : TenantRequest → Option (List UserRole)
  | .invite .. => some [.admin]
  | .createStudent .. | .updateStudent .. => some [.admin, .teacher]
  | .removeStudent .. => some [.admin]
  | .createBatch .. | .updateBatch .. | .removeBatch .. => some [.admin]
  | .enroll .. => some [.admin, .teacher]
  | .createPlan .. | .generateInvoices .. => some [.admin]
  | .mark .. => some [.admin, .teacher]
  | .createAssignment .. => some [.admin, .teacher]
  | .submit .. => some [.student]
  | .listSubmissions .. | .grade .. => some [.admin, .teacher]
  | .createTest .. | .recordScore .. => some [.admin, .teacher]
  | .uploadUrl .. | .createMaterial .. | .removeMaterial .. => some [.admin, .teacher]
  | _ => none

/-- The roles on the controller of a request, where it has any. -/
def controllerRoles : TenantRequest → Option (List UserRole)
  | .listLeads .. | .createLead .. | .updateLead .. | .addNote .. => some [.admin, .teacher]
  | .feesSummary .. | .attendanceSummary .. | .performanceSummary .. => some [.admin, .teacher]
  | _ => none

/-- `getAllAndOverride` of the roles: those of the handler, and else those of the controller. -/
def requiredRoles (request : TenantRequest) : List UserRole :=
  (request.handlerRoles.or request.controllerRoles).getD []

end TenantRequest

namespace TenantApi

/-- `TenantContextInterceptor.intercept`: a request that the guard gave no tenant runs as it is. -/
def intercept (tenantId : String) : Ambient :=
  if tenantId = "" then none else some { tenantId := some tenantId }

/-- What a read is answered with. -/
def read {β : Type} (campus : Campus) (answer : β → TenantAnswer) (found : Except Thrown β) :
    Campus × Except Thrown TenantAnswer :=
  (campus, found.map answer)

/-- What a call on the database leaves, and is answered with. -/
def stored {β : Type} (campus : Campus) (answer : β → TenantAnswer)
    (ended : Database × Except Thrown β) : Campus × Except Thrown TenantAnswer :=
  ({ campus with database := ended.1 }, ended.2.map answer)

/-- What a call on leads or materials leaves, and is answered with. -/
def kept {β : Type} (answer : β → TenantAnswer) (ended : Campus × Except Thrown β) :
    Campus × Except Thrown TenantAnswer :=
  (ended.1, ended.2.map answer)

/-- The handlers of the surface's controllers, in the context and for the principal of a
request. -/
def serve (deployment : TenantApiDeployment) (ambient : Ambient) (user : TenantPrincipal)
    (campus : Campus) : TenantRequest → Campus × Except Thrown TenantAnswer
  | .invite draws dto =>
    stored campus .invited
      (TenantAuthService.invite deployment.auth ambient draws dto campus.database)
  | .fcmToken token =>
    stored campus (fun _ => .nothing)
      (TenantAuthService.addFcmToken ambient user.userId token campus.database)
  | .listStudents => read campus .students (StudentsService.list ambient campus.database)
  | .getStudent id => read campus .student (StudentsService.get ambient id campus.database)
  | .createStudent generated now dto =>
    stored campus .student (StudentsService.create ambient generated now dto campus.database)
  | .updateStudent now id dto =>
    stored campus .student (StudentsService.update ambient now id dto campus.database)
  | .removeStudent id =>
    stored campus (fun _ => .nothing) (StudentsService.remove ambient id campus.database)
  | .listBatches => read campus .batches (BatchesService.list ambient campus.database)
  | .getBatch id => read campus .batch (BatchesService.get ambient id campus.database)
  | .createBatch generated dto =>
    stored campus .batch (BatchesService.create ambient generated dto campus.database)
  | .updateBatch id dto =>
    stored campus .batch (BatchesService.update ambient id dto campus.database)
  | .removeBatch id =>
    stored campus (fun _ => .nothing) (BatchesService.remove ambient id campus.database)
  | .enroll reached now id dto =>
    stored campus .enrolled (BatchesService.enroll ambient reached now id dto campus.database)
  | .listPlans => read campus .plans (FeesService.listPlans ambient campus.database)
  | .createPlan generated now dto =>
    stored campus .plan
      (FeesService.createPlan deployment.fees ambient generated now dto campus.database)
  | .generateInvoices draw id dto =>
    match castId "FeePlan" id with
    | .error thrown => (campus, .error thrown)
    | .ok planId =>
      stored campus .created
        (FeesService.generateInvoices ambient draw planId dto campus.database)
  | .listInvoices filter =>
    read campus .invoices (FeesService.listInvoices ambient filter campus.database)
  | .receipt id =>
    match castId "FeeInvoice" id with
    | .error thrown => (campus, .error thrown)
    | .ok invoiceId =>
      read campus (fun invoice => .receiptUrl invoice.receiptUrl)
        (FeesService.getInvoice ambient invoiceId campus.database)
  | .createOrder live generated invoiceId =>
    stored campus .order
      (FeesService.createPaymentOrder deployment.fees ambient live generated invoiceId.id
        campus.database)
  | .mark draw dto =>
    match newObjectId user.userId, dto.entries with
    -- The identity of the caller is made once for each entry, before anything is written.
    | .error thrown, _ :: _ => (campus, .error thrown)
    | .error _, [] => (campus, .ok (.marked ⟨0, 0⟩))
    | .ok markedBy, _ =>
      stored campus .marked
        (AttendanceService.mark deployment.classes ambient draw markedBy dto campus.database)
  | .queryAttendance dto =>
    read campus .attendance (AttendanceService.query ambient dto campus.database)
  | .listAssignments batchId =>
    read campus .assignments (AcademicsService.listAssignments ambient batchId campus.database)
  | .createAssignment draw dto =>
    match newObjectId user.userId with
    | .error thrown => (campus, .error thrown)
    | .ok createdBy =>
      stored campus .assignment
        (AcademicsService.createAssignment ambient draw createdBy dto campus.database)
  | .submit draw id dto =>
    stored campus .submission (AcademicsService.submit ambient draw id dto campus.database)
  | .listSubmissions id =>
    read campus .submissions (AcademicsService.listSubmissions ambient id campus.database)
  | .grade draw id dto =>
    stored campus .submission
      (AcademicsService.grade deployment.academics ambient draw id dto campus.database)
  | .listTests batchId =>
    read campus .tests (AcademicsService.listTests ambient batchId campus.database)
  | .createTest draw dto =>
    stored campus .test (AcademicsService.createTest ambient draw dto campus.database)
  | .recordScore draw id dto =>
    stored campus .score
      (AcademicsService.recordScore deployment.academics ambient draw id dto campus.database)
  | .listScores id =>
    read campus .scores (AcademicsService.listScores ambient id campus.database)
  | .listMaterials batchId =>
    read campus .materials (MaterialsService.list ambient batchId campus)
  | .uploadUrl now filename =>
    read campus .upload
      (MaterialsService.createUploadUrl deployment.cdn deployment.presign now filename)
  | .createMaterial generated dto =>
    kept .material (MaterialsService.create ambient generated user.userId dto campus)
  | .removeMaterial id => kept (fun _ => .nothing) (MaterialsService.remove ambient id campus)
  | .listLeads status => read campus .leads (LeadsService.list ambient status campus)
  | .createLead generated dto => kept .lead (LeadsService.create ambient generated dto campus)
  | .updateLead id dto => kept .lead (LeadsService.update ambient id dto campus)
  | .addNote now id text => kept .lead (LeadsService.addNote ambient now id text user.userId campus)
  | .listNotifications =>
    read campus .notifications (NotificationsService.list ambient user.userId campus.database)
  | .feesSummary arrange =>
    read campus .fees (ReportsService.feesSummary ambient arrange campus.database)
  | .attendanceSummary arrange =>
    read campus .presence (ReportsService.attendanceSummary ambient arrange campus.database)
  | .performanceSummary arrange =>
    read campus .marks (ReportsService.performanceSummary ambient arrange campus.database)

/-- A request as it arrives: when, with which bearer token, and for what. -/
structure Call where
  now : Int
  bearer : Option Jwt
  request : TenantRequest

/-- The guard's answer to a call. -/
def admitted (deployment : TenantApiDeployment) (call : Call) : Except Thrown TenantPrincipal :=
  TenantAuthGuard.canActivate deployment.auth call.now call.request.requiredRoles call.bearer

/-- The surface: the guard, the interceptor and the handler. -/
def handle (deployment : TenantApiDeployment) (campus : Campus) (call : Call) :
    Campus × Except Thrown TenantAnswer :=
  match admitted deployment call with
  | .error thrown => (campus, .error thrown)
  | .ok user => serve deployment (intercept user.tenantId) user campus call.request

/-- The institute that an admitted call is for. -/
def instituteOf (deployment : TenantApiDeployment) (call : Call) : Option String :=
  match admitted deployment call with
  | .error _ => none
  | .ok user => some user.tenantId

/-- An admitted call comes from the principal of a token that the strategy accepts, in a role
that its route requires. -/
theorem admitted_ok {deployment : TenantApiDeployment} {call : Call} {user : TenantPrincipal} :
    admitted deployment call = .ok user ↔
      (∃ token, call.bearer = some token ∧
        TenantJwtStrategy.authenticate deployment.auth call.now token = .ok user) ∧
      (call.request.requiredRoles = [] ∨
        ∃ role, user.role = some role ∧ role ∈ call.request.requiredRoles) := by
  unfold admitted TenantAuthGuard.canActivate TenantAuthGuard.handleRequest
  cases bearer : call.bearer with
  | none => simp
  | some token =>
    simp only [Option.some.injEq, exists_eq_left']
    cases accepted : TenantJwtStrategy.authenticate deployment.auth call.now token with
    | error thrown => simp
    | ok principal =>
      simp only [Except.ok.injEq]
      split
      · rename_i refused
        obtain ⟨required, unmet⟩ := refused
        constructor
        · intro impossible
          cases impossible
        · rintro ⟨rfl, unguarded | ⟨role, held, allowed⟩⟩
          · exact absurd unguarded required
          · simp [held, allowed] at unmet
      · rename_i permitted
        rw [Except.ok.injEq]
        constructor
        · rintro rfl
          refine ⟨rfl, ?_⟩
          by_cases required : call.request.requiredRoles = []
          · exact .inl required
          · right
            cases held : principal.role with
            | none => simp [required, held] at permitted
            | some role =>
              refine ⟨role, rfl, ?_⟩
              simpa [required, held] using permitted
        · exact And.left

/-- An admitted call runs in the context of its institute. -/
theorem admitted_bound {deployment : TenantApiDeployment} {call : Call} {user : TenantPrincipal}
    (admits : admitted deployment call = .ok user) :
    Bound (intercept user.tenantId) user.tenantId := by
  obtain ⟨⟨token, _, accepted⟩, _⟩ := admitted_ok.mp admits
  obtain ⟨_, _, _, named, _⟩ := TenantJwtStrategy.authenticate_ok.mp accepted
  have nonempty : user.tenantId ≠ "" := (present_some named).2
  rw [intercept, if_neg nonempty]
  exact bound_run user.tenantId nonempty

/-- A deployment without a gateway, a push client or a storage account. -/
def quiet : TenantApiDeployment where
  auth := AuthDeployment.marking
  fees := { hmac := fun _ body => body, numberToString := fun amount => toString amount.num }
  classes := { push := none, toDateString := fun _ => "that day" }
  academics := { push := none, numberToString := fun amount => toString amount.num }
  cdn := {}
  presign := fun _ _ => .error .storage

/-- A call of a member of an institute, with the access token that its login granted. -/
def callOf (tenantId : String) (role : UserRole) (userId : ObjectId) (request : TenantRequest) :
    Call where
  now := 1
  bearer := some
    { payload := { realm := .tenant, sub := userId.hex, tenantId := some tenantId,
                   role := some role }
      secret := "access", issuedAt := 0, expiresIn := "15m" }
  request := request

/-- A lead that a teacher of an institute creates. -/
def leadOf (tenantId name : String) (generated : ObjectId) : Call :=
  callOf tenantId .teacher (.repeated '1')
    (.createLead generated { name := name, phone := "+91 98000 00000" })

end TenantApi

end CoachingApi
