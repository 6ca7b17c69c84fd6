import CoachingApi.Surfaces.ClassesApart
import CoachingApi.Surfaces.FeesApart

/-!
# The separation of institutes

Institutes share one deployment and its collections. Every request of the tenant surface that
the guard admits is apart for the institute that its token names, and one that the guard turns
away leaves everything as it is. So a run of requests of all institutes is for each of them the
run of its own requests on a store that holds its own records only: what is stored for it and
what it is answered do not depend on the others. The identities that a request draws must be
new to the other institutes.
-/

namespace CoachingApi

open TenantModel TenantPlugin TenantContextStore Partitions

/-- The identities that a request draws for records. -/
def TenantRequest.draws : TenantRequest → Set ObjectId
  | .invite draws _ => {draws.userId}
  | .createStudent generated _ _ => {generated}
  | .createBatch generated _ => {generated}
  | .createPlan generated _ _ => {generated}
  | .generateInvoices draw _ _ => Set.range (fun i => (draw i).1)
  | .createOrder _ generated _ => {generated}
  | .mark draw _ =>
    Set.range (fun i => (draw i).recordId) ∪ Set.range (fun i => (draw i).notificationId)
  | .createAssignment draw _ => {draw.recordId}
  | .submit draw _ _ => {draw.recordId}
  | .grade draw _ _ => {draw.notificationId}
  | .createTest draw _ => {draw.recordId}
  | .recordScore draw _ _ => {draw.recordId}
  | .createMaterial generated _ => {generated}
  | .createLead generated _ => {generated}
  | _ => ∅

namespace TenantApi

variable {ambient : Ambient} {tenant : String} {campus : Campus}

/-- A read whose answer the part holds is apart. -/
theorem read_apart {β : Type} (identified : campus.Identified) {found : Campus → Except Thrown β}
    (same : found (campus.part tenant) = found campus) (answer : β → TenantAnswer) :
    ApartFor tenant campus (fun store => read store answer (found store)) :=
  (apart_looking identified same).mapped answer

/-- Serving a request is apart for the institute in whose context it is served.

Proof: by cases on the request; each is a read of what the part holds or a service call that is
apart. -/
theorem serve_apart (deployment : TenantApiDeployment) (bound : Bound ambient tenant)
    (user : TenantPrincipal) (identified : campus.Identified) (request : TenantRequest)
    (free : ∀ generated ∈ request.draws, campus.Free tenant generated) :
    ApartFor tenant campus (fun store => serve deployment ambient user store request) := by
  cases request with
  | invite draws dto => exact (invite_apart bound identified deployment.auth (free _ rfl) dto).mapped _
  | fcmToken token => exact (add_fcm_token_apart bound identified user.userId token).mapped _
  | listStudents =>
    apply read_apart identified
    simp only [StudentsService.list, Campus.part, find_on_own bound]
  | getStudent id =>
    apply read_apart identified
    simp only [StudentsService.get, Campus.part, find_by_text_on_own bound]
  | createStudent generated now dto =>
    exact (create_student_apart bound identified (free _ rfl) now dto).mapped _
  | updateStudent now id dto => exact (update_student_apart bound identified now id dto).mapped _
  | removeStudent id => exact (remove_student_apart bound identified id).mapped _
  | listBatches =>
    apply read_apart identified
    simp only [BatchesService.list, Campus.part, find_on_own bound]
  | getBatch id =>
    apply read_apart identified
    simp only [BatchesService.get, Campus.part, find_by_text_on_own bound]
  | createBatch generated dto =>
    exact (create_batch_apart bound identified (free _ rfl) dto).mapped _
  | updateBatch id dto => exact (update_batch_apart bound identified id dto).mapped _
  | removeBatch id => exact (remove_batch_apart bound identified id).mapped _
  | enroll reached now id dto =>
    exact (enroll_apart bound identified reached now id dto).mapped _
  | listPlans =>
    apply read_apart identified
    simp only [FeesService.listPlans, Campus.part, find_on_own bound]
  | createPlan generated now dto =>
    exact (create_plan_apart bound identified deployment.fees (free _ rfl) now dto).mapped _
  | generateInvoices draw id dto =>
    cases casts : castId "FeePlan" id with
    | error thrown =>
      apply (apart_answer identified (.error thrown)).agree <;> simp only [serve, casts]
    | ok planId =>
      have generates := generate_invoices_apart bound identified
        (fun i => free _ (Set.mem_range_self i)) planId dto
      apply (generates.mapped .created).agree <;> simp only [serve, casts, stored] <;> rfl
  | listInvoices filter =>
    apply read_apart identified
    simp only [FeesService.listInvoices, Campus.part, find_on_own bound]
  | receipt id =>
    cases casts : castId "FeeInvoice" id with
    | error thrown =>
      apply (apart_answer identified (.error thrown)).agree <;> simp only [serve, casts]
    | ok invoiceId =>
      have reads : ApartFor tenant campus (fun store =>
          read store (fun invoice : FeeInvoice => .receiptUrl invoice.receiptUrl)
            (FeesService.getInvoice ambient invoiceId store.database)) :=
        read_apart identified (get_invoice_on_part bound campus invoiceId) _
      apply reads.agree <;> simp only [serve, casts]
  | createOrder live generated invoiceId =>
    exact (create_payment_order_apart bound identified deployment.fees live (free _ rfl)
      invoiceId.id).mapped _
  | mark draw dto =>
    cases made : newObjectId user.userId with
    | error thrown =>
      cases listed : dto.entries with
      | nil =>
        apply (apart_answer identified (.ok (.marked ⟨0, 0⟩))).agree <;>
          simp only [serve, made, listed]
      | cons entry rest =>
        apply (apart_answer identified (.error thrown)).agree <;> simp only [serve, made, listed]
    | ok markedBy =>
      have marks := mark_apart bound identified deployment.classes
        (fun i => free _ (Or.inl (Set.mem_range_self i)))
        (fun i => free _ (Or.inr (Set.mem_range_self i))) markedBy dto
      apply (marks.mapped .marked).agree <;> simp only [serve, made, stored] <;> rfl
  | queryAttendance dto =>
    apply read_apart identified
    simp only [AttendanceService.query, Campus.part, find_on_own bound]
  | listAssignments batchId =>
    apply read_apart identified
    simp only [AcademicsService.listAssignments, Campus.part, find_on_own bound]
  | createAssignment draw dto =>
    cases made : newObjectId user.userId with
    | error thrown =>
      apply (apart_answer identified (.error thrown)).agree <;> simp only [serve, made]
    | ok createdBy =>
      have creates := create_assignment_apart bound identified (free _ rfl) createdBy dto
      apply (creates.mapped .assignment).agree <;> simp only [serve, made, stored] <;> rfl
  | submit draw id dto => exact (submit_apart bound identified (free _ rfl) id dto).mapped _
  | listSubmissions id =>
    apply read_apart identified
    simp only [AcademicsService.listSubmissions, Campus.part, find_on_own bound]
  | grade draw id dto =>
    exact (grade_apart bound identified deployment.academics (free _ rfl) id dto).mapped _
  | listTests batchId =>
    apply read_apart identified
    simp only [AcademicsService.listTests, Campus.part, find_on_own bound]
  | createTest draw dto => exact (create_test_apart bound identified (free _ rfl) dto).mapped _
  | recordScore draw id dto =>
    exact (record_score_apart bound identified deployment.academics (free _ rfl) id dto).mapped _
  | listScores id =>
    apply read_apart identified
    simp only [AcademicsService.listScores, Campus.part, find_on_own bound]
  | listMaterials batchId =>
    apply read_apart identified
    simp only [MaterialsService.list, Campus.part, find_on_own bound]
  | uploadUrl now filename => exact read_apart identified rfl _
  | createMaterial generated dto =>
    exact (create_material_apart bound identified (free _ rfl) user.userId dto).mapped _
  | removeMaterial id => exact (remove_material_apart bound identified id).mapped _
  | listLeads status =>
    apply read_apart identified
    simp only [LeadsService.list, Campus.part, find_on_own bound]
  | createLead generated dto =>
    exact (create_lead_apart bound identified (free _ rfl) dto).mapped _
  | updateLead id dto =>
    exact (update_lead_apart bound identified id (LeadsService.changeLead dto) (fun _ => rfl)
      (fun _ => rfl)).mapped _
  | addNote now id text =>
    exact (add_note_apart bound identified now id text user.userId).mapped _
  | listNotifications =>
    apply read_apart identified
    simp only [NotificationsService.list, Campus.part, find_on_own bound]
  | feesSummary arrange =>
    apply read_apart identified
    simp only [ReportsService.feesSummary, Campus.part, aggregate_on_own bound]
  | attendanceSummary arrange =>
    apply read_apart identified
    simp only [ReportsService.attendanceSummary, Campus.part, aggregate_on_own bound]
  | performanceSummary arrange =>
    apply read_apart identified
    simp only [ReportsService.performanceSummary, Campus.part, aggregate_on_own bound]

/-- An admitted call is apart for its institute. -/
theorem handle_apart (deployment : TenantApiDeployment) {call : Call}
    (named : instituteOf deployment call = some tenant) (identified : campus.Identified)
    (free : ∀ generated ∈ call.request.draws, campus.Free tenant generated) :
    ApartFor tenant campus (fun store => handle deployment store call) := by
  unfold instituteOf at named
  cases admits : admitted deployment call with
  | error thrown => simp [admits] at named
  | ok user =>
    simp only [admits, Option.some.injEq] at named
    subst named
    have serves := serve_apart deployment (admitted_bound admits) user identified call.request free
    apply serves.agree <;> simp only [handle, admits]

/-- A call that is not admitted leaves everything as it is. -/
theorem handle_silent (deployment : TenantApiDeployment) (campus : Campus) {call : Call}
    (unnamed : instituteOf deployment call = none) : (handle deployment campus call).1 = campus := by
  unfold instituteOf at unnamed
  cases admits : admitted deployment call with
  | error thrown => simp only [handle, admits]
  | ok user => simp [admits] at unnamed

/-- One call after another on what is stored, each answered to the institute it is for. -/
abbrev serveNext (deployment : TenantApiDeployment) :
    Served Campus Thrown TenantAnswer String → Call → Served Campus Thrown TenantAnswer String :=
  next (fun call campus => handle deployment campus call) (instituteOf deployment)

/-- The identities that a call draws are new to the institutes that it is not for. -/
def Fresh (deployment : TenantApiDeployment) (campus : Campus) (call : Call) : Prop :=
  ∀ tenant ∈ instituteOf deployment call, ∀ generated ∈ call.request.draws,
    campus.Free tenant generated

/-- In every run of calls of all institutes, what is stored for an institute and the answers it
gets are those of the run of its own calls alone, on a store with its own records only.

Proof: every call does on the whole store what it does on its institute's part of it, and
leaves the other institutes' parts as they are. -/
theorem institutes_separated (deployment : TenantApiDeployment) (tenant : String)
    {start : Served Campus Thrown TenantAnswer String} {calls : List Call}
    (identified : start.store.Identified)
    (fresh : Runs.Along (serveNext deployment)
      (fun served call => Fresh deployment served.store call) start calls) :
    ownView Campus.part tenant
        (Runs.run (serveNext deployment) start calls) =
      Runs.run (serveNext deployment)
        (ownView Campus.part tenant start)
        (calls.filter (fun call => decide (instituteOf deployment call = some tenant))) := by
  have served : ∀ campus call owner, Campus.Identified campus → Fresh deployment campus call →
      instituteOf deployment call = some owner →
        ApartFor owner campus (fun store => handle deployment store call) := by
    intro campus call owner sound drawn named
    exact handle_apart deployment named sound (drawn owner named)
  have silent : ∀ campus call, instituteOf deployment call = none →
      (handle deployment campus call).1 = campus := fun campus _ => handle_silent deployment campus
  exact run_apart served silent tenant identified fresh

/-- Two institutes record a lead each, and one of them lists its leads. -/
theorem two_institutes_separated :
    ownView Campus.part "institute-a"
        (Runs.run (serveNext quiet) { store := {} }
          [leadOf "institute-a" "Asha" (.repeated 'a'), leadOf "institute-b" "Bela" (.repeated 'b'),
            callOf "institute-a" .admin (.repeated '2') (.listLeads none)]) =
      Runs.run (serveNext quiet) { store := {} }
        [leadOf "institute-a" "Asha" (.repeated 'a'),
          callOf "institute-a" .admin (.repeated '2') (.listLeads none)] := by
  have identified : Campus.Identified {} := by
    constructor <;> exact List.nodup_nil
  have fresh : Runs.Along (serveNext quiet)
      (fun served call => Fresh quiet served.store call) { store := {} }
      [leadOf "institute-a" "Asha" (.repeated 'a'), leadOf "institute-b" "Bela" (.repeated 'b'),
        callOf "institute-a" .admin (.repeated '2') (.listLeads none)] := by
    refine ⟨?_, ?_, ?_, trivial⟩
    · rintro tenant _ _ rfl entry stored
      cases stored
    · rintro tenant _ _ rfl entry stored _
      have first : entry = ("institute-a", .repeated 'a') := List.mem_singleton.mp stored
      rw [first]
      decide
    · rintro tenant _ _ drawn
      cases drawn
  exact institutes_separated quiet "institute-a" identified fresh

end TenantApi

end CoachingApi
