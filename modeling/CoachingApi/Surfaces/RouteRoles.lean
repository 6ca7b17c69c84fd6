import CoachingApi.Academics.GradingRecords
import CoachingApi.Surfaces.TenantApi

/-!
# Who changes what on the tenant surface

Each request writes the collections of one service, and the roles of its route stand before
every write. A collection that some run of requests leaves different was changed by a request
that the guard admitted in one of the collection's roles. Institutes and the audit trail are
written by no request of this surface; users, for their device tokens, and payments, for their
orders, by members in every role. What is handed to the push service counts as a collection.
-/

namespace CoachingApi

open TenantModel TenantPlugin TenantContextStore

/-- A collection of the whole. -/
inductive Holding where
  | tenants | auditLogs | users | students | batches | plans | invoices | payments | notifications
  | assignments | submissions | tests | scores | attendance | leads | materials | pushes
  deriving DecidableEq

namespace Holding

/-- What a collection holds. -/
def Rows : Holding → Type
  | tenants => List Tenant
  | auditLogs => List AuditLog
  | users => List User
  | students => List Student
  | batches => List Batch
  | plans => List FeePlan
  | invoices => List FeeInvoice
  | payments => List Payment
  | notifications => List Notification
  | assignments => List Assignment
  | submissions => List Submission
  | tests => List Test
  | scores => List TestScore
  | attendance => List Attendance
  | leads => List Lead
  | materials => List Material
  | pushes => List Push

/-- What a collection holds of the whole. -/
def rows : (holding : Holding) → Campus → holding.Rows
  | tenants => fun campus => campus.database.tenants
  | auditLogs => fun campus => campus.database.auditLogs
  | users => fun campus => campus.database.users
  | students => fun campus => campus.database.students
  | batches => fun campus => campus.database.batches
  | plans => fun campus => campus.database.plans
  | invoices => fun campus => campus.database.invoices
  | payments => fun campus => campus.database.payments
  | notifications => fun campus => campus.database.notifications
  | assignments => fun campus => campus.database.assignments
  | submissions => fun campus => campus.database.submissions
  | tests => fun campus => campus.database.tests
  | scores => fun campus => campus.database.scores
  | attendance => fun campus => campus.database.attendance
  | leads => Campus.leads
  | materials => Campus.materials
  | pushes => fun campus => campus.database.pushes

/-- The whole with other rows in a collection. -/
def put : (holding : Holding) → holding.Rows → Campus → Campus
  | tenants => fun table campus =>
    { campus with database := { campus.database with tenants := table } }
  | auditLogs => fun table campus =>
    { campus with database := { campus.database with auditLogs := table } }
  | users => fun table campus =>
    { campus with database := { campus.database with users := table } }
  | students => fun table campus =>
    { campus with database := { campus.database with students := table } }
  | batches => fun table campus =>
    { campus with database := { campus.database with batches := table } }
  | plans => fun table campus =>
    { campus with database := { campus.database with plans := table } }
  | invoices => fun table campus =>
    { campus with database := { campus.database with invoices := table } }
  | payments => fun table campus =>
    { campus with database := { campus.database with payments := table } }
  | notifications => fun table campus =>
    { campus with database := { campus.database with notifications := table } }
  | assignments => fun table campus =>
    { campus with database := { campus.database with assignments := table } }
  | submissions => fun table campus =>
    { campus with database := { campus.database with submissions := table } }
  | tests => fun table campus =>
    { campus with database := { campus.database with tests := table } }
  | scores => fun table campus =>
    { campus with database := { campus.database with scores := table } }
  | attendance => fun table campus =>
    { campus with database := { campus.database with attendance := table } }
  | leads => fun table campus => { campus with leads := table }
  | materials => fun table campus => { campus with materials := table }
  | pushes => fun table campus =>
    { campus with database := { campus.database with pushes := table } }

/-- A collection is the same before and after. -/
def Same (holding : Holding) (before after : Campus) : Prop :=
  holding.rows after = holding.rows before

/-- The roles whose requests write a collection; none where members in every role do. -/
def writers : Holding → Option (List UserRole)
  | tenants | auditLogs => some []
  | users | payments => none
  | batches | plans | invoices => some [.admin]
  | submissions => some [.admin, .teacher, .student]
  | _ => some [.admin, .teacher]

/-- Other rows in a collection leave the other collections as they are. -/
theorem same_put {holding other : Holding} (different : other ≠ holding) (table : holding.Rows)
    (campus : Campus) : other.Same campus (holding.put table campus) := by
  cases holding <;> cases other <;> first | rfl | exact absurd rfl different

end Holding

/-- The collections that a request writes. -/
def TenantRequest.writes : TenantRequest → List Holding
  | .invite .. | .fcmToken .. => [.users]
  | .createStudent .. | .updateStudent .. | .removeStudent .. | .enroll .. => [.students]
  | .createBatch .. | .updateBatch .. | .removeBatch .. => [.batches]
  | .createPlan .. => [.plans]
  | .generateInvoices .. => [.invoices]
  | .createOrder .. => [.payments]
  | .mark .. => [.attendance, .notifications, .pushes]
  | .createAssignment .. => [.assignments]
  | .submit .. => [.submissions]
  | .grade .. => [.submissions, .notifications, .pushes]
  | .createTest .. => [.tests]
  | .recordScore .. => [.scores]
  | .createMaterial .. | .removeMaterial .. => [.materials]
  | .createLead .. | .updateLead .. | .addNote .. => [.leads]
  | _ => []

/-- A request that writes a collection with writers requires a role, and requires one of them. -/
theorem TenantRequest.writes_guarded {request : TenantRequest} {holding : Holding}
    {roles : List UserRole} (written : holding ∈ request.writes)
    (guarded : holding.writers = some roles) :
    request.requiredRoles ≠ [] ∧ ∀ role ∈ request.requiredRoles, role ∈ roles := by
  cases request with
  | invite | fcmToken | createOrder =>
    rw [List.mem_singleton.mp written] at guarded
    cases guarded
  | createStudent | updateStudent | removeStudent | enroll | createBatch | updateBatch
  | removeBatch | createPlan | generateInvoices | createAssignment | submit | createTest
  | recordScore | createMaterial | removeMaterial | createLead | updateLead | addNote =>
    rw [List.mem_singleton.mp written] at guarded
    cases guarded
    constructor <;> simp [requiredRoles, handlerRoles, controllerRoles]
  | mark | grade =>
    simp only [writes, List.mem_cons, List.not_mem_nil, or_false] at written
    rcases written with rfl | rfl | rfl
    all_goals
      cases guarded
      constructor <;> simp [requiredRoles, handlerRoles, controllerRoles]
  | _ => cases written

/-- Only certain collections have other rows than before. -/
inductive Written (holdings : List Holding) (before : Campus) : Campus → Prop where
  | nothing : Written holdings before before
  | more {after : Campus} (holding : Holding) (table : holding.Rows) (member : holding ∈ holdings)
      (earlier : Written holdings before after) :
      Written holdings before (holding.put table after)

/-- Other rows in one collection. -/
theorem Written.one (holding : Holding) (table : holding.Rows) (campus : Campus) :
    Written [holding] campus (holding.put table campus) :=
  .more holding table (List.mem_singleton_self holding) (.nothing)

/-- Other rows in three collections. -/
theorem Written.three (first second third : Holding) (one : first.Rows) (two : second.Rows)
    (three : third.Rows) (campus : Campus) :
    Written [first, second, third] campus (third.put three (second.put two (first.put one campus))) :=
  .more third three (by simp) (.more second two (by simp) (.more first one (by simp) (.nothing)))

/-- The other collections are the same. -/
theorem Written.same {holdings : List Holding} {before after : Campus}
    (written : Written holdings before after) {holding : Holding} (foreign : holding ∉ holdings) :
    holding.Same before after := by
  induction written with
  | nothing => exact rfl
  | more other table member earlier inductionHypothesis =>
    have different : holding ≠ other := by
      rintro rfl
      exact foreign member
    exact (Holding.same_put different table _).trans inductionHypothesis

section Services

variable (ambient : Ambient) (database : Database)

/-- An invitation writes users. -/
theorem invite_writes (deployment : AuthDeployment) (draws : Draws) (dto : InviteUserDto) :
    ∃ users, (TenantAuthService.invite deployment ambient draws dto database).1 =
      { database with users := users } := by
  unfold TenantAuthService.invite
  repeat' split
  all_goals exact ⟨_, rfl⟩

/-- The registration of a device token writes users. -/
theorem add_fcm_token_writes (userId token : String) :
    ∃ users, (TenantAuthService.addFcmToken ambient userId token database).1 =
      { database with users := users } := by
  unfold TenantAuthService.addFcmToken
  split <;> exact ⟨_, rfl⟩

/-- The creation of a student writes students. -/
theorem create_student_writes (generated : ObjectId) (now : Int) (dto : CreateStudentDto) :
    ∃ students, (StudentsService.create ambient generated now dto database).1 =
      { database with students := students } := by
  unfold StudentsService.create
  split <;> exact ⟨_, rfl⟩

/-- A change of a student writes students. -/
theorem update_student_writes (now : Int) (id : String) (dto : UpdateStudentDto) :
    ∃ students, (StudentsService.update ambient now id dto database).1 =
      { database with students := students } := by
  unfold StudentsService.update
  split <;> exact ⟨_, rfl⟩

/-- The removal of a student writes students. -/
theorem remove_student_writes (id : String) :
    ∃ students, (StudentsService.remove ambient id database).1 =
      { database with students := students } := by
  unfold StudentsService.remove
  split <;> exact ⟨_, rfl⟩

/-- An enrolment writes students. -/
theorem enroll_writes (reached : ObjectId → Bool) (now : Int) (id : String) (dto : EnrollDto) :
    ∃ students, (BatchesService.enroll ambient reached now id dto database).1 =
      { database with students := students } := by
  unfold BatchesService.enroll
  repeat' split
  all_goals exact ⟨_, rfl⟩

/-- The creation of a batch writes batches. -/
theorem create_batch_writes (generated : ObjectId) (dto : CreateBatchDto) :
    ∃ batches, (BatchesService.create ambient generated dto database).1 =
      { database with batches := batches } := by
  unfold BatchesService.create
  split <;> exact ⟨_, rfl⟩

/-- A change of a batch writes batches. -/
theorem update_batch_writes (id : String) (dto : UpdateBatchDto) :
    ∃ batches, (BatchesService.update ambient id dto database).1 =
      { database with batches := batches } := by
  unfold BatchesService.update
  split <;> exact ⟨_, rfl⟩

/-- The removal of a batch writes batches. -/
theorem remove_batch_writes (id : String) :
    ∃ batches, (BatchesService.remove ambient id database).1 =
      { database with batches := batches } := by
  unfold BatchesService.remove
  split <;> exact ⟨_, rfl⟩

/-- The creation of a plan writes plans. -/
theorem create_plan_writes (deployment : Deployment) (generated : ObjectId) (now : Int)
    (dto : CreateFeePlanDto) :
    ∃ plans, (FeesService.createPlan deployment ambient generated now dto database).1 =
      { database with plans := plans } := by
  unfold FeesService.createPlan
  dsimp only
  repeat' split
  all_goals exact ⟨_, rfl⟩

/-- A generation writes invoices. -/
theorem generate_invoices_writes (draw : Nat → ObjectId × Int) (planId : ObjectId)
    (dto : GenerateInvoicesDto) :
    ∃ invoices, (FeesService.generateInvoices ambient draw planId dto database).1 =
      { database with invoices := invoices } := by
  unfold FeesService.generateInvoices
  repeat' split
  all_goals exact ⟨_, rfl⟩

/-- A payment order writes payments. -/
theorem create_payment_order_writes (deployment : Deployment)
    (live : OrderRequest → Except Thrown OrderReply) (generated invoiceId : ObjectId) :
    ∃ payments,
      (FeesService.createPaymentOrder deployment ambient live generated invoiceId database).1 =
        { database with payments := payments } := by
  unfold FeesService.createPaymentOrder
  dsimp only
  repeat' split
  all_goals exact ⟨_, rfl⟩

/-- The creation of an assignment writes assignments. -/
theorem create_assignment_writes (draw : AcademicsDraw) (createdBy : ObjectId)
    (dto : CreateAssignmentDto) :
    ∃ assignments, (AcademicsService.createAssignment ambient draw createdBy dto database).1 =
      { database with assignments := assignments } := by
  unfold AcademicsService.createAssignment
  repeat' split
  all_goals exact ⟨_, rfl⟩

/-- A submission writes submissions. -/
theorem submit_writes_submissions (draw : AcademicsDraw) (id : String)
    (dto : SubmitAssignmentDto) :
    ∃ submissions, (AcademicsService.submit ambient draw id dto database).1 =
      { database with submissions := submissions } := by
  unfold AcademicsService.submit
  repeat' split
  all_goals exact ⟨_, rfl⟩

/-- A grading writes submissions, notifications and pushes. -/
theorem grade_writes_three (deployment : AcademicsDeployment) (draw : AcademicsDraw) (id : String)
    (dto : GradeSubmissionDto) :
    ∃ submissions notifications pushes,
      (AcademicsService.grade deployment ambient draw id dto database).1 =
        { database with
          submissions := submissions, notifications := notifications, pushes := pushes } := by
  unfold AcademicsService.grade
  split
  · exact ⟨_, _, _, rfl⟩
  · split
    · exact ⟨_, _, _, rfl⟩
    · exact ⟨_, _, _, rfl⟩
    · rename_i submission submissions _
      obtain ⟨notifications, pushes, writes⟩ := AcademicsService.notify_graded_writes deployment
        ambient draw id dto submission { database with submissions := submissions }
      exact ⟨submissions, notifications, pushes, writes⟩

/-- The creation of a test writes tests. -/
theorem create_test_writes (draw : AcademicsDraw) (dto : CreateTestDto) :
    ∃ tests, (AcademicsService.createTest ambient draw dto database).1 =
      { database with tests := tests } := by
  unfold AcademicsService.createTest
  repeat' split
  all_goals exact ⟨_, rfl⟩

/-- A score writes scores. -/
theorem record_score_writes_scores (deployment : AcademicsDeployment) (draw : AcademicsDraw)
    (id : String) (dto : RecordScoreDto) :
    ∃ scores, (AcademicsService.recordScore deployment ambient draw id dto database).1 =
      { database with scores := scores } := by
  unfold AcademicsService.recordScore
  repeat' split
  all_goals exact ⟨_, rfl⟩

/-- The loop of a marking writes attendance records, notifications and pushes.

Proof: by induction on the entries. -/
theorem mark_entries_writes (deployment : ClassDeployment) (markedBy : ObjectId)
    (batchId : MongoId) (date : Int) (entries : List MarkEntryDto) (draw : Nat → MarkDraw)
    (notified : Nat) :
    ∃ attendance notifications pushes,
      (AttendanceService.markEntries deployment ambient markedBy batchId date entries draw notified
        database).1 =
          { database with
            attendance := attendance, notifications := notifications, pushes := pushes } := by
  induction entries generalizing draw notified database with
  | nil => exact ⟨_, _, _, rfl⟩
  | cons entry rest inductionHypothesis =>
    obtain ⟨attendance, notifications, pushes, first⟩ := AttendanceService.mark_entry_writes
      deployment ambient markedBy batchId date (draw 0) entry database
    simp only [AttendanceService.markEntries]
    split
    · rename_i stopped thrown outcome
      rw [outcome] at first
      exact ⟨attendance, notifications, pushes, first⟩
    · rename_i marked told outcome
      rw [outcome] at first
      obtain ⟨laterAttendance, laterNotifications, laterPushes, later⟩ := inductionHypothesis marked
        (fun i => draw (i + 1)) (if told then notified + 1 else notified)
      change marked = _ at first
      exact ⟨laterAttendance, laterNotifications, laterPushes, by rw [later, first]⟩

end Services

namespace TenantApi

/-- A request leaves other rows in the collections that it writes, at most. -/
theorem serve_writes (deployment : TenantApiDeployment) (ambient : Ambient)
    (user : TenantPrincipal) (campus : Campus) (request : TenantRequest) :
    Written request.writes campus (serve deployment ambient user campus request).1 := by
  cases request with
  | invite draws dto =>
    obtain ⟨users, writes⟩ := invite_writes ambient campus.database deployment.auth draws dto
    simp only [serve, stored, writes]
    exact .one .users users campus
  | fcmToken token =>
    obtain ⟨users, writes⟩ := add_fcm_token_writes ambient campus.database user.userId token
    simp only [serve, stored, writes]
    exact .one .users users campus
  | createStudent generated now dto =>
    obtain ⟨students, writes⟩ := create_student_writes ambient campus.database generated now dto
    simp only [serve, stored, writes]
    exact .one .students students campus
  | updateStudent now id dto =>
    obtain ⟨students, writes⟩ := update_student_writes ambient campus.database now id dto
    simp only [serve, stored, writes]
    exact .one .students students campus
  | removeStudent id =>
    obtain ⟨students, writes⟩ := remove_student_writes ambient campus.database id
    simp only [serve, stored, writes]
    exact .one .students students campus
  | createBatch generated dto =>
    obtain ⟨batches, writes⟩ := create_batch_writes ambient campus.database generated dto
    simp only [serve, stored, writes]
    exact .one .batches batches campus
  | updateBatch id dto =>
    obtain ⟨batches, writes⟩ := update_batch_writes ambient campus.database id dto
    simp only [serve, stored, writes]
    exact .one .batches batches campus
  | removeBatch id =>
    obtain ⟨batches, writes⟩ := remove_batch_writes ambient campus.database id
    simp only [serve, stored, writes]
    exact .one .batches batches campus
  | enroll reached now id dto =>
    obtain ⟨students, writes⟩ := enroll_writes ambient campus.database reached now id dto
    simp only [serve, stored, writes]
    exact .one .students students campus
  | createPlan generated now dto =>
    obtain ⟨plans, writes⟩ := create_plan_writes ambient campus.database deployment.fees generated
      now dto
    simp only [serve, stored, writes]
    exact .one .plans plans campus
  | generateInvoices draw id dto =>
    simp only [serve]
    split
    · exact .nothing
    · rename_i planId _
      obtain ⟨invoices, writes⟩ := generate_invoices_writes ambient campus.database draw planId dto
      simp only [stored, writes]
      exact .one .invoices invoices campus
  | receipt id =>
    simp only [serve]
    split <;> exact .nothing
  | createOrder live generated invoiceId =>
    obtain ⟨payments, writes⟩ := create_payment_order_writes ambient campus.database
      deployment.fees live generated invoiceId.id
    simp only [serve, stored, writes]
    exact .one .payments payments campus
  | mark draw dto =>
    cases made : newObjectId user.userId with
    | error thrown =>
      cases listed : dto.entries with
      | nil =>
        simp only [serve, made, listed]
        exact .nothing
      | cons entry rest =>
        simp only [serve, made, listed]
        exact .nothing
    | ok markedBy =>
      obtain ⟨attendance, notifications, pushes, writes⟩ := mark_entries_writes ambient
        campus.database deployment.classes markedBy dto.batchId
        (AttendanceService.normalizeDate dto.date.instant) dto.entries draw 0
      simp only [serve, made, stored, AttendanceService.mark, writes]
      exact .three .attendance .notifications .pushes attendance notifications pushes campus
  | createAssignment draw dto =>
    simp only [serve]
    split
    · exact .nothing
    · rename_i createdBy _
      obtain ⟨assignments, writes⟩ := create_assignment_writes ambient campus.database draw
        createdBy dto
      simp only [stored, writes]
      exact .one .assignments assignments campus
  | submit draw id dto =>
    obtain ⟨submissions, writes⟩ := submit_writes_submissions ambient campus.database draw id dto
    simp only [serve, stored, writes]
    exact .one .submissions submissions campus
  | grade draw id dto =>
    obtain ⟨submissions, notifications, pushes, writes⟩ := grade_writes_three ambient
      campus.database deployment.academics draw id dto
    simp only [serve, stored, writes]
    exact .three .submissions .notifications .pushes submissions notifications pushes campus
  | createTest draw dto =>
    obtain ⟨tests, writes⟩ := create_test_writes ambient campus.database draw dto
    simp only [serve, stored, writes]
    exact .one .tests tests campus
  | recordScore draw id dto =>
    obtain ⟨scores, writes⟩ := record_score_writes_scores ambient campus.database
      deployment.academics draw id dto
    simp only [serve, stored, writes]
    exact .one .scores scores campus
  | createMaterial generated dto =>
    simp only [serve, kept, MaterialsService.create]
    repeat' split
    · exact .nothing
    · exact .nothing
    · exact .one .materials _ campus
  | removeMaterial id =>
    simp only [serve, kept, MaterialsService.remove]
    split
    · exact .nothing
    · exact .nothing
    · exact .one .materials _ campus
  | createLead generated dto =>
    simp only [serve, kept, LeadsService.create]
    split
    · exact .nothing
    · exact .one .leads _ campus
  | updateLead id dto =>
    simp only [serve, kept, LeadsService.update, LeadsService.updateLead]
    split
    · exact .nothing
    · exact .nothing
    · exact .one .leads _ campus
  | addNote now id text =>
    simp only [serve, kept, LeadsService.addNote, LeadsService.updateLead]
    repeat' split
    · exact .nothing
    · exact .nothing
    · exact .nothing
    · exact .one .leads _ campus
  | _ => exact .nothing

/-- What is stored after a call. -/
def after (deployment : TenantApiDeployment) (campus : Campus) (call : Call) : Campus :=
  (handle deployment campus call).1

/-- What a collection keeps to a history, every call keeps to the history with what the call gives,
where refused calls and those that do not write the collection give nothing. Only calls that write
it have to be looked at. -/
theorem after_keeps_history {ω : Type} {deployment : TenantApiDeployment} {campus : Campus}
    {call : Call} {holding : Holding} {keeps : Campus → List ω → Prop} {history given : List ω}
    (kept : keeps campus history)
    (determined : ∀ {next}, holding.Same campus next → keeps campus history → keeps next history)
    (refused : ∀ thrown, admitted deployment call = .error thrown → given = [])
    (foreign : ∀ user, admitted deployment call = .ok user → holding ∉ call.request.writes →
      given = [])
    (writing : ∀ user, admitted deployment call = .ok user →
      Bound (intercept user.tenantId) user.tenantId →
      handle deployment campus call =
        serve deployment (intercept user.tenantId) user campus call.request →
      holding ∈ call.request.writes → keeps (after deployment campus call) (history ++ given)) :
    keeps (after deployment campus call) (history ++ given) := by
  have unchanged (nothing : given = []) (same : holding.Same campus (after deployment campus call)) :
      keeps (after deployment campus call) (history ++ given) := by
    rw [nothing, List.append_nil]
    exact determined same kept
  cases admits : admitted deployment call with
  | error thrown =>
    apply unchanged (refused thrown admits)
    simp only [after, handle, admits]
    exact rfl
  | ok user =>
    have served : handle deployment campus call =
        serve deployment (intercept user.tenantId) user campus call.request := by
      simp only [handle, admits]
    by_cases written : holding ∈ call.request.writes
    · exact writing user admits (admitted_bound admits) served written
    · apply unchanged (foreign user admits written)
      rw [after, served]
      exact (serve_writes deployment (intercept user.tenantId) user campus call.request).same
        written

/-- The guard admitted a call in one of some roles. -/
def AdmittedAs (deployment : TenantApiDeployment) (roles : List UserRole) (call : Call) : Prop :=
  ∃ user, admitted deployment call = .ok user ∧ ∃ role ∈ roles, user.role = some role

/-- A collection that a call leaves different was written in one of its roles. -/
theorem after_authorized (deployment : TenantApiDeployment) {campus : Campus} {call : Call}
    {holding : Holding} {roles : List UserRole} (guarded : holding.writers = some roles)
    (changed : ¬ holding.Same campus (after deployment campus call)) :
    AdmittedAs deployment roles call := by
  unfold after handle at changed
  cases admits : admitted deployment call with
  | error thrown =>
    simp only [admits] at changed
    exact absurd rfl changed
  | ok user =>
    simp only [admits] at changed
    have written : holding ∈ call.request.writes := by
      by_contra foreign
      exact changed ((serve_writes deployment _ user campus call.request).same foreign)
    obtain ⟨required, allowed⟩ := TenantRequest.writes_guarded written guarded
    obtain ⟨_, unguarded | ⟨role, held, member⟩⟩ := admitted_ok.mp admits
    · exact absurd unguarded required
    · exact ⟨user, admits, role, allowed role member, held⟩

/-- A collection that a run of calls leaves different was changed by one of them that the guard
admitted in one of the collection's roles.

Proof: some call of the run leaves the collection different from what it found, and a call that
does was admitted. -/
theorem changes_authorized (deployment : TenantApiDeployment) {start : Campus} {calls : List Call}
    {holding : Holding} {roles : List UserRole} (guarded : holding.writers = some roles)
    (changed : ¬ holding.Same start (Runs.run (after deployment) start calls)) :
    Runs.Somewhere (after deployment) (fun campus call =>
      ¬ holding.Same campus (after deployment campus call) ∧ AdmittedAs deployment roles call)
      start calls := by
  have somewhere := @Runs.somewhere_changed _ _ (after deployment) holding.Same (fun _ => rfl)
    (fun _ _ _ earlier later => Eq.trans later earlier) start calls changed
  exact somewhere.weaken (fun _ _ differs =>
    ⟨differs, after_authorized deployment guarded differs⟩)

/-- A lead was created by a teacher. -/
theorem lead_authorized :
    Runs.Somewhere (after quiet) (fun campus call =>
      ¬ Holding.leads.Same campus (after quiet campus call) ∧
        AdmittedAs quiet [.admin, .teacher] call)
      {} [leadOf "institute-a" "Asha" (.repeated 'a')] := by
  have changed : ¬ Holding.leads.Same {}
      (Runs.run (after quiet) {} [leadOf "institute-a" "Asha" (.repeated 'a')]) := by
    intro same
    have grown : (Runs.run (after quiet) {}
      [leadOf "institute-a" "Asha" (.repeated 'a')]).leads.length = 1 := by decide
    have none : (Runs.run (after quiet) {}
      [leadOf "institute-a" "Asha" (.repeated 'a')]).leads = [] := same
    rw [none] at grown
    cases grown
  exact changes_authorized quiet rfl changed

end TenantApi

end CoachingApi
