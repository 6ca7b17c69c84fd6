import CoachingApi.Surfaces.RecordsApart

/-!
# Class days, class work and notifications on an institute's part

A notification is refused, or stored as it was dispatched to the devices of a user of the
institute. A marking is a loop of upserts, each followed by a notification, and a grading is an
update with one; what was stored before a failure stays stored, on the part as on the whole.
-/

namespace CoachingApi

open TenantModel TenantPlugin TenantContextStore Partitions

/-- Store a notification as it was dispatched, unless it is not valid. -/
def storeDispatched (tenant : String) (generated : ObjectId) (input : NotifyInput)
    (dispatched : Notification) (rows : List Notification) :
    Except Thrown (Notification × List Notification) :=
  match refusedPath (NotificationsService.queued tenant generated input) with
  | some path => .error (.validation path)
  | none =>
    if rows.any (fun stored => decide (stored.id = generated)) then .error .duplicateKey
    else .ok (dispatched, rows ++ [dispatched])

section Notifications

variable {ambient : Ambient} {tenant : String} (bound : Bound ambient tenant)
include bound

/-- A dispatch reads the users of the part. -/
theorem dispatch_on_own (app : PushApp) (now : Int) (users : List User)
    (notification : Notification) :
    NotificationsService.dispatch ambient app now (ownRows tenant users) notification =
      NotificationsService.dispatch ambient app now users notification := by
  simp only [NotificationsService.dispatch, find_by_reference_on_own bound]

/-- Notifying stores the notification as it is dispatched, and records what is handed over. -/
theorem notify_eq (app : PushApp) (generated : ObjectId) (now : Int) (input : NotifyInput)
    (database : Database) :
    NotificationsService.notify ambient app generated now input database =
      match storeDispatched tenant generated input
          (NotificationsService.dispatch ambient app now database.users
            (NotificationsService.queued tenant generated input)).1 database.notifications with
      | .error thrown => (database, .error thrown)
      | .ok (notification, notifications) =>
        ({ database with
            notifications := notifications
            pushes := database.pushes ++ (NotificationsService.dispatch ambient app now
              database.users (NotificationsService.queued tenant generated input)).2.toList },
          .ok notification) := by
  obtain ⟨created, same⟩ : ∃ created : Notification, created =
      { id := generated, userId := input.userId, channel := input.channel.getD .push,
        type := input.type, title := input.title, body := input.body, data := input.data,
        status := .queued } := ⟨_, rfl⟩
  have stamped : withTenantId tenant created =
      NotificationsService.queued tenant generated input := by rw [same]; rfl
  have unset : tenantId created = "" := by rw [same]; rfl
  have valid := validate_stamped bound unset
  rw [stamped] at valid
  simp only [NotificationsService.notify, storeDispatched, ← same, create, valid]
  cases refused : refusedPath (NotificationsService.queued tenant generated input) with
  | some path => rfl
  | none =>
    have indexed : (database.notifications.any (fun stored =>
        decide (TenantModel.id stored =
            TenantModel.id (NotificationsService.queued tenant generated input)) ||
          clashes stored (NotificationsService.queued tenant generated input))) =
        database.notifications.any (fun stored => decide (stored.id = generated)) := by
      congr 1
      funext stored
      exact Bool.or_false _
    simp only [indexed]
    cases taken : database.notifications.any (fun stored => decide (stored.id = generated)) with
    | true => rfl
    | false =>
      have fresh : ∀ notification ∈ database.notifications, notification.id ≠ generated := by
        intro notification member
        simpa using List.any_eq_false.mp taken notification member
      simp only [Bool.false_eq_true, if_false,
        NotificationsService.save_dispatched bound app now database.users rfl refused fresh]

omit bound in
/-- Storing a dispatched notification is apart. -/
theorem store_dispatched_apart {generated : ObjectId} (input : NotifyInput)
    {dispatched : Notification} {rows : List Notification}
    (identity : dispatched.id = generated) (owned : dispatched.tenantId = tenant)
    (distinct : Records.Distinct TenantModel.id rows) (fresh : FreshFor tenant generated rows) :
    RowsApart tenant rows (storeDispatched tenant generated input dispatched) := by
  cases refused : refusedPath (NotificationsService.queued tenant generated input) with
  | some path =>
    apply (throwing_apart (.validation path)).agree <;> simp only [storeDispatched, refused]
  | none =>
    have unindexed : ∀ stored : Notification, clashes stored dispatched = false := fun _ => rfl
    have same : TenantModel.id dispatched = generated := identity
    have inserts := inserting_apart distinct owned (same.symm ▸ fresh) (never_led unindexed)
      dispatched
    apply inserts.agree <;>
      simp only [storeDispatched, refused, unindexed, Bool.or_false, same] <;> rfl

end Notifications

/-- Attendance records clash with records of their own tenant. -/
theorem attendance_led {tenant : String} {candidate : Attendance}
    (owned : candidate.tenantId = tenant) (rows : List Attendance) :
    Led tenant candidate rows := by
  intro record _ clash
  exact (of_decide_eq_true clash).1.trans owned

/-- Submissions clash with submissions of their own tenant. -/
theorem submissions_led {tenant : String} {candidate : Submission}
    (owned : candidate.tenantId = tenant) (rows : List Submission) :
    Led tenant candidate rows := by
  intro record _ clash
  exact (of_decide_eq_true clash).1.trans owned

/-- Scores clash with scores of their own tenant. -/
theorem scores_led {tenant : String} {candidate : TestScore}
    (owned : candidate.tenantId = tenant) (rows : List TestScore) :
    Led tenant candidate rows := by
  intro record _ clash
  exact (of_decide_eq_true clash).1.trans owned

/-- What is handed to the push service is recorded. -/
def handing (push : Option Push) : Call Campus Thrown Unit := fun campus =>
  ({ campus with database :=
      { campus.database with pushes := campus.database.pushes ++ push.toList } }, .ok ())

section Services

variable {ambient : Ambient} {tenant : String} (bound : Bound ambient tenant) {campus : Campus}
  (identified : campus.Identified)
include bound identified

omit bound in
/-- What is recorded of a push of the institute. -/
theorem handed_apart {push : Option Push} (owned : ∀ handed ∈ push, handed.tenantId = tenant) :
    ApartFor tenant campus (handing push) := by
  have inside : ∀ handed ∈ push.toList, handed.tenantId = tenant := fun handed member =>
    owned handed (Option.mem_toList.mp member)
  constructor
  · have own : push.toList.filter (fun handed => decide (handed.tenantId = tenant)) =
        push.toList :=
      List.filter_eq_self.mpr (fun handed member => decide_eq_true (inside handed member))
    simp only [handing, Campus.part, List.filter_append, own]
  · intro other different
    have foreign : push.toList.filter (fun handed => decide (handed.tenantId = other)) = [] := by
      apply List.filter_eq_nil_iff.mpr
      intro handed member
      simp [inside handed member, Ne.symm different]
    simp only [handing, Campus.part, List.filter_append, foreign, List.append_nil]
  · exact { identified with }

/-- A notification. -/
theorem notify_apart (app : PushApp) {generated : ObjectId} (free : campus.Free tenant generated)
    (now : Int) (input : NotifyInput) :
    ApartFor tenant campus
      (onDatabase (NotificationsService.notify ambient app generated now input)) := by
  obtain ⟨settled, same⟩ : ∃ settled, settled =
      NotificationsService.dispatch ambient app now campus.database.users
        (NotificationsService.queued tenant generated input) := ⟨_, rfl⟩
  obtain ⟨status, sentAt, dispatched⟩ := NotificationsService.dispatch_settles ambient app now
    campus.database.users (NotificationsService.queued tenant generated input)
  rw [← same] at dispatched
  have stores : RowsApart tenant campus.database.notifications
      (storeDispatched tenant generated input settled.1) := by
    apply store_dispatched_apart input _ _ identified.notifications
      (Collection.notifications.fresh free)
    · rw [dispatched]
      rfl
    · rw [dispatched]
      rfl
  have owned : ∀ push ∈ settled.2, push.tenantId = tenant := by
    intro push handed
    rw [same] at handed
    obtain ⟨tokens, rfl⟩ := NotificationsService.dispatch_hands handed
    rfl
  have writes := Collection.notifications.write_apart identified stores
  have whole := writes.andThen (fun notification _ =>
    (handed_apart writes.kept owned).mapped (fun _ => notification))
  apply whole.agree <;>
    simp only [onDatabase, notify_eq bound, Campus.part, dispatch_on_own bound, ← same,
      andThen, Collection.write_eq, Collection.notifications]
  · cases storeDispatched tenant generated input settled.1 campus.database.notifications <;> rfl
  · cases storeDispatched tenant generated input settled.1
      (ownRows tenant campus.database.notifications) <;> rfl

/-- What follows the record of an absence. -/
theorem notify_absence_apart (deployment : ClassDeployment) {draw : MarkDraw}
    (free : campus.Free tenant draw.notificationId) (batchId : MongoId) (date : Int)
    (entry : MarkEntryDto) :
    ApartFor tenant campus
      (onDatabase (AttendanceService.notifyAbsence deployment ambient batchId date draw entry)) := by
  by_cases lost : draw.failing = some .lookup
  · apply (apart_answer identified (.error .storage)).agree <;>
      simp only [onDatabase, AttendanceService.notifyAbsence, if_pos lost]
  · have students : findById ambient entry.studentId.id (campus.part tenant).database.students =
        findById ambient entry.studentId.id campus.database.students :=
      find_by_id_on_own bound _ _
    cases found : findById ambient entry.studentId.id campus.database.students with
    | error thrown =>
      apply (apart_answer identified (.error thrown)).agree <;>
        simp only [onDatabase, AttendanceService.notifyAbsence, if_neg lost, students, found]
    | ok held =>
      cases held with
      | none =>
        apply (apart_answer identified (.ok false)).agree <;>
          simp only [onDatabase, AttendanceService.notifyAbsence, if_neg lost, students, found]
      | some student =>
        by_cases unsent : draw.failing = some .notification
        · apply (apart_answer identified (.error .storage)).agree <;>
            simp only [onDatabase, AttendanceService.notifyAbsence, if_neg lost, students, found,
              if_pos unsent]
        · have notifies := notify_apart bound identified deployment.push free draw.now
            (AttendanceService.absenceNotification deployment
              (AttendanceService.notifyUser student) date batchId entry)
          apply (notifies.mapped (fun _ => true)).agree <;>
            simp only [onDatabase, AttendanceService.notifyAbsence, if_neg lost, students, found,
              if_neg unsent]

/-- One entry of a marking. -/
theorem mark_entry_apart (deployment : ClassDeployment) {draw : MarkDraw}
    (freeRecord : campus.Free tenant draw.recordId)
    (freeNotification : campus.Free tenant draw.notificationId) (markedBy : ObjectId)
    (batchId : MongoId) (date : Int) (entry : MarkEntryDto) :
    ApartFor tenant campus (onDatabase
      (AttendanceService.markEntry deployment ambient markedBy batchId date draw entry)) := by
  by_cases lost : draw.failing = some .upsert
  · apply (apart_answer identified (.error .storage)).agree <;>
      simp only [onDatabase, AttendanceService.markEntry, if_pos lost]
  · have upserts : RowsApart tenant campus.database.attendance
        (AttendanceService.upsertRecord ambient markedBy batchId.id date draw entry) :=
      upsert_one_apart bound identified.attendance _
        (AttendanceService.markRecord markedBy entry.status) (fun _ => rfl) (fun _ => rfl)
        (Collection.attendance.fresh freeRecord) (attendance_led rfl _)
    have writes := Collection.attendance.write_apart identified upserts
    by_cases absent : entry.status = .absent
    · have whole := writes.andThen (fun _ _ => notify_absence_apart bound writes.kept deployment
        (Campus.free_kept freeNotification writes.others) batchId date entry)
      apply whole.agree <;>
        simp only [onDatabase, AttendanceService.markEntry, if_neg lost, absent, if_true, andThen,
          Collection.write_eq, Collection.attendance]
      · cases AttendanceService.upsertRecord ambient markedBy batchId.id date draw entry
          campus.database.attendance <;> rfl
      · cases AttendanceService.upsertRecord ambient markedBy batchId.id date draw entry
          (campus.part tenant).database.attendance <;> rfl
    · apply (writes.mapped (fun _ => false)).agree <;>
        simp only [onDatabase, AttendanceService.markEntry, if_neg lost, if_neg absent,
          Collection.write_eq, Collection.attendance]
      · cases AttendanceService.upsertRecord ambient markedBy batchId.id date draw entry
          campus.database.attendance <;> rfl
      · cases AttendanceService.upsertRecord ambient markedBy batchId.id date draw entry
          (campus.part tenant).database.attendance <;> rfl

/-- The loop of a marking.

Proof: by induction on the entries. What is still to be drawn stays free, because an entry
leaves the parts of the others as they are. -/
theorem mark_entries_apart (deployment : ClassDeployment) (markedBy : ObjectId)
    (batchId : MongoId) (date : Int) (entries : List MarkEntryDto) {draw : Nat → MarkDraw}
    (freeRecords : ∀ i, campus.Free tenant (draw i).recordId)
    (freeNotifications : ∀ i, campus.Free tenant (draw i).notificationId) (notified : Nat) :
    ApartFor tenant campus (onDatabase (AttendanceService.markEntries deployment ambient markedBy
      batchId date entries draw notified)) := by
  induction entries generalizing campus draw notified with
  | nil => exact apart_answer identified (.ok notified)
  | cons entry rest inductionHypothesis =>
    have first := mark_entry_apart bound identified deployment (freeRecords 0)
      (freeNotifications 0) markedBy batchId date entry
    have whole : ApartFor tenant campus (andThen
        (onDatabase (AttendanceService.markEntry deployment ambient markedBy batchId date
          (draw 0) entry))
        (fun told => onDatabase (AttendanceService.markEntries deployment ambient markedBy batchId
          date rest (fun i => draw (i + 1)) (if told then notified + 1 else notified)))) :=
      first.andThen (fun told _ => inductionHypothesis first.kept
        (fun i => Campus.free_kept (freeRecords (i + 1)) first.others)
        (fun i => Campus.free_kept (freeNotifications (i + 1)) first.others) _)
    apply whole.agree <;> simp only [onDatabase, AttendanceService.markEntries, andThen]
    · cases AttendanceService.markEntry deployment ambient markedBy batchId date (draw 0) entry
        campus.database with
      | mk marked outcome => cases outcome <;> rfl
    · cases AttendanceService.markEntry deployment ambient markedBy batchId date (draw 0) entry
        (campus.part tenant).database with
      | mk marked outcome => cases outcome <;> rfl

/-- A marking. -/
theorem mark_apart (deployment : ClassDeployment) {draw : Nat → MarkDraw}
    (freeRecords : ∀ i, campus.Free tenant (draw i).recordId)
    (freeNotifications : ∀ i, campus.Free tenant (draw i).notificationId) (markedBy : ObjectId)
    (dto : MarkAttendanceDto) :
    ApartFor tenant campus
      (onDatabase (AttendanceService.mark deployment ambient draw markedBy dto)) :=
  (mark_entries_apart bound identified deployment markedBy dto.batchId
    (AttendanceService.normalizeDate dto.date.instant) dto.entries freeRecords freeNotifications
    0).mapped _

/-- The creation of an assignment. -/
theorem create_assignment_apart {draw : AcademicsDraw} (free : campus.Free tenant draw.recordId)
    (createdBy : ObjectId) (dto : CreateAssignmentDto) :
    ApartFor tenant campus
      (onDatabase (AcademicsService.createAssignment ambient draw createdBy dto)) := by
  by_cases lost : draw.failing = some .write
  · apply (apart_answer identified (.error .storage)).agree <;>
      simp only [onDatabase, AcademicsService.createAssignment, if_pos lost]
  · obtain ⟨assignment, same⟩ : ∃ assignment : Assignment, assignment =
        { id := draw.recordId, batchId := dto.batchId.id, title := dto.title,
          description := dto.description.given, attachmentUrl := dto.attachmentUrl.given,
          dueDate := dto.dueDate.instant, createdBy := createdBy } := ⟨_, rfl⟩
    have identity : TenantModel.id assignment = draw.recordId := by rw [same]; rfl
    have creates : RowsApart tenant campus.database.assignments (create ambient assignment) :=
      create_apart bound identified.assignments
        (identity.symm ▸ Collection.assignments.fresh free) (never_led (fun _ => rfl))
    apply (Collection.assignments.write_apart identified creates).agree <;>
      simp only [onDatabase, AcademicsService.createAssignment, if_neg lost, ← same,
        Collection.write_eq, Collection.assignments]
    · cases create ambient assignment campus.database.assignments <;> rfl
    · cases create ambient assignment (campus.part tenant).database.assignments <;> rfl

/-- A submission. -/
theorem submit_apart {draw : AcademicsDraw} (free : campus.Free tenant draw.recordId)
    (id : String) (dto : SubmitAssignmentDto) :
    ApartFor tenant campus (onDatabase (AcademicsService.submit ambient draw id dto)) := by
  by_cases lost : draw.failing = some .lookup
  · apply (apart_answer identified (.error .storage)).agree <;>
      simp only [onDatabase, AcademicsService.submit, if_pos lost]
  · have assignments : findByText ambient id (campus.part tenant).database.assignments =
        findByText ambient id campus.database.assignments := find_by_text_on_own bound _ _
    cases found : findByText ambient id campus.database.assignments with
    | error thrown =>
      apply (apart_answer identified (.error thrown)).agree <;>
        simp only [onDatabase, AcademicsService.submit, if_neg lost, assignments, found]
    | ok held =>
      cases held with
      | none =>
        apply (apart_answer identified (.error (.notFound "Assignment not found"))).agree <;>
          simp only [onDatabase, AcademicsService.submit, if_neg lost, assignments, found]
      | some assignment =>
        by_cases unwritten : draw.failing = some .write
        · apply (apart_answer identified (.error .storage)).agree <;>
            simp only [onDatabase, AcademicsService.submit, if_neg lost, assignments, found,
              if_pos unwritten]
        · have upserts : RowsApart tenant campus.database.submissions
              (AcademicsService.upsertSubmission ambient draw assignment.id dto) :=
            upsert_one_apart bound identified.submissions _
              (AcademicsService.resubmit dto.fileUrl draw.now) (fun _ => rfl) (fun _ => rfl)
              (Collection.submissions.fresh free) (submissions_led rfl _)
          apply (Collection.submissions.write_apart identified upserts).agree <;>
            simp only [onDatabase, AcademicsService.submit, if_neg lost, assignments, found,
              if_neg unwritten, Collection.write_eq, Collection.submissions]
          · cases AcademicsService.upsertSubmission ambient draw assignment.id dto
              campus.database.submissions <;> rfl
          · cases AcademicsService.upsertSubmission ambient draw assignment.id dto
              (campus.part tenant).database.submissions <;> rfl

/-- What follows the update of a graded submission. -/
theorem notify_graded_apart (deployment : AcademicsDeployment) {draw : AcademicsDraw}
    (free : campus.Free tenant draw.notificationId) (id : String) (dto : GradeSubmissionDto)
    (submission : Submission) :
    ApartFor tenant campus
      (onDatabase (AcademicsService.notifyGraded deployment ambient draw id dto submission)) := by
  by_cases lost : draw.failing = some .student
  · apply (apart_answer identified (.error .storage)).agree <;>
      simp only [onDatabase, AcademicsService.notifyGraded, if_pos lost]
  · have students : findById ambient submission.studentId (campus.part tenant).database.students =
        findById ambient submission.studentId campus.database.students :=
      find_by_id_on_own bound _ _
    cases found : findById ambient submission.studentId campus.database.students with
    | error thrown =>
      apply (apart_answer identified (.error thrown)).agree <;>
        simp only [onDatabase, AcademicsService.notifyGraded, if_neg lost, students, found]
    | ok held =>
      cases held with
      | none =>
        apply (apart_answer identified (.ok submission)).agree <;>
          simp only [onDatabase, AcademicsService.notifyGraded, if_neg lost, students, found]
      | some student =>
        by_cases unsent : draw.failing = some .notification
        · apply (apart_answer identified (.error .storage)).agree <;>
            simp only [onDatabase, AcademicsService.notifyGraded, if_neg lost, students, found,
              if_pos unsent]
        · have notifies := notify_apart bound identified deployment.push free draw.now
            (AcademicsService.gradedNotification student.userId id dto)
          apply (notifies.mapped (fun _ => submission)).agree <;>
            simp only [onDatabase, AcademicsService.notifyGraded, if_neg lost, students, found,
              if_neg unsent]

/-- A grading. -/
theorem grade_apart (deployment : AcademicsDeployment) {draw : AcademicsDraw}
    (free : campus.Free tenant draw.notificationId) (id : String) (dto : GradeSubmissionDto) :
    ApartFor tenant campus
      (onDatabase (AcademicsService.grade deployment ambient draw id dto)) := by
  by_cases lost : draw.failing = some .write
  · apply (apart_answer identified (.error .storage)).agree <;>
      simp only [onDatabase, AcademicsService.grade, if_pos lost]
  · have updates : RowsApart tenant campus.database.submissions
        (findByTextAndUpdate ambient id (AcademicsService.gradeSubmission dto)) :=
      find_by_text_and_update_apart bound identified.submissions id _ (fun _ => rfl)
        (fun _ => rfl)
    have writes := Collection.submissions.write_apart identified
      (updates.answered (orNotFound "Submission not found"))
    have whole := writes.andThen (fun submission _ => notify_graded_apart bound writes.kept
      deployment (Campus.free_kept free writes.others) id dto submission)
    apply whole.agree <;>
      simp only [onDatabase, AcademicsService.grade, if_neg lost, andThen, Collection.write_eq,
        Collection.submissions, answered]
    · cases findByTextAndUpdate ambient id (AcademicsService.gradeSubmission dto)
        campus.database.submissions with
      | error thrown => rfl
      | ok ended =>
        obtain ⟨found, table⟩ := ended
        cases found <;> rfl
    · cases findByTextAndUpdate ambient id (AcademicsService.gradeSubmission dto)
        (campus.part tenant).database.submissions with
      | error thrown => rfl
      | ok ended =>
        obtain ⟨found, table⟩ := ended
        cases found <;> rfl

/-- The creation of a test. -/
theorem create_test_apart {draw : AcademicsDraw} (free : campus.Free tenant draw.recordId)
    (dto : CreateTestDto) :
    ApartFor tenant campus (onDatabase (AcademicsService.createTest ambient draw dto)) := by
  by_cases lost : draw.failing = some .write
  · apply (apart_answer identified (.error .storage)).agree <;>
      simp only [onDatabase, AcademicsService.createTest, if_pos lost]
  · obtain ⟨test, same⟩ : ∃ test : Test, test =
        { id := draw.recordId, batchId := dto.batchId.id, title := dto.title,
          maxMarks := dto.maxMarks, date := dto.date.instant } := ⟨_, rfl⟩
    have identity : TenantModel.id test = draw.recordId := by rw [same]; rfl
    have creates : RowsApart tenant campus.database.tests (create ambient test) :=
      create_apart bound identified.tests (identity.symm ▸ Collection.tests.fresh free)
        (never_led (fun _ => rfl))
    apply (Collection.tests.write_apart identified creates).agree <;>
      simp only [onDatabase, AcademicsService.createTest, if_neg lost, ← same,
        Collection.write_eq, Collection.tests]
    · cases create ambient test campus.database.tests <;> rfl
    · cases create ambient test (campus.part tenant).database.tests <;> rfl

/-- A score. -/
theorem record_score_apart (deployment : AcademicsDeployment) {draw : AcademicsDraw}
    (free : campus.Free tenant draw.recordId) (id : String) (dto : RecordScoreDto) :
    ApartFor tenant campus
      (onDatabase (AcademicsService.recordScore deployment ambient draw id dto)) := by
  by_cases lost : draw.failing = some .lookup
  · apply (apart_answer identified (.error .storage)).agree <;>
      simp only [onDatabase, AcademicsService.recordScore, if_pos lost]
  · have tests : findByText ambient id (campus.part tenant).database.tests =
        findByText ambient id campus.database.tests := find_by_text_on_own bound _ _
    cases found : findByText ambient id campus.database.tests with
    | error thrown =>
      apply (apart_answer identified (.error thrown)).agree <;>
        simp only [onDatabase, AcademicsService.recordScore, if_neg lost, tests, found]
    | ok held =>
      cases held with
      | none =>
        apply (apart_answer identified (.error (.notFound "Test not found"))).agree <;>
          simp only [onDatabase, AcademicsService.recordScore, if_neg lost, tests, found]
      | some test =>
        by_cases exceeding : (test.maxMarks : ℚ) < dto.marks
        · apply (apart_answer identified (.error (.badRequest
            s!"marks cannot exceed maxMarks ({deployment.numberToString test.maxMarks})"))).agree <;>
            simp only [onDatabase, AcademicsService.recordScore, if_neg lost, tests, found,
              if_pos exceeding]
        · by_cases unwritten : draw.failing = some .write
          · apply (apart_answer identified (.error .storage)).agree <;>
              simp only [onDatabase, AcademicsService.recordScore, if_neg lost, tests, found,
                if_neg exceeding, if_pos unwritten]
          · have upserts : RowsApart tenant campus.database.scores
                (AcademicsService.upsertScore ambient draw test.id dto) :=
              upsert_one_apart bound identified.scores _ (AcademicsService.rescore dto)
                (fun _ => rfl) (fun _ => rfl) (Collection.scores.fresh free) (scores_led rfl _)
            apply (Collection.scores.write_apart identified upserts).agree <;>
              simp only [onDatabase, AcademicsService.recordScore, if_neg lost, tests, found,
                if_neg exceeding, if_neg unwritten, Collection.write_eq, Collection.scores]
            · cases AcademicsService.upsertScore ambient draw test.id dto
                campus.database.scores <;> rfl
            · cases AcademicsService.upsertScore ambient draw test.id dto
                (campus.part tenant).database.scores <;> rfl

end Services

end CoachingApi
