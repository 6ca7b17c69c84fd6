import CoachingApi.Academics.AcademicsService
import CoachingApi.Attendance.MarkRetries
import CoachingApi.Fees.SerialCapture

/-!
# Whom notifications reach

Three services notify about a student. Each call adds notifications to the ones that are
stored, and each added one is what a dispatch left of the input that the service wrote.
A grading and a marking address a user that the student's document names; a capture
addresses the student's document itself, which is nobody's inbox.
-/

namespace CoachingApi

open TenantContextStore TenantPlugin NotificationsService

namespace Addressees

/-- A notification and a push as a dispatch left them of what a caller asked for. -/
def Sent (ambient : Ambient) (tenantId : String) (app : PushApp) (users : List User)
    (input : NotifyInput) (dispatched : Notification × Option Push) : Prop :=
  input.channel = none ∧ ∃ generated now,
    dispatched = dispatch ambient app now users (queued tenantId generated input)

/-- A step adds notifications and pushes to the stored ones, those of inputs of a kind. -/
def Creates (ambient : Ambient) (tenantId : String) (app : PushApp) (users : List User)
    (about : NotifyInput → Prop) (before after : Database) : Prop :=
  ∃ sent : List (Notification × Option Push),
    after.notifications = before.notifications ++ sent.map Prod.fst ∧
    after.pushes = before.pushes ++ sent.flatMap (fun dispatched => dispatched.2.toList) ∧
    ∀ dispatched ∈ sent, ∃ input, about input ∧ Sent ambient tenantId app users input dispatched

variable {ambient : Ambient} {tenantId : String} {app : PushApp} {users : List User}
  {about : NotifyInput → Prop} {before between after : Database}

/-- Nothing is added. -/
theorem creates_none (same : after.notifications = before.notifications)
    (silent : after.pushes = before.pushes) :
    Creates ambient tenantId app users about before after :=
  ⟨[], by simp [same], by simp [silent], by simp⟩

/-- What two steps add. -/
theorem Creates.trans (one : Creates ambient tenantId app users about before between)
    (two : Creates ambient tenantId app users about between after) :
    Creates ambient tenantId app users about before after := by
  obtain ⟨first, added, handed, sentFirst⟩ := one
  obtain ⟨second, addedNext, handedNext, sentSecond⟩ := two
  refine ⟨first ++ second, ?_, ?_, List.forall_mem_append.mpr ⟨sentFirst, sentSecond⟩⟩
  · rw [addedNext, added, List.map_append, List.append_assoc]
  · rw [handedNext, handed, List.flatMap_append, List.append_assoc]

/-- Inputs of a kind are of a wider one. -/
theorem Creates.weaken {wider : NotifyInput → Prop}
    (creates : Creates ambient tenantId app users about before after)
    (implies : ∀ input, about input → wider input) :
    Creates ambient tenantId app users wider before after := by
  obtain ⟨added, notifications, pushes, sent⟩ := creates
  refine ⟨added, notifications, pushes, ?_⟩
  intro dispatched member
  obtain ⟨input, kind, was⟩ := sent dispatched member
  exact ⟨input, implies input kind, was⟩

/-- The pipeline adds at most what it sent. -/
theorem notify_creates (bound : Bound ambient tenantId) (app : PushApp) (generated : ObjectId)
    (now : Int) {input : NotifyInput} (unset : input.channel = none) (kind : about input)
    (database : Database) :
    Creates ambient tenantId app database.users about database
      (notify ambient app generated now input database).1 := by
  rcases notify_cases bound app generated now input database with ⟨thrown, refused⟩ | ⟨_, stored⟩
  · rw [refused]
    exact creates_none rfl rfl
  · refine ⟨[dispatch ambient app now database.users (queued tenantId generated input)],
      by rw [stored]; rfl, by rw [stored]; simp [delivered], ?_⟩
    intro dispatched member
    exact ⟨input, kind, unset, generated, now, List.mem_singleton.mp member⟩

section Marking

variable {deployment : ClassDeployment} {markedBy : ObjectId} {batchId : MongoId} {date : Int}

/-- The notices of a marking's absences: for an entry marked absent, to a user of the
student's document. -/
def AboutAbsence (deployment : ClassDeployment) (tenantId : String) (batchId : MongoId)
    (date : Int) (students : List Student) (entries : List MarkEntryDto) (input : NotifyInput) :
    Prop :=
  ∃ entry ∈ entries, entry.status = .absent ∧ ∃ student ∈ students, student.tenantId = tenantId ∧
    student.id = entry.studentId.id ∧
      input = AttendanceService.absenceNotification deployment
        (AttendanceService.notifyUser student) date batchId entry

/-- An entry notifies of its absence only. -/
theorem mark_entry_creates (bound : Bound ambient tenantId) (draw : MarkDraw)
    (entry : MarkEntryDto) (database : Database) :
    Creates ambient tenantId deployment.push database.users
      (AboutAbsence deployment tenantId batchId date database.students [entry])
      database
      (AttendanceService.markEntry deployment ambient markedBy batchId date draw entry
        database).1 := by
  unfold AttendanceService.markEntry
  split
  · exact creates_none rfl rfl
  · split
    · exact creates_none rfl rfl
    · rename_i attendance _
      split
      · rename_i absent
        unfold AttendanceService.notifyAbsence
        split
        · exact creates_none rfl rfl
        · split
          · exact creates_none rfl rfl
          · exact creates_none rfl rfl
          · rename_i student found
            split
            · exact creates_none rfl rfl
            · obtain ⟨stored, owned, same⟩ := TenantModel.find_one_owned bound found
              exact notify_creates bound deployment.push draw.notificationId draw.now rfl
                ⟨entry, List.mem_singleton.mpr rfl, absent, student, stored, owned,
                  of_decide_eq_true same, rfl⟩
                { database with attendance := attendance }
      · exact creates_none rfl rfl

variable (deployment markedBy batchId date) in
/-- A marking notifies of its absences only.

Proof: by induction on the entries. -/
theorem mark_entries_creates (bound : Bound ambient tenantId) (entries : List MarkEntryDto)
    (draw : Nat → MarkDraw) (absencesNotified : Nat) (database : Database) :
    Creates ambient tenantId deployment.push database.users
      (AboutAbsence deployment tenantId batchId date database.students entries)
      database
      (AttendanceService.markEntries deployment ambient markedBy batchId date entries draw
        absencesNotified database).1 := by
  induction entries generalizing draw absencesNotified database with
  | nil => exact creates_none rfl rfl
  | cons entry rest inductionHypothesis =>
    have head : Creates ambient tenantId deployment.push database.users
        (AboutAbsence deployment tenantId batchId date database.students (entry :: rest))
        database
        (AttendanceService.markEntry deployment ambient markedBy batchId date (draw 0) entry
          database).1 := by
      refine (mark_entry_creates bound (draw 0) entry database).weaken ?_
      rintro input ⟨named, member, told⟩
      obtain rfl := List.mem_singleton.mp member
      exact ⟨named, by simp, told⟩
    obtain ⟨attendance, notifications, pushes, writes⟩ := AttendanceService.mark_entry_writes deployment
      ambient markedBy batchId date (draw 0) entry database
    unfold AttendanceService.markEntries
    rcases outcome : AttendanceService.markEntry deployment ambient markedBy batchId date (draw 0)
      entry database with ⟨marked, thrown | notified⟩
    · rw [outcome] at head
      exact head
    · rw [outcome] at head writes
      have tail := inductionHypothesis (fun i => draw (i + 1))
        (if notified then absencesNotified + 1 else absencesNotified) marked
      simp only at writes
      rw [writes] at tail head ⊢
      refine head.trans (tail.weaken ?_)
      rintro input ⟨named, member, told⟩
      exact ⟨named, by simp [member], told⟩

end Marking

section Grading

/-- The notice of a grading: to the user of the submission's student. -/
def AboutGrade (tenantId submissionId : String) (dto : GradeSubmissionDto)
    (submissions : List Submission) (students : List Student) (input : NotifyInput) : Prop :=
  ∃ submission ∈ submissions, submission.tenantId = tenantId ∧
    ObjectId.cast submissionId = some submission.id ∧ ∃ student ∈ students,
      student.tenantId = tenantId ∧ student.id = submission.studentId ∧
        input = AcademicsService.gradedNotification student.userId submissionId dto

/-- A grading notifies of its grade only. -/
theorem grade_creates (bound : Bound ambient tenantId) (deployment : AcademicsDeployment)
    (draw : AcademicsDraw) (submissionId : String) (dto : GradeSubmissionDto)
    (database : Database) :
    Creates ambient tenantId deployment.push database.users
      (AboutGrade tenantId submissionId dto database.submissions database.students)
      database
      (AcademicsService.grade deployment ambient draw submissionId dto
        database).1 := by
  unfold AcademicsService.grade
  split
  · exact creates_none rfl rfl
  · split
    · exact creates_none rfl rfl
    · exact creates_none rfl rfl
    · rename_i graded submissions updated
      obtain ⟨submission, stored, owned, casts, rfl, _⟩ :=
        TenantModel.find_by_text_and_update_ok bound updated
      unfold AcademicsService.notifyGraded
      split
      · exact creates_none rfl rfl
      · split
        · exact creates_none rfl rfl
        · exact creates_none rfl rfl
        · rename_i student found
          split
          · exact creates_none rfl rfl
          · obtain ⟨held, ownedStudent, same⟩ := TenantModel.find_one_owned bound found
            exact notify_creates bound deployment.push draw.notificationId draw.now rfl
              ⟨submission, stored, owned, casts, student, held, ownedStudent,
                of_decide_eq_true same, rfl⟩
              { database with submissions := submissions }

end Grading

section Capturing

open FeesService

/-- An invoice in memory is about a stored one. -/
def OfStored (invoices : List FeeInvoice) (invoice : FeeInvoice) : Prop :=
  ∃ stored ∈ invoices, stored.id = invoice.id ∧ stored.studentId = invoice.studentId

/-- The confirmation of a payment: to the student of the invoice. -/
def AboutPayment (invoices : List FeeInvoice) (input : NotifyInput) : Prop :=
  ∃ invoice receiptUrl, OfStored invoices invoice ∧ input = paidNotification invoice receiptUrl

/-- Nobody has been notified so far. -/
def Quiet (start database : Database) : Prop :=
  database.users = start.users ∧ database.notifications = start.notifications ∧
    database.pushes = start.pushes

/-- Until a call ends it has notified nobody, and the invoice it holds is about a stored
one. -/
def Confirming (ambient : Ambient) (tenantId : String) (app : PushApp) (start database : Database) :
    CaptureStep → Prop
  | .started | .noneRecorded | .claiming .. | .claimed .. =>
    Quiet start database ∧ database.invoices = start.invoices
  | .rendering _ _ invoice _ | .storingReceipt _ _ _ invoice _ | .crediting _ _ _ invoice _
  | .notifying _ _ invoice =>
    Quiet start database ∧ OfStored start.invoices invoice
  | .returned .. | .threw .. =>
    Creates ambient tenantId app start.users (AboutPayment start.invoices) start database

/-- Nothing is created while nobody has been notified. -/
theorem quiet_creates {start database : Database} (quiet : Quiet start database) :
    Creates ambient tenantId app start.users about start database :=
  creates_none quiet.2.1 quiet.2.2

/-- Wherever a call stands it has created nothing but its confirmation. -/
theorem confirming_creates {start database : Database} {step : CaptureStep}
    (confirming : Confirming ambient tenantId app start database step) :
    Creates ambient tenantId app start.users (AboutPayment start.invoices) start database := by
  cases step with
  | returned | threw => exact confirming
  | _ => exact quiet_creates confirming.1

/-- Every step of a capture keeps that. -/
theorem confirming_step (bound : Bound ambient tenantId) (deployment : Deployment)
    (params : CaptureParams) (input : StepInput) {start database : Database} {step : CaptureStep}
    (confirming : Confirming ambient tenantId deployment.push start database step) :
    Confirming ambient tenantId deployment.push start
      (captureStep deployment ambient params input database step).1
      (captureStep deployment ambient params input database step).2 := by
  by_cases last : ∃ payment receiptUrl invoice, step = .notifying payment receiptUrl invoice
  · obtain ⟨payment, receiptUrl, invoice, rfl⟩ := last
    obtain ⟨quiet, ofStored⟩ := confirming
    have kind : AboutPayment start.invoices (paidNotification invoice receiptUrl) :=
      ⟨invoice, receiptUrl, ofStored, rfl⟩
    have creates := notify_creates bound deployment.push input.notification input.now rfl kind
      database
    rw [quiet.1] at creates
    have whole := (quiet_creates quiet).trans creates
    simp only [captureStep]
    split
    · exact quiet_creates quiet
    · split
      · rename_i notified thrown outcome
        rw [outcome] at whole
        exact whole
      · rename_i notified stored outcome
        rw [outcome] at whole
        exact whole
  · have transition := capture_step_transition deployment ambient params input database step
    generalize (captureStep deployment ambient params input database step).1 = next
      at transition ⊢
    generalize (captureStep deployment ambient params input database step).2 = nextStep
      at transition ⊢
    cases transition with
    | failed step thrown unfinished => exact confirming_creates confirming
    | recorded existing found => exact quiet_creates confirming.1
    | unrecorded absent => exact confirming
    | nonePending absent => exact quiet_creates confirming.1
    | pending payment now found => exact confirming
    | lostClaim loaded current refused => exact quiet_creates confirming.1
    | claims loaded current payment payments saved => exact confirming
    | withoutInvoice payment absent => exact quiet_creates confirming.1
    | reads payment invoice paid now found applies =>
      obtain ⟨quiet, invoices⟩ := confirming
      have stored := (TenantModel.find_one_owned bound found).1
      exact ⟨quiet, invoice, invoices ▸ stored, rfl, rfl⟩
    | renders payment loaded current invalid receiptUrl => exact confirming
    | rendersNothing payment loaded current invalid => exact confirming
    | storesReceipt payment stored receiptUrl loaded current invalid payments saved =>
      exact confirming
    | credits payment receiptUrl loaded current invoice invoices saved =>
      obtain ⟨quiet, held, stored, sameId, sameStudent⟩ := confirming
      obtain ⟨rfl, _⟩ := TenantModel.save_bound bound saved
      exact ⟨quiet, held, stored, sameId, sameStudent⟩
    | notifies payment receiptUrl invoice notifications pushes =>
      exact absurd ⟨payment, receiptUrl, invoice, rfl⟩ last
    | notifyFails payment receiptUrl invoice notifications pushes thrown =>
      exact absurd ⟨payment, receiptUrl, invoice, rfl⟩ last
    | ended step finished => exact confirming

/-- A capture notifies of its payment only. -/
theorem capture_creates (bound : Bound ambient tenantId) (deployment : Deployment)
    (inputs : AwaitPoint → StepInput) (params : CaptureParams) (database : Database) :
    Creates ambient tenantId deployment.push database.users (AboutPayment database.invoices)
      database (applyCapturedPayment deployment ambient params inputs database).1 := by
  have preserved : ∀ point state step, step.point = some point →
      Confirming ambient tenantId deployment.push database state step →
        Confirming ambient tenantId deployment.push database
          (captureStep deployment ambient params (inputs point) state step).1
          (captureStep deployment ambient params (inputs point) state step).2 :=
    fun point _ _ _ holds => confirming_step bound deployment params (inputs point) holds
  exact confirming_creates
    (settle_preserves preserved 8 database .started ⟨⟨rfl, rfl, rfl⟩, rfl⟩)

end Capturing

/-- The calls that notify about a student. -/
inductive NotifyingOperation where
  | capture (deployment : Deployment) (inputs : AwaitPoint → StepInput) (params : CaptureParams)
  | grade (deployment : AcademicsDeployment) (draw : AcademicsDraw) (submissionId : String)
      (dto : GradeSubmissionDto)
  | mark (deployment : ClassDeployment) (draw : Nat → MarkDraw) (markedBy : ObjectId)
      (dto : MarkAttendanceDto)

namespace NotifyingOperation

/-- The push client of the call's deployment. -/
def pushApp : NotifyingOperation → PushApp
  | .capture deployment _ _ => deployment.push
  | .grade deployment .. => deployment.push
  | .mark deployment .. => deployment.push

/-- Which of a student's accounts the call addresses; a capture addresses none. -/
def addressee (student : Student) : NotifyingOperation → Option Reference
  | .capture .. => none
  | .grade .. => some student.userId
  | .mark .. => some (AttendanceService.notifyUser student)

/-- The database after a call, however it ends. -/
def run (ambient : Ambient) (database : Database) : NotifyingOperation → Database
  | .capture deployment inputs params =>
    (FeesService.applyCapturedPayment deployment ambient params inputs database).1
  | .grade deployment draw submissionId dto =>
    (AcademicsService.grade deployment ambient draw submissionId dto database).1
  | .mark deployment draw markedBy dto =>
    (AttendanceService.mark deployment ambient draw markedBy dto database).1

/-- A notification of a call concerns a student: the one of the invoice that its data names,
of the graded submission, or of the absent entry that its data names. -/
def Concerns (database : Database) (notification : Notification) (studentId : ObjectId) :
    NotifyingOperation → Prop
  | .capture .. => ∃ invoice ∈ database.invoices, ∃ receiptUrl,
      notification.data = (FeesService.paidNotification invoice receiptUrl).data ∧
        invoice.studentId = studentId
  | .grade _ _ submissionId _ => ∃ submission ∈ database.submissions,
      ObjectId.cast submissionId = some submission.id ∧ submission.studentId = studentId
  | .mark _ _ _ dto => ∃ entry ∈ dto.entries, entry.status = .absent ∧
      notification.data =
        some [("studentId", entry.studentId.text), ("batchId", dto.batchId.text)] ∧
      entry.studentId.id = studentId

end NotifyingOperation

/-- A notification reaches a person: its user is one that the concerned student's document
names, the list that is asked for with that user's identity has it until a hundred newer ones
displace it, and it was handed to the push service for the devices of that user. -/
structure Reaches (ambient : Ambient) (tenantId : String) (database : Database)
    (operation : NotifyingOperation) (handed : List Push) (notification : Notification) :
    Prop where
  addressed : ∃ student ∈ database.students, student.tenantId = tenantId ∧
    operation.Concerns database notification student.id ∧
      (notification.userId = student.userId ∨ student.parentUserId = some notification.userId)
  listed : ∃ user, notification.userId.cast = some user ∧ ∀ earlier later,
    (later.filter (fun other => decide (other.userId = notification.userId))).length < 100 →
      ∃ inbox, NotificationsService.list ambient user.hex
          { database with notifications := earlier ++ notification :: later } = .ok inbox ∧
        notification ∈ inbox
  dispatched : ∀ user ∈ database.users, user.tenantId = tenantId →
    notification.userId.cast = some user.id → ∃ push ∈ handed,
      push.notificationId = notification.id ∧
      push.message = message notification user.fcmTokens ∧
      push.answer = PushService.send operation.pushApp push.message

/-- A notification of a call is for a user whose identity prints as the text that the concerned
student's document holds. -/
def Printed (tenantId : String) (database : Database) (operation : NotifyingOperation)
    (notification : Notification) : Prop :=
  ∃ student ∈ database.students, student.tenantId = tenantId ∧
    operation.Concerns database notification student.id ∧
      ∃ user : ObjectId, operation.addressee student = some (.text user.hex)

/-- The identities of students are no identities of users that students' documents name. -/
def IdsApart (students : List Student) : Prop :=
  ∀ student ∈ students, ∀ other ∈ students,
    other.userId.cast ≠ some student.id ∧ other.parentUserId.bind Reference.cast ≠ some student.id

/-- Whether identities are apart can be tested. -/
instance decidableIdsApart (students : List Student) : Decidable (IdsApart students) :=
  inferInstanceAs (Decidable (∀ student ∈ students, ∀ other ∈ students, _ ∧ _))

/-- What was sent keeps what its input says. -/
theorem sent_facts {input : NotifyInput} {dispatched : Notification × Option Push}
    (sent : Sent ambient tenantId app users input dispatched) :
    dispatched.1.tenantId = tenantId ∧ dispatched.1.userId = input.userId ∧
      dispatched.1.data = input.data := by
  obtain ⟨_, generated, now, rfl⟩ := sent
  obtain ⟨status, sentAt, settled⟩ := dispatch_settles ambient app now users
    (queued tenantId generated input)
  rw [settled]
  exact ⟨rfl, rfl, rfl⟩

/-- A tenant's notification is in the list of the user whose identity prints as its text until a
hundred newer ones displace it. -/
theorem listed_recent (bound : Bound ambient tenantId) {notification : Notification}
    (owned : notification.tenantId = tenantId) {user : ObjectId}
    (printed : notification.userId = .text user.hex) (database : Database)
    (earlier later : List Notification)
    (few : (later.filter (fun other => decide (other.userId = notification.userId))).length < 100) :
    ∃ inbox, NotificationsService.list ambient user.hex
        { database with notifications := earlier ++ notification :: later } = .ok inbox ∧
      notification ∈ inbox := by
  let kept (other : Notification) : Bool := TenantModel.visible (some tenantId) other &&
    decide (other.userId = .text user.hex)
  have shown : kept notification = true := by
    simp [kept, TenantModel.visible, TenantModel.tenantId, owned, printed]
  refine ⟨((earlier ++ notification :: later).filter kept).reverse.take 100, ?_, ?_⟩
  · simp only [NotificationsService.list, TenantModel.find_bound bound]
    rfl
  · have newer : (later.filter kept).length < 100 := by
      refine Nat.lt_of_le_of_lt (List.Sublist.length_le ?_) few
      apply List.monotone_filter_right
      intro other seen
      rw [printed]
      exact (Bool.and_eq_true_iff.mp seen).2
    rw [List.filter_append, List.filter_cons_of_pos shown, List.reverse_append, List.reverse_cons,
      List.append_assoc, List.take_append]
    apply List.mem_append_right
    rw [List.length_reverse]
    obtain ⟨left, split⟩ := Nat.exists_eq_add_of_lt newer
    rw [show 100 - (later.filter kept).length = left + 1 by omega]
    simp

/-- What is in a list is for the text that the list is asked for with. -/
theorem listed_text (bound : Bound ambient tenantId) {userId : String} {database : Database}
    {inbox : List Notification}
    (asked : NotificationsService.list ambient userId database = .ok inbox)
    {notification : Notification} (member : notification ∈ inbox) :
    notification.userId = .text userId := by
  simp only [NotificationsService.list, TenantModel.find_bound bound, Except.ok.injEq] at asked
  rw [← asked] at member
  have kept := (List.mem_filter.mp (List.mem_reverse.mp (List.mem_of_mem_take member))).2
  exact of_decide_eq_true (Bool.and_eq_true_iff.mp kept).2

/-- What was sent to a tenant's user was handed over for the user's devices. -/
theorem sent_dispatched (bound : Bound ambient tenantId)
    (distinct : Records.Distinct User.id users) {input : NotifyInput}
    {dispatched : Notification × Option Push}
    (sent : Sent ambient tenantId app users input dispatched) {user : User} (stored : user ∈ users)
    (owned : user.tenantId = tenantId) (same : dispatched.1.userId.cast = some user.id) :
    ∃ push, dispatched.2 = some push ∧ push.notificationId = dispatched.1.id ∧
      push.message = message dispatched.1 user.fcmTokens ∧
      push.answer = PushService.send app push.message := by
  rw [(sent_facts sent).2.1] at same
  obtain ⟨unset, generated, now, rfl⟩ := sent
  have channel : (queued tenantId generated input).channel = .push := by simp [queued, unset]
  rw [dispatch_bound bound app now distinct stored owned channel same]
  exact ⟨_, rfl, rfl, rfl, rfl⟩

/-- What a call sent about a student whom it concerns reaches a person exactly when it is for the
text that the user's identity prints as. -/
theorem sent_reaches_iff (bound : Bound ambient tenantId) {database : Database}
    (distinct : Records.Distinct User.id database.users) (operation : NotifyingOperation)
    {sent : List (Notification × Option Push)} {dispatched : Notification × Option Push}
    (member : dispatched ∈ sent) {input : NotifyInput}
    (was : Sent ambient tenantId operation.pushApp database.users input dispatched)
    (addressed : ∃ student ∈ database.students, student.tenantId = tenantId ∧
      operation.Concerns database dispatched.1 student.id ∧
        (dispatched.1.userId = student.userId ∨
          student.parentUserId = some dispatched.1.userId)) :
    Reaches ambient tenantId database operation
        (sent.flatMap (fun dispatched => dispatched.2.toList)) dispatched.1 ↔
      ∃ user : ObjectId, input.userId = .text user.hex := by
  have userId := (sent_facts was).2.1
  constructor
  · rintro ⟨_, ⟨user, _, inboxes⟩, _⟩
    obtain ⟨inbox, asked, shown⟩ := inboxes [] [] (by simp)
    exact ⟨user, userId.symm.trans (listed_text bound asked shown)⟩
  · rintro ⟨user, printed⟩
    refine ⟨addressed, ⟨user, ?_, ?_⟩, ?_⟩
    · rw [userId, printed]
      exact ObjectId.cast_hex user
    · exact listed_recent bound (sent_facts was).1 (userId.trans printed) database
    · intro device stored owned same
      obtain ⟨push, handed, facts⟩ := sent_dispatched bound distinct was stored owned same
      exact ⟨push, List.mem_flatMap.mpr ⟨dispatched, member, Option.mem_toList.mpr handed⟩, facts⟩

/-- What a call sends about a student's absence or grade reaches a person exactly when the account
that it addresses is held as the text that the user's identity prints as, and what a capture sends
reaches nobody.

Proof: each added notification is what a dispatch left of the service's input. The list compares
its user with the text that it is asked for with, and the dispatch casts it. -/
theorem notifications_reach_iff (bound : Bound ambient tenantId) {database : Database}
    (distinctUsers : Records.Distinct User.id database.users)
    (distinctStudents : Records.Distinct Student.id database.students)
    (distinctSubmissions : Records.Distinct Submission.id database.submissions)
    (distinctInvoices : Records.Distinct FeeInvoice.id database.invoices)
    (apart : IdsApart database.students) (operation : NotifyingOperation) :
    ∃ created handed,
      (operation.run ambient database).notifications = database.notifications ++ created ∧
      (operation.run ambient database).pushes = database.pushes ++ handed ∧
      ∀ notification ∈ created,
        (Reaches ambient tenantId database operation handed notification ↔
          Printed tenantId database operation notification) := by
  cases operation with
  | capture deployment inputs params =>
    obtain ⟨sent, created, handed, was⟩ := capture_creates bound deployment inputs params database
    refine ⟨_, _, created, handed, ?_⟩
    intro notification member
    obtain ⟨dispatched, listed, rfl⟩ := List.mem_map.mp member
    obtain ⟨_, ⟨named, receiptUrl, ⟨stored, held, sameId, sameStudent⟩, rfl⟩, facts⟩ :=
      was dispatched listed
    refine iff_of_false ?_ (fun ⟨_, _, _, _, _, none_⟩ => by cases none_)
    rintro ⟨⟨student, studentHeld, _, ⟨invoice, invoiceHeld, url, told, about⟩, person⟩, _, _⟩
    obtain ⟨_, userId, data⟩ := sent_facts facts
    -- the data names one stored invoice, so the notification's user is its student's document
    have printed : named.id.hex = invoice.id.hex := by
      have equal := data.symm.trans told
      simp only [FeesService.paidNotification, Option.some.injEq, List.cons.injEq, Prod.mk.injEq,
        true_and] at equal
      exact equal.1
    obtain rfl : stored = invoice := Records.same_record distinctInvoices held invoiceHeld
      (sameId.trans (ObjectId.hex_injective printed))
    have document : dispatched.1.userId = .id student.id :=
      userId.trans (congrArg Reference.id (sameStudent.symm.trans about))
    obtain ⟨notUser, notParent⟩ := apart student studentHeld student studentHeld
    rcases person with user | parent
    · exact notUser (by rw [← user, document, Reference.cast_id])
    · exact notParent (by rw [parent, Option.bind_some, document, Reference.cast_id])
  | grade deployment draw submissionId dto =>
    obtain ⟨sent, created, handed, was⟩ :=
      grade_creates bound deployment draw submissionId dto database
    refine ⟨_, _, created, handed, ?_⟩
    intro notification member
    obtain ⟨dispatched, listed, rfl⟩ := List.mem_map.mp member
    obtain ⟨_, ⟨submission, stored, _, casts, student, held, owned, sameStudent, rfl⟩, facts⟩ :=
      was dispatched listed
    have concerns : (NotifyingOperation.grade deployment draw submissionId dto).Concerns database
        dispatched.1 student.id :=
      ⟨submission, stored, casts, sameStudent.symm⟩
    rw [sent_reaches_iff bound distinctUsers (.grade deployment draw submissionId dto) listed facts
      ⟨student, held, owned, concerns, .inl (sent_facts facts).2.1⟩]
    constructor
    · rintro ⟨user, printed⟩
      exact ⟨student, held, owned, concerns, user, congrArg some printed⟩
    · rintro ⟨other, otherHeld, _, ⟨graded, gradedStored, gradedCasts, about⟩, user, printed⟩
      obtain rfl : graded = submission := Records.same_record distinctSubmissions gradedStored
        stored (Option.some.inj (gradedCasts.symm.trans casts))
      obtain rfl : other = student := Records.same_record distinctStudents otherHeld held
        (about.symm.trans sameStudent.symm)
      exact ⟨user, Option.some.inj printed⟩
  | mark deployment draw markedBy dto =>
    obtain ⟨sent, created, handed, was⟩ := mark_entries_creates deployment markedBy dto.batchId
      (AttendanceService.normalizeDate dto.date.instant) bound dto.entries draw 0 database
    refine ⟨_, _, created, handed, ?_⟩
    intro notification member
    obtain ⟨dispatched, listed, rfl⟩ := List.mem_map.mp member
    obtain ⟨_, ⟨entry, posted, absent, student, held, owned, sameStudent, rfl⟩, facts⟩ :=
      was dispatched listed
    obtain ⟨_, userId, data⟩ := sent_facts facts
    have concerns : (NotifyingOperation.mark deployment draw markedBy dto).Concerns database
        dispatched.1 student.id :=
      ⟨entry, posted, absent, data, sameStudent.symm⟩
    have person : dispatched.1.userId = student.userId ∨
        student.parentUserId = some dispatched.1.userId := by
      rw [userId]
      change AttendanceService.notifyUser student = student.userId ∨
        student.parentUserId = some (AttendanceService.notifyUser student)
      unfold AttendanceService.notifyUser
      cases student.parentUserId with
      | none => exact .inl rfl
      | some parentUserId => exact .inr rfl
    rw [sent_reaches_iff bound distinctUsers (.mark deployment draw markedBy dto) listed facts
      ⟨student, held, owned, concerns, person⟩]
    constructor
    · rintro ⟨user, printed⟩
      exact ⟨student, held, owned, concerns, user, congrArg some printed⟩
    · rintro ⟨other, otherHeld, _, ⟨told, _, _, toldData, about⟩, user, printed⟩
      -- the data names the entry's student by its text
      have text : told.studentId.text = entry.studentId.text := by
        have equal := toldData.symm.trans data
        simp only [AttendanceService.absenceNotification, Option.some.injEq, List.cons.injEq,
          Prod.mk.injEq, true_and] at equal
        exact equal.1
      have same : told.studentId.id = entry.studentId.id := by
        have casts := told.studentId.casts
        rw [text, entry.studentId.casts] at casts
        exact (Option.some.inj casts).symm
      obtain rfl : other = student := Records.same_record distinctStudents otherHeld held
        (about.symm.trans (same.trans sameStudent.symm))
      exact ⟨user, Option.some.inj printed⟩

/-- The institute's student, with a user and a parent. -/
def paidStudent : Student :=
  { id := .repeated '2', tenantId := "institute-a", userId := .text (ObjectId.repeated '5').hex
    parentUserId := some (.text (ObjectId.repeated '6').hex), rollNo := some "1" }

/-- An order of that student's invoice. -/
def studentOrder : Database := { CaptureRaces.openOrder with students := [paidStudent] }

/-- The capture of the order. -/
def orderCapture : NotifyingOperation :=
  .capture CaptureRaces.stubDeployment (fun _ => { now := 1, notification := .repeated '9' })
    { gatewayOrderId := "order_1", gatewayPaymentId := "pay_1", amount := some 1000 }

/-- A class whose student has a parent with a device; the parent was posted as a text. -/
def parentsClass (parent : String) : Database :=
  { students := [{ paidStudent with parentUserId := some (.text parent) }]
    users := [{ id := .repeated 'e', tenantId := "institute-a", role := .parent, name := "Ravi",
                email := "ravi@a.test", fcmTokens := ["phone"], status := .active }] }

/-- A marking of that student as absent, with a provider that reaches every device. -/
def absenceMarking : NotifyingOperation :=
  .mark { AttendanceService.quietDeployment with push := some (fun _ => .ok 1) }
    (AttendanceService.numberedDraws none) (.repeated '1') AttendanceService.withdrawnAbsence

/-- The confirmation of a payment is addressed to the student's document, and the lists of the
student and of the parent stay empty. So does the list of a parent who was posted in capitals. -/
theorem confirmation_reaches_nobody :
    (orderCapture.run AttendanceService.classContext studentOrder).notifications.map
        Notification.userId = [.id paidStudent.id] ∧
      NotificationsService.list AttendanceService.classContext (ObjectId.repeated '5').hex
        (orderCapture.run AttendanceService.classContext studentOrder) = .ok [] ∧
      NotificationsService.list AttendanceService.classContext (ObjectId.repeated '6').hex
        (orderCapture.run AttendanceService.classContext studentOrder) = .ok [] ∧
      (∀ handed, ∀ notification ∈
          (orderCapture.run AttendanceService.classContext studentOrder).notifications,
        ¬ Reaches AttendanceService.classContext "institute-a" studentOrder orderCapture handed
          notification) ∧
      NotificationsService.list AttendanceService.classContext (ObjectId.repeated 'e').hex
        (absenceMarking.run AttendanceService.classContext
          (parentsClass "EEEEEEEEEEEEEEEEEEEEEEEE")) = .ok [] := by
  have users : (orderCapture.run AttendanceService.classContext studentOrder).notifications.map
      Notification.userId = [.id paidStudent.id] := by
    decide +kernel
  refine ⟨users, by decide +kernel, by decide +kernel, ?_, by decide +kernel⟩
  rintro handed notification member ⟨⟨student, held, _, _, person⟩, _, _⟩
  have userId : notification.userId ∈ [Reference.id paidStudent.id] :=
    users ▸ List.mem_map_of_mem member
  rw [List.mem_singleton.mp userId, List.mem_singleton.mp held] at person
  exact absurd person (by decide +kernel)

/-- The notice of an absence reaches the parent. -/
theorem absence_reaches_parent :
    ∃ created handed,
      (absenceMarking.run AttendanceService.classContext
        (parentsClass (ObjectId.repeated 'e').hex)).notifications = created ∧
      created.map Notification.userId = [.text (ObjectId.repeated 'e').hex] ∧
      handed.map (fun push => (push.message.tokens, push.answer)) = [(["phone"], .reached 1)] ∧
      ∀ notification ∈ created,
        Reaches AttendanceService.classContext "institute-a"
          (parentsClass (ObjectId.repeated 'e').hex) absenceMarking handed notification := by
  let parents := parentsClass (ObjectId.repeated 'e').hex
  have users : Records.Distinct User.id parents.users := by decide +kernel
  have students : Records.Distinct Student.id parents.students := by decide +kernel
  have submissions : Records.Distinct Submission.id parents.submissions := by decide +kernel
  have invoices : Records.Distinct FeeInvoice.id parents.invoices := by decide +kernel
  have apart : IdsApart parents.students := by decide +kernel
  have bound : Bound AttendanceService.classContext "institute-a" :=
    bound_run "institute-a" (by decide)
  obtain ⟨created, handed, same, pushes, reach⟩ := notifications_reach_iff bound users students
    submissions invoices apart absenceMarking
  have pushed : (absenceMarking.run AttendanceService.classContext parents).pushes.map
      (fun push => (push.message.tokens, push.answer)) = [(["phone"], .reached 1)] := by
    decide +kernel
  have told : ∀ notification ∈
      (absenceMarking.run AttendanceService.classContext parents).notifications,
      notification.data = some [("studentId", (ObjectId.repeated '2').hex),
        ("batchId", (ObjectId.repeated '4').hex)] := by
    decide +kernel
  refine ⟨created, handed, same, ?_, ?_, fun notification member => (reach notification member).mpr
    ⟨_, List.mem_singleton_self _, rfl, ⟨_, List.mem_cons_self, rfl, ?_, rfl⟩, .repeated 'e', rfl⟩⟩
  · rw [show created = _ from same.symm]
    decide +kernel
  · rw [show handed = _ from pushes.symm]
    exact pushed
  · exact told notification (by rw [same]; exact List.mem_append_right _ member)

end Addressees

end CoachingApi
