import Mathlib.Algebra.Order.Field.Rat
import CoachingApi.Schemas.Institute

/-!
# Batches, assignments, tests and attendance

A batch and the records of its work and of its class days. A submission, a score and an
attendance record each have a unique index over their tenant and what they are about.
Marks are exact rationals and times are milliseconds; a class day is held as the instant of
its midnight.

A date in a body is held as what its text denotes: the day a date-only text names, or a time
of day with the offset it is written with, which is the server's when the text has none.
-/

namespace CoachingApi

/-- The milliseconds of a day. -/
def dayMilliseconds : Int := 24 * 60 * 60 * 1000

/-- A date that `IsDateString` accepts: a day since the epoch on its own, or with a time of
that day and the minutes its clock is ahead of UTC. -/
inductive DateString where
  | dateOnly (day : Int)
  | timestamp (day : Int) (time : Fin 86400000) (offset : Int)
  deriving DecidableEq

/-- The instant that `new Date` makes of a date: a date on its own is midnight in UTC. -/
def DateString.instant : DateString → Int
  | .dateOnly day => day * dayMilliseconds
  | .timestamp day time offset => day * dayMilliseconds + time - offset * 60000

/-- A time of the week at which a batch meets. -/
structure ScheduleSlot where
  day : String
  startTime : String
  endTime : String
  deriving DecidableEq

/-- A class of students. Which students are in it is held with the students. An update can store
null for its name, subject, teachers and schedule. -/
structure Batch where
  id : ObjectId
  tenantId : String := ""
  name : Option String
  subject : Option String
  teacherIds : Option (List Reference) := some []
  schedule : Option (List ScheduleSlot) := some []
  academicYear : String
  deriving DecidableEq

instance : TenantModel Batch where
  modelName := "Batch"
  id := Batch.id
  tenantId := Batch.tenantId
  withTenantId := fun tenant batch => { batch with tenantId := tenant }
  clashes := fun _ _ => false
  refusedPath := fun batch =>
    firstRefused [(batch.name.getD "" = "", "name"), (batch.subject.getD "" = "", "subject"),
      ((batch.schedule.getD []).any (fun slot => slot.day = ""), "schedule.day"),
      ((batch.schedule.getD []).any (fun slot => slot.startTime = ""), "schedule.startTime"),
      ((batch.schedule.getD []).any (fun slot => slot.endTime = ""), "schedule.endTime"),
      (batch.academicYear = "", "academicYear")]
  writeBack := fun loaded current stored =>
    { stored with
      tenantId := written loaded.tenantId current.tenantId stored.tenantId
      name := written loaded.name current.name stored.name
      subject := written loaded.subject current.subject stored.subject
      teacherIds := written loaded.teacherIds current.teacherIds stored.teacherIds
      schedule := written loaded.schedule current.schedule stored.schedule
      academicYear := written loaded.academicYear current.academicYear stored.academicYear }
  with_tenant_id := fun _ _ => rfl
  with_tenant_same := fun _ => rfl
  with_tenant_keeps := fun _ _ => rfl
  write_back_keeps := fun _ _ _ => rfl

/-- Work set for a batch. -/
structure Assignment where
  id : ObjectId
  tenantId : String := ""
  batchId : ObjectId
  title : String
  description : Option String := none
  attachmentUrl : Option String := none
  dueDate : Int
  createdBy : ObjectId
  deriving DecidableEq

instance : TenantModel Assignment where
  modelName := "Assignment"
  id := Assignment.id
  tenantId := Assignment.tenantId
  withTenantId := fun tenant assignment => { assignment with tenantId := tenant }
  clashes := fun _ _ => false
  refusedPath := fun assignment => firstRefused [(assignment.title = "", "title")]
  writeBack := fun loaded current stored =>
    { stored with
      tenantId := written loaded.tenantId current.tenantId stored.tenantId
      batchId := written loaded.batchId current.batchId stored.batchId
      title := written loaded.title current.title stored.title
      description := written loaded.description current.description stored.description
      attachmentUrl := written loaded.attachmentUrl current.attachmentUrl stored.attachmentUrl
      dueDate := written loaded.dueDate current.dueDate stored.dueDate
      createdBy := written loaded.createdBy current.createdBy stored.createdBy }
  with_tenant_id := fun _ _ => rfl
  with_tenant_same := fun _ => rfl
  with_tenant_keeps := fun _ _ => rfl
  write_back_keeps := fun _ _ _ => rfl

/-- What a student handed in for an assignment, and how it was graded. -/
structure Submission where
  id : ObjectId
  tenantId : String := ""
  assignmentId : ObjectId
  studentId : ObjectId
  fileUrl : String
  submittedAt : Int
  grade : Option String := none
  feedback : Option String := none
  deriving DecidableEq

instance : TenantModel Submission where
  modelName := "Submission"
  id := Submission.id
  tenantId := Submission.tenantId
  withTenantId := fun tenant submission => { submission with tenantId := tenant }
  clashes := fun stored candidate =>
    decide (stored.tenantId = candidate.tenantId ∧ stored.assignmentId = candidate.assignmentId ∧
      stored.studentId = candidate.studentId)
  refusedPath := fun submission => firstRefused [(submission.fileUrl = "", "fileUrl")]
  writeBack := fun loaded current stored =>
    { stored with
      tenantId := written loaded.tenantId current.tenantId stored.tenantId
      assignmentId := written loaded.assignmentId current.assignmentId stored.assignmentId
      studentId := written loaded.studentId current.studentId stored.studentId
      fileUrl := written loaded.fileUrl current.fileUrl stored.fileUrl
      submittedAt := written loaded.submittedAt current.submittedAt stored.submittedAt
      grade := written loaded.grade current.grade stored.grade
      feedback := written loaded.feedback current.feedback stored.feedback }
  with_tenant_id := fun _ _ => rfl
  with_tenant_same := fun _ => rfl
  with_tenant_keeps := fun _ _ => rfl
  write_back_keeps := fun _ _ _ => rfl

/-- A test of a batch. -/
structure Test where
  id : ObjectId
  tenantId : String := ""
  batchId : ObjectId
  title : String
  maxMarks : ℚ
  date : Int
  deriving DecidableEq

instance : TenantModel Test where
  modelName := "Test"
  id := Test.id
  tenantId := Test.tenantId
  withTenantId := fun tenant test => { test with tenantId := tenant }
  clashes := fun _ _ => false
  refusedPath := fun test => firstRefused [(test.title = "", "title"), (test.maxMarks < 1, "maxMarks")]
  writeBack := fun loaded current stored =>
    { stored with
      tenantId := written loaded.tenantId current.tenantId stored.tenantId
      batchId := written loaded.batchId current.batchId stored.batchId
      title := written loaded.title current.title stored.title
      maxMarks := written loaded.maxMarks current.maxMarks stored.maxMarks
      date := written loaded.date current.date stored.date }
  with_tenant_id := fun _ _ => rfl
  with_tenant_same := fun _ => rfl
  with_tenant_keeps := fun _ _ => rfl
  write_back_keeps := fun _ _ _ => rfl

/-- A student's marks in a test. -/
structure TestScore where
  id : ObjectId
  tenantId : String := ""
  testId : ObjectId
  studentId : ObjectId
  marks : ℚ
  remarks : Option String := none
  deriving DecidableEq

instance : TenantModel TestScore where
  modelName := "TestScore"
  id := TestScore.id
  tenantId := TestScore.tenantId
  withTenantId := fun tenant score => { score with tenantId := tenant }
  clashes := fun stored candidate =>
    decide (stored.tenantId = candidate.tenantId ∧ stored.testId = candidate.testId ∧
      stored.studentId = candidate.studentId)
  refusedPath := fun score => firstRefused [(score.marks < 0, "marks")]
  writeBack := fun loaded current stored =>
    { stored with
      tenantId := written loaded.tenantId current.tenantId stored.tenantId
      testId := written loaded.testId current.testId stored.testId
      studentId := written loaded.studentId current.studentId stored.studentId
      marks := written loaded.marks current.marks stored.marks
      remarks := written loaded.remarks current.remarks stored.remarks }
  with_tenant_id := fun _ _ => rfl
  with_tenant_same := fun _ => rfl
  with_tenant_keeps := fun _ _ => rfl
  write_back_keeps := fun _ _ _ => rfl

/-- A student's attendance of a batch on a class day. -/
structure Attendance where
  id : ObjectId
  tenantId : String := ""
  studentId : ObjectId
  batchId : ObjectId
  date : Int
  status : AttendanceStatus
  markedBy : Option ObjectId := none
  source : AttendanceSource := .manual
  deriving DecidableEq

instance : TenantModel Attendance where
  modelName := "Attendance"
  id := Attendance.id
  tenantId := Attendance.tenantId
  withTenantId := fun tenant attendance => { attendance with tenantId := tenant }
  clashes := fun stored candidate =>
    decide (stored.tenantId = candidate.tenantId ∧ stored.studentId = candidate.studentId ∧
      stored.batchId = candidate.batchId ∧ stored.date = candidate.date)
  refusedPath := fun _ => none
  writeBack := fun loaded current stored =>
    { stored with
      tenantId := written loaded.tenantId current.tenantId stored.tenantId
      studentId := written loaded.studentId current.studentId stored.studentId
      batchId := written loaded.batchId current.batchId stored.batchId
      date := written loaded.date current.date stored.date
      status := written loaded.status current.status stored.status
      markedBy := written loaded.markedBy current.markedBy stored.markedBy
      source := written loaded.source current.source stored.source }
  with_tenant_id := fun _ _ => rfl
  with_tenant_same := fun _ => rfl
  with_tenant_keeps := fun _ _ => rfl
  write_back_keeps := fun _ _ _ => rfl

end CoachingApi
