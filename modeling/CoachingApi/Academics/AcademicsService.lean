import CoachingApi.Common.Queries
import CoachingApi.Common.ValidationPipe
import CoachingApi.Notifications.NotificationsService

/-!
# Assignments, submissions, tests and scores

A submission and a score are upserted by what they are about, and a grade is an update of a
submission by its identity. Updates in place run no validators. A key whose value is
undefined is dropped from an update, and a stored null reads like an absent value. Each of
the awaited operations may fail, which ends the call; what was stored before stays stored.
-/

namespace CoachingApi

open TenantContextStore TenantPlugin

/-- An optional text of a body: `IsOptional` lets it be omitted or null. -/
inductive OptionalText where
  | omitted
  | null
  | text (value : String)
  deriving DecidableEq

/-- The value that a body gives. -/
def OptionalText.given : OptionalText → Option String
  | .omitted => none
  | .null => none
  | .text value => some value

/-- What an update with the key leaves of a stored value. -/
def OptionalText.update (stored : Option String) : OptionalText → Option String
  | .omitted => stored
  | .null => none
  | .text value => some value

/-- The body of an assignment's creation. -/
structure CreateAssignmentDto where
  batchId : MongoId
  title : String
  description : OptionalText := .omitted
  attachmentUrl : OptionalText := .omitted
  dueDate : DateString

/-- The body of a submission. -/
structure SubmitAssignmentDto where
  studentId : MongoId
  fileUrl : String

/-- The body of a grading. -/
structure GradeSubmissionDto where
  grade : String
  feedback : OptionalText := .omitted

/-- The body of a test's creation. -/
structure CreateTestDto where
  batchId : MongoId
  title : String
  maxMarks : Int
  date : DateString

/-- The body of a score. -/
structure RecordScoreDto where
  studentId : MongoId
  marks : ℚ
  remarks : OptionalText := .omitted

/-- What the outside has of the service: the push client and how the runtime prints a
number. -/
structure AcademicsDeployment where
  push : PushApp
  numberToString : ℚ → String

/-- The awaited operations of a call: the lookup of what it is about, its write, and those of
a notification. -/
inductive AcademicsPoint where
  | lookup | write | student | notification
  deriving DecidableEq

/-- What a call draws: the identities of the record and of the notification it may create,
the clock, and which awaited operation fails, if one does. -/
structure AcademicsDraw where
  recordId : ObjectId
  notificationId : ObjectId
  now : Int
  failing : Option AcademicsPoint := none

namespace AcademicsService

/-- `listAssignments`, by due date, the latest first. -/
def listAssignments (ambient : Ambient) (batchId : Option String) (database : Database) :
    Except Thrown (List Assignment) :=
  match queryId batchId with
  | .error thrown => .error thrown
  | .ok target =>
    (TenantModel.find ambient
      (fun assignment => decide (∀ id ∈ target, assignment.batchId = id)) database.assignments).map
        (fun assignments => assignments.mergeSort (fun first second =>
          decide (second.dueDate ≤ first.dueDate)))

/-- `listSubmissions`. -/
def listSubmissions (ambient : Ambient) (assignmentId : String) (database : Database) :
    Except Thrown (List Submission) :=
  match newObjectId assignmentId with
  | .error thrown => .error thrown
  | .ok target =>
    TenantModel.find ambient (fun submission => decide (submission.assignmentId = target))
      database.submissions

/-- `listTests`, by date, the latest first. -/
def listTests (ambient : Ambient) (batchId : Option String) (database : Database) :
    Except Thrown (List Test) :=
  match queryId batchId with
  | .error thrown => .error thrown
  | .ok target =>
    (TenantModel.find ambient
      (fun test => decide (∀ id ∈ target, test.batchId = id)) database.tests).map
        (fun tests => tests.mergeSort (fun first second => decide (second.date ≤ first.date)))

/-- `listScores`. -/
def listScores (ambient : Ambient) (testId : String) (database : Database) :
    Except Thrown (List TestScore) :=
  match newObjectId testId with
  | .error thrown => .error thrown
  | .ok target =>
    TenantModel.find ambient (fun score => decide (score.testId = target)) database.scores

/-- `createAssignment`. -/
def createAssignment (ambient : Ambient) (draw : AcademicsDraw) (createdBy : ObjectId)
    (dto : CreateAssignmentDto) (database : Database) : Database × Except Thrown Assignment :=
  if draw.failing = some .write then (database, .error .storage)
  else
    match TenantModel.create ambient
        { id := draw.recordId, batchId := dto.batchId.id, title := dto.title,
          description := dto.description.given, attachmentUrl := dto.attachmentUrl.given,
          dueDate := dto.dueDate.instant, createdBy := createdBy : Assignment }
        database.assignments with
    | .error thrown => (database, .error thrown)
    | .ok (assignment, assignments) =>
      ({ database with assignments := assignments }, .ok assignment)

/-- A resubmission replaces the file and clears the grading. -/
def resubmit (fileUrl : String) (submittedAt : Int) (submission : Submission) : Submission :=
  { submission with fileUrl := fileUrl, submittedAt := submittedAt, grade := none,
                    feedback := none }

/-- Upsert the submission of a student for an assignment. -/
def upsertSubmission (ambient : Ambient) (draw : AcademicsDraw) (assignmentId : ObjectId)
    (dto : SubmitAssignmentDto) (submissions : List Submission) :
    Except Thrown (Submission × List Submission) :=
  TenantModel.upsertOne ambient
    (fun submission => decide (submission.assignmentId = assignmentId ∧
      submission.studentId = dto.studentId.id))
    (resubmit dto.fileUrl draw.now)
    { id := draw.recordId, assignmentId := assignmentId, studentId := dto.studentId.id,
      fileUrl := dto.fileUrl, submittedAt := draw.now }
    submissions

/-- `submit`. -/
def submit (ambient : Ambient) (draw : AcademicsDraw) (assignmentId : String)
    (dto : SubmitAssignmentDto) (database : Database) : Database × Except Thrown Submission :=
  if draw.failing = some .lookup then (database, .error .storage)
  else
    match TenantModel.findByText ambient assignmentId database.assignments with
    | .error thrown => (database, .error thrown)
    | .ok none => (database, .error (.notFound "Assignment not found"))
    | .ok (some assignment) =>
      if draw.failing = some .write then (database, .error .storage)
      else
        match upsertSubmission ambient draw assignment.id dto database.submissions with
        | .error thrown => (database, .error thrown)
        | .ok (submission, submissions) =>
          ({ database with submissions := submissions }, .ok submission)

/-- The update of a graded submission. -/
def gradeSubmission (dto : GradeSubmissionDto) (submission : Submission) : Submission :=
  { submission with grade := some dto.grade
                    feedback := dto.feedback.update submission.feedback }

/-- The notice of a grade. -/
def gradedNotification (userId : Reference) (submissionId : String) (dto : GradeSubmissionDto) :
    NotifyInput :=
  { userId := userId
    type := "graded"
    title := "Assignment graded"
    body := s!"Your submission was graded: {dto.grade}."
    data := some [("submissionId", submissionId)] }

/-- What follows the update of a submission. -/
def notifyGraded (deployment : AcademicsDeployment) (ambient : Ambient) (draw : AcademicsDraw)
    (submissionId : String) (dto : GradeSubmissionDto) (submission : Submission)
    (database : Database) : Database × Except Thrown Submission :=
  if draw.failing = some .student then (database, .error .storage)
  else
    match TenantModel.findById ambient submission.studentId database.students with
    | .error thrown => (database, .error thrown)
    | .ok none => (database, .ok submission)
    | .ok (some student) =>
      if draw.failing = some .notification then (database, .error .storage)
      else
        let outcome := NotificationsService.notify ambient deployment.push draw.notificationId
          draw.now (gradedNotification student.userId submissionId dto) database
        (outcome.1, outcome.2.map (fun _ => submission))

/-- `grade`. -/
def grade (deployment : AcademicsDeployment) (ambient : Ambient) (draw : AcademicsDraw)
    (submissionId : String) (dto : GradeSubmissionDto) (database : Database) :
    Database × Except Thrown Submission :=
  if draw.failing = some .write then (database, .error .storage)
  else
    match TenantModel.findByTextAndUpdate ambient submissionId (gradeSubmission dto)
        database.submissions with
    | .error thrown => (database, .error thrown)
    | .ok (none, _) => (database, .error (.notFound "Submission not found"))
    | .ok (some submission, submissions) =>
      notifyGraded deployment ambient draw submissionId dto submission
        { database with submissions := submissions }

/-- `createTest`. -/
def createTest (ambient : Ambient) (draw : AcademicsDraw) (dto : CreateTestDto)
    (database : Database) : Database × Except Thrown Test :=
  if draw.failing = some .write then (database, .error .storage)
  else
    match TenantModel.create ambient
        { id := draw.recordId, batchId := dto.batchId.id, title := dto.title,
          maxMarks := dto.maxMarks, date := dto.date.instant : Test }
        database.tests with
    | .error thrown => (database, .error thrown)
    | .ok (test, tests) => ({ database with tests := tests }, .ok test)

/-- The update of a score that is there. -/
def rescore (dto : RecordScoreDto) (score : TestScore) : TestScore :=
  { score with marks := dto.marks, remarks := dto.remarks.update score.remarks }

/-- Upsert the score of a student in a test. -/
def upsertScore (ambient : Ambient) (draw : AcademicsDraw) (testId : ObjectId)
    (dto : RecordScoreDto) (scores : List TestScore) :
    Except Thrown (TestScore × List TestScore) :=
  TenantModel.upsertOne ambient
    (fun score => decide (score.testId = testId ∧ score.studentId = dto.studentId.id))
    (rescore dto)
    { id := draw.recordId, testId := testId, studentId := dto.studentId.id, marks := dto.marks,
      remarks := dto.remarks.given }
    scores

/-- `recordScore`. -/
def recordScore (deployment : AcademicsDeployment) (ambient : Ambient) (draw : AcademicsDraw)
    (testId : String) (dto : RecordScoreDto) (database : Database) :
    Database × Except Thrown TestScore :=
  if draw.failing = some .lookup then (database, .error .storage)
  else
    match TenantModel.findByText ambient testId database.tests with
    | .error thrown => (database, .error thrown)
    | .ok none => (database, .error (.notFound "Test not found"))
    | .ok (some test) =>
      if test.maxMarks < dto.marks then
        (database, .error (.badRequest
          s!"marks cannot exceed maxMarks ({deployment.numberToString test.maxMarks})"))
      else if draw.failing = some .write then (database, .error .storage)
      else
        match upsertScore ambient draw test.id dto database.scores with
        | .error thrown => (database, .error thrown)
        | .ok (score, scores) => ({ database with scores := scores }, .ok score)

end AcademicsService

end CoachingApi
