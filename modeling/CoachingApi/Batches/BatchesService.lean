import CoachingApi.Common.Queries
import CoachingApi.Common.ValidationPipe
import CoachingApi.Schemas.Fees

/-!
# Batches and enrolment

Batches are created, changed, listed and deleted by their institute; a change runs no
validators, and a deletion leaves the students' sets of batches as they are. A student's
batches are a set held with the student. Enrolling inserts the batch into the sets of the
students listed, in one update of many, to which the schema's timestamps add the time of
update. What is inserted is the batch's identity, which a text that was posted for it is not.
-/

namespace CoachingApi

open TenantContextStore TenantPlugin

/-- The body of an enrolment. -/
structure EnrollDto where
  studentIds : List MongoId
  deriving DecidableEq

/-- The body of a batch's creation. -/
structure CreateBatchDto where
  name : String
  subject : String
  academicYear : String
  teacherIds : OptionalValue (List PostedId) := .omitted
  schedule : OptionalValue (List ScheduleSlot) := .omitted

/-- The body of a change of a batch. -/
structure UpdateBatchDto where
  name : OptionalValue String := .omitted
  subject : OptionalValue String := .omitted
  teacherIds : OptionalValue (List PostedId) := .omitted
  schedule : OptionalValue (List ScheduleSlot) := .omitted

namespace BatchesService

/-- `list`, the newest first. Creation times are taken to grow with the order of creation. -/
def list (ambient : Ambient) (database : Database) : Except Thrown (List Batch) :=
  (TenantModel.find ambient (fun _ => true) database.batches).map List.reverse

/-- `get`. -/
def get (ambient : Ambient) (id : String) (database : Database) : Except Thrown Batch :=
  match TenantModel.findByText ambient id database.batches with
  | .error thrown => .error thrown
  | .ok none => .error (.notFound "Batch not found")
  | .ok (some batch) => .ok batch

/-- The batch that a body asks for. -/
def createdBatch (generated : ObjectId) (dto : CreateBatchDto) : Batch :=
  { id := generated, name := some dto.name, subject := some dto.subject,
    teacherIds := dto.teacherIds.update (fun given => given.map PostedId.reference) (some []),
    schedule := dto.schedule.update (fun given => given) (some []),
    academicYear := dto.academicYear }

/-- `create`. -/
def create (ambient : Ambient) (generated : ObjectId) (dto : CreateBatchDto)
    (database : Database) : Database × Except Thrown Batch :=
  match TenantModel.create ambient (createdBatch generated dto) database.batches with
  | .error thrown => (database, .error thrown)
  | .ok (batch, batches) => ({ database with batches := batches }, .ok batch)

/-- The change that a body asks for. -/
def changeBatch (dto : UpdateBatchDto) (batch : Batch) : Batch :=
  { batch with
    name := dto.name.update (fun given => given) batch.name
    subject := dto.subject.update (fun given => given) batch.subject
    teacherIds := dto.teacherIds.update (fun given => given.map PostedId.reference) batch.teacherIds
    schedule := dto.schedule.update (fun given => given) batch.schedule }

/-- `update`. -/
def update (ambient : Ambient) (id : String) (dto : UpdateBatchDto) (database : Database) :
    Database × Except Thrown Batch :=
  match TenantModel.findByTextAndUpdate ambient id (changeBatch dto) database.batches with
  | .error thrown => (database, .error thrown)
  | .ok (none, _) => (database, .error (.notFound "Batch not found"))
  | .ok (some batch, batches) => ({ database with batches := batches }, .ok batch)

/-- `remove`. -/
def remove (ambient : Ambient) (id : String) (database : Database) :
    Database × Except Thrown Unit :=
  match TenantModel.deleteByText ambient id database.batches with
  | .error thrown => (database, .error thrown)
  | .ok (false, _) => (database, .error (.notFound "Batch not found"))
  | .ok (true, batches) => ({ database with batches := batches }, .ok ())

/-- A student with an id in the list. -/
def listed (dto : EnrollDto) (student : Student) : Bool :=
  dto.studentIds.any (fun studentId => decide (studentId.id = student.id))

/-- `$addToSet` of the batch's identity, with the time of update. -/
def enrolledIn (now : Int) (batchId : ObjectId) (student : Student) : Student :=
  { student with
    batchIds := some (BulkUpdates.addToSet (.id batchId) (student.batchIds.getD []))
    updatedAt := now }

/-- `$addToSet` is refused where there is no list to add to. -/
def enrolmentRefusal (student : Student) : Option Thrown :=
  match student.batchIds with
  | some _ => none
  | none => some .storage

/-- `enroll`: the number of students that the update changed. -/
def enroll (ambient : Ambient) (reached : ObjectId → Bool) (now : Int) (batchId : String)
    (dto : EnrollDto) (database : Database) : Database × Except Thrown Nat :=
  match TenantModel.findByText ambient batchId database.batches with
  | .error thrown => (database, .error thrown)
  | .ok none => (database, .error (.notFound "Batch not found"))
  | .ok (some batch) =>
    match TenantModel.updateMany ambient (listed dto) enrolmentRefusal reached
        (enrolledIn now batch.id) database.students with
    | .error thrown => (database, .error thrown)
    | .ok (enrolled, students) => ({ database with students := students }, enrolled)

/-- A student of a tenant with an id in the list. -/
def named (tenant : String) (dto : EnrollDto) (student : Student) : Bool :=
  decide (student.tenantId = tenant) && listed dto student

/-- All students that are named have a list of batches. -/
def allListed (tenant : String) (dto : EnrollDto) (students : List Student) : Bool :=
  students.all (fun student => !named tenant dto student || student.batchIds.isSome)

/-- The students that an enrolment updates: those named, or some of them where one that is named
has no list of batches. -/
def updates (tenant : String) (dto : EnrollDto) (reached : ObjectId → Bool)
    (students : List Student) (student : Student) : Bool :=
  named tenant dto student &&
    (allListed tenant dto students || (reached student.id && student.batchIds.isSome))

/-- An enrolment is refused when a named student has no list of batches. -/
theorem refusal_found (tenant : String) (dto : EnrollDto) (students : List Student) :
    (students.filter (named tenant dto)).findSome? enrolmentRefusal =
      if allListed tenant dto students then none else some .storage := by
  unfold allListed
  induction students with
  | nil => rfl
  | cons student rest inductionHypothesis =>
    cases included : named tenant dto student with
    | false => simp [included, inductionHypothesis]
    | true =>
      cases held : student.batchIds with
      | none => simp [included, held, enrolmentRefusal]
      | some batchIds => simp [included, held, enrolmentRefusal, inductionHypothesis]

/-- An enrolment into a batch of the tenant updates students that are named. Unless one of them
has no list of batches it answers with the number of those that come out different. -/
theorem enroll_bound {ambient : Ambient} {tenant : String} (bound : Bound ambient tenant)
    (reached : ObjectId → Bool) (now : Int) {batchId : String} (dto : EnrollDto)
    {database : Database} {batch : Batch}
    (found : TenantModel.findByText ambient batchId database.batches = .ok (some batch)) :
    enroll ambient reached now batchId dto database =
      ({ database with
          students := BulkUpdates.changeAll (updates tenant dto reached database.students)
            (enrolledIn now batch.id) database.students },
        if allListed tenant dto database.students then
          .ok (BulkUpdates.changedCount (named tenant dto) (enrolledIn now batch.id)
            database.students)
        else .error .storage) := by
  have selected : (fun student : Student =>
      decide (TenantModel.tenantId student = tenant) && listed dto student) = named tenant dto := rfl
  have accepts (student : Student) :
      (enrolmentRefusal student).isNone = student.batchIds.isSome := by
    cases held : student.batchIds <;> simp [enrolmentRefusal, held]
  simp only [enroll, found, TenantModel.update_many_bound bound, selected, refusal_found]
  cases lists : allListed tenant dto database.students with
  | true =>
    have whole : updates tenant dto reached database.students = named tenant dto := by
      funext student
      simp [updates, lists]
    rw [whole]
    rfl
  | false =>
    have part : updates tenant dto reached database.students = fun student =>
        named tenant dto student && (reached student.id && student.batchIds.isSome) := by
      funext student
      simp [updates, lists]
    rw [part]
    simp only [accepts]
    rfl

/-- After an enrolment the batch's identity is among a student's batches. -/
theorem enrolled_holds (now : Int) (batchId : ObjectId) (student : Student) :
    (enrolledIn now batchId student).holds (.id batchId) = true := by
  simp [enrolledIn, Student.holds, BulkUpdates.mem_add]

end BatchesService

end CoachingApi
