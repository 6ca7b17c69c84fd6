import CoachingApi.Common.Queries
import CoachingApi.Common.ValidationPipe
import CoachingApi.Schemas.Fees

/-!
# Student profiles

Profiles are created, changed, listed and deleted by their institute. A change runs no
validators, but a roll number that another of the institute's students has is refused by the
index. Deleting a profile deletes nothing that names it. The admission date of a body is
stored and read by nothing, and is left out. References are stored and compared as they were
posted.
-/

namespace CoachingApi

open TenantContextStore TenantPlugin

/-- The body of a student's creation. -/
structure CreateStudentDto where
  userId : PostedId
  parentUserId : Option PostedId := none
  rollNo : String
  batchIds : OptionalValue (List PostedId) := .omitted

/-- The body of a change of a student. -/
structure UpdateStudentDto where
  parentUserId : OptionalValue PostedId := .omitted
  rollNo : OptionalValue String := .omitted
  batchIds : OptionalValue (List PostedId) := .omitted

namespace StudentsService

/-- The order of roll numbers, null ones first. -/
def rollNoBefore (first second : Option String) : Bool :=
  match first, second with
  | none, _ => true
  | some _, none => false
  | some one, some two => decide (one ≤ two)

/-- `list`, by roll number. -/
def list (ambient : Ambient) (database : Database) : Except Thrown (List Student) :=
  (TenantModel.find ambient (fun _ => true) database.students).map
    (fun students => students.mergeSort (fun first second => rollNoBefore first.rollNo second.rollNo))

/-- `get`. -/
def get (ambient : Ambient) (id : String) (database : Database) : Except Thrown Student :=
  match TenantModel.findByText ambient id database.students with
  | .error thrown => .error thrown
  | .ok none => .error (.notFound "Student not found")
  | .ok (some student) => .ok student

/-- The profile that a body asks for. -/
def createdStudent (generated : ObjectId) (now : Int) (dto : CreateStudentDto) : Student :=
  { id := generated, tenantId := "", userId := dto.userId.reference,
    parentUserId := dto.parentUserId.map PostedId.reference,
    batchIds := dto.batchIds.update (fun given => given.map PostedId.reference) (some []),
    rollNo := some dto.rollNo, updatedAt := now }

/-- `create`. -/
def create (ambient : Ambient) (generated : ObjectId) (now : Int) (dto : CreateStudentDto)
    (database : Database) : Database × Except Thrown Student :=
  match TenantModel.create ambient (createdStudent generated now dto) database.students with
  | .error thrown => (database, .error thrown)
  | .ok (student, students) => ({ database with students := students }, .ok student)

/-- The change that a body asks for, with the time of update. -/
def changeStudent (now : Int) (dto : UpdateStudentDto) (student : Student) : Student :=
  { student with
    parentUserId := dto.parentUserId.update PostedId.reference student.parentUserId
    rollNo := dto.rollNo.update (fun given => given) student.rollNo
    batchIds := dto.batchIds.update (fun given => given.map PostedId.reference) student.batchIds
    updatedAt := now }

/-- `update`. -/
def update (ambient : Ambient) (now : Int) (id : String) (dto : UpdateStudentDto)
    (database : Database) : Database × Except Thrown Student :=
  match TenantModel.findByTextAndRekey ambient id (changeStudent now dto) database.students with
  | .error thrown => (database, .error thrown)
  | .ok (none, _) => (database, .error (.notFound "Student not found"))
  | .ok (some student, students) => ({ database with students := students }, .ok student)

/-- `remove`. -/
def remove (ambient : Ambient) (id : String) (database : Database) :
    Database × Except Thrown Unit :=
  match TenantModel.deleteByText ambient id database.students with
  | .error thrown => (database, .error thrown)
  | .ok (false, _) => (database, .error (.notFound "Student not found"))
  | .ok (true, students) => ({ database with students := students }, .ok ())

/-- `listByBatch`: the filter compares its text with what the students hold. -/
def listByBatch (ambient : Ambient) (batchId : String) (database : Database) :
    Except Thrown (List Student) :=
  TenantModel.find ambient (fun student => student.holds (.text batchId)) database.students

end StudentsService

end CoachingApi
