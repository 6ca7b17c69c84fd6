import CoachingApi.Auth.TenantAuthService
import CoachingApi.Batches.BatchesService
import CoachingApi.Students.StudentsService

/-!
# What an enrolment counts

An enrolment inserts a batch's identity. A student is in a batch when something it holds denotes
it, be it the identity or a text that was posted for it, beside which the identity is inserted. The
number in the answer is that of the students an update changed, and the time of update is part of
what is changed: a listed student that holds the identity already is counted unless it was last
updated in the very millisecond of the enrolment.
-/

namespace CoachingApi

open TenantContextStore TenantPlugin BatchesService BulkUpdates

namespace Enrolment

/-- A reference denotes a batch. -/
def denotes (batchId : ObjectId) (reference : Reference) : Bool :=
  decide (reference.cast = some batchId)

/-- A student is in a batch: something it holds denotes it. -/
def inBatch (batchId : ObjectId) (student : Student) : Bool :=
  (student.batchIds.getD []).any (denotes batchId)

/-- A listed student that an enrolment at a time leaves as it should: it has a list of batches,
and if it is in the batch, it holds the batch's identity and was last updated at that time. -/
def Settled (batchId : ObjectId) (now : Int) (student : Student) : Prop :=
  student.batchIds.isSome = true ∧
    (inBatch batchId student = true →
      student.holds (.id batchId) = true ∧ student.updatedAt = now)

/-- Whether a student is left as it should be can be tested. -/
instance decidableSettled (batchId : ObjectId) (now : Int) (student : Student) :
    Decidable (Settled batchId now student) :=
  inferInstanceAs (Decidable (_ ∧ (_ → _)))

section Students

variable {tenant : String} {batchId : ObjectId} {dto : EnrollDto} {students : List Student}

end Students

end Enrolment

end CoachingApi
