import CoachingApi.Academics.AcademicsService
import CoachingApi.Auth.JwtStrategies
import CoachingApi.Auth.TenantAuthService

/-!
# Whose work a student may submit

The guard of a submission looks at the role, and the student it is stored for is the one that
the body names. Stored submissions are indexed by tenant, assignment and student, and a
submission revises the table under that key. So the request keeps to the submissions of the
principal's own student document when the body names it, and else exactly when it changes
nothing at all.
-/

namespace CoachingApi

open TenantContextStore TenantPlugin

namespace AcademicsController

/-- `POST assignments/:id/submit`. -/
def submit (deployment : AuthDeployment) (bearer : Option Jwt) (draw : AcademicsDraw)
    (id : String) (dto : SubmitAssignmentDto) (database : Database) :
    Database × Except Thrown Submission :=
  match TenantAuthGuard.canActivate deployment draw.now [.student] bearer with
  | .error thrown => (database, .error thrown)
  | .ok principal =>
    AcademicsService.submit (TenantAuthService.contextOf (some principal.tenantId)) draw id dto
      database

end AcademicsController

namespace AcademicsService

/-- What the unique index of submissions compares. -/
def submissionKey (submission : Submission) : String × ObjectId × ObjectId :=
  (submission.tenantId, submission.assignmentId, submission.studentId)

/-- The submission that is inserted. -/
def newSubmission (tenantId : String) (draw : AcademicsDraw) (assignmentId : ObjectId)
    (dto : SubmitAssignmentDto) : Submission :=
  { id := draw.recordId, tenantId := tenantId, assignmentId := assignmentId,
    studentId := dto.studentId.id, fileUrl := dto.fileUrl, submittedAt := draw.now }

/-- A submission ends before its write: an awaited operation before it fails, or the tenant has
no such assignment. -/
def Refused (tenantId : String) (draw : AcademicsDraw) (assignmentId : String)
    (database : Database) : Prop :=
  draw.failing = some .lookup ∨ draw.failing = some .write ∨
    ∀ assignment ∈ database.assignments, assignment.tenantId = tenantId →
      ObjectId.cast assignmentId ≠ some assignment.id

variable {ambient : Ambient} {tenantId : String}

/-- The filter of a submission's upsert names its key. -/
theorem submission_named (tenantId : String) (assignmentId studentId : ObjectId)
    (submissions : List Submission) :
    ∀ submission ∈ submissions, (TenantModel.tenantId submission = tenantId ∧
      decide (submission.assignmentId = assignmentId ∧ submission.studentId = studentId) = true) ↔
        submissionKey submission = (tenantId, assignmentId, studentId) := by
  intro submission _
  simp [submissionKey, TenantModel.tenantId]

/-- Under a new identity an upsert of a submission revises the table under its key. -/
theorem upsert_submission_revises (bound : Bound ambient tenantId) {draw : AcademicsDraw}
    (assignmentId : ObjectId) (dto : SubmitAssignmentDto) {submissions : List Submission}
    (indexed : TenantModel.Indexed submissionKey submissions)
    (fresh : ∀ submission ∈ submissions, submission.id ≠ draw.recordId) :
    ∃ stored, upsertSubmission ambient draw assignmentId dto submissions =
      .ok (stored, Revisions.revise submissionKey (tenantId, assignmentId, dto.studentId.id)
        (resubmit dto.fileUrl draw.now) (newSubmission tenantId draw assignmentId dto)
        submissions) := by
  have named := submission_named tenantId assignmentId dto.studentId.id submissions
  let added : Submission := { newSubmission tenantId draw assignmentId dto with tenantId := "" }
  have apart : ∀ submission ∈ submissions, TenantModel.id submission ≠ TenantModel.id added := fresh
  have free : ∀ submission ∈ submissions,
      TenantModel.clashes submission (TenantModel.withTenantId tenantId added) = true →
        submissionKey submission = (tenantId, assignmentId, dto.studentId.id) := by
    intro submission _ clash
    obtain ⟨tenant, assignment, student⟩ := of_decide_eq_true clash
    simp only [submissionKey, tenant, assignment, student]
    rfl
  exact TenantModel.upsert_one_revises bound indexed.ids indexed.keys named apart free

/-- A submission that is answered came to its write and has revised the table under its key. One
that is not has changed nothing: it was refused before, or its new identity is taken. -/
theorem submit_writes (bound : Bound ambient tenantId) (draw : AcademicsDraw)
    (assignmentId : String) (dto : SubmitAssignmentDto) {database : Database}
    (indexed : TenantModel.Indexed submissionKey database.submissions) :
    (∃ thrown, submit ambient draw assignmentId dto database = (database, .error thrown) ∧
        (Refused tenantId draw assignmentId database ∨
          ∃ submission ∈ database.submissions, submission.id = draw.recordId)) ∨
      (¬ Refused tenantId draw assignmentId database ∧ ∃ target stored submissions,
        ObjectId.cast assignmentId = some target ∧
        submit ambient draw assignmentId dto database =
          ({ database with submissions := submissions }, .ok stored) ∧
        submissions = Revisions.revise submissionKey (tenantId, target, dto.studentId.id)
          (resubmit dto.fileUrl draw.now) (newSubmission tenantId draw target dto)
          database.submissions ∧
        Records.Distinct Submission.id submissions) := by
  unfold submit
  by_cases lookup : draw.failing = some .lookup
  · rw [if_pos lookup]
    exact .inl ⟨_, rfl, .inl (.inl lookup)⟩
  · rw [if_neg lookup]
    rcases found : TenantModel.findByText ambient assignmentId database.assignments with
      thrown | _ | assignment
    · refine .inl ⟨thrown, rfl, .inl (.inr (.inr fun assignment stored owned => ?_))⟩
      exact TenantModel.find_by_text_absent bound (by simp [found]) stored owned
    · refine .inl ⟨_, rfl, .inl (.inr (.inr fun assignment stored owned => ?_))⟩
      exact TenantModel.find_by_text_absent bound (by simp [found]) stored owned
    · obtain ⟨stored, owned, casts⟩ := TenantModel.find_by_text_owned bound found
      by_cases write : draw.failing = some .write
      · exact .inl ⟨.storage, by simp only [write, if_true], .inl (.inr (.inl write))⟩
      · simp only [write, if_false]
        cases upserted : upsertSubmission ambient draw assignment.id dto database.submissions with
        | error thrown =>
          refine .inl ⟨thrown, rfl, .inr ?_⟩
          by_contra unused
          have fresh : ∀ submission ∈ database.submissions, submission.id ≠ draw.recordId :=
            fun submission held same => unused ⟨submission, held, same⟩
          obtain ⟨_, accepted⟩ := upsert_submission_revises bound assignment.id dto indexed fresh
          simp [accepted] at upserted
        | ok outcome =>
          have keepsId : ∀ submission : Submission,
              TenantModel.id (resubmit dto.fileUrl draw.now submission) =
                TenantModel.id submission := fun _ => rfl
          obtain ⟨revised, ids⟩ := TenantModel.upsert_one_ok bound indexed.ids indexed.keys
            (submission_named tenantId assignment.id dto.studentId.id database.submissions) keepsId
            upserted
          refine .inr ⟨?_, assignment.id, outcome.1, outcome.2, casts, rfl, revised, ids⟩
          rintro (lookupFails | writeFails | absent)
          · exact lookup lookupFails
          · exact write writeFails
          · exact absent assignment stored owned casts

/-- Under a new identity a submission is refused with nothing written, or revises the table under
the key of an assignment of the tenant. -/
theorem submit_cases (bound : Bound ambient tenantId) {draw : AcademicsDraw}
    (assignmentId : String) (dto : SubmitAssignmentDto) {database : Database}
    (indexed : TenantModel.Indexed submissionKey database.submissions)
    (fresh : ∀ submission ∈ database.submissions, submission.id ≠ draw.recordId) :
    (Refused tenantId draw assignmentId database ∧
        (submit ambient draw assignmentId dto database).1 = database) ∨
      (¬ Refused tenantId draw assignmentId database ∧ ∃ target,
        ObjectId.cast assignmentId = some target ∧
          (submit ambient draw assignmentId dto database).1 =
            { database with
              submissions := Revisions.revise submissionKey (tenantId, target, dto.studentId.id)
                (resubmit dto.fileUrl draw.now) (newSubmission tenantId draw target dto)
                database.submissions }) := by
  rcases submit_writes bound draw assignmentId dto indexed with
    ⟨thrown, failed, refused | ⟨submission, stored, taken⟩⟩ |
    ⟨accepts, target, stored, submissions, casts, answered, revised, _⟩
  · exact .inl ⟨refused, by rw [failed]⟩
  · exact absurd taken (fresh submission stored)
  · exact .inr ⟨accepts, target, casts, by rw [answered, revised]⟩

/-- A student's account is the principal's: both cast to one user. -/
def IsAccount (principal : TenantPrincipal) (student : Student) : Prop :=
  ∃ user, ObjectId.cast principal.userId = some user ∧ student.userId.cast = some user

/-- A stored submission is the principal's own: the student it is for is one of the
principal's tenant with the principal's user. -/
def Own (principal : TenantPrincipal) (students : List Student) (submission : Submission) : Prop :=
  submission.tenantId = principal.tenantId ∧ ∃ student ∈ students,
    student.tenantId = principal.tenantId ∧
      IsAccount principal student ∧ student.id = submission.studentId

/-- A request creates or changes no submission but the principal's own. -/
def KeepsToOwn (principal : TenantPrincipal) (before after : Database) : Prop :=
  ∀ submission, ¬ Own principal before.students submission →
    (submission ∈ after.submissions ↔ submission ∈ before.submissions)

/-- The body names the principal's own student document. -/
def NamesOwn (principal : TenantPrincipal) (students : List Student) (dto : SubmitAssignmentDto) :
    Prop :=
  ∃ student ∈ students, student.tenantId = principal.tenantId ∧
    IsAccount principal student ∧ student.id = dto.studentId.id

/-- The submission is stored exactly as the request would leave it. -/
def AlreadyStored (tenantId : String) (draw : AcademicsDraw) (assignmentId : String)
    (dto : SubmitAssignmentDto) (submissions : List Submission) : Prop :=
  ∃ submission ∈ submissions, submission.tenantId = tenantId ∧
    ObjectId.cast assignmentId = some submission.assignmentId ∧
      submission.studentId = dto.studentId.id ∧
        resubmit dto.fileUrl draw.now submission = submission

/-- A revision for a student keeps to a principal's own submissions exactly when the student is
the principal's own, or it changes nothing. -/
theorem revision_keeps_iff {principal : TenantPrincipal} {draw : AcademicsDraw}
    {target : ObjectId} {dto : SubmitAssignmentDto} {before after : Database}
    (indexed : TenantModel.Indexed submissionKey before.submissions)
    (revised : after.submissions = Revisions.revise submissionKey
      (principal.tenantId, target, dto.studentId.id) (resubmit dto.fileUrl draw.now)
      (newSubmission principal.tenantId draw target dto) before.submissions) :
    KeepsToOwn principal before after ↔ NamesOwn principal before.students dto ∨
      ∃ submission ∈ before.submissions,
        submissionKey submission = (principal.tenantId, target, dto.studentId.id) ∧
          resubmit dto.fileUrl draw.now submission = submission := by
  have keeps : ∀ submission, submissionKey (resubmit dto.fileUrl draw.now submission) =
      submissionKey submission := fun _ => rfl
  have under : submissionKey (newSubmission principal.tenantId draw target dto) =
      (principal.tenantId, target, dto.studentId.id) := rfl
  unfold KeepsToOwn
  rw [revised, ← Revisions.revise_same_iff keeps under indexed.keys]
  constructor
  · intro kept
    by_cases own : NamesOwn principal before.students dto
    · exact .inl own
    · refine .inr fun submission => ?_
      by_cases same : submissionKey submission = (principal.tenantId, target, dto.studentId.id)
      · -- the submission is for the student that the body names, who is not the principal
        refine kept submission ?_
        rintro ⟨_, student, stored, owned, user, identity⟩
        simp only [submissionKey, Prod.mk.injEq] at same
        exact own ⟨student, stored, owned, user, identity.trans same.2.2⟩
      · exact Revisions.revise_other keeps under same
  · rintro (⟨student, stored, owned, user, identity⟩ | unchanged) submission notOwn
    · apply Revisions.revise_other keeps under
      intro same
      simp only [submissionKey, Prod.mk.injEq] at same
      exact notOwn ⟨same.1, student, stored, owned, user, identity.trans same.2.2.symm⟩
    · exact unchanged submission

/-- A student's submission keeps to the student's own work exactly when the body names the
student's own document, or the request is refused, or the submission it asks for is stored
already.

Proof: a submission that is not refused revises or adds the one row of its key, and the key's
student is the one that the body names. -/
theorem keeps_to_own_iff {deployment : AuthDeployment} {token : Jwt} {draw : AcademicsDraw}
    {principal : TenantPrincipal}
    (accepted : TenantJwtStrategy.authenticate deployment draw.now token = .ok principal)
    (student : principal.role = some .student) (assignmentId : String) (dto : SubmitAssignmentDto)
    {database : Database} (indexed : TenantModel.Indexed submissionKey database.submissions)
    (fresh : ∀ submission ∈ database.submissions, submission.id ≠ draw.recordId) :
    KeepsToOwn principal database
        (AcademicsController.submit deployment (some token) draw assignmentId dto database).1 ↔
      NamesOwn principal database.students dto ∨
        Refused principal.tenantId draw assignmentId database ∨
          AlreadyStored principal.tenantId draw assignmentId dto database.submissions := by
  have nonempty : principal.tenantId ≠ "" :=
    (present_some (TenantJwtStrategy.authenticate_ok.mp accepted).2.2.2.1).2
  have admitted : AcademicsController.submit deployment (some token) draw assignmentId dto
      database = submit (TenantAuthService.contextOf (some principal.tenantId)) draw assignmentId
        dto database := by
    simp only [AcademicsController.submit, TenantAuthGuard.canActivate, accepted,
      TenantAuthGuard.handleRequest, student]
    rfl
  rw [admitted]
  rcases submit_cases (TenantAuthService.bound_context nonempty) assignmentId dto indexed fresh with
    ⟨refused, unchanged⟩ | ⟨accepts, target, casts, revised⟩
  · rw [unchanged]
    exact iff_of_true (fun _ _ => Iff.rfl) (.inr (.inl refused))
  · rw [revision_keeps_iff indexed (congrArg Database.submissions revised)]
    have already : (∃ submission ∈ database.submissions,
        submissionKey submission = (principal.tenantId, target, dto.studentId.id) ∧
          resubmit dto.fileUrl draw.now submission = submission) ↔
        AlreadyStored principal.tenantId draw assignmentId dto database.submissions := by
      simp only [AlreadyStored, submissionKey, Prod.mk.injEq, casts, Option.some.injEq,
        @eq_comm _ target, and_assoc]
    rw [already, or_iff_right accepts]

/-- A student's access token. -/
def studentToken : Jwt :=
  { payload := { realm := .tenant, sub := (ObjectId.repeated '5').hex,
                 tenantId := some "institute-a", role := some .student }
    secret := AuthDeployment.marking.tenantJwt.accessSecret
    issuedAt := 0
    expiresIn := AuthDeployment.marking.tenantJwt.accessExpires }

/-- The student that the token is for. -/
def tokenStudent : TenantPrincipal :=
  { userId := (ObjectId.repeated '5').hex, tenantId := "institute-a", role := some .student,
    impersonatedBy := none }

/-- The graded work of another student. -/
def gradedWork : Submission :=
  { id := .repeated 'b', tenantId := "institute-a", assignmentId := .repeated 'a',
    studentId := .repeated '7', fileUrl := "https://files.test/b.pdf", submittedAt := 1,
    grade := some "A" }

/-- A class of two students, one of whom has handed in. -/
def gradedClass : Database :=
  { students :=
      [{ id := .repeated '2', tenantId := "institute-a",
         userId := .text (ObjectId.repeated '5').hex, rollNo := some "1" },
       { id := .repeated '7', tenantId := "institute-a",
         userId := .text (ObjectId.repeated '8').hex, rollNo := some "2" }]
    assignments :=
      [{ id := .repeated 'a', tenantId := "institute-a", batchId := .repeated '4',
         title := "Essay", dueDate := 0, createdBy := .repeated '1' }]
    submissions := [gradedWork] }

/-- What a submission of the token's student for a student draws. -/
def handIn (studentId : ObjectId) : Database :=
  (AcademicsController.submit AuthDeployment.marking (some studentToken)
    { recordId := .repeated 'c', notificationId := .repeated 'd', now := 2 }
    (ObjectId.repeated 'a').hex
    { studentId := .ofId studentId, fileUrl := "https://files.test/c.pdf" } gradedClass).1

/-- A student replaces another student's graded work. -/
theorem others_work_replaced :
    gradedWork ∈ gradedClass.submissions ∧
      (handIn (.repeated '7')).submissions =
        [{ gradedWork with fileUrl := "https://files.test/c.pdf", submittedAt := 2, grade := none }] ∧
      ¬ KeepsToOwn tokenStudent gradedClass (handIn (.repeated '7')) := by
  have replaced : (handIn (.repeated '7')).submissions =
      [{ gradedWork with fileUrl := "https://files.test/c.pdf", submittedAt := 2,
                         grade := none }] := by
    decide +kernel
  refine ⟨List.mem_singleton.mpr rfl, replaced, ?_⟩
  intro keeps
  have notOwn : ¬ Own tokenStudent gradedClass.students gradedWork := by
    rintro ⟨_, student, stored, _, ⟨user, principal, account⟩, identity⟩
    simp only [gradedClass, List.mem_cons, List.not_mem_nil, or_false] at stored
    rcases stored with rfl | rfl
    · exact absurd identity (by decide +kernel)
    · exact absurd (principal.trans account.symm) (by decide +kernel)
  have kept := (keeps gradedWork notOwn).mpr (List.mem_singleton.mpr rfl)
  rw [replaced] at kept
  exact absurd kept (by decide +kernel)

/-- A student's own submission leaves the other student's work alone. -/
theorem own_work_submitted : KeepsToOwn tokenStudent gradedClass (handIn (.repeated '2')) := by
  have accepted : TenantJwtStrategy.authenticate AuthDeployment.marking 2 studentToken =
      .ok tokenStudent := by
    decide +kernel
  have indexed : TenantModel.Indexed submissionKey gradedClass.submissions := by decide +kernel
  have fresh : ∀ submission ∈ gradedClass.submissions, submission.id ≠ .repeated 'c' := by
    decide +kernel
  have own : NamesOwn tokenStudent gradedClass.students
      { studentId := .ofId (.repeated '2'), fileUrl := "https://files.test/c.pdf" } :=
    ⟨_, List.mem_cons_self, rfl, ⟨.repeated '5', by decide +kernel, by decide +kernel⟩, rfl⟩
  exact (keeps_to_own_iff accepted rfl (ObjectId.repeated 'a').hex _ indexed fresh).mpr (.inl own)

end AcademicsService

end CoachingApi
