import Mathlib.Data.List.Induction
import Mathlib.Data.String.Basic
import CoachingApi.Common.TenantLifelines
import CoachingApi.Surfaces.RouteRoles

/-!
# The roster of students after any run

Students are created, changed, enrolled into batches and deleted by calls of different
controllers. The roster of an institute tells what all of these calls did: a reference is among a
student's batches exactly when what was said last of the two, by the creation, a change of the
profile or an enrolment, is that it is. An enrolment speaks of the batch's identity, a profile of
what was posted.
-/

namespace CoachingApi

open TenantModel TenantPlugin TenantContextStore Lifelines

/-- What a call changes of a student: the profile, or the batches that the student is in. -/
inductive StudentChange where
  | profile (now : Int) (dto : UpdateStudentDto)
  | enrolled (now : Int) (batchId : ObjectId)

namespace StudentChange

/-- The roll number that a change sets, or takes away. -/
def rollNo : StudentChange → Option (Option String)
  | .profile _ dto => dto.rollNo.said
  | .enrolled _ _ => none

/-- The parent's account that a change sets, or takes away. -/
def parent : StudentChange → Option (Option Reference)
  | .profile _ dto => dto.parentUserId.said.map (Option.map PostedId.reference)
  | .enrolled _ _ => none

/-- What a change says of a student and a reference: whether it is among the student's batches.
A null list has none. -/
def places (batchId : Reference) : StudentChange → Option Bool
  | .profile _ dto => dto.batchIds.said.map (fun given =>
    ((given.getD []).map PostedId.reference).contains batchId)
  | .enrolled _ other => if batchId = .id other then some true else none

end StudentChange

namespace StudentsService

/-- A change of a student. -/
def change : StudentChange → Student → Student
  | .profile now dto => changeStudent now dto
  | .enrolled now batchId => BatchesService.enrolledIn now batchId

/-- What a student's creation and changes tell of it: the account of the student never changes;
the parent's account and the roll number are those set last; and those references are among the
student's batches of which that was said last. -/
structure Told (first : Student) (changes : List StudentChange) (student : Student) : Prop where
  same : student.id = first.id
  institute : student.tenantId = first.tenantId
  account : student.userId = first.userId
  parent : student.parentUserId =
    (changes.filterMap StudentChange.parent).getLast?.getD first.parentUserId
  rollNo : student.rollNo = (changes.filterMap StudentChange.rollNo).getLast?.getD first.rollNo
  batches : ∀ batchId, student.holds batchId =
    (changes.filterMap (StudentChange.places batchId)).getLast?.getD (first.holds batchId)

/-- One more change is told. -/
theorem Told.more {first student : Student} {changes : List StudentChange}
    (told : Told first changes student) (made : StudentChange) :
    Told first (changes ++ [made]) (change made student) := by
  cases made with
  | profile now dto =>
    constructor
    · exact told.same
    · exact told.institute
    · exact told.account
    · rw [said_last, ← told.parent]
      exact OptionalValue.update_said _ _ _
    · rw [said_last, ← told.rollNo]
      obtain ⟨_, rollNo, _⟩ := dto
      cases rollNo <;> rfl
    · intro batchId
      rw [said_last, ← told.batches batchId]
      obtain ⟨_, _, batchIds⟩ := dto
      cases batchIds <;> rfl
  | enrolled now other =>
    constructor
    · exact told.same
    · exact told.institute
    · exact told.account
    · rw [said_last]
      exact told.parent
    · rw [said_last]
      exact told.rollNo
    · intro batchId
      rw [said_last, ← told.batches batchId]
      by_cases same : batchId = .id other
      · subst same
        simp [StudentChange.places, change, BatchesService.enrolled_holds]
      · rw [StudentChange.places, if_neg same, Option.getD_none, Bool.eq_iff_iff]
        simp only [change, Student.holds, BatchesService.enrolledIn, Option.getD_some,
          List.contains_iff_mem, BulkUpdates.mem_add_iff]
        exact or_iff_right same

/-- A student that was changed is as it is told.

Proof: by induction on the changes, from the last one. -/
theorem changed_told (first : Student) (changes : List StudentChange) :
    Told first changes (changes.foldl (fun current made => change made current) first) := by
  induction changes using List.reverseRecOn with
  | nil => constructor <;> simp
  | append_singleton earlier made inductionHypothesis =>
    rw [List.foldl_append]
    exact inductionHypothesis.more made

/-- A change keeps the identity of a student. -/
theorem change_keeps (made : StudentChange) (student : Student) :
    (change made student).id = student.id := by
  cases made <;> rfl

/-- What an enrolment into a batch that is found makes of the students that it updates. -/
def enrolments (ambient : Ambient) (tenantId : String) (reached : ObjectId → Bool) (now : Int)
    (batchText : String) (dto : EnrollDto) (database : Database) :
    List (Event Student ObjectId StudentChange) :=
  match findByText ambient batchText database.batches with
  | .ok (some batch) =>
    (database.students.filter (BatchesService.updates tenantId dto reached database.students)).map
      (fun student => .changed student.id (.enrolled now batch.id))
  | _ => []

/-- A roll number is before the ones that the next one is before. -/
theorem roll_no_trans {first second third : Option String}
    (one : rollNoBefore first second = true) (two : rollNoBefore second third = true) :
    rollNoBefore first third = true := by
  cases first with
  | none => rfl
  | some first =>
    cases second with
    | none => cases one
    | some second =>
      cases third with
      | none => cases two
      | some third => exact decide_eq_true (le_trans (of_decide_eq_true one) (of_decide_eq_true two))

/-- Of two roll numbers one is before the other. -/
theorem roll_no_total (first second : Option String) :
    (rollNoBefore first second || rollNoBefore second first) = true := by
  cases first with
  | none => rfl
  | some first =>
    cases second with
    | none => rfl
    | some second => simpa [rollNoBefore] using le_total first second

section Calls

variable {ambient : Ambient} {tenantId : String} {database : Database}
  {events : List (Event Student ObjectId StudentChange)}

/-- A creation that is answered gives birth to the student that it asks for. -/
theorem create_lives (bound : Bound ambient tenantId)
    (lives : Lives TenantModel.id change database.students events) (generated : ObjectId)
    (now : Int) (dto : CreateStudentDto) :
    (∃ thrown, create ambient generated now dto database = (database, .error thrown)) ∨
    ∃ student students,
      create ambient generated now dto database =
        ({ database with students := students }, .ok student) ∧
      ((∀ other ∈ births events, other.id ≠ generated) →
        Lives TenantModel.id change students
          (events ++ [.born { createdStudent generated now dto with tenantId := tenantId }])) := by
  unfold create
  split
  · exact .inl ⟨_, rfl⟩
  · rename_i student students created
    obtain ⟨valid, _, _⟩ := create_ok created
    obtain ⟨rfl, _⟩ := validate_ok bound valid
    exact .inr ⟨_, students, rfl, TenantModel.create_lives bound lives created⟩

/-- A change that is answered is one of the student that its text casts to. -/
theorem update_lives (bound : Bound ambient tenantId)
    (lives : Lives TenantModel.id change database.students events) (now : Int) (text : String)
    (dto : UpdateStudentDto) :
    (∃ thrown, update ambient now text dto database = (database, .error thrown)) ∨
    ∃ target student students, ObjectId.cast text = some target ∧
      update ambient now text dto database =
        ({ database with students := students }, .ok student) ∧
      Lives TenantModel.id change students (events ++ [.changed target (.profile now dto)]) := by
  unfold update
  split
  · exact .inl ⟨_, rfl⟩
  · exact .inl ⟨_, rfl⟩
  · rename_i student students found
    obtain ⟨target, casts, changed⟩ := @rekey_lives _ _ _ _ _ change _ _ bound change_keeps lives
      text (.profile now dto) _ _ found
    exact .inr ⟨target, student, students, casts, rfl, changed⟩

/-- A deletion that is answered removes the student that its text casts to. -/
theorem remove_lives (bound : Bound ambient tenantId)
    (lives : Lives TenantModel.id change database.students events) (text : String) :
    (∃ thrown, remove ambient text database = (database, .error thrown)) ∨
    ∃ target students, ObjectId.cast text = some target ∧
      remove ambient text database = ({ database with students := students }, .ok ()) ∧
      Lives TenantModel.id change students (events ++ [.removed target]) := by
  unfold remove
  split
  · exact .inl ⟨_, rfl⟩
  · exact .inl ⟨_, rfl⟩
  · rename_i students deleted
    obtain ⟨target, casts, removed⟩ := delete_lives bound change_keeps lives deleted
    exact .inr ⟨target, students, casts, rfl, removed⟩

/-- An enrolment changes the students that it updates, also where it is stopped half-way. -/
theorem enroll_lives (bound : Bound ambient tenantId)
    (lives : Lives TenantModel.id change database.students events) (reached : ObjectId → Bool)
    (now : Int) (text : String) (dto : EnrollDto) :
    Lives TenantModel.id change
      (BatchesService.enroll ambient reached now text dto database).1.students
      (events ++ enrolments ambient tenantId reached now text dto database) := by
  cases found : findByText ambient text database.batches with
  | error thrown =>
    simp only [BatchesService.enroll, enrolments, found, List.append_nil]
    exact lives
  | ok held =>
    cases held with
    | none =>
      simp only [BatchesService.enroll, enrolments, found, List.append_nil]
      exact lives
    | some batch =>
      simp only [BatchesService.enroll_bound bound reached now dto found, enrolments, found]
      exact lives_changed_all lives change_keeps (.enrolled now batch.id)
        (BatchesService.updates tenantId dto reached database.students)

end Calls

end StudentsService

namespace TenantApi

/-- What a call makes of students: what it asks for, if it is answered. An enrolment changes the
students that it updates, of the institute's that it lists, even if it is then refused. -/
def studentEvents (deployment : TenantApiDeployment) (campus : Campus) (call : Call) :
    List (Event Student ObjectId StudentChange) :=
  match admitted deployment call, call.request, (handle deployment campus call).2 with
  | .ok user, .createStudent generated now dto, .ok _ =>
    [.born { StudentsService.createdStudent generated now dto with tenantId := user.tenantId }]
  | .ok _, .updateStudent now idText dto, .ok _ =>
    (ObjectId.cast idText).toList.map (fun target => .changed target (.profile now dto))
  | .ok _, .removeStudent idText, .ok _ => (ObjectId.cast idText).toList.map .removed
  | .ok user, .enroll reached now batchText dto, _ =>
    StudentsService.enrolments (intercept user.tenantId) user.tenantId reached now batchText dto
      campus.database
  | _, _, _ => []

/-- Students live the events of a history. -/
def LivesStudents (campus : Campus) (events : List (Event Student ObjectId StudentChange)) : Prop :=
  Lives TenantModel.id StudentsService.change campus.database.students events

/-- A call keeps students living what calls make of them, where no identity is drawn twice. -/
theorem after_lives_students (deployment : TenantApiDeployment) {campus : Campus} (call : Call)
    {events : List (Event Student ObjectId StudentChange)} (lives : LivesStudents campus events)
    (drawn : Records.Distinct Student.id
      (births (events ++ studentEvents deployment campus call))) :
    LivesStudents (after deployment campus call)
      (events ++ studentEvents deployment campus call) := by
  have unchanged : LivesStudents campus (events ++ []) := by
    rw [List.append_nil]
    exact lives
  apply @after_keeps_history _ deployment campus call .students _ _ _ lives
  · intro next same kept
    have students : next.database.students = campus.database.students := same
    rw [LivesStudents, students]
    exact kept
  · intro thrown admits
    simp only [studentEvents, admits]
  · intro user admits written
    cases request : call.request with
    | createStudent | updateStudent | removeStudent | enroll =>
      rw [request] at written
      simp [TenantRequest.writes] at written
    | _ => simp only [studentEvents, admits, request]
  intro user admits bound served written
  cases request : call.request with
  | createStudent generated now dto =>
    have ended : handle deployment campus call =
        stored campus .student (StudentsService.create (intercept user.tenantId) generated now dto
          campus.database) := by
      rw [served, request]
      rfl
    rcases StudentsService.create_lives bound lives generated now dto with
      ⟨thrown, refused⟩ | ⟨student, students, answered, born⟩
    · simp only [studentEvents, after, admits, request, ended, refused, stored, Except.map]
      exact unchanged
    · simp only [studentEvents, after, admits, request, ended, answered, stored, Except.map]
        at drawn ⊢
      exact born (born_apart drawn)
  | updateStudent now text dto =>
    have ended : handle deployment campus call =
        stored campus .student (StudentsService.update (intercept user.tenantId) now text dto
          campus.database) := by
      rw [served, request]
      rfl
    rcases StudentsService.update_lives bound lives now text dto with
      ⟨thrown, refused⟩ | ⟨target, student, students, casts, answered, changed⟩
    · simp only [studentEvents, after, admits, request, ended, refused, stored, Except.map]
      exact unchanged
    · simp only [studentEvents, after, admits, request, ended, answered, stored, Except.map, casts,
        Option.toList_some, List.map_cons, List.map_nil]
      exact changed
  | removeStudent text =>
    have ended : handle deployment campus call =
        stored campus (fun _ => .nothing) (StudentsService.remove (intercept user.tenantId) text
          campus.database) := by
      rw [served, request]
      rfl
    rcases StudentsService.remove_lives bound lives text with
      ⟨thrown, refused⟩ | ⟨target, students, casts, answered, removed⟩
    · simp only [studentEvents, after, admits, request, ended, refused, stored, Except.map]
      exact unchanged
    · simp only [studentEvents, after, admits, request, ended, answered, stored, Except.map, casts,
        Option.toList_some, List.map_cons, List.map_nil]
      exact removed
  | enroll reached now text dto =>
    have ended : handle deployment campus call =
        stored campus .enrolled (BatchesService.enroll (intercept user.tenantId) reached now text dto
          campus.database) := by
      rw [served, request]
      rfl
    simp only [studentEvents, after, admits, request, ended, stored]
    exact StudentsService.enroll_lives bound lives reached now text dto
  | _ =>
    rw [request] at written
    simp [TenantRequest.writes] at written

/-- The roster of an institute tells what all calls before it did, whichever they were and from
whichever institutes: by roll number, null ones first, it shows each student that was created for
the institute and not deleted, once, as the student's creation, changes and enrolments tell it. No
identity is drawn for two students.

Proof: the students live what the calls make of them. -/
theorem roster_tells_calls (deployment : TenantApiDeployment) {start : Campus} (calls : List Call)
    (drawn : Records.Distinct Student.id (births (start.database.students.map .born ++
      Runs.outputs (after deployment) (studentEvents deployment) start calls)))
    {ambient : Ambient} {tenantId : String} (bound : Bound ambient tenantId) :
    let events := start.database.students.map .born ++
      Runs.outputs (after deployment) (studentEvents deployment) start calls
    ∃ students,
      StudentsService.list ambient (Runs.run (after deployment) start calls).database =
        .ok students ∧
      students.Pairwise (fun first second =>
        StudentsService.rollNoBefore first.rollNo second.rollNo = true) ∧
      (students.map Student.id).Perm
        (((births events).filter (fun first =>
          decide (first.tenantId = tenantId) && !removed first.id events)).map Student.id) ∧
      ∀ student ∈ students, ∃ first ∈ births events,
        StudentsService.Told first (changes first.id events) student := by
  intro events
  have opened : Records.Distinct Student.id (births (start.database.students.map .born :
      List (Event Student ObjectId StudentChange))) → LivesStudents start
        (start.database.students.map .born) := by
    intro distinct
    rw [births_start] at distinct
    exact lives_start distinct
  have lives : LivesStudents (Runs.run (after deployment) start calls) events := by
    refine @Runs.run_follows _ _ _ (after deployment) (studentEvents deployment)
      (fun campus events => Records.Distinct Student.id (births events) →
        LivesStudents campus events) ?_ start _ opened calls drawn
    intro campus call history lives distinct
    apply after_lives_students deployment call (lives ?_) distinct
    rw [births_append] at distinct
    exact distinct.sublist ((List.sublist_append_left _ _).map _)
  have institute (student : Student) :
      (lived TenantModel.id StudentsService.change events student).tenantId = student.tenantId :=
    (StudentsService.changed_told student _).institute
  refine ⟨_, congrArg (Except.map _) (find_bound bound _ _), ?_, ?_, ?_⟩
  · have transitive (first second third : Student)
        (one : StudentsService.rollNoBefore first.rollNo second.rollNo = true)
        (two : StudentsService.rollNoBefore second.rollNo third.rollNo = true) :
        StudentsService.rollNoBefore first.rollNo third.rollNo = true :=
      StudentsService.roll_no_trans one two
    have total (first second : Student) :
        (StudentsService.rollNoBefore first.rollNo second.rollNo ||
          StudentsService.rollNoBefore second.rollNo first.rollNo) = true :=
      StudentsService.roll_no_total first.rollNo second.rollNo
    exact List.pairwise_mergeSort transitive total _
  · apply ((List.mergeSort_perm _ _).map Student.id).trans
    rw [lives.survive, survivors, List.filter_map, List.map_map, List.filter_filter]
    have same : Student.id ∘ lived TenantModel.id StudentsService.change events = Student.id :=
      funext (fun student => (StudentsService.changed_told student _).same)
    rw [same]
    apply List.Perm.of_eq
    congr 1
    apply List.filter_congr
    intro student _
    simp only [Function.comp_apply, Bool.and_true]
    exact congrArg (fun owner => decide (owner = tenantId) && !removed student.id events)
      (institute student)
  · intro student listed
    obtain ⟨held, _⟩ := List.mem_filter.mp (List.mem_mergeSort.mp listed)
    obtain ⟨first, born, _, rfl⟩ := (lives_mem_iff lives).mp held
    exact ⟨first, born, StudentsService.changed_told first _⟩

/-- Two students are enrolled into a batch, one of them is taken out of it by a change of the
profile, and a third one is deleted. -/
def classOfTwo : List Call :=
  let administer := callOf "institute-a" .admin (.repeated '9')
  let student (account : Char) (rollNo : String) : CreateStudentDto :=
    { userId := .ofId (.repeated account), rollNo := rollNo }
  [administer (.createStudent (.repeated 'a') 0 (student '1' "2")),
    administer (.createStudent (.repeated 'b') 0 (student '2' "1")),
    administer (.createBatch (.repeated 'c')
      { name := "Evening", subject := "Physics", academicYear := "2025-26" }),
    administer (.enroll (fun _ => true) 1 (ObjectId.repeated 'c').hex
      { studentIds := [.ofId (.repeated 'a'), .ofId (.repeated 'b')] }),
    administer (.updateStudent 2 (ObjectId.repeated 'b').hex { batchIds := .value [] }),
    administer (.createStudent (.repeated 'd') 3 (student '3' "3")),
    administer (.removeStudent (ObjectId.repeated 'd').hex)]

/-- The two students are on the roster, and one of them is in the batch. -/
theorem class_of_two_told :
    ∃ students, StudentsService.list (some { tenantId := some "institute-a" })
        (Runs.run (after quiet) {} classOfTwo).database = .ok students ∧
      (students.map Student.id).Perm [.repeated 'a', .repeated 'b'] ∧
      ∀ student ∈ students,
        student.holds (.id (.repeated 'c')) = true ↔ student.id = .repeated 'a' := by
  let events := Runs.outputs (after quiet) (studentEvents quiet) {} classOfTwo
  have drawn : Records.Distinct Student.id (births events) := by decide +kernel
  obtain ⟨students, listed, _, ids, told⟩ := @roster_tells_calls quiet {} classOfTwo drawn _ _
    (bound_run "institute-a" (by decide))
  refine ⟨students, listed, ?_, ?_⟩
  · have born : ((births events).filter (fun first =>
        decide (first.tenantId = "institute-a") && !removed first.id events)).map Student.id =
          [.repeated 'a', .repeated 'b'] := by decide +kernel
    rw [← born]
    exact ids
  · intro student member
    obtain ⟨first, born, tells⟩ := told student member
    have placed : ∀ first ∈ births events,
        ((changes first.id events).filterMap
          (StudentChange.places (.id (.repeated 'c')))).getLast?.getD
            (first.holds (.id (.repeated 'c'))) = true ↔ first.id = .repeated 'a' := by
      decide +kernel
    rw [tells.batches, tells.same]
    exact placed first born

end TenantApi

end CoachingApi
