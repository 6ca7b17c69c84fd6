import CoachingApi.Academics.OwnSubmissions
import CoachingApi.Library.Runs

/-!
# What a grading record says of the calls

Runs of submissions, gradings and scores of any institutes, one call at a time and failing or
not, beside a log of what each call that came to its write gives: a submission neither grade
nor feedback, a grading both of them, and a score its marks and remarks. A submission clears
what it does not give. A grading and a score only leave it out of the update, so an omitted
text keeps the one that is stored: the records tell the log exactly as long as no call omits
a text where one is stored.
-/

namespace CoachingApi

open TenantContextStore TenantPlugin Runs Revisions

namespace AcademicsService

/-- A request that writes a grading record. -/
inductive GradingRequest where
  | submit (assignmentId : String) (dto : SubmitAssignmentDto)
  | grade (submissionId : String) (dto : GradeSubmissionDto)
  | recordScore (testId : String) (dto : RecordScoreDto)

/-- A request in the context of an institute, with what it draws. -/
structure GradingCall where
  tenantId : String
  named : tenantId ≠ ""
  draw : AcademicsDraw
  request : GradingRequest

/-- The context of a call. -/
def GradingCall.ambient (call : GradingCall) : Ambient :=
  TenantAuthService.contextOf (some call.tenantId)

/-- A call is bound to its institute. -/
theorem GradingCall.bound (call : GradingCall) : Bound call.ambient call.tenantId :=
  TenantAuthService.bound_context call.named

/-- The database after a call. -/
def performGrading (deployment : AcademicsDeployment) (database : Database) (call : GradingCall) :
    Database :=
  match call.request with
  | .submit assignmentId dto => (submit call.ambient call.draw assignmentId dto database).1
  | .grade submissionId dto => (grade deployment call.ambient call.draw submissionId dto database).1
  | .recordScore testId dto =>
    (recordScore deployment call.ambient call.draw testId dto database).1

/-- What the unique index of scores compares. -/
def scoreKey (score : TestScore) : String × ObjectId × ObjectId :=
  (score.tenantId, score.testId, score.studentId)

/-- The score that is inserted. -/
def newScore (tenantId : String) (draw : AcademicsDraw) (testId : ObjectId)
    (dto : RecordScoreDto) : TestScore :=
  { id := draw.recordId, tenantId := tenantId, testId := testId, studentId := dto.studentId.id,
    marks := dto.marks, remarks := dto.remarks.given }

/-- A grading comes to its write and updates the submission. -/
def Grades (tenantId : String) (draw : AcademicsDraw) (submissionId : String)
    (submission : Submission) : Prop :=
  draw.failing ≠ some .write ∧ submission.tenantId = tenantId ∧
    ObjectId.cast submissionId = some submission.id

instance (tenantId : String) (draw : AcademicsDraw) (submissionId : String) :
    DecidablePred (Grades tenantId draw submissionId) :=
  fun _ => inferInstanceAs (Decidable (_ ∧ _ ∧ _))

/-- A score comes to its write for a test. -/
def Scores (ambient : Ambient) (draw : AcademicsDraw) (testId : String) (dto : RecordScoreDto)
    (tests : List Test) (test : Test) : Prop :=
  draw.failing ≠ some .lookup ∧ draw.failing ≠ some .write ∧
    TenantModel.findByText ambient testId tests = .ok (some test) ∧ dto.marks ≤ test.maxMarks

section Writes

variable {ambient : Ambient} {tenantId : String} {database : Database}

/-- An upsert of a score revises the table under its key; it is refused only when no score is
stored under it. -/
theorem upsert_score_writes (bound : Bound ambient tenantId) (draw : AcademicsDraw)
    (testId : ObjectId) (dto : RecordScoreDto) {scores : List TestScore}
    (indexed : TenantModel.Indexed scoreKey scores) :
    (∃ thrown, upsertScore ambient draw testId dto scores = .error thrown ∧
        ∀ score ∈ scores, scoreKey score ≠ (tenantId, testId, dto.studentId.id)) ∨
      ∃ stored updated, upsertScore ambient draw testId dto scores = .ok (stored, updated) ∧
        updated = revise scoreKey (tenantId, testId, dto.studentId.id) (rescore dto)
          (newScore tenantId draw testId dto) scores ∧
        Records.Distinct TestScore.id updated := by
  have named : ∀ score ∈ scores, (TenantModel.tenantId score = tenantId ∧
      decide (score.testId = testId ∧ score.studentId = dto.studentId.id) = true) ↔
        scoreKey score = (tenantId, testId, dto.studentId.id) := by
    intro score _
    simp [scoreKey, TenantModel.tenantId]
  cases upserted : upsertScore ambient draw testId dto scores with
  | error thrown =>
    exact .inl ⟨thrown, rfl, TenantModel.upsert_one_refused bound named upserted⟩
  | ok outcome =>
    have keepsId : ∀ score : TestScore,
        TenantModel.id (rescore dto score) = TenantModel.id score := fun _ => rfl
    obtain ⟨revised, ids⟩ := TenantModel.upsert_one_ok bound indexed.ids indexed.keys named keepsId
      upserted
    exact .inr ⟨outcome.1, outcome.2, rfl, revised, ids⟩

/-- A score that is answered came to its write and has revised the table under its key; one that
is not has changed nothing, and would have changed no score that is stored. -/
theorem record_score_writes (bound : Bound ambient tenantId) (deployment : AcademicsDeployment)
    (draw : AcademicsDraw) (testId : String) (dto : RecordScoreDto)
    (indexed : TenantModel.Indexed scoreKey database.scores) :
    (∃ thrown,
        recordScore deployment ambient draw testId dto database = (database, .error thrown) ∧
          ∀ test, Scores ambient draw testId dto database.tests test →
            ∀ score ∈ database.scores, scoreKey score ≠ (tenantId, test.id, dto.studentId.id)) ∨
      ∃ test stored scores, Scores ambient draw testId dto database.tests test ∧
        ObjectId.cast testId = some test.id ∧
        recordScore deployment ambient draw testId dto database =
          ({ database with scores := scores }, .ok stored) ∧
        scores = revise scoreKey (tenantId, test.id, dto.studentId.id) (rescore dto)
          (newScore tenantId draw test.id dto) database.scores ∧
        Records.Distinct TestScore.id scores := by
  unfold recordScore
  split
  · rename_i lookup
    exact .inl ⟨_, rfl, fun test scores => absurd lookup scores.1⟩
  · rename_i looked
    cases found : TenantModel.findByText ambient testId database.tests with
    | error thrown =>
      refine .inl ⟨_, rfl, fun test scores => ?_⟩
      exact absurd (found.symm.trans scores.2.2.1) (by simp)
    | ok result =>
      cases result with
      | none =>
        refine .inl ⟨_, rfl, fun test scores => ?_⟩
        exact absurd (found.symm.trans scores.2.2.1) (by simp)
      | some test =>
        obtain ⟨_, _, casts⟩ := TenantModel.find_by_text_owned bound found
        have only (other : Test) (scores : Scores ambient draw testId dto database.tests other) :
            other = test := by
          have same := scores.2.2.1.symm.trans found
          simpa using same
        simp only
        split
        · rename_i exceeds
          refine .inl ⟨_, rfl, fun other scores => ?_⟩
          obtain rfl := only other scores
          exact absurd exceeds (not_lt.mpr scores.2.2.2)
        · rename_i bounded
          split
          · rename_i write
            exact .inl ⟨_, rfl, fun other scores => absurd write scores.2.1⟩
          · rename_i writes
            rcases upsert_score_writes bound draw test.id dto indexed with
              ⟨thrown, refused, unstored⟩ | ⟨stored, updated, upserted, revised, ids⟩
            · rw [refused]
              refine .inl ⟨thrown, rfl, fun other scores => ?_⟩
              obtain rfl := only other scores
              exact unstored
            · rw [upserted]
              exact .inr ⟨test, stored, updated, ⟨looked, writes, found, not_lt.mp bounded⟩, casts,
                rfl, revised, ids⟩

/-- What follows the update of a submission writes notifications and pushes only. -/
theorem notify_graded_writes (deployment : AcademicsDeployment) (ambient : Ambient)
    (draw : AcademicsDraw) (submissionId : String) (dto : GradeSubmissionDto)
    (submission : Submission) (database : Database) :
    ∃ notifications pushes,
      (notifyGraded deployment ambient draw submissionId dto submission database).1 =
        { database with notifications := notifications, pushes := pushes } := by
  unfold notifyGraded
  split
  · exact ⟨database.notifications, database.pushes, rfl⟩
  · split
    · exact ⟨database.notifications, database.pushes, rfl⟩
    · exact ⟨database.notifications, database.pushes, rfl⟩
    · split
      · exact ⟨database.notifications, database.pushes, rfl⟩
      · exact NotificationsService.notify_writes ambient deployment.push draw.notificationId
          draw.now _ database

/-- A grading updates the one submission that it grades, and writes no other submission and no
score. -/
theorem grade_writes (bound : Bound ambient tenantId) (deployment : AcademicsDeployment)
    (draw : AcademicsDraw) (submissionId : String) (dto : GradeSubmissionDto)
    (database : Database) :
    (grade deployment ambient draw submissionId dto database).1.scores = database.scores ∧
      (grade deployment ambient draw submissionId dto database).1.submissions =
        match database.submissions.find? (fun submission =>
            decide (Grades tenantId draw submissionId submission)) with
        | none => database.submissions
        | some submission =>
          Records.modify Submission.id submission.id (gradeSubmission dto)
            database.submissions := by
  unfold grade
  split
  · rename_i fails
    have none : database.submissions.find? (fun submission =>
        decide (Grades tenantId draw submissionId submission)) = none := by
      simp [Grades, fails]
    rw [none]
    exact ⟨rfl, rfl⟩
  · rename_i writes
    rw [TenantModel.find_by_text_and_update_bound bound]
    cases casts : ObjectId.cast submissionId with
    | none =>
      have none : database.submissions.find? (fun submission =>
          decide (Grades tenantId draw submissionId submission)) = none := by
        simp [Grades, casts]
      rw [none]
      simp [castId, casts]
    | some target =>
      have same : (fun submission : Submission => decide (TenantModel.tenantId submission = tenantId)
          && decide (TenantModel.id submission = target)) =
          fun submission => decide (Grades tenantId draw submissionId submission) := by
        funext submission
        simp [Grades, writes, casts, TenantModel.tenantId, TenantModel.id, @eq_comm _ target]
      rw [cast_id_ok.mpr casts]
      simp only [same]
      cases database.submissions.find? (fun submission =>
          decide (Grades tenantId draw submissionId submission)) with
      | none => exact ⟨rfl, rfl⟩
      | some submission =>
        obtain ⟨_, _, notified⟩ := notify_graded_writes deployment ambient draw
          submissionId dto (gradeSubmission dto submission)
          { database with
            submissions := Records.modify Submission.id submission.id (gradeSubmission dto)
              database.submissions }
        simp only [TenantModel.id, notified, and_self]

end Writes

/-- What a submission is stored with. -/
def graded (submission : Submission) : Option String × Option String :=
  (submission.grade, submission.feedback)

/-- What a score is stored with. -/
def scored (score : TestScore) : ℚ × Option String := (score.marks, score.remarks)

/-- What the calls have given so far, in their order, under the keys of the records they wrote:
grades with feedback, and marks with remarks. -/
structure GradingLog where
  gradings : List ((String × ObjectId × ObjectId) × Option String × Option String) := []
  scores : List ((String × ObjectId × ObjectId) × ℚ × Option String) := []

/-- The log after a call: an answered submission gives neither grade nor feedback, a grading of
a stored submission gives both, and an answered score its marks and remarks. -/
def GradingLog.record (deployment : AcademicsDeployment) (database : Database) (log : GradingLog)
    (call : GradingCall) : GradingLog :=
  match call.request with
  | .submit assignmentId dto =>
    match ObjectId.cast assignmentId,
      (submit call.ambient call.draw assignmentId dto database).2 with
    | some target, .ok _ =>
      { log with
        gradings := log.gradings ++ [((call.tenantId, target, dto.studentId.id), none, none)] }
    | _, _ => log
  | .grade submissionId dto =>
    match database.submissions.find? (fun submission =>
      decide (Grades call.tenantId call.draw submissionId submission)) with
    | some submission =>
      { log with
        gradings := log.gradings ++
          [(submissionKey submission, some dto.grade, dto.feedback.given)] }
    | none => log
  | .recordScore testId dto =>
    match ObjectId.cast testId,
      (recordScore deployment call.ambient call.draw testId dto database).2 with
    | some target, .ok _ =>
      { log with
        scores := log.scores ++
          [((call.tenantId, target, dto.studentId.id), dto.marks, dto.remarks.given)] }
    | _, _ => log

/-- A call on the database and its log. -/
def takeGrading (deployment : AcademicsDeployment) (state : Database × GradingLog)
    (call : GradingCall) : Database × GradingLog :=
  (performGrading deployment state.1 call, state.2.record deployment state.1 call)

/-- Every stored submission has the grade and the feedback, and every stored score the marks and
the remarks, that the last call about it gave. -/
def TellsCalls (state : Database × GradingLog) : Prop :=
  Tells submissionKey graded state.1.submissions state.2.gradings ∧
    Tells scoreKey scored state.1.scores state.2.scores

/-- A call does not omit a text where one is stored. -/
def OmitsNothing (database : Database) (call : GradingCall) : Prop :=
  match call.request with
  | .submit _ _ => True
  | .grade submissionId dto =>
    dto.feedback = .omitted → ∀ submission ∈ database.submissions,
      Grades call.tenantId call.draw submissionId submission → submission.feedback = none
  | .recordScore testId dto =>
    dto.remarks = .omitted → ∀ test, Scores call.ambient call.draw testId dto database.tests test →
      ∀ score ∈ database.scores,
        scoreKey score = (call.tenantId, test.id, dto.studentId.id) → score.remarks = none

/-- What the indexes promise of submissions and scores. -/
structure GradingIndexed (database : Database) : Prop where
  submissions : TenantModel.Indexed submissionKey database.submissions
  scores : TenantModel.Indexed scoreKey database.scores

/-- What a call does to the tables and the log: nothing, or one revision of a table with an
entry under the same key. The value of the entry is what the revision stores exactly when the
call omits nothing. -/
inductive GradingEffect (database : Database) (log : GradingLog) (call : GradingCall) :
    Database → GradingLog → Prop where
  | nothing (after : Database) (submissions : after.submissions = database.submissions)
      (scores : after.scores = database.scores) (omits : OmitsNothing database call) :
      GradingEffect database log call after log
  | submission (after : Database) (target : String × ObjectId × ObjectId)
      (change : Submission → Submission) (added : Submission)
      (value : Option String × Option String)
      (revised : after.submissions =
        revise submissionKey target change added database.submissions)
      (ids : Records.Distinct Submission.id after.submissions)
      (scores : after.scores = database.scores)
      (keeps : ∀ submission, submissionKey (change submission) = submissionKey submission)
      (under : submissionKey added = target)
      (fresh : target ∉ database.submissions.map submissionKey → graded added = value)
      (rewrites : OmitsNothing database call ↔ ∀ submission ∈ database.submissions,
        submissionKey submission = target → graded (change submission) = value) :
      GradingEffect database log call after
        { log with gradings := log.gradings ++ [(target, value)] }
  | score (after : Database) (target : String × ObjectId × ObjectId)
      (change : TestScore → TestScore) (added : TestScore) (value : ℚ × Option String)
      (revised : after.scores = revise scoreKey target change added database.scores)
      (ids : Records.Distinct TestScore.id after.scores)
      (submissions : after.submissions = database.submissions)
      (keeps : ∀ score, scoreKey (change score) = scoreKey score)
      (under : scoreKey added = target)
      (fresh : target ∉ database.scores.map scoreKey → scored added = value)
      (rewrites : OmitsNothing database call ↔ ∀ score ∈ database.scores,
        scoreKey score = target → scored (change score) = value) :
      GradingEffect database log call after
        { log with scores := log.scores ++ [(target, value)] }

/-- An update leaves what the body gives exactly when it omits nothing that is stored. -/
theorem update_given_iff (stored : Option String) (text : OptionalText) :
    text.update stored = text.given ↔ (text = .omitted → stored = none) := by
  cases text <;> simp [OptionalText.update, OptionalText.given]

/-- The effect of a grading. -/
theorem grade_effect (deployment : AcademicsDeployment) {database : Database}
    (indexed : GradingIndexed database) (log : GradingLog) {tenantId : String}
    (named : tenantId ≠ "") (draw : AcademicsDraw) (submissionId : String)
    (dto : GradeSubmissionDto) :
    GradingEffect database log ⟨tenantId, named, draw, .grade submissionId dto⟩
      (performGrading deployment database ⟨tenantId, named, draw, .grade submissionId dto⟩)
      (log.record deployment database ⟨tenantId, named, draw, .grade submissionId dto⟩) := by
  obtain ⟨scores, submissions⟩ := grade_writes
    (GradingCall.bound ⟨tenantId, named, draw, .grade submissionId dto⟩) deployment draw
    submissionId dto database
  simp only [GradingLog.record]
  cases found : database.submissions.find? (fun submission =>
      decide (Grades tenantId draw submissionId submission)) with
  | none =>
    rw [found] at submissions
    refine .nothing _ submissions scores ?_
    intro _ submission stored grades
    have missed := List.find?_eq_none.mp found submission stored
    simp [grades] at missed
  | some submission =>
    rw [found] at submissions
    have stored := List.mem_of_find?_eq_some found
    have grades : Grades tenantId draw submissionId submission := by
      simpa using List.find?_some found
    have keepsId : ∀ other, (gradeSubmission dto other).id = other.id := fun _ => rfl
    refine .submission _ (submissionKey submission) (gradeSubmission dto) submission _ ?_ ?_ scores
      (fun _ => rfl) rfl (fun absent => absurd (List.mem_map_of_mem stored) absent) ?_
    · refine submissions.trans ?_
      rw [revise, if_pos (List.mem_map_of_mem stored)]
      exact TenantModel.modify_by_key indexed.submissions.ids indexed.submissions.keys stored _
    · rw [performGrading, submissions]
      exact Records.modify_distinct keepsId indexed.submissions.ids
    · constructor
      · intro omits other held same
        obtain rfl := Records.same_record indexed.submissions.keys held stored same
        have given : dto.feedback.update other.feedback = dto.feedback.given :=
          (update_given_iff _ _).mpr (fun omitted => omits omitted other stored grades)
        exact congrArg (Prod.mk (some dto.grade)) given
      · intro rewritten omitted other held others
        have sameId : other.id = submission.id :=
          Option.some.inj (others.2.2.symm.trans grades.2.2)
        obtain rfl := Records.same_record indexed.submissions.ids held stored sameId
        have given : dto.feedback.update other.feedback = dto.feedback.given :=
          congrArg Prod.snd (rewritten other held rfl)
        exact (update_given_iff _ _).mp given omitted

/-- The effect of a submission. -/
theorem submit_effect (deployment : AcademicsDeployment) {database : Database}
    (indexed : GradingIndexed database) (log : GradingLog) {tenantId : String}
    (named : tenantId ≠ "") (draw : AcademicsDraw) (assignmentId : String)
    (dto : SubmitAssignmentDto) :
    GradingEffect database log ⟨tenantId, named, draw, .submit assignmentId dto⟩
      (performGrading deployment database ⟨tenantId, named, draw, .submit assignmentId dto⟩)
      (log.record deployment database ⟨tenantId, named, draw, .submit assignmentId dto⟩) := by
  rcases submit_writes (GradingCall.bound ⟨tenantId, named, draw, .submit assignmentId dto⟩)
    draw assignmentId dto indexed.submissions with
    ⟨thrown, refused, _⟩ | ⟨_, target, stored, submissions, casts, answered, revised, ids⟩
  · simp only [performGrading, GradingLog.record, refused]
    split
    · rename_i answer
      cases answer
    · exact .nothing database rfl rfl trivial
  · simp only [performGrading, GradingLog.record, answered, casts]
    exact .submission _ _ (resubmit dto.fileUrl draw.now) (newSubmission tenantId draw target dto) _
      revised ids rfl (fun _ => rfl) rfl (fun _ => rfl)
      (iff_of_true trivial (fun _ _ _ => rfl))

/-- The effect of a score. -/
theorem record_score_effect (deployment : AcademicsDeployment) {database : Database}
    (indexed : GradingIndexed database) (log : GradingLog) {tenantId : String}
    (named : tenantId ≠ "") (draw : AcademicsDraw) (testId : String) (dto : RecordScoreDto) :
    GradingEffect database log ⟨tenantId, named, draw, .recordScore testId dto⟩
      (performGrading deployment database ⟨tenantId, named, draw, .recordScore testId dto⟩)
      (log.record deployment database ⟨tenantId, named, draw, .recordScore testId dto⟩) := by
  rcases record_score_writes
    (GradingCall.bound ⟨tenantId, named, draw, .recordScore testId dto⟩) deployment draw testId dto
    indexed.scores with
    ⟨thrown, refused, unstored⟩ | ⟨test, stored, scores, writes, casts, answered, revised, ids⟩
  · simp only [performGrading, GradingLog.record, refused]
    split
    · rename_i answer
      cases answer
    · exact .nothing database rfl rfl (fun _ test writes score held under =>
        absurd under (unstored test writes score held))
  · simp only [performGrading, GradingLog.record, answered, casts]
    refine .score _ _ (rescore dto) (newScore tenantId draw test.id dto) _ revised ids rfl
      (fun _ => rfl) rfl (fun _ => rfl) ?_
    constructor
    · intro omits score held under
      have given : dto.remarks.update score.remarks = dto.remarks.given :=
        (update_given_iff _ _).mpr (fun omitted => omits omitted test writes score held under)
      exact congrArg (Prod.mk dto.marks) given
    · intro rewritten omitted other others score held under
      obtain rfl : test = other := by simpa using writes.2.2.1.symm.trans others.2.2.1
      have given : dto.remarks.update score.remarks = dto.remarks.given :=
        congrArg Prod.snd (rewritten score held under)
      exact (update_given_iff _ _).mp given omitted

/-- Every call has one of the effects. -/
theorem grading_effect (deployment : AcademicsDeployment) {database : Database}
    (indexed : GradingIndexed database) (log : GradingLog) (call : GradingCall) :
    GradingEffect database log call (performGrading deployment database call)
      (log.record deployment database call) := by
  obtain ⟨tenantId, named, draw, request⟩ := call
  cases request with
  | submit assignmentId dto => exact submit_effect deployment indexed log named draw assignmentId dto
  | grade submissionId dto => exact grade_effect deployment indexed log named draw submissionId dto
  | recordScore testId dto => exact record_score_effect deployment indexed log named draw testId dto

/-- Every call keeps the tables indexed. -/
theorem grading_indexed (deployment : AcademicsDeployment) {database : Database}
    (indexed : GradingIndexed database) (call : GradingCall) :
    GradingIndexed (performGrading deployment database call) := by
  have effect := grading_effect deployment indexed {} call
  generalize performGrading deployment database call = after at effect ⊢
  generalize GradingLog.record deployment database {} call = log at effect
  cases effect with
  | nothing submissions scores omits =>
    exact ⟨by rw [submissions]; exact indexed.submissions, by rw [scores]; exact indexed.scores⟩
  | submission target change added value revised ids scores keeps under fresh rewrites =>
    refine ⟨⟨ids, ?_⟩, by rw [scores]; exact indexed.scores⟩
    rw [revised]
    exact revise_distinct keeps under indexed.submissions.keys
  | score target change added value revised ids submissions keeps under fresh rewrites =>
    refine ⟨by rw [submissions]; exact indexed.submissions, ⟨ids, ?_⟩⟩
    rw [revised]
    exact revise_distinct keeps under indexed.scores.keys

/-- A call after which the records tell the log is one that omits nothing that is stored. -/
theorem take_tells_iff (deployment : AcademicsDeployment) {state : Database × GradingLog}
    (indexed : GradingIndexed state.1) (tells : TellsCalls state) (call : GradingCall) :
    TellsCalls (takeGrading deployment state call) ↔ OmitsNothing state.1 call := by
  obtain ⟨database, log⟩ := state
  obtain ⟨submissionsTell, scoresTell⟩ := tells
  have effect := grading_effect deployment indexed log call
  unfold TellsCalls takeGrading
  simp only at submissionsTell scoresTell indexed ⊢
  generalize performGrading deployment database call = after at effect ⊢
  generalize GradingLog.record deployment database log call = next at effect ⊢
  cases effect with
  | nothing submissions scores omits =>
    rw [submissions, scores]
    exact iff_of_true ⟨submissionsTell, scoresTell⟩ omits
  | submission target change added value revised ids scores keeps under fresh rewrites =>
    rw [revised, scores, tells_revise_iff keeps under submissionsTell, rewrites]
    exact ⟨fun told => told.1.1, fun rewritten => ⟨⟨rewritten, fresh⟩, scoresTell⟩⟩
  | score target change added value revised ids submissions keeps under fresh rewrites =>
    rw [revised, submissions, tells_revise_iff keeps under scoresTell, rewrites]
    exact ⟨fun told => told.2.1, fun rewritten => ⟨submissionsTell, rewritten, fresh⟩⟩

/-- In a run from a database without submissions and scores, every record tells in every state
what the last call about it gave, exactly when no call of the run omits a text where one is
stored.

Proof: records have distinct keys in every state, and a call keeps them telling what was given
exactly when it omits nothing, for an omitted text is left as it was. -/
theorem records_tell_calls_iff (deployment : AcademicsDeployment) (start : Database)
    (noSubmissions : start.submissions = []) (noScores : start.scores = [])
    (calls : List GradingCall) :
    Always (takeGrading deployment) TellsCalls (start, {}) calls ↔
      Along (takeGrading deployment) (fun state call => OmitsNothing state.1 call) (start, {})
        calls := by
  have indexed : GradingIndexed start := by
    constructor
    · rw [noSubmissions]
      exact ⟨List.nodup_nil, List.nodup_nil⟩
    · rw [noScores]
      exact ⟨List.nodup_nil, List.nodup_nil⟩
  have told : TellsCalls (start, {}) := by
    simp [TellsCalls, Tells, noSubmissions, noScores]
  have preserved (state : Database × GradingLog) (call : GradingCall)
      (indexed : GradingIndexed state.1) : GradingIndexed (takeGrading deployment state call).1 :=
    grading_indexed deployment indexed call
  exact always_iff_along preserved
    (fun _ call indexed tells => take_tells_iff deployment indexed tells call) indexed told calls

/-- A deployment without push credentials. -/
def quietDeployment : AcademicsDeployment :=
  { push := .none, numberToString := fun marks => toString marks.num }

/-- A class with an essay to hand in and a test. -/
def openClass : Database :=
  { gradedClass with
    submissions := []
    tests :=
      [{ id := .repeated 'e', tenantId := "institute-a", batchId := .repeated '4', title := "Quiz",
         maxMarks := 100, date := 0 }] }

/-- A request of the class's institute. -/
def classCall (recordId : ObjectId) (request : GradingRequest) : GradingCall :=
  { tenantId := "institute-a", named := by decide,
    draw := { recordId := recordId, notificationId := recordId, now := 1 }, request := request }

/-- The essay is handed in and graded with feedback. -/
def essayGraded : List GradingCall :=
  [classCall (.repeated 'b') (.submit (ObjectId.repeated 'a').hex
      { studentId := .ofId (.repeated '2'), fileUrl := "https://files.test/b.pdf" }),
    classCall (.repeated 'c') (.grade (ObjectId.repeated 'b').hex
      { grade := "C", feedback := .text "Too short" })]

/-- It is graded again without feedback. -/
def essayRegraded : List GradingCall :=
  essayGraded ++ [classCall (.repeated 'd') (.grade (ObjectId.repeated 'b').hex { grade := "A" })]

/-- The feedback of the first grading stays beside the grade of the second. -/
theorem regraded_keeps_feedback :
    (run (takeGrading quietDeployment) (openClass, {}) essayRegraded).1.submissions.map graded =
      [(some "A", some "Too short")] ∧
    lastUnder ("institute-a", .repeated 'a', .repeated '2')
        (run (takeGrading quietDeployment) (openClass, {}) essayRegraded).2.gradings =
      some (some "A", none) ∧
    ¬ Always (takeGrading quietDeployment) TellsCalls (openClass, {}) essayRegraded := by
  refine ⟨by decide +kernel, by decide +kernel, ?_⟩
  intro always
  have told := always essayRegraded [] (List.append_nil _).symm
  revert told
  unfold TellsCalls Tells
  decide +kernel

/-- It is handed in and graded again, and the test is scored twice, with remarks that the second
score takes back. -/
def essayResubmitted : List GradingCall :=
  essayGraded ++
    [classCall (.repeated 'd') (.submit (ObjectId.repeated 'a').hex
        { studentId := .ofId (.repeated '2'), fileUrl := "https://files.test/d.pdf" }),
      classCall (.repeated 'e') (.grade (ObjectId.repeated 'b').hex { grade := "A" }),
      classCall (.repeated 'f') (.recordScore (ObjectId.repeated 'e').hex
        { studentId := .ofId (.repeated '2'), marks := 40, remarks := .text "Retake" }),
      classCall (.repeated '1') (.recordScore (ObjectId.repeated 'e').hex
        { studentId := .ofId (.repeated '2'), marks := 80, remarks := .null })]

/-- No record has anything of an earlier call. -/
theorem resubmitted_tells :
    Always (takeGrading quietDeployment) TellsCalls (openClass, {}) essayResubmitted := by
  refine (records_tell_calls_iff quietDeployment openClass rfl rfl essayResubmitted).mpr ?_
  have cleared : ∀ submission ∈ (run (takeGrading quietDeployment) (openClass, {})
      (essayResubmitted.take 3)).1.submissions, submission.feedback = none := by
    decide +kernel
  refine ⟨trivial, nofun, trivial, ?_, nofun, nofun, trivial⟩
  intro _ submission stored _
  exact cleared submission stored

end AcademicsService

end CoachingApi
