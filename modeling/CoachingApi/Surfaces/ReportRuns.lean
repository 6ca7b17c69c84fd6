import CoachingApi.Reports.RecordedHistory
import CoachingApi.Surfaces.RouteRoles

/-!
# The reports after any run

Each marking that the guard admits records the statuses of the entries it comes to store, all of
them when it is answered, and each answered score records its marks. Whatever else the members
of all institutes ask for in between, attendance and scores follow what was recorded, so the
reports of an institute tell its history.
-/

namespace CoachingApi

open TenantModel TenantPlugin TenantContextStore

namespace AttendanceService

variable {deployment : ClassDeployment} {ambient : Ambient} {tenantId : String}
  {markedBy : ObjectId} {batchId : MongoId} {date : Int}

/-- The upsert of an entry is stored. -/
def upserts (ambient : Ambient) (markedBy : ObjectId) (batchId : MongoId) (date : Int)
    (draw : MarkDraw) (entry : MarkEntryDto) (database : Database) : Bool :=
  decide (draw.failing ≠ some .upsert) &&
    (upsertRecord ambient markedBy batchId.id date draw entry database.attendance).isOk

/-- The entries of a marking whose records it stores before it ends. -/
def storedEntries (deployment : ClassDeployment) (ambient : Ambient) (markedBy : ObjectId)
    (batchId : MongoId) (date : Int) :
    List MarkEntryDto → (Nat → MarkDraw) → Database → List MarkEntryDto
  | [], _, _ => []
  | entry :: rest, draw, database =>
    if upserts ambient markedBy batchId date (draw 0) entry database then
      match markEntry deployment ambient markedBy batchId date (draw 0) entry database with
      | (_, .error _) => [entry]
      | (marked, .ok _) =>
        entry :: storedEntries deployment ambient markedBy batchId date rest
          (fun i => draw (i + 1)) marked
    else []

variable (deployment ambient markedBy batchId date) in
/-- An entry leaves what its upsert stores, and an entry that stores nothing ends the marking. -/
theorem mark_entry_stores (draw : MarkDraw) (entry : MarkEntryDto) (database : Database) :
    if upserts ambient markedBy batchId date draw entry database then
      ∃ stored, upsertRecord ambient markedBy batchId.id date draw entry database.attendance =
        .ok (stored,
          (markEntry deployment ambient markedBy batchId date draw entry database).1.attendance)
    else
      (markEntry deployment ambient markedBy batchId date draw entry database).1 = database ∧
        ∃ thrown, (markEntry deployment ambient markedBy batchId date draw entry database).2 =
          .error thrown := by
  unfold markEntry upserts
  by_cases fails : draw.failing = some .upsert
  · simp [fails]
  · cases upserted : upsertRecord ambient markedBy batchId.id date draw entry
        database.attendance with
    | error thrown => simp [fails, Except.isOk, Except.toBool]
    | ok outcome =>
      obtain ⟨stored, attendance⟩ := outcome
      simp only [fails, ne_eq, not_false_eq_true, decide_true, Except.isOk, Except.toBool,
        Bool.and_self, if_true, if_false]
      refine ⟨stored, ?_⟩
      split
      · rw [notify_absence_keeps]
      · rfl

variable (deployment markedBy batchId date) in
/-- A marking assigns the entries that it stores.

Proof: by induction on the entries. -/
theorem stored_entries_assigned (bound : Bound ambient tenantId) (entries : List MarkEntryDto)
    (draw : Nat → MarkDraw) (absencesNotified : Nat) {database : Database}
    (indexed : Indexed database.attendance) :
    Assigned tenantId markedBy batchId.id date
      (storedEntries deployment ambient markedBy batchId date entries draw database)
      database.attendance
      (markEntries deployment ambient markedBy batchId date entries draw absencesNotified
        database).1.attendance := by
  induction entries generalizing draw absencesNotified database with
  | nil => exact assigned_refl indexed
  | cons entry rest inductionHypothesis =>
    have stores := mark_entry_stores deployment ambient markedBy batchId date (draw 0) entry database
    unfold storedEntries markEntries
    rcases outcome : markEntry deployment ambient markedBy batchId date (draw 0) entry database with
      ⟨marked, thrown | notified⟩
    · simp only [outcome] at stores ⊢
      split at stores
      · rename_i upserted
        obtain ⟨stored, result⟩ := stores
        rw [if_pos upserted]
        exact upsert_record_ok bound indexed result
      · rename_i refused
        rw [if_neg refused, stores.1]
        exact assigned_refl indexed
    · simp only [outcome] at stores ⊢
      split at stores
      · rename_i upserted
        obtain ⟨stored, result⟩ := stores
        have one := upsert_record_ok bound indexed result
        rw [if_pos upserted]
        exact one.append (inductionHypothesis (fun i => draw (i + 1))
          (if notified then absencesNotified + 1 else absencesNotified) one.indexed)
      · obtain ⟨_, thrown, failed⟩ := stores
        cases failed

variable (deployment ambient markedBy batchId date) in
/-- A marking that is answered stores all of its entries.

Proof: by induction on the entries. -/
theorem stored_entries_answered (entries : List MarkEntryDto) (draw : Nat → MarkDraw)
    (absencesNotified : Nat) {database : Database}
    (answered : (markEntries deployment ambient markedBy batchId date entries draw absencesNotified
      database).2.isOk = true) :
    storedEntries deployment ambient markedBy batchId date entries draw database = entries := by
  induction entries generalizing draw absencesNotified database with
  | nil => rfl
  | cons entry rest inductionHypothesis =>
    have stores := mark_entry_stores deployment ambient markedBy batchId date (draw 0) entry database
    unfold markEntries at answered
    unfold storedEntries
    rcases outcome : markEntry deployment ambient markedBy batchId date (draw 0) entry database with
      ⟨marked, thrown | notified⟩
    · simp [outcome, Except.isOk, Except.toBool] at answered
    · simp only [outcome] at stores answered ⊢
      split at stores
      · rename_i upserted
        rw [if_pos upserted, inductionHypothesis _ _ answered]
      · obtain ⟨_, thrown, failed⟩ := stores
        cases failed

end AttendanceService

namespace TenantApi

/-- What a call records of presence: the entries that an admitted marking stores. -/
def presenceRecorded (deployment : TenantApiDeployment) (campus : Campus) (call : Call) :
    PresenceHistory :=
  match admitted deployment call, call.request with
  | .ok user, .mark draw dto =>
    match newObjectId user.userId with
    | .error _ => []
    | .ok markedBy =>
      let date := AttendanceService.normalizeDate dto.date.instant
      (AttendanceService.storedEntries deployment.classes (intercept user.tenantId) markedBy
        dto.batchId date dto.entries draw campus.database).map
          (AttendanceService.assignment user.tenantId markedBy dto.batchId.id date)
  | _, _ => []

/-- What a call records of marks: those of a score that is answered. -/
def marksRecorded (deployment : TenantApiDeployment) (campus : Campus) (call : Call) :
    MarksHistory :=
  match admitted deployment call, call.request with
  | .ok user, .recordScore _ testText dto =>
    match ObjectId.cast testText, (handle deployment campus call).2 with
    | some testId, .ok _ => [((user.tenantId, testId, dto.studentId.id), dto.marks)]
    | _, _ => []
  | _, _ => []

/-- Attendance is indexed and follows a history. -/
def FollowsPresence (campus : Campus) (history : PresenceHistory) : Prop :=
  AttendanceService.Indexed campus.database.attendance ∧
    Histories.Follows AttendanceService.recordKey AttendanceService.marks
      campus.database.attendance history

/-- Scores are indexed and follow a history. -/
def FollowsMarks (campus : Campus) (history : MarksHistory) : Prop :=
  TenantModel.Indexed AcademicsService.scoreKey campus.database.scores ∧
    Histories.Follows AcademicsService.scoreKey TestScore.marks campus.database.scores history

/-- A marking that is answered records all of its entries. -/
theorem answered_marking_recorded (deployment : TenantApiDeployment) (campus : Campus)
    {call : Call} {user : TenantPrincipal} {draw : Nat → MarkDraw} {dto : MarkAttendanceDto}
    {markedBy : ObjectId} (admits : admitted deployment call = .ok user)
    (marking : call.request = .mark draw dto) (principal : newObjectId user.userId = .ok markedBy)
    (answered : (handle deployment campus call).2.isOk = true) :
    presenceRecorded deployment campus call = dto.entries.map
      (AttendanceService.assignment user.tenantId markedBy dto.batchId.id
        (AttendanceService.normalizeDate dto.date.instant)) := by
  have returned : (AttendanceService.markEntries deployment.classes (intercept user.tenantId)
      markedBy dto.batchId (AttendanceService.normalizeDate dto.date.instant) dto.entries draw 0
      campus.database).2.isOk = true := by
    simp only [handle, admits, marking, serve, principal, stored, AttendanceService.mark]
      at answered
    revert answered
    cases (AttendanceService.markEntries deployment.classes (intercept user.tenantId) markedBy
      dto.batchId (AttendanceService.normalizeDate dto.date.instant) dto.entries draw 0
      campus.database).2 <;> exact fun answered => answered
  simp only [presenceRecorded, admits, marking, principal]
  rw [AttendanceService.stored_entries_answered _ _ _ _ _ _ _ _ returned]

/-- A call keeps attendance following what is recorded. -/
theorem after_follows_presence (deployment : TenantApiDeployment) {campus : Campus} (call : Call)
    {history : PresenceHistory} (follows : FollowsPresence campus history) :
    FollowsPresence (after deployment campus call)
      (history ++ presenceRecorded deployment campus call) := by
  apply @after_keeps_history _ deployment campus call .attendance _ _ _ follows
  · intro next same kept
    have attendance : next.database.attendance = campus.database.attendance := same
    rw [FollowsPresence, attendance]
    exact kept
  · intro thrown admits
    simp only [presenceRecorded, admits]
  · intro user admits written
    cases request : call.request with
    | mark draw dto =>
      rw [request] at written
      simp [TenantRequest.writes] at written
    | _ => simp only [presenceRecorded, admits, request]
  intro user admits bound handled written
  have served : after deployment campus call =
      (serve deployment (intercept user.tenantId) user campus call.request).1 := by
    rw [after, handled]
  cases request : call.request with
  | mark draw dto =>
    cases principal : newObjectId user.userId with
    | error thrown =>
      have same : (after deployment campus call).database.attendance =
          campus.database.attendance := by
        rw [served, request]
        simp only [serve, principal]
        split
        · rfl
        · rfl
        · rename_i impossible
          cases impossible
      simp only [presenceRecorded, admits, request, principal, List.append_nil]
      rw [FollowsPresence, same]
      exact follows
    | ok markedBy =>
      simp only [presenceRecorded, admits, request, principal]
      have assigned := AttendanceService.stored_entries_assigned deployment.classes markedBy
        dto.batchId (AttendanceService.normalizeDate dto.date.instant) bound dto.entries draw 0
        follows.1
      have marked : (after deployment campus call).database.attendance =
          (AttendanceService.markEntries deployment.classes (intercept user.tenantId) markedBy
            dto.batchId (AttendanceService.normalizeDate dto.date.instant) dto.entries draw 0
            campus.database).1.attendance := by
        rw [served, request]
        simp only [serve, principal, stored, AttendanceService.mark]
      rw [FollowsPresence, marked]
      refine ⟨assigned.indexed, follows.2.assign assigned.indexed.keys ?_⟩
      exact fun sought => congrFun assigned.assigned sought
  | _ =>
    rw [request] at written
    simp [TenantRequest.writes] at written

/-- A call keeps scores following what is recorded. -/
theorem after_follows_marks (deployment : TenantApiDeployment) {campus : Campus} (call : Call)
    {history : MarksHistory} (follows : FollowsMarks campus history) :
    FollowsMarks (after deployment campus call)
      (history ++ marksRecorded deployment campus call) := by
  apply @after_keeps_history _ deployment campus call .scores _ _ _ follows
  · intro next same kept
    have scores : next.database.scores = campus.database.scores := same
    rw [FollowsMarks, scores]
    exact kept
  · intro thrown admits
    simp only [marksRecorded, admits]
  · intro user admits written
    cases request : call.request with
    | recordScore draw id dto =>
      rw [request] at written
      simp [TenantRequest.writes] at written
    | _ => simp only [marksRecorded, admits, request]
  intro user admits bound served written
  cases request : call.request with
  | recordScore draw id dto =>
    have scored : handle deployment campus call = stored campus .score
        (AcademicsService.recordScore deployment.academics (intercept user.tenantId) draw id dto
          campus.database) := by
      rw [served, request]
      rfl
    rcases AcademicsService.record_score_writes bound deployment.academics draw id dto
      follows.1 with ⟨thrown, refused, _⟩ | ⟨test, score, scores, _, casts, answered, revised, ids⟩
    · have nothing : marksRecorded deployment campus call = [] := by
        simp only [marksRecorded, admits, request, scored, refused, stored, Except.map]
        cases ObjectId.cast id <;> rfl
      have same : (after deployment campus call).database.scores = campus.database.scores := by
        simp only [after, scored, refused, stored]
      rw [nothing, List.append_nil, FollowsMarks, same]
      exact follows
    · have given : marksRecorded deployment campus call =
          [((user.tenantId, test.id, dto.studentId.id), dto.marks)] := by
        simp only [marksRecorded, admits, request, scored, answered, casts, stored, Except.map]
      have keeps : ∀ row, AcademicsService.scoreKey (AcademicsService.rescore dto row) =
          AcademicsService.scoreKey row := fun _ => rfl
      have tells : Histories.Follows AcademicsService.scoreKey TestScore.marks scores
          (history ++ [((user.tenantId, test.id, dto.studentId.id), dto.marks)]) := by
        rw [revised]
        exact follows.2.revise keeps rfl (fun _ => rfl) rfl
      rw [given, FollowsMarks, after, scored, answered]
      exact ⟨⟨ids, tells.distinct⟩, tells⟩
  | _ =>
    rw [request] at written
    simp [TenantRequest.writes] at written

/-- The report of presence tells what all calls before it recorded, whichever they were and from
whichever institutes: for each student with a class day the number of days, the number of those on
which the status set last is one of attending, and the rate of the two, between nothing and
one. A marking that is answered records each of its entries, and one that a failing notification
stops those that it has stored.

Proof: each call keeps the stored attendance following what is recorded. -/
theorem presence_report_tells_calls (deployment : TenantApiDeployment) {start : Campus}
    (indexed : AttendanceService.Indexed start.database.attendance) (calls : List Call)
    {ambient : Ambient} {tenantId : String} (bound : Bound ambient tenantId)
    {arrange : List ReportsService.PresenceRow → List ReportsService.PresenceRow}
    (arranges : ∀ rows, (arrange rows).Perm rows) :
    (let history := start.database.attendance.map
        (fun record => (AttendanceService.recordKey record, AttendanceService.marks record)) ++
      Runs.outputs (after deployment) (presenceRecorded deployment) start calls
    ∃ rows, ReportsService.attendanceSummary ambient arrange
        (Runs.run (after deployment) start calls).database = .ok rows ∧
      rows.Perm (ReportsService.presenceTold tenantId history) ∧
      ∀ row ∈ rows, 0 ≤ row.rate ∧ row.rate ≤ 1) ∧
    ∀ campus call user draw dto markedBy, admitted deployment call = .ok user →
      call.request = .mark draw dto → newObjectId user.userId = .ok markedBy →
      (handle deployment campus call).2.isOk = true →
        presenceRecorded deployment campus call = dto.entries.map
          (AttendanceService.assignment user.tenantId markedBy dto.batchId.id
            (AttendanceService.normalizeDate dto.date.instant)) := by
  refine ⟨?_, fun campus _ _ _ _ _ admits marking principal answered =>
    answered_marking_recorded deployment campus admits marking principal answered⟩
  intro history
  have ended : FollowsPresence (Runs.run (after deployment) start calls) history :=
    Runs.run_follows FollowsPresence
      (fun _ call _ follows => after_follows_presence deployment call follows)
      ⟨indexed, Histories.follows_start indexed.keys⟩ calls
  obtain ⟨rows, answered, told⟩ :=
    ReportsService.attendance_summary_told ended.2 bound arranges rfl
  refine ⟨rows, answered, told, ?_⟩
  intro row member
  obtain ⟨studentId, _, rfl⟩ := List.mem_map.mp (told.mem_iff.mp member)
  exact ReportsService.presence_rate tenantId history studentId

/-- A class of an institute before the marking that a failing notification stops. -/
def markedCampus : Campus := { database := AttendanceService.markedClass }

/-- The marking that a failing notification stops. -/
def stoppedMarking : Call :=
  callOf "institute-a" .teacher (.repeated '1')
    (.mark (AttendanceService.numberedDraws (some .notification)) AttendanceService.withdrawnAbsence)

/-- The entry that a stopped marking stored is told, and those after it are not. -/
theorem stopped_marking_reported :
    ∃ rows, ReportsService.attendanceSummary (some { tenantId := some "institute-a" }) List.reverse
        (Runs.run (after quiet) markedCampus [stoppedMarking]).database = .ok rows ∧
      rows.Perm [{ studentId := ObjectId.hex (.repeated '2'), present := 1, total := 2,
                   rate := 1 / 2 }] := by
  have indexed : AttendanceService.Indexed markedCampus.database.attendance := by
    constructor <;> decide +kernel
  obtain ⟨⟨rows, answered, told, _⟩, _⟩ := presence_report_tells_calls quiet indexed
    [stoppedMarking] (bound_run "institute-a" (by decide)) List.reverse_perm
  refine ⟨rows, answered, ?_⟩
  have history : ReportsService.presenceTold "institute-a"
      (markedCampus.database.attendance.map (fun record =>
          (AttendanceService.recordKey record, AttendanceService.marks record)) ++
        Runs.outputs (after quiet) (presenceRecorded quiet) markedCampus [stoppedMarking]) =
      [{ studentId := ObjectId.hex (.repeated '2'), present := 1, total := 2, rate := 1 / 2 }] := by
    decide +kernel
  exact history ▸ told

/-- The report of marks tells what all calls before it recorded: for each student with a score the
number of tests, and the average of the marks given last in each.

Proof: each call keeps the stored scores following what is recorded. -/
theorem marks_report_tells_calls (deployment : TenantApiDeployment) {start : Campus}
    (indexed : TenantModel.Indexed AcademicsService.scoreKey start.database.scores)
    (calls : List Call) {ambient : Ambient} {tenantId : String} (bound : Bound ambient tenantId)
    {arrange : List ReportsService.MarksRow → List ReportsService.MarksRow}
    (arranges : ∀ rows, (arrange rows).Perm rows) :
    ∃ rows, ReportsService.performanceSummary ambient arrange
        (Runs.run (after deployment) start calls).database = .ok rows ∧
      rows.Perm (ReportsService.marksTold tenantId
        (start.database.scores.map
            (fun score => (AcademicsService.scoreKey score, score.marks)) ++
          Runs.outputs (after deployment) (marksRecorded deployment) start calls)) := by
  have ended : FollowsMarks (Runs.run (after deployment) start calls)
      (start.database.scores.map (fun score => (AcademicsService.scoreKey score, score.marks)) ++
        Runs.outputs (after deployment) (marksRecorded deployment) start calls) :=
    Runs.run_follows FollowsMarks
      (fun _ call _ follows => after_follows_marks deployment call follows)
      ⟨indexed, Histories.follows_start indexed.keys⟩ calls
  exact ReportsService.performance_summary_told ended.2 bound arranges rfl

/-- A score of a student in the term's test. -/
def scoreOf (marks : ℚ) : Call :=
  callOf "institute-a" .teacher (.repeated '1')
    (.recordScore { recordId := .repeated 'a', notificationId := .repeated 'b', now := 0 }
      (ObjectId.hex (.repeated 'e')) { studentId := .ofId (.repeated '2'), marks := marks })

/-- An institute with one test. -/
def testedCampus : Campus :=
  { database := { tests := [{ id := .repeated 'e', tenantId := "institute-a",
                              batchId := .repeated 'f', title := "Term", maxMarks := 50,
                              date := 0 }] } }

/-- Only the marks given last are told, and marks beyond the test's are refused. -/
theorem rescored_marks_reported :
    ∃ rows, ReportsService.performanceSummary (some { tenantId := some "institute-a" }) List.reverse
        (Runs.run (after quiet) testedCampus [scoreOf 20, scoreOf 42, scoreOf 60]).database =
          .ok rows ∧
      rows.Perm [{ studentId := ObjectId.hex (.repeated '2'), avgMarks := 42, tests := 1 }] := by
  have indexed : TenantModel.Indexed AcademicsService.scoreKey testedCampus.database.scores := by
    constructor <;> decide +kernel
  obtain ⟨rows, answered, told⟩ := marks_report_tells_calls quiet indexed
    [scoreOf 20, scoreOf 42, scoreOf 60] (bound_run "institute-a" (by decide)) List.reverse_perm
  refine ⟨rows, answered, ?_⟩
  have history : ReportsService.marksTold "institute-a"
      (testedCampus.database.scores.map
          (fun score => (AcademicsService.scoreKey score, score.marks)) ++
        Runs.outputs (after quiet) (marksRecorded quiet) testedCampus
          [scoreOf 20, scoreOf 42, scoreOf 60]) =
      [{ studentId := ObjectId.hex (.repeated '2'), avgMarks := 42, tests := 1 }] := by
    decide +kernel
  exact history ▸ told

end TenantApi

end CoachingApi
