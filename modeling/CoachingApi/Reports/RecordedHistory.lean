import CoachingApi.Academics.GradingRecords
import CoachingApi.Attendance.MarkRetries
import CoachingApi.Library.Histories
import CoachingApi.Reports.ReportsService

/-!
# The reports of presence and of marks, from what was recorded

What the two reports are for: to tell what was recorded. A history lists the statuses set for
class days and the marks given in tests, in order. For each student with a class day the report
of presence tells on how many of them the status set last is one of attending, and the report of
marks tells the average, over the student's tests, of the marks given last.
-/

namespace CoachingApi

open TenantContextStore TenantPlugin Rounding Revisions

/-- The statuses set for class days. -/
abbrev PresenceHistory :=
  List ((String × ObjectId × ObjectId × Int) × (AttendanceStatus × Option ObjectId × AttendanceSource))

/-- The marks given in tests. -/
abbrev MarksHistory := List ((String × ObjectId × ObjectId) × ℚ)

namespace ReportsService

/-- The status set last for a class day is one of attending. -/
def cameLast (settled : Option (AttendanceStatus × Option ObjectId × AttendanceSource)) : Bool :=
  settled.any (fun marks => decide (marks.1 = .present ∨ marks.1 = .late))

/-- The class days of an institute's student. -/
def ownDay (tenantId : String) (studentId : ObjectId)
    (day : String × ObjectId × ObjectId × Int) : Bool :=
  decide (day.1 = tenantId ∧ day.2.1 = studentId)

/-- What a history says of one student's presence. -/
def presenceIn (tenantId : String) (history : PresenceHistory) (studentId : ObjectId) :
    PresenceSummary :=
  let days := (Histories.keys history).filter (ownDay tenantId studentId)
  let present := days.countP (fun day => cameLast (lastUnder day history))
  { studentId := studentId.hex
    present := present
    total := days.length
    rate := toHundredths ((present : ℚ) / days.length) }

/-- What a history says of presence: one row for each student of the institute's class days. -/
def presenceTold (tenantId : String) (history : PresenceHistory) : List PresenceSummary :=
  (((Histories.keys history).filter (fun day => decide (day.1 = tenantId))).map
    (fun day => day.2.1)).dedup.map (presenceIn tenantId history)

/-- The tests of an institute's student. -/
def ownTest (tenantId : String) (studentId : ObjectId) (test : String × ObjectId × ObjectId) :
    Bool :=
  decide (test.1 = tenantId ∧ test.2.2 = studentId)

/-- What a history says of one student's marks. -/
def marksIn (tenantId : String) (history : MarksHistory) (studentId : ObjectId) : MarksSummary :=
  let tests := (Histories.keys history).filter (ownTest tenantId studentId)
  { studentId := studentId.hex
    avgMarks := toHundredths
      ((tests.map (fun test => (lastUnder test history).getD 0)).sum / tests.length)
    tests := tests.length }

/-- What a history says of marks: one row for each student of the institute's tests. -/
def marksTold (tenantId : String) (history : MarksHistory) : List MarksSummary :=
  (((Histories.keys history).filter (fun test => decide (test.1 = tenantId))).map
    (fun test => test.2.2)).dedup.map (marksIn tenantId history)

section Presence

variable {attendance : List Attendance} {history : PresenceHistory}
  (follows : Histories.Follows AttendanceService.recordKey AttendanceService.marks attendance
    history)
include follows

/-- A student's group of records counts the student's class days in the history. -/
theorem presence_group (tenantId : String) (studentId : ObjectId) :
    let group := (attendance.filter (fun record => decide (record.tenantId = tenantId))).filter
      (fun record => decide (record.studentId = studentId))
    let days := (Histories.keys history).filter (ownDay tenantId studentId)
    group.length = days.length ∧
      (group.map (fun record => if attended record then 1 else 0)).sum =
        days.countP (fun day => cameLast (lastUnder day history)) := by
  intro group days
  have own : group = attendance.filter
      (fun record => ownDay tenantId studentId (AttendanceService.recordKey record)) := by
    unfold group
    rw [List.filter_filter]
    apply List.filter_congr
    intro record _
    rw [ownDay, AttendanceService.recordKey, Bool.decide_and, Bool.and_comm]
  constructor
  · rw [own, ← List.countP_eq_length_filter, ← List.countP_eq_length_filter]
    exact follows.count (fun day _ => ownDay tenantId studentId day)
  · have counted := follows.sum (ownDay tenantId studentId)
      (fun settled => if cameLast settled then 1 else 0)
    have status (record : Attendance) :
        cameLast (some (AttendanceService.marks record)) = attended record := rfl
    simp only [status] at counted
    rw [own, counted]
    exact Grouping.sum_of_ones (fun day => cameLast (lastUnder day history)) days

/-- The students with records are those with class days. -/
theorem presence_students (tenantId : String) :
    ((attendance.filter (fun record => decide (record.tenantId = tenantId))).map
        Attendance.studentId).Perm
      (((Histories.keys history).filter (fun day => decide (day.1 = tenantId))).map
        (fun day => day.2.1)) := by
  have days := (follows.keys_perm.filter (fun day => decide (day.1 = tenantId))).map
    (fun day => day.2.1)
  rw [List.filter_map, List.map_map] at days
  exact days

/-- The row made of a student's group is what the history says of the student. -/
theorem presence_row (tenantId : String) (studentId : ObjectId) :
    let group := (attendance.filter (fun record => decide (record.tenantId = tenantId))).filter
      (fun record => decide (record.studentId = studentId))
    presenceOf
        { studentId := studentId
          present := (group.map (fun record => if attended record then 1 else 0)).sum
          total := group.length } =
      presenceIn tenantId history studentId := by
  intro group
  obtain ⟨total, present⟩ := presence_group follows tenantId studentId
  unfold presenceOf presenceIn
  rw [total, present]
  simp only [PresenceSummary.mk.injEq, true_and]
  split
  · rename_i nothing
    rw [nothing, Nat.cast_zero, div_zero, to_hundredths_fixed whole_zero]
  · rfl

/-- The report of presence tells the history, in whatever order the groups come. -/
theorem attendance_summary_told {ambient : Ambient} {tenantId : String}
    (bound : Bound ambient tenantId) {arrange : List PresenceRow → List PresenceRow}
    (arranges : ∀ rows, (arrange rows).Perm rows) {database : Database}
    (stored : database.attendance = attendance) :
    ∃ rows, attendanceSummary ambient arrange database = .ok rows ∧
      rows.Perm (presenceTold tenantId history) := by
  let own := attendance.filter (fun record => decide (record.tenantId = tenantId))
  have answered : attendanceSummary ambient arrange database =
      .ok ((arrange (groupPresence own)).map presenceOf) := by
    have read := TenantModel.aggregate_bound bound groupPresence database.attendance
    rw [stored] at read
    simp only [attendanceSummary, stored, read]
    rfl
  refine ⟨_, answered, ?_⟩
  have rows : (groupPresence own).map presenceOf =
      (own.map Attendance.studentId).dedup.map (presenceIn tenantId history) := by
    rw [groupPresence, Grouping.groups, List.map_map, List.map_map]
    apply List.map_congr_left
    intro studentId _
    exact presence_row follows tenantId studentId
  have students := (presence_students follows tenantId).dedup.map (presenceIn tenantId history)
  rw [← rows] at students
  exact ((arranges (groupPresence own)).map presenceOf).trans students

end Presence

section Marks

variable {scores : List TestScore} {history : MarksHistory}
  (follows : Histories.Follows AcademicsService.scoreKey TestScore.marks scores history)
include follows

/-- A student's group of scores sums the marks given last in the student's tests. -/
theorem marks_group (tenantId : String) (studentId : ObjectId) :
    let group := (scores.filter (fun score => decide (score.tenantId = tenantId))).filter
      (fun score => decide (score.studentId = studentId))
    let tests := (Histories.keys history).filter (ownTest tenantId studentId)
    group.length = tests.length ∧
      (group.map TestScore.marks).sum =
        (tests.map (fun test => (lastUnder test history).getD 0)).sum := by
  intro group tests
  have own : group = scores.filter
      (fun score => ownTest tenantId studentId (AcademicsService.scoreKey score)) := by
    unfold group
    rw [List.filter_filter]
    apply List.filter_congr
    intro score _
    rw [ownTest, AcademicsService.scoreKey, Bool.decide_and, Bool.and_comm]
  constructor
  · rw [own, ← List.countP_eq_length_filter, ← List.countP_eq_length_filter]
    exact follows.count (fun test _ => ownTest tenantId studentId test)
  · rw [own]
    exact follows.sum (ownTest tenantId studentId) (fun given => given.getD 0)

/-- The students with scores are those with tests. -/
theorem marks_students (tenantId : String) :
    ((scores.filter (fun score => decide (score.tenantId = tenantId))).map
        TestScore.studentId).Perm
      (((Histories.keys history).filter (fun test => decide (test.1 = tenantId))).map
        (fun test => test.2.2)) := by
  have tests := (follows.keys_perm.filter (fun test => decide (test.1 = tenantId))).map
    (fun test => test.2.2)
  rw [List.filter_map, List.map_map] at tests
  exact tests

/-- The row made of a student's group is what the history says of the student. -/
theorem marks_row (tenantId : String) (studentId : ObjectId) :
    let group := (scores.filter (fun score => decide (score.tenantId = tenantId))).filter
      (fun score => decide (score.studentId = studentId))
    marksOf
        { studentId := studentId
          avg := (group.map TestScore.marks).sum / group.length
          count := group.length } =
      marksIn tenantId history studentId := by
  intro group
  obtain ⟨tests, sum⟩ := marks_group follows tenantId studentId
  unfold marksOf marksIn
  rw [tests, sum]

/-- The report of marks tells the history, in whatever order the groups come. -/
theorem performance_summary_told {ambient : Ambient} {tenantId : String}
    (bound : Bound ambient tenantId) {arrange : List MarksRow → List MarksRow}
    (arranges : ∀ rows, (arrange rows).Perm rows) {database : Database}
    (stored : database.scores = scores) :
    ∃ rows, performanceSummary ambient arrange database = .ok rows ∧
      rows.Perm (marksTold tenantId history) := by
  let own := scores.filter (fun score => decide (score.tenantId = tenantId))
  have answered : performanceSummary ambient arrange database =
      .ok ((arrange (groupMarks own)).map marksOf) := by
    have read := TenantModel.aggregate_bound bound groupMarks database.scores
    rw [stored] at read
    simp only [performanceSummary, stored, read]
    rfl
  refine ⟨_, answered, ?_⟩
  have rows : (groupMarks own).map marksOf =
      (own.map TestScore.studentId).dedup.map (marksIn tenantId history) := by
    rw [groupMarks, Grouping.groups, List.map_map, List.map_map]
    apply List.map_congr_left
    intro studentId _
    exact marks_row follows tenantId studentId
  have students := (marks_students follows tenantId).dedup.map (marksIn tenantId history)
  rw [← rows] at students
  exact ((arranges (groupMarks own)).map marksOf).trans students

end Marks

/-- A rate lies between nothing and one. -/
theorem presence_rate (tenantId : String) (history : PresenceHistory) (studentId : ObjectId) :
    0 ≤ (presenceIn tenantId history studentId).rate ∧
      (presenceIn tenantId history studentId).rate ≤ 1 := by
  let days := (Histories.keys history).filter (ownDay tenantId studentId)
  have counted : days.countP (fun day => cameLast (lastUnder day history)) ≤ days.length :=
    List.countP_le_length
  have whole : Whole 1 := by simpa using whole_hundredths 100
  apply to_hundredths_between whole_zero whole
  · positivity
  · exact div_le_one_of_le₀ (Nat.cast_le.mpr counted) (Nat.cast_nonneg _)

end ReportsService

end CoachingApi
