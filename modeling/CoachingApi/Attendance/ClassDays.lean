import CoachingApi.Attendance.MarkRetries
import CoachingApi.Library.Runs

/-!
# The day a marking counts for

A marking truncates its instant to a day of UTC, whatever the institute's time zone is. A
zone is held as the minutes that its clock is ahead of UTC. The institute's day of an
instant is ahead of the day of UTC when the instant is past the institute's midnight, so two
markings agree with the institute's calendar when both or neither of them are, and else only
where their days of UTC do not happen to differ by as much.
-/

namespace CoachingApi

open TenantContextStore TenantPlugin Runs

namespace DateString

/-- The day of UTC that an instant falls on. -/
def utcDay (date : DateString) : Int := date.instant / dayMilliseconds

/-- By how many days an institute's calendar is ahead of UTC's: a date on its own names its
day in both. -/
def daysAhead (zone : Int) : DateString → Int
  | .dateOnly _ => 0
  | .timestamp day time offset =>
    (DateString.instant (.timestamp day time offset) % dayMilliseconds + zone * 60000) /
      dayMilliseconds

/-- The day a date counts for in an institute's time zone. -/
def classDay (zone : Int) : DateString → Int
  | .dateOnly day => day
  | .timestamp day time offset =>
    (DateString.instant (.timestamp day time offset) + zone * 60000) / dayMilliseconds

/-- An institute's day is the day of UTC and the days that its calendar is ahead. -/
theorem class_day_ahead (zone : Int) (date : DateString) :
    date.classDay zone = date.utcDay + date.daysAhead zone := by
  cases date with
  | dateOnly day =>
    simp only [classDay, utcDay, daysAhead, instant, dayMilliseconds]
    omega
  | timestamp day time offset =>
    simp only [classDay, utcDay, daysAhead, dayMilliseconds]
    omega

/-- Dates are truncated alike when they fall on one day of UTC. -/
theorem normalize_date_iff (first second : DateString) :
    AttendanceService.normalizeDate first.instant = AttendanceService.normalizeDate second.instant ↔
      first.utcDay = second.utcDay := by
  unfold AttendanceService.normalizeDate utcDay dayMilliseconds
  constructor
  · intro same
    omega
  · intro same
    omega

/-- Two dates whose days of UTC tell their class days apart: the institute's calendar is
ahead by the same at both, or their days of UTC differ, and not by as much as it is. -/
def TellApart (zone : Int) (first second : DateString) : Prop :=
  first.daysAhead zone = second.daysAhead zone ∨
    first.utcDay ≠ second.utcDay ∧
      second.utcDay - first.utcDay ≠ first.daysAhead zone - second.daysAhead zone

/-- Whether two dates are told apart can be tested. -/
instance decidableTellApart (zone : Int) (first second : DateString) :
    Decidable (TellApart zone first second) :=
  inferInstanceAs (Decidable (_ ∨ _))

/-- The days of UTC agree with the class days exactly when they tell them apart. -/
theorem same_day_iff (zone : Int) (first second : DateString) :
    (first.utcDay = second.utcDay ↔ first.classDay zone = second.classDay zone) ↔
      TellApart zone first second := by
  unfold TellApart
  rw [class_day_ahead, class_day_ahead]
  constructor
  · intro agree
    omega
  · intro apart
    omega

end DateString

namespace AttendanceService

/-- A marking, with what it draws and meets outside. -/
structure Marking where
  deployment : ClassDeployment
  draw : Nat → MarkDraw
  markedBy : ObjectId
  dto : MarkAttendanceDto

/-- How a marking ends. -/
def Marking.outcome (ambient : Ambient) (database : Database) (marking : Marking) :
    Database × Except Thrown MarkResult :=
  mark marking.deployment ambient marking.draw marking.markedBy marking.dto database

/-- The database after a marking, however it ends. -/
def Marking.take (ambient : Ambient) (database : Database) (marking : Marking) : Database :=
  (marking.outcome ambient database).1

/-- The marking has an entry for a student. -/
def Marking.Names (marking : Marking) (studentId : ObjectId) : Prop :=
  ∃ entry ∈ marking.dto.entries, entry.studentId.id = studentId

/-- The record of a student that a marking wrote, in the database after it. -/
def Marking.written (tenantId : String) (studentId : ObjectId) (marking : Marking)
    (after : Database) : Option Attendance :=
  Records.lookup recordKey (markedKey tenantId marking.dto studentId) after.attendance

variable {ambient : Ambient} {tenantId : String} {studentId : ObjectId}

/-- A marking keeps the indexes and carries every record, however it ends. -/
theorem take_carries (bound : Bound ambient tenantId) (marking : Marking) {database : Database}
    (indexed : Indexed database.attendance) :
    Indexed (marking.take ambient database).attendance ∧
      Carried database.attendance (marking.take ambient database).attendance := by
  obtain ⟨first, rest, _, _, assigned⟩ := mark_assigns marking.deployment marking.markedBy bound
    marking.draw marking.dto indexed
  exact ⟨assigned.indexed, assigned.carried⟩

/-- Markings keep the indexes and carry every record. -/
theorem run_carries (bound : Bound ambient tenantId) (markings : List Marking)
    {database : Database} (indexed : Indexed database.attendance) :
    Indexed (run (Marking.take ambient) database markings).attendance ∧
      Carried database.attendance (run (Marking.take ambient) database markings).attendance := by
  induction markings generalizing database with
  | nil => exact ⟨indexed, fun record stored => ⟨record, stored, rfl⟩⟩
  | cons marking rest inductionHypothesis =>
    obtain ⟨reindexed, carried⟩ := take_carries bound marking indexed
    obtain ⟨kept, later⟩ := inductionHypothesis reindexed
    exact ⟨kept, carried.trans later⟩

/-- A marking that returns wrote a record of each student it names. -/
theorem written_some (bound : Bound ambient tenantId) {marking : Marking} {database : Database}
    (indexed : Indexed database.attendance)
    (returns : (marking.outcome ambient database).2.isOk = true)
    (named : marking.Names studentId) :
    ∃ record, marking.written tenantId studentId (marking.take ambient database) =
      some record := by
  obtain ⟨entry, member, rfl⟩ := named
  have assigned := (mark_assigns_all marking.deployment marking.markedBy bound indexed
    returns).assigned
  let assign := assignment tenantId marking.markedBy marking.dto.batchId.id
    (normalizeDate marking.dto.date.instant)
  cases last : Revisions.lastUnder (assign entry).1 (marking.dto.entries.map assign) with
  | none =>
    have unassigned := Revisions.last_under_none.mp last (assign entry) (List.mem_map_of_mem member)
    exact absurd rfl unassigned
  | some value =>
    have read : marksUnder (marking.take ambient database).attendance (assign entry).1 =
        some value := by
      unfold Marking.take Marking.outcome
      rw [assigned, Revisions.assign_all_read, last]
      rfl
    obtain ⟨record, found, _⟩ := Option.map_eq_some_iff.mp read
    exact ⟨record, found⟩

/-- Two markings of a student in a batch write one record. -/
def SameRecord (tenantId : String) (studentId : ObjectId) (first second : Marking)
    (afterFirst afterSecond : Database) : Prop :=
  ∃ one two, first.written tenantId studentId afterFirst = some one ∧
    second.written tenantId studentId afterSecond = some two ∧ one.id = two.id

/-- Two markings of a student in a batch write one record exactly when their days of UTC are
the same. -/
theorem same_record_iff (bound : Bound ambient tenantId) {start : Database}
    (indexed : Indexed start.attendance) {first second : Marking} (between : List Marking)
    (sameBatch : first.dto.batchId.id = second.dto.batchId.id)
    (namedFirst : first.Names studentId) (namedSecond : second.Names studentId)
    (firstReturns : (first.outcome ambient start).2.isOk = true)
    (secondReturns : (second.outcome ambient
      (run (Marking.take ambient) (first.take ambient start) between)).2.isOk = true) :
    SameRecord tenantId studentId first second (first.take ambient start)
        (second.take ambient (run (Marking.take ambient) (first.take ambient start) between)) ↔
      first.dto.date.utcDay = second.dto.date.utcDay := by
  rw [← DateString.normalize_date_iff]
  obtain ⟨indexedFirst, _⟩ := take_carries bound first indexed
  obtain ⟨indexedBetween, carriedBetween⟩ := run_carries bound between indexedFirst
  obtain ⟨indexedSecond, carriedSecond⟩ := take_carries bound second indexedBetween
  obtain ⟨one, foundOne⟩ := written_some bound indexed firstReturns namedFirst
  obtain ⟨two, foundTwo⟩ := written_some bound indexedBetween secondReturns namedSecond
  obtain ⟨storedOne, keyOne⟩ := Records.lookup_some foundOne
  obtain ⟨storedTwo, keyTwo⟩ := Records.lookup_some foundTwo
  -- the record of the first marking is still there when the second one has returned
  obtain ⟨kept, storedKept, same⟩ := (carriedBetween.trans carriedSecond) one storedOne
  obtain ⟨sameId, sameKey⟩ := Prod.mk.inj same
  constructor
  · rintro ⟨one', two', foundOne', foundTwo', identity⟩
    obtain rfl := Option.some.inj (foundOne.symm.trans foundOne')
    obtain rfl := Option.some.inj (foundTwo.symm.trans foundTwo')
    obtain rfl := Records.same_record indexedSecond.ids storedKept storedTwo
      (sameId.trans identity)
    have keys := keyOne.symm.trans (sameKey.symm.trans keyTwo)
    simp only [markedKey, Prod.mk.injEq] at keys
    exact keys.2.2.2
  · intro days
    have keys : markedKey tenantId first.dto studentId = markedKey tenantId second.dto studentId := by
      simp only [markedKey, sameBatch, days]
    obtain rfl := Records.same_record indexedSecond.keys storedKept storedTwo
      (sameKey.trans (keyOne.trans (keys.trans keyTwo.symm)))
    exact ⟨one, kept, foundOne, foundTwo, sameId.symm⟩

/-- Two markings of a student in a batch write one record exactly when their class days are
the same, if and only if their days of UTC tell them apart.

Proof: two markings write one record exactly when they name the same day of UTC, whatever
markings come between. -/
theorem class_days_iff (bound : Bound ambient tenantId) (zone : Int) {start : Database}
    (indexed : Indexed start.attendance) {first second : Marking} (between : List Marking)
    (sameBatch : first.dto.batchId.id = second.dto.batchId.id)
    (namedFirst : first.Names studentId) (namedSecond : second.Names studentId)
    (firstReturns : (first.outcome ambient start).2.isOk = true)
    (secondReturns : (second.outcome ambient
      (run (Marking.take ambient) (first.take ambient start) between)).2.isOk = true) :
    (SameRecord tenantId studentId first second (first.take ambient start)
        (second.take ambient (run (Marking.take ambient) (first.take ambient start) between)) ↔
      first.dto.date.classDay zone = second.dto.date.classDay zone) ↔
        DateString.TellApart zone first.dto.date second.dto.date := by
  rw [same_record_iff bound indexed between sameBatch namedFirst namedSecond firstReturns
    secondReturns]
  exact DateString.same_day_iff zone first.dto.date second.dto.date

/-- A student marked present in a lesson, under an identity printed from a digit. -/
def lessonMarking (date : DateString) (digit : Char) : Marking :=
  { deployment := quietDeployment
    draw := fun _ =>
      { recordId := .repeated digit, notificationId := .repeated digit, now := 0 }
    markedBy := .repeated '1'
    dto := { batchId := .ofId (.repeated '4'), date := date,
             entries := [⟨.ofId (.repeated '2'), .present⟩] } }

/-- Marking the lesson of 10 June 2024 that begins at the hour in India, and then marking that
day by its name. -/
def hourThenDay (hour : Fin 24) : Marking × Marking :=
  (lessonMarking (.timestamp 19884 ⟨hour * 3600000, by omega⟩ 330) 'a',
    lessonMarking (.dateOnly 19884) 'b')

/-- The two markings write one record. -/
def HourAndDayAgree (hour : Fin 24) : Prop :=
  SameRecord "institute-a" (.repeated '2') (hourThenDay hour).1 (hourThenDay hour).2
    ((hourThenDay hour).1.take classContext {})
    ((hourThenDay hour).2.take classContext ((hourThenDay hour).1.take classContext {}))

/-- In India a lesson at four in the morning is marked apart from its day. -/
theorem early_lesson_split :
    (hourThenDay 4).1.dto.date.classDay 330 = (hourThenDay 4).2.dto.date.classDay 330 ∧
      ¬ HourAndDayAgree 4 := by
  refine ⟨by decide, ?_⟩
  rintro ⟨one, two, writtenOne, writtenTwo, same⟩
  have identityOne : ((hourThenDay 4).1.written "institute-a" (.repeated '2')
      ((hourThenDay 4).1.take classContext {})).map Attendance.id = some (.repeated 'a') := by
    decide +kernel
  have identityTwo : ((hourThenDay 4).2.written "institute-a" (.repeated '2')
      ((hourThenDay 4).2.take classContext ((hourThenDay 4).1.take classContext {}))).map
        Attendance.id = some (.repeated 'b') := by
    decide +kernel
  rw [writtenOne] at identityOne
  rw [writtenTwo, Option.map_some, ← same] at identityTwo
  exact absurd (identityOne.symm.trans identityTwo) (by decide +kernel)

/-- In India a lesson at ten in the morning is marked on its day. -/
theorem morning_lesson_one_record :
    HourAndDayAgree 10 ↔
      (hourThenDay 10).1.dto.date.classDay 330 = (hourThenDay 10).2.dto.date.classDay 330 := by
  have indexed : Indexed ({} : Database).attendance := by decide +kernel
  have sameBatch : (hourThenDay 10).1.dto.batchId.id = (hourThenDay 10).2.dto.batchId.id := rfl
  have namedFirst : (hourThenDay 10).1.Names (.repeated '2') :=
    ⟨_, List.mem_singleton.mpr rfl, rfl⟩
  have namedSecond : (hourThenDay 10).2.Names (.repeated '2') :=
    ⟨_, List.mem_singleton.mpr rfl, rfl⟩
  have firstReturns : ((hourThenDay 10).1.outcome classContext {}).2.isOk = true := by
    decide +kernel
  have secondReturns : ((hourThenDay 10).2.outcome classContext
      (run (Marking.take classContext) ((hourThenDay 10).1.take classContext {}) [])).2.isOk =
        true := by
    decide +kernel
  exact (class_days_iff (bound_run "institute-a" (by decide)) 330 indexed [] sameBatch namedFirst
    namedSecond firstReturns secondReturns).mpr (by decide)

end AttendanceService

end CoachingApi
