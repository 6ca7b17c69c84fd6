import CoachingApi.Common.Queries
import CoachingApi.Common.ValidationPipe
import CoachingApi.Notifications.NotificationsService

/-!
# Marking attendance

A marking upserts one record for each of its entries in order, all for one batch on one
day, and notifies a parent of each absence before it goes on. Each of the awaited operations
may fail, which ends the marking; what was stored before stays stored.

The runtime prints the day of a notification in a time zone of its own.
-/

namespace CoachingApi

open TenantContextStore TenantPlugin

/-- One student of a marking. -/
structure MarkEntryDto where
  studentId : MongoId
  status : AttendanceStatus

/-- The body of a marking. -/
structure MarkAttendanceDto where
  batchId : MongoId
  date : DateString
  entries : List MarkEntryDto

/-- The result of a marking. -/
structure MarkResult where
  marked : Nat
  absencesNotified : Nat
  deriving DecidableEq

/-- What the outside has of a class service: the push client and how the runtime prints a
day. -/
structure ClassDeployment where
  push : PushApp
  toDateString : Int → String

/-- The awaited operations of an entry. -/
inductive MarkPoint where
  | upsert | lookup | notification
  deriving DecidableEq

/-- What an entry draws: the identities of the record and of the notification it may create,
the clock, and which awaited operation fails, if one does. -/
structure MarkDraw where
  recordId : ObjectId
  notificationId : ObjectId
  now : Int
  failing : Option MarkPoint := none

/-- The query of attendance records. -/
structure QueryAttendanceDto where
  studentId : Option MongoId := none
  batchId : Option MongoId := none

namespace AttendanceService

/-- `query`: at most five hundred records, the latest class days first. -/
def query (ambient : Ambient) (dto : QueryAttendanceDto) (database : Database) :
    Except Thrown (List Attendance) :=
  (TenantModel.find ambient
    (fun record => decide ((∀ studentId ∈ dto.studentId, record.studentId = studentId.id) ∧
      ∀ batchId ∈ dto.batchId, record.batchId = batchId.id))
    database.attendance).map
      (fun records => (records.mergeSort (fun first second =>
        decide (second.date ≤ first.date))).take 500)

/-- `normalizeDate`: midnight in UTC. -/
def normalizeDate (instant : Int) : Int := instant - instant % dayMilliseconds

/-- The record an entry asks for. -/
def markedRecord (recordId markedBy : ObjectId) (batchId : ObjectId) (date : Int)
    (entry : MarkEntryDto) : Attendance :=
  { id := recordId, studentId := entry.studentId.id, batchId := batchId, date := date,
    status := entry.status, markedBy := some markedBy, source := .manual }

/-- The update of a record that is there. -/
def markRecord (markedBy : ObjectId) (status : AttendanceStatus) (record : Attendance) :
    Attendance :=
  { record with status := status, markedBy := some markedBy, source := .manual }

/-- The notice of an absence. -/
def absenceNotification (deployment : ClassDeployment) (notifyUser : Reference) (date : Int)
    (batchId : MongoId) (entry : MarkEntryDto) : NotifyInput :=
  { userId := notifyUser
    type := "absence"
    title := "Absence recorded"
    body := s!"Your ward was marked absent on {deployment.toDateString date}."
    data := some [("studentId", entry.studentId.text), ("batchId", batchId.text)] }

/-- Upsert the record of an entry. -/
def upsertRecord (ambient : Ambient) (markedBy batchId : ObjectId) (date : Int) (draw : MarkDraw)
    (entry : MarkEntryDto) (attendance : List Attendance) :
    Except Thrown (Attendance × List Attendance) :=
  TenantModel.upsertOne ambient
    (fun record => decide (record.studentId = entry.studentId.id ∧ record.batchId = batchId ∧
      record.date = date))
    (markRecord markedBy entry.status) (markedRecord draw.recordId markedBy batchId date entry)
    attendance

/-- Whom an absence is told to: the parent, and else the student. -/
def notifyUser (student : Student) : Reference := student.parentUserId.getD student.userId

/-- What follows the upsert of an absent student's record; whether somebody was notified. -/
def notifyAbsence (deployment : ClassDeployment) (ambient : Ambient) (batchId : MongoId)
    (date : Int) (draw : MarkDraw) (entry : MarkEntryDto) (database : Database) :
    Database × Except Thrown Bool :=
  if draw.failing = some .lookup then (database, .error .storage)
  else
    match TenantModel.findById ambient entry.studentId.id database.students with
    | .error thrown => (database, .error thrown)
    | .ok none => (database, .ok false)
    | .ok (some student) =>
      if draw.failing = some .notification then (database, .error .storage)
      else
        let outcome := NotificationsService.notify ambient deployment.push draw.notificationId
          draw.now (absenceNotification deployment (notifyUser student) date batchId entry) database
        (outcome.1, outcome.2.map (fun _ => true))

/-- One entry of `mark`; whether somebody was notified. -/
def markEntry (deployment : ClassDeployment) (ambient : Ambient) (markedBy : ObjectId)
    (batchId : MongoId) (date : Int) (draw : MarkDraw) (entry : MarkEntryDto)
    (database : Database) : Database × Except Thrown Bool :=
  if draw.failing = some .upsert then (database, .error .storage)
  else
    match upsertRecord ambient markedBy batchId.id date draw entry database.attendance with
    | .error thrown => (database, .error thrown)
    | .ok (_, attendance) =>
      if entry.status = .absent then
        notifyAbsence deployment ambient batchId date draw entry
          { database with attendance := attendance }
      else ({ database with attendance := attendance }, .ok false)

/-- The loop over the entries; the first failure ends it. -/
def markEntries (deployment : ClassDeployment) (ambient : Ambient) (markedBy : ObjectId)
    (batchId : MongoId) (date : Int) :
    List MarkEntryDto → (Nat → MarkDraw) → Nat → Database → Database × Except Thrown Nat
  | [], _, absencesNotified, database => (database, .ok absencesNotified)
  | entry :: rest, draw, absencesNotified, database =>
    match markEntry deployment ambient markedBy batchId date (draw 0) entry database with
    | (stopped, .error thrown) => (stopped, .error thrown)
    | (marked, .ok notified) =>
      markEntries deployment ambient markedBy batchId date rest (fun i => draw (i + 1))
        (if notified then absencesNotified + 1 else absencesNotified) marked

/-- `mark`. -/
def mark (deployment : ClassDeployment) (ambient : Ambient) (draw : Nat → MarkDraw)
    (markedBy : ObjectId) (dto : MarkAttendanceDto) (database : Database) :
    Database × Except Thrown MarkResult :=
  let outcome := markEntries deployment ambient markedBy dto.batchId
    (normalizeDate dto.date.instant) dto.entries draw 0 database
  (outcome.1, outcome.2.map (fun absencesNotified =>
    { marked := dto.entries.length, absencesNotified := absencesNotified }))

variable (deployment : ClassDeployment) (ambient : Ambient) (markedBy : ObjectId)
  (batchId : MongoId) (date : Int) (draw : MarkDraw) (entry : MarkEntryDto) (database : Database)

/-- What follows an upsert writes notifications and pushes and nothing else. -/
theorem notify_absence_writes :
    ∃ notifications pushes,
      (notifyAbsence deployment ambient batchId date draw entry database).1 =
        { database with notifications := notifications, pushes := pushes } := by
  unfold notifyAbsence
  split
  · exact ⟨_, _, rfl⟩
  · split
    · exact ⟨_, _, rfl⟩
    · exact ⟨_, _, rfl⟩
    · split
      · exact ⟨_, _, rfl⟩
      · exact NotificationsService.notify_writes ambient deployment.push draw.notificationId
          draw.now _ database

/-- An entry writes attendance, notifications and pushes and nothing else. -/
theorem mark_entry_writes :
    ∃ attendance notifications pushes,
      (markEntry deployment ambient markedBy batchId date draw entry database).1 =
        { database with
          attendance := attendance, notifications := notifications, pushes := pushes } := by
  unfold markEntry
  split
  · exact ⟨_, _, _, rfl⟩
  · split
    · exact ⟨_, _, _, rfl⟩
    · rename_i attendance _
      split
      · obtain ⟨notifications, pushes, writes⟩ := notify_absence_writes deployment ambient batchId
          date draw entry { database with attendance := attendance }
        exact ⟨attendance, notifications, pushes, writes⟩
      · exact ⟨_, _, _, rfl⟩

end AttendanceService

end CoachingApi
