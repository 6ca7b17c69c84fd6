import CoachingApi.Attendance.AttendanceService

/-!
# Repeating a marking that failed

Whatever ends a marking early, the records it has upserted are those of a beginning of its
entries. Read by student, batch and day, an upsert assigns the entry's status, so the
marking of a list of entries assigns them in order. Marking the whole list again after a
beginning of it therefore leaves what marking it once leaves: for each student of the list
one record with the status of the student's last entry, and every other record as it was.
-/

namespace CoachingApi

open TenantContextStore TenantPlugin

namespace AttendanceService

/-- What the unique index of attendance records compares. -/
def recordKey (record : Attendance) : String × ObjectId × ObjectId × Int :=
  (record.tenantId, record.studentId, record.batchId, record.date)

/-- What a marking settles of a record. -/
def marks (record : Attendance) : AttendanceStatus × Option ObjectId × AttendanceSource :=
  (record.status, record.markedBy, record.source)

/-- What the indexes promise of stored attendance records. -/
abbrev Indexed (attendance : List Attendance) : Prop := TenantModel.Indexed recordKey attendance

/-- What is settled of the record of a student, batch and day. -/
def marksUnder (attendance : List Attendance) (sought : String × ObjectId × ObjectId × Int) :
    Option (AttendanceStatus × Option ObjectId × AttendanceSource) :=
  (Records.lookup recordKey sought attendance).map marks

/-- What an entry assigns, under the key of its record. -/
def assignment (tenantId : String) (markedBy batchId : ObjectId) (date : Int)
    (entry : MarkEntryDto) :
    (String × ObjectId × ObjectId × Int) × (AttendanceStatus × Option ObjectId × AttendanceSource) :=
  ((tenantId, entry.studentId.id, batchId, date), (entry.status, some markedBy, .manual))

/-- Every record is still there under its identity and its key. -/
def Carried (before after : List Attendance) : Prop :=
  ∀ record ∈ before, ∃ kept ∈ after, (kept.id, recordKey kept) = (record.id, recordKey record)

/-- Records stay carried. -/
theorem Carried.trans {before between after : List Attendance} (one : Carried before between)
    (two : Carried between after) : Carried before after := by
  intro record stored
  obtain ⟨kept, held, same⟩ := one record stored
  obtain ⟨last, still, equal⟩ := two kept held
  exact ⟨last, still, equal.trans same⟩

/-- Records after entries were upserted one after the other. -/
structure Assigned (tenantId : String) (markedBy batchId : ObjectId) (date : Int)
    (entries : List MarkEntryDto) (before after : List Attendance) : Prop where
  indexed : Indexed after
  carried : Carried before after
  assigned : marksUnder after = Revisions.assignAll (marksUnder before)
    (entries.map (assignment tenantId markedBy batchId date))
  others : ∀ record,
    (∀ entry ∈ entries, recordKey record ≠ (assignment tenantId markedBy batchId date entry).1) →
      (record ∈ after ↔ record ∈ before)

variable {deployment : ClassDeployment} {ambient : Ambient} {tenantId : String}
  {markedBy : ObjectId} {batchId : MongoId} {date : Int}

/-- No entry at all. -/
theorem assigned_refl {batch : ObjectId} {before : List Attendance} (indexed : Indexed before) :
    Assigned tenantId markedBy batch date [] before before :=
  ⟨indexed, fun record stored => ⟨record, stored, rfl⟩, rfl, fun _ _ => Iff.rfl⟩

/-- Entries after entries. -/
theorem Assigned.append {batch : ObjectId} {first second : List MarkEntryDto}
    {before between after : List Attendance}
    (one : Assigned tenantId markedBy batch date first before between)
    (two : Assigned tenantId markedBy batch date second between after) :
    Assigned tenantId markedBy batch date (first ++ second) before after where
  indexed := two.indexed
  carried := one.carried.trans two.carried
  assigned := by
    rw [two.assigned, one.assigned, List.map_append, Revisions.assign_all_append]
  others := by
    intro record elsewhere
    rw [two.others record (fun entry member => elsewhere entry (List.mem_append_right first member)),
      one.others record (fun entry member => elsewhere entry (List.mem_append_left second member))]

/-- The filter of an upsert names the key of the entry's record. -/
theorem upsert_names (tenantId : String) (batch : ObjectId) (date : Int) (entry : MarkEntryDto)
    (rows : List Attendance) (row : Attendance) (_ : row ∈ rows) :
    (TenantModel.tenantId row = tenantId ∧
      decide (row.studentId = entry.studentId.id ∧ row.batchId = batch ∧ row.date = date) = true) ↔
        recordKey row = (tenantId, entry.studentId.id, batch, date) := by
  simp [recordKey, TenantModel.tenantId]

/-- An upsert that succeeds assigns its entry's status and touches no other record. -/
theorem upsert_record_ok (bound : Bound ambient tenantId) {batch : ObjectId} {draw : MarkDraw}
    {entry : MarkEntryDto} {before after : List Attendance} {stored : Attendance}
    (indexed : Indexed before)
    (upserted : upsertRecord ambient markedBy batch date draw entry before = .ok (stored, after)) :
    Assigned tenantId markedBy batch date [entry] before after := by
  have identity : ∀ row, TenantModel.id (markRecord markedBy entry.status row) =
      TenantModel.id row := fun _ => rfl
  obtain ⟨rfl, ids⟩ := TenantModel.upsert_one_ok bound indexed.ids indexed.keys
    (upsert_names tenantId batch date entry before) identity upserted
  have keeps : ∀ row, recordKey (markRecord markedBy entry.status row) = recordKey row :=
    fun _ => rfl
  have under : recordKey (TenantModel.withTenantId tenantId
      (markedRecord draw.recordId markedBy batch date entry)) =
        (tenantId, entry.studentId.id, batch, date) := rfl
  refine ⟨⟨ids, Revisions.revise_distinct keeps under indexed.keys⟩, ?_, ?_, ?_⟩
  · intro record stored
    exact Revisions.revise_carries recordKey (fun record => (record.id, recordKey record))
      (fun _ => rfl) stored
  · funext sought
    simp only [List.map_cons, List.map_nil, Revisions.assign_all_cons, Revisions.assign_all_nil,
      assignment]
    by_cases same : sought = (tenantId, entry.studentId.id, batch, date)
    · subst same
      rw [Function.update_self, marksUnder, Revisions.revise_lookup_same keeps under]
      cases Records.lookup recordKey (tenantId, entry.studentId.id, batch, date) before with
      | none => rfl
      | some record => rfl
    · rw [Function.update_of_ne same, marksUnder, Revisions.revise_lookup_other keeps under same]
      rfl
  · intro record elsewhere
    exact Revisions.revise_other keeps under (elsewhere entry (List.mem_singleton.mpr rfl))

variable (deployment ambient batchId date) in
/-- What follows an upsert writes no attendance. -/
theorem notify_absence_keeps (draw : MarkDraw) (entry : MarkEntryDto) (database : Database) :
    (notifyAbsence deployment ambient batchId date draw entry database).1.attendance =
      database.attendance := by
  obtain ⟨_, _, writes⟩ := notify_absence_writes deployment ambient batchId date draw entry database
  rw [writes]

variable (deployment ambient markedBy batchId date) in
/-- An entry upserts its record or ends the marking with the records as they were. -/
theorem mark_entry_cases (draw : MarkDraw) (entry : MarkEntryDto) (database : Database) :
    ((markEntry deployment ambient markedBy batchId date draw entry database).1.attendance =
        database.attendance ∧
      ∃ thrown, (markEntry deployment ambient markedBy batchId date draw entry database).2 =
        .error thrown) ∨
    ∃ stored, upsertRecord ambient markedBy batchId.id date draw entry database.attendance =
      .ok (stored,
        (markEntry deployment ambient markedBy batchId date draw entry database).1.attendance) := by
  unfold markEntry
  split
  · exact .inl ⟨rfl, _, rfl⟩
  · split
    · rename_i thrown _
      exact .inl ⟨rfl, thrown, rfl⟩
    · rename_i stored attendance upserted
      refine .inr ⟨stored, ?_⟩
      rw [upserted]
      split
      · rw [notify_absence_keeps]
      · rfl

variable (deployment markedBy batchId date) in
/-- The entries of a marking are upserted up to where it ends, all of them when it returns.

Proof: by induction on the entries. -/
theorem mark_entries_assign (bound : Bound ambient tenantId) (entries : List MarkEntryDto)
    (draw : Nat → MarkDraw) (absencesNotified : Nat) {database : Database}
    (indexed : Indexed database.attendance) :
    ∃ first rest, entries = first ++ rest ∧
      ((markEntries deployment ambient markedBy batchId date entries draw absencesNotified
          database).2.isOk = true → rest = []) ∧
      Assigned tenantId markedBy batchId.id date first database.attendance
        (markEntries deployment ambient markedBy batchId date entries draw absencesNotified
          database).1.attendance := by
  induction entries generalizing draw absencesNotified database with
  | nil => exact ⟨[], [], rfl, fun _ => rfl, assigned_refl indexed⟩
  | cons entry rest inductionHypothesis =>
    unfold markEntries
    have cases := mark_entry_cases deployment ambient markedBy batchId date (draw 0) entry database
    rcases outcome : markEntry deployment ambient markedBy batchId date (draw 0) entry database with
      ⟨marked, thrown | notified⟩
    · simp only [outcome] at cases ⊢
      rcases cases with ⟨kept, _⟩ | ⟨stored, upserted⟩
      · refine ⟨[], entry :: rest, rfl,
          fun returns => absurd returns (by simp [Except.isOk, Except.toBool]), ?_⟩
        rw [kept]
        exact assigned_refl indexed
      · exact ⟨[entry], rest, rfl,
          fun returns => absurd returns (by simp [Except.isOk, Except.toBool]),
          upsert_record_ok bound indexed upserted⟩
    · simp only [outcome] at cases ⊢
      rcases cases with ⟨_, thrown, failed⟩ | ⟨stored, upserted⟩
      · cases failed
      · have one := upsert_record_ok bound indexed upserted
        obtain ⟨first, left, split, complete, others⟩ := inductionHypothesis
          (fun i => draw (i + 1)) (if notified then absencesNotified + 1 else absencesNotified)
          one.indexed
        exact ⟨entry :: first, left, by rw [split, List.cons_append], complete, one.append others⟩

/-- Draws of which the first ones, as many as counted, fail nowhere and generate new
identities. -/
structure Undisturbed (count : Nat) (draw : Nat → MarkDraw) (database : Database) : Prop where
  unfailing : ∀ i < count, (draw i).failing = none
  recordIds : ∀ i < count, ∀ j < count, (draw i).recordId = (draw j).recordId → i = j
  records : ∀ i < count, ∀ record ∈ database.attendance, record.id ≠ (draw i).recordId
  notificationIds : ∀ i < count, ∀ j < count,
    (draw i).notificationId = (draw j).notificationId → i = j
  notifications : ∀ i < count, ∀ notification ∈ database.notifications,
    notification.id ≠ (draw i).notificationId

/-- Draws stay undisturbed once the first of them was used. -/
theorem Undisturbed.next {count : Nat} {draw : Nat → MarkDraw} {before after : Database}
    (undisturbed : Undisturbed (count + 1) draw before)
    (records : ∀ record ∈ after.attendance,
      (∃ original ∈ before.attendance, original.id = record.id) ∨ record.id = (draw 0).recordId)
    (notifications : ∀ notification ∈ after.notifications,
      notification ∈ before.notifications ∨ notification.id = (draw 0).notificationId) :
    Undisturbed count (fun i => draw (i + 1)) after where
  unfailing := fun i within => undisturbed.unfailing (i + 1) (by omega)
  recordIds := by
    intro i within j also same
    have equal := undisturbed.recordIds (i + 1) (by omega) (j + 1) (by omega) same
    omega
  records := by
    intro i within record member same
    rcases records record member with ⟨original, stored, identity⟩ | new
    · exact undisturbed.records (i + 1) (by omega) original stored (identity.trans same)
    · have equal := undisturbed.recordIds 0 (by omega) (i + 1) (by omega) (new.symm.trans same)
      omega
  notificationIds := by
    intro i within j also same
    have equal := undisturbed.notificationIds (i + 1) (by omega) (j + 1) (by omega) same
    omega
  notifications := by
    intro i within notification member same
    rcases notifications notification member with stored | new
    · exact undisturbed.notifications (i + 1) (by omega) notification stored same
    · have equal := undisturbed.notificationIds 0 (by omega) (i + 1) (by omega)
        (new.symm.trans same)
      omega

/-- The key of the record that a marking asks for of a student. -/
def markedKey (tenantId : String) (dto : MarkAttendanceDto) (studentId : ObjectId) :
    String × ObjectId × ObjectId × Int :=
  (tenantId, studentId, dto.batchId.id, normalizeDate dto.date.instant)

variable (deployment markedBy) in
/-- A marking returns when its loop over the entries does. -/
theorem mark_returns (draw : Nat → MarkDraw) (dto : MarkAttendanceDto) (database : Database) :
    (mark deployment ambient draw markedBy dto database).2.isOk =
      (markEntries deployment ambient markedBy dto.batchId (normalizeDate dto.date.instant)
        dto.entries draw 0 database).2.isOk := by
  simp only [mark]
  cases (markEntries deployment ambient markedBy dto.batchId (normalizeDate dto.date.instant)
    dto.entries draw 0 database).2 with
  | error thrown => rfl
  | ok absencesNotified => rfl

variable (deployment markedBy) in
/-- A marking assigns a beginning of its entries, and all of them when it returns. -/
theorem mark_assigns (bound : Bound ambient tenantId) (draw : Nat → MarkDraw)
    (dto : MarkAttendanceDto) {database : Database} (indexed : Indexed database.attendance) :
    ∃ first rest, dto.entries = first ++ rest ∧
      ((mark deployment ambient draw markedBy dto database).2.isOk = true → rest = []) ∧
      Assigned tenantId markedBy dto.batchId.id (normalizeDate dto.date.instant) first
        database.attendance (mark deployment ambient draw markedBy dto database).1.attendance := by
  obtain ⟨first, rest, split, complete, assigned⟩ := mark_entries_assign deployment markedBy
    dto.batchId (normalizeDate dto.date.instant) bound dto.entries draw 0 indexed
  refine ⟨first, rest, split, fun returns => complete ?_, assigned⟩
  rw [mark_returns] at returns
  exact returns

variable (deployment markedBy) in
/-- A marking that returns assigns all its entries. -/
theorem mark_assigns_all (bound : Bound ambient tenantId) {draw : Nat → MarkDraw}
    {dto : MarkAttendanceDto} {database : Database} (indexed : Indexed database.attendance)
    (returns : (mark deployment ambient draw markedBy dto database).2.isOk = true) :
    Assigned tenantId markedBy dto.batchId.id (normalizeDate dto.date.instant) dto.entries
      database.attendance (mark deployment ambient draw markedBy dto database).1.attendance := by
  obtain ⟨first, rest, split, complete, assigned⟩ := mark_assigns deployment markedBy bound draw
    dto indexed
  rw [complete returns, List.append_nil] at split
  exact split ▸ assigned

/-- An institute with a student who was marked present, and was marked in another batch. -/
def markedClass : Database :=
  { students := [{ id := .repeated '2', tenantId := "institute-a",
                   userId := .text (ObjectId.repeated '5').hex,
                   parentUserId := some (.text (ObjectId.repeated '6').hex), rollNo := some "1" }]
    attendance :=
      [{ id := .repeated '8', tenantId := "institute-a", studentId := .repeated '2',
         batchId := .repeated '4', date := 0, status := .present },
       { id := .repeated '9', tenantId := "institute-a", studentId := .repeated '2',
         batchId := .repeated '3', date := 0, status := .present }] }

/-- An absence, another student, and the absence withdrawn. -/
def withdrawnAbsence : MarkAttendanceDto :=
  { batchId := .ofId (.repeated '4')
    date := .timestamp 0 36000000 330
    entries := [⟨.ofId (.repeated '2'), .absent⟩, ⟨.ofId (.repeated '7'), .late⟩,
      ⟨.ofId (.repeated '2'), .late⟩] }

/-- Identities by the number of the entry; the first entry's notification may fail. -/
def numberedDraws (failing : Option MarkPoint) (i : Nat) : MarkDraw :=
  { recordId := .repeated (['a', 'b', 'c'].getD i 'd')
    notificationId := .repeated (['a', 'b', 'c'].getD i 'd')
    now := 0
    failing := if i = 0 then failing else none }

/-- The context of that institute. -/
def classContext : Ambient := some { tenantId := some "institute-a" }

/-- A class service without a push client. -/
def quietDeployment : ClassDeployment := { push := none, toDateString := fun _ => "that day" }

/-- The marking that stops at its first notification. -/
def stoppedMarking : Database × Except Thrown MarkResult :=
  mark quietDeployment classContext (numberedDraws (some .notification)) (.repeated '1')
    withdrawnAbsence markedClass

end AttendanceService

end CoachingApi
