import CoachingApi.Surfaces.InstituteParts

/-!
# The record services on an institute's part

Users, students, batches, leads and materials. Each service call reads what the part holds and
is at most one operation on one collection, so it does on the part of its caller's institute
what it does on the whole.
-/

namespace CoachingApi

open TenantModel TenantPlugin TenantContextStore Partitions

/-- A call of a service on the database, made on the whole. -/
def onDatabase {β : Type} (call : Call Database Thrown β) : Call Campus Thrown β := fun campus =>
  ({ campus with database := (call campus.database).1 }, (call campus.database).2)

/-- A call is apart for a tenant's institute. -/
abbrev ApartFor {β : Type} (tenant : String) (campus : Campus) (call : Call Campus Thrown β) :
    Prop :=
  Apart Campus.part Campus.Identified tenant campus call

/-- What a service makes of a record that its operation did or did not find. -/
def orNotFound {β : Type} (message : String) : Option β → Except Thrown β
  | none => .error (.notFound message)
  | some found => .ok found

/-- What a service makes of a deletion that did or did not find its record. -/
def orNotDeleted (message : String) : Bool → Except Thrown Unit
  | false => .error (.notFound message)
  | true => .ok ()

section Operations

variable (ambient : Ambient)

/-- The creation of a student is that of a record. -/
theorem create_student_eq (generated : ObjectId) (now : Int) (dto : CreateStudentDto) :
    onDatabase (StudentsService.create ambient generated now dto) =
      Collection.students.write
        (create ambient (StudentsService.createdStudent generated now dto)) := by
  funext campus
  simp only [onDatabase, StudentsService.create, Collection.write_eq, Collection.students]
  cases create ambient (StudentsService.createdStudent generated now dto)
      campus.database.students <;> rfl

/-- A change of a student is an update of index keys. -/
theorem update_student_eq (now : Int) (id : String) (dto : UpdateStudentDto) :
    onDatabase (StudentsService.update ambient now id dto) =
      Collection.students.write (answered (orNotFound "Student not found")
        (findByTextAndRekey ambient id (StudentsService.changeStudent now dto))) := by
  funext campus
  simp only [onDatabase, StudentsService.update, Collection.write_eq, Collection.students, answered]
  cases findByTextAndRekey ambient id (StudentsService.changeStudent now dto)
      campus.database.students with
  | error thrown => rfl
  | ok ended =>
    obtain ⟨found, table⟩ := ended
    cases found <;> rfl

/-- The removal of a student is a deletion. -/
theorem remove_student_eq (id : String) :
    onDatabase (StudentsService.remove ambient id) =
      Collection.students.write (answered (orNotDeleted "Student not found")
        (deleteByText ambient id)) := by
  funext campus
  simp only [onDatabase, StudentsService.remove, Collection.write_eq, Collection.students, answered]
  cases deleteByText ambient id campus.database.students with
  | error thrown => rfl
  | ok ended =>
    obtain ⟨deleted, table⟩ := ended
    cases deleted <;> rfl

/-- The registration of a device token is an update in place, whatever it finds. -/
theorem add_fcm_token_eq (userId token : String) :
    onDatabase (TenantAuthService.addFcmToken ambient userId token) =
      Collection.users.write (answered (fun _ => .ok ())
        (findByTextAndUpdate ambient userId (TenantAuthService.registerToken token))) := by
  funext campus
  simp only [onDatabase, TenantAuthService.addFcmToken, Collection.write_eq, Collection.users,
    answered]
  cases findByTextAndUpdate ambient userId (TenantAuthService.registerToken token)
      campus.database.users <;> rfl

/-- The creation of a batch is that of a record. -/
theorem create_batch_eq (generated : ObjectId) (dto : CreateBatchDto) :
    onDatabase (BatchesService.create ambient generated dto) =
      Collection.batches.write
        (create ambient (BatchesService.createdBatch generated dto)) := by
  funext campus
  simp only [onDatabase, BatchesService.create, Collection.write_eq, Collection.batches]
  cases create ambient (BatchesService.createdBatch generated dto) campus.database.batches <;> rfl

/-- A change of a batch is an update in place. -/
theorem update_batch_eq (id : String) (dto : UpdateBatchDto) :
    onDatabase (BatchesService.update ambient id dto) =
      Collection.batches.write (answered (orNotFound "Batch not found")
        (findByTextAndUpdate ambient id (BatchesService.changeBatch dto))) := by
  funext campus
  simp only [onDatabase, BatchesService.update, Collection.write_eq, Collection.batches, answered]
  cases findByTextAndUpdate ambient id (BatchesService.changeBatch dto)
      campus.database.batches with
  | error thrown => rfl
  | ok ended =>
    obtain ⟨found, table⟩ := ended
    cases found <;> rfl

/-- The removal of a batch is a deletion. -/
theorem remove_batch_eq (id : String) :
    onDatabase (BatchesService.remove ambient id) =
      Collection.batches.write (answered (orNotDeleted "Batch not found")
        (deleteByText ambient id)) := by
  funext campus
  simp only [onDatabase, BatchesService.remove, Collection.write_eq, Collection.batches, answered]
  cases deleteByText ambient id campus.database.batches with
  | error thrown => rfl
  | ok ended =>
    obtain ⟨deleted, table⟩ := ended
    cases deleted <;> rfl

/-- The creation of a lead is that of a record. -/
theorem create_lead_eq (generated : ObjectId) (dto : CreateLeadDto) :
    LeadsService.create ambient generated dto =
      Collection.leads.write (create ambient (LeadsService.createdLead generated dto)) := by
  funext campus
  simp only [LeadsService.create, Collection.write_eq, Collection.leads]
  cases create ambient (LeadsService.createdLead generated dto) campus.leads <;> rfl

/-- A change of a lead is an update in place. -/
theorem update_lead_eq (id : String) (change : Lead → Lead) :
    LeadsService.updateLead ambient id change =
      Collection.leads.write (answered (orNotFound "Lead not found")
        (findByTextAndUpdate ambient id change)) := by
  funext campus
  simp only [LeadsService.updateLead, Collection.write_eq, Collection.leads, answered]
  cases findByTextAndUpdate ambient id change campus.leads with
  | error thrown => rfl
  | ok ended =>
    obtain ⟨found, table⟩ := ended
    cases found <;> rfl

/-- The removal of a material is a deletion. -/
theorem remove_material_eq (id : String) :
    MaterialsService.remove ambient id =
      Collection.materials.write (answered (orNotDeleted "Material not found")
        (deleteByText ambient id)) := by
  funext campus
  simp only [MaterialsService.remove, Collection.write_eq, Collection.materials, answered]
  cases deleteByText ambient id campus.materials with
  | error thrown => rfl
  | ok ended =>
    obtain ⟨deleted, table⟩ := ended
    cases deleted <;> rfl

end Operations

/-- Users clash with users of their own tenant. -/
theorem users_led {tenant : String} {candidate : User} (owned : candidate.tenantId = tenant)
    (rows : List User) : Led tenant candidate rows := by
  intro record _ clash
  exact (of_decide_eq_true clash).1.trans owned

/-- Students clash with students of their own tenant. -/
theorem students_led {tenant : String} {candidate : Student} (owned : candidate.tenantId = tenant)
    (rows : List Student) : Led tenant candidate rows := by
  intro record _ clash
  exact (of_decide_eq_true clash).1.trans owned

/-- Records of a model without unique indexes clash with none. -/
theorem never_led {α : Type} [TenantModel α] {tenant : String} {candidate : α} {rows : List α}
    (never : ∀ record, clashes record candidate = false) : Led tenant candidate rows := by
  intro record _ clash
  rw [never record] at clash
  cases clash

section Services

variable {ambient : Ambient} {tenant : String} (bound : Bound ambient tenant) {campus : Campus}
  (identified : campus.Identified)
include bound identified

/-- An invitation. -/
theorem invite_apart (deployment : AuthDeployment) {draws : Draws}
    (free : campus.Free tenant draws.userId) (dto : InviteUserDto) :
    ApartFor tenant campus
      (onDatabase (TenantAuthService.invite deployment ambient draws dto)) := by
  cases found : findOne ambient (fun user : User =>
      decide (user.email = queryKey deployment dto.email)) campus.database.users with
  | error thrown =>
    apply (apart_answer identified (.error thrown)).agree <;>
      simp only [onDatabase, TenantAuthService.invite, Campus.part, find_one_on_own bound, found]
  | ok held =>
    cases held with
    | some user =>
      apply (apart_answer identified
        (.error (.badRequest "A user with this email already exists"))).agree <;>
        simp only [onDatabase, TenantAuthService.invite, Campus.part, find_one_on_own bound, found]
    | none =>
      have creates : RowsApart tenant campus.database.users
          (create ambient (TenantAuthService.invitedUser deployment draws dto)) :=
        create_apart bound identified.users (Collection.users.fresh free) (users_led rfl _)
      have invites := creates.answered (fun user =>
        .ok { userId := user.id.hex, inviteToken := draws.inviteToken : InviteResult })
      apply (Collection.users.write_apart identified invites).agree
      · simp only [onDatabase, TenantAuthService.invite, found, Collection.write_eq,
          Collection.users, answered]
        cases create ambient (TenantAuthService.invitedUser deployment draws dto)
          campus.database.users <;> rfl
      · simp only [onDatabase, TenantAuthService.invite, Campus.part, find_one_on_own bound, found,
          Collection.write_eq, Collection.users, answered]
        cases create ambient (TenantAuthService.invitedUser deployment draws dto)
          (ownRows tenant campus.database.users) <;> rfl

/-- The registration of a device token. -/
theorem add_fcm_token_apart (userId token : String) :
    ApartFor tenant campus (onDatabase (TenantAuthService.addFcmToken ambient userId token)) := by
  rw [add_fcm_token_eq]
  apply Collection.write_apart identified
  exact (find_by_text_and_update_apart bound identified.users userId
    (TenantAuthService.registerToken token) (fun _ => rfl) (fun _ => rfl)).answered _

/-- The creation of a student. -/
theorem create_student_apart {generated : ObjectId} (free : campus.Free tenant generated)
    (now : Int) (dto : CreateStudentDto) :
    ApartFor tenant campus (onDatabase (StudentsService.create ambient generated now dto)) := by
  rw [create_student_eq]
  apply Collection.write_apart identified
  exact create_apart bound identified.students (Collection.students.fresh free)
    (students_led rfl _)

/-- A change of a student. -/
theorem update_student_apart (now : Int) (id : String) (dto : UpdateStudentDto) :
    ApartFor tenant campus (onDatabase (StudentsService.update ambient now id dto)) := by
  rw [update_student_eq]
  apply Collection.write_apart identified
  apply RowsApart.answered
  apply find_by_text_and_rekey_apart bound identified.students id
    (StudentsService.changeStudent now dto) (fun _ => rfl) (fun _ => rfl)
  intro student owned
  have changed : (StudentsService.changeStudent now dto student).tenantId = tenant := owned
  exact students_led changed _

/-- The removal of a student. -/
theorem remove_student_apart (id : String) :
    ApartFor tenant campus (onDatabase (StudentsService.remove ambient id)) := by
  rw [remove_student_eq]
  apply Collection.write_apart identified
  exact (delete_apart bound identified.students id).answered _

/-- The creation of a batch. -/
theorem create_batch_apart {generated : ObjectId} (free : campus.Free tenant generated)
    (dto : CreateBatchDto) :
    ApartFor tenant campus (onDatabase (BatchesService.create ambient generated dto)) := by
  rw [create_batch_eq]
  apply Collection.write_apart identified
  exact create_apart bound identified.batches (Collection.batches.fresh free)
    (never_led (fun _ => rfl))

/-- A change of a batch. -/
theorem update_batch_apart (id : String) (dto : UpdateBatchDto) :
    ApartFor tenant campus (onDatabase (BatchesService.update ambient id dto)) := by
  rw [update_batch_eq]
  apply Collection.write_apart identified
  exact (find_by_text_and_update_apart bound identified.batches id (BatchesService.changeBatch dto)
    (fun _ => rfl) (fun _ => rfl)).answered _

/-- The removal of a batch. -/
theorem remove_batch_apart (id : String) :
    ApartFor tenant campus (onDatabase (BatchesService.remove ambient id)) := by
  rw [remove_batch_eq]
  apply Collection.write_apart identified
  exact (delete_apart bound identified.batches id).answered _

/-- An enrolment. -/
theorem enroll_apart (reached : ObjectId → Bool) (now : Int) (id : String) (dto : EnrollDto) :
    ApartFor tenant campus (onDatabase (BatchesService.enroll ambient reached now id dto)) := by
  cases found : findByText ambient id campus.database.batches with
  | error thrown =>
    apply (apart_answer identified (.error thrown)).agree <;>
      simp only [onDatabase, BatchesService.enroll, Campus.part, find_by_text_on_own bound, found]
  | ok held =>
    cases held with
    | none =>
      apply (apart_answer identified (.error (.notFound "Batch not found"))).agree <;>
        simp only [onDatabase, BatchesService.enroll, Campus.part, find_by_text_on_own bound, found]
    | some batch =>
      have updates : RowsApart tenant campus.database.students
          (updateMany ambient (BatchesService.listed dto) BatchesService.enrolmentRefusal reached
            (BatchesService.enrolledIn now batch.id)) :=
        update_many_apart bound identified.students _ _ _ _ (fun _ => rfl) (fun _ => rfl)
      apply ((Collection.students.write_apart identified updates).reading (fun read =>
        read.bind (fun answered => answered))).agree
      · simp only [onDatabase, BatchesService.enroll, found, Collection.write_eq,
          Collection.students]
        cases updateMany ambient (BatchesService.listed dto) BatchesService.enrolmentRefusal reached
          (BatchesService.enrolledIn now batch.id) campus.database.students <;> rfl
      · simp only [onDatabase, BatchesService.enroll, Campus.part, find_by_text_on_own bound, found,
          Collection.write_eq, Collection.students]
        cases updateMany ambient (BatchesService.listed dto) BatchesService.enrolmentRefusal reached
          (BatchesService.enrolledIn now batch.id) (ownRows tenant campus.database.students) <;> rfl

/-- The creation of a lead. -/
theorem create_lead_apart {generated : ObjectId} (free : campus.Free tenant generated)
    (dto : CreateLeadDto) :
    ApartFor tenant campus (LeadsService.create ambient generated dto) := by
  rw [create_lead_eq]
  apply Collection.write_apart identified
  exact create_apart bound identified.leads (Collection.leads.fresh free)
    (never_led (fun _ => rfl))

/-- An update of a lead in place that keeps its identity and its tenant. -/
theorem update_lead_apart (id : String) (change : Lead → Lead)
    (keepsId : ∀ lead, (change lead).id = lead.id)
    (keepsTenant : ∀ lead, (change lead).tenantId = lead.tenantId) :
    ApartFor tenant campus (LeadsService.updateLead ambient id change) := by
  rw [update_lead_eq]
  apply Collection.write_apart identified
  exact (find_by_text_and_update_apart bound identified.leads id change keepsId
    keepsTenant).answered _

/-- A note. -/
theorem add_note_apart (now : Int) (id text by_ : String) :
    ApartFor tenant campus (LeadsService.addNote ambient now id text by_) := by
  cases made : newObjectId by_ with
  | error thrown =>
    apply (apart_answer identified (.error thrown)).agree <;>
      simp only [LeadsService.addNote, made]
  | ok author =>
    apply (update_lead_apart bound identified id
      (LeadsService.pushNote { text := text, at_ := now, by_ := some author })
      (fun _ => rfl) (fun _ => rfl)).agree <;> simp only [LeadsService.addNote, made]

/-- The creation of a material. -/
theorem create_material_apart {generated : ObjectId} (free : campus.Free tenant generated)
    (userId : String) (dto : CreateMaterialDto) :
    ApartFor tenant campus (MaterialsService.create ambient generated userId dto) := by
  cases made : newObjectId userId with
  | error thrown =>
    apply (apart_answer identified (.error thrown)).agree <;>
      simp only [MaterialsService.create, made]
  | ok uploader =>
    have creates : RowsApart tenant campus.materials
        (create ambient (MaterialsService.createdMaterial generated uploader dto)) :=
      create_apart bound identified.materials (Collection.materials.fresh free)
        (never_led (fun _ => rfl))
    apply (Collection.materials.write_apart identified creates).agree <;>
      simp only [MaterialsService.create, made, Collection.write_eq, Collection.materials]
    · cases create ambient (MaterialsService.createdMaterial generated uploader dto)
        campus.materials <;> rfl
    · cases create ambient (MaterialsService.createdMaterial generated uploader dto)
        (campus.part tenant).materials <;> rfl

/-- The removal of a material. -/
theorem remove_material_apart (id : String) :
    ApartFor tenant campus (MaterialsService.remove ambient id) := by
  rw [remove_material_eq]
  apply Collection.write_apart identified
  exact (delete_apart bound identified.materials id).answered _

end Services

end CoachingApi
