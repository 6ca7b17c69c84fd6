import CoachingApi.Common.TenantModel
import CoachingApi.Library.PlainObjects
import CoachingApi.Library.Text

/-!
# Institutes, their people and their notifications

A tenant is the institute itself and is not scoped by the plugin. Users, students and
notifications are. References to other documents are stored as they are given. Setters run on
the values a document is created with and on the values a query compares, first trimming and
then folding case. Of the timestamps only a student's time of update is held: updates of many
students count the ones they change, and that time is part of what they change. Tenant settings
are read by no modelled function and are left out.
-/

namespace CoachingApi

/-- The path of the first check that fails. -/
def firstRefused : List (Bool × String) → Option String
  | [] => none
  | (refused, path) :: rest => if refused then some path else firstRefused rest

/-- No check fails exactly when no path is refused. -/
theorem first_refused_none {checks : List (Bool × String)} :
    firstRefused checks = none ↔ ∀ check ∈ checks, check.1 = false := by
  induction checks with
  | nil => simp [firstRefused]
  | cons check rest inductionHypothesis =>
    obtain ⟨refused, path⟩ := check
    cases refused with
    | true => simp [firstRefused]
    | false => simpa [firstRefused] using inductionHypothesis

/-- The feature flags that override those of an institute's plan. -/
abbrev Flags := PlainObject String Bool

/-- An institute. Its identity is the tenant id of its documents. -/
structure Tenant where
  id : ObjectId
  name : String
  subdomain : String
  planId : Option Reference := none
  timezone : String := "Asia/Kolkata"
  status : TenantStatus := .pending
  flags : Flags := .empty
  deriving DecidableEq

/-- The setters of the institute's schema. -/
def Tenant.cast (toLowerCase : Text.CaseFolding) (tenant : Tenant) : Tenant :=
  { tenant with
    name := Text.trim tenant.name
    subdomain := toLowerCase.canonical tenant.subdomain }

/-- A user of an institute. The password and invite hashes are not selected by
default, which hides them from reads that do not ask and changes no stored value. -/
structure User where
  id : ObjectId
  tenantId : String
  role : UserRole
  name : String
  email : String
  phone : Option String := none
  passwordHash : Option String := none
  fcmTokens : List String := []
  status : UserStatus := .invited
  inviteTokenHash : Option String := none
  inviteExpiresAt : Option Int := none
  deriving DecidableEq

/-- The setters of the user's schema. -/
def User.cast (toLowerCase : Text.CaseFolding) (user : User) : User :=
  { user with
    name := Text.trim user.name
    email := toLowerCase.canonical user.email
    phone := user.phone.map Text.trim }

instance : TenantModel User where
  modelName := "User"
  id := User.id
  tenantId := User.tenantId
  withTenantId := fun tenant user => { user with tenantId := tenant }
  clashes := fun stored candidate =>
    decide (stored.tenantId = candidate.tenantId ∧ stored.email = candidate.email)
  refusedPath := fun user => firstRefused [(user.name = "", "name"), (user.email = "", "email")]
  writeBack := fun loaded current stored =>
    { stored with
      tenantId := written loaded.tenantId current.tenantId stored.tenantId
      role := written loaded.role current.role stored.role
      name := written loaded.name current.name stored.name
      email := written loaded.email current.email stored.email
      phone := written loaded.phone current.phone stored.phone
      passwordHash := written loaded.passwordHash current.passwordHash stored.passwordHash
      fcmTokens := written loaded.fcmTokens current.fcmTokens stored.fcmTokens
      status := written loaded.status current.status stored.status
      inviteTokenHash :=
        written loaded.inviteTokenHash current.inviteTokenHash stored.inviteTokenHash
      inviteExpiresAt :=
        written loaded.inviteExpiresAt current.inviteExpiresAt stored.inviteExpiresAt }
  with_tenant_id := fun _ _ => rfl
  with_tenant_same := fun _ => rfl
  with_tenant_keeps := fun _ _ => rfl
  write_back_keeps := fun _ _ _ => rfl

/-- A user passes its validators when its name and its email are set. -/
theorem user_accepted {user : User} :
    TenantModel.refusedPath user = none ↔ user.name ≠ "" ∧ user.email ≠ "" := by
  simp [TenantModel.refusedPath, first_refused_none]

/-- An entry of the platform's audit trail, which is not scoped by the plugin. -/
structure AuditLog where
  id : ObjectId
  actor : String
  action : String
  targetTenantId : Option String := none
  metadata : List (String × String) := []
  deriving DecidableEq

/-- A student profile, linked to a user and possibly to a parent's user. An update can store
null for the batches and for the roll number, which the unique index compares like any other. -/
structure Student where
  id : ObjectId
  tenantId : String
  userId : Reference
  parentUserId : Option Reference := none
  batchIds : Option (List Reference) := some []
  rollNo : Option String
  updatedAt : Int := 0
  deriving DecidableEq

/-- A reference is among a student's batches. A null list holds none. -/
def Student.holds (student : Student) (batchId : Reference) : Bool :=
  (student.batchIds.getD []).contains batchId

instance : TenantModel Student where
  modelName := "Student"
  id := Student.id
  tenantId := Student.tenantId
  withTenantId := fun tenant student => { student with tenantId := tenant }
  clashes := fun stored candidate =>
    decide (stored.tenantId = candidate.tenantId ∧
      (stored.rollNo = candidate.rollNo ∨ stored.userId = candidate.userId))
  refusedPath := fun student => firstRefused [(student.rollNo.getD "" = "", "rollNo")]
  writeBack := fun loaded current stored =>
    { stored with
      tenantId := written loaded.tenantId current.tenantId stored.tenantId
      userId := written loaded.userId current.userId stored.userId
      parentUserId := written loaded.parentUserId current.parentUserId stored.parentUserId
      batchIds := written loaded.batchIds current.batchIds stored.batchIds
      rollNo := written loaded.rollNo current.rollNo stored.rollNo
      updatedAt := written loaded.updatedAt current.updatedAt stored.updatedAt }
  with_tenant_id := fun _ _ => rfl
  with_tenant_same := fun _ => rfl
  with_tenant_keeps := fun _ _ => rfl
  write_back_keeps := fun _ _ _ => rfl

/-- A notification record: what is to be delivered to whom, and how far it got. -/
structure Notification where
  id : ObjectId
  tenantId : String := ""
  userId : Reference
  channel : NotificationChannel := .push
  type : String
  title : String
  body : String
  data : Option (List (String × String)) := none
  status : NotificationStatus := .queued
  sentAt : Option Int := none
  deriving DecidableEq

/-- A message for a set of device tokens. -/
structure PushMessage where
  tokens : List String
  title : String
  body : String
  data : Option (List (String × String)) := none
  deriving DecidableEq

/-- What came of a message: the provider was not asked, it threw, or it reached some devices. -/
inductive PushAnswer where
  | unasked
  | threw (reason : String)
  | reached (successCount : Nat)
  deriving DecidableEq

/-- A message that was handed to the push service for a notification, and what came of it. No
collection stores it; it is recorded to tell what was sent. -/
structure Push where
  notificationId : ObjectId
  tenantId : String
  message : PushMessage
  answer : PushAnswer
  deriving DecidableEq

instance : TenantModel Notification where
  modelName := "Notification"
  id := Notification.id
  tenantId := Notification.tenantId
  withTenantId := fun tenant notification => { notification with tenantId := tenant }
  clashes := fun _ _ => false
  refusedPath := fun notification =>
    firstRefused [(notification.type = "", "type"), (notification.title = "", "title"),
      (notification.body = "", "body")]
  writeBack := fun loaded current stored =>
    { stored with
      tenantId := written loaded.tenantId current.tenantId stored.tenantId
      userId := written loaded.userId current.userId stored.userId
      channel := written loaded.channel current.channel stored.channel
      type := written loaded.type current.type stored.type
      title := written loaded.title current.title stored.title
      body := written loaded.body current.body stored.body
      data := written loaded.data current.data stored.data
      status := written loaded.status current.status stored.status
      sentAt := written loaded.sentAt current.sentAt stored.sentAt }
  with_tenant_id := fun _ _ => rfl
  with_tenant_same := fun _ => rfl
  with_tenant_keeps := fun _ _ => rfl
  write_back_keeps := fun _ _ _ => rfl

end CoachingApi
