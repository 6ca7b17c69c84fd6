import CoachingApi.Schemas.Fees

/-!
# The notification pipeline

A notification is created queued, dispatched, and saved with what came of the
dispatch. The push client is the provider's answer to a message, absent when it is
not configured; sending swallows a failing provider. Only a failing look-up of the
user makes a dispatch fail. Logging is left out, and the data of a message is taken
as strings, which is what every modelled caller supplies. What is handed to the push service is
recorded with what came of it.
-/

namespace CoachingApi

open TenantContextStore TenantPlugin

/-- The push client: how many devices the provider reached, or its failure. -/
abbrev PushApp := Option (PushMessage → Except String Nat)

/-- How many devices `send` answers were reached. -/
def PushAnswer.sent : PushAnswer → Nat
  | .unasked => 0
  | .threw _ => 0
  | .reached successCount => successCount

/-- What came of asking the provider. -/
def PushAnswer.ofProvider : Except String Nat → PushAnswer
  | .error reason => .threw reason
  | .ok successCount => .reached successCount

namespace PushService

/-- Best-effort send; it never throws. -/
def send (app : PushApp) (message : PushMessage) : PushAnswer :=
  match app with
  | none => .unasked
  | some provider =>
    if message.tokens.isEmpty then .unasked else .ofProvider (provider message)

end PushService

/-- What a caller asks to be notified. -/
structure NotifyInput where
  userId : Reference
  type : String
  title : String
  body : String
  data : Option (List (String × String)) := none
  channel : Option NotificationChannel := none
  deriving DecidableEq

namespace NotificationsService

/-- The message a notification is sent as. -/
def message (notification : Notification) (tokens : List String) : PushMessage :=
  { tokens := tokens, title := notification.title, body := notification.body,
    data := notification.data }

/-- A message for some tokens, handed to the push service for a notification. -/
def pushed (app : PushApp) (notification : Notification) (tokens : List String) : Push :=
  { notificationId := notification.id, tenantId := notification.tenantId,
    message := message notification tokens,
    answer := PushService.send app (message notification tokens) }

/-- Deliver a notification and settle its status in memory, with what was handed to the push
service. What the service answers settles nothing. -/
def dispatch (ambient : Ambient) (app : PushApp) (now : Int) (users : List User)
    (notification : Notification) : Notification × Option Push :=
  match notification.channel with
  | .push =>
    match TenantModel.findByReference ambient notification.userId users with
    | .error _ => ({ notification with status := .failed }, none)
    | .ok user =>
      ({ notification with status := .sent, sentAt := some now },
        some (pushed app notification ((user.map User.fcmTokens).getD [])))
  | .sms => ({ notification with status := .sent, sentAt := some now }, none)

/-- `list`: a user's last hundred notifications, the newest first. Creation times are taken to
grow with the order of creation. Those are found whose user is the text that is given. -/
def list (ambient : Ambient) (userId : String) (database : Database) :
    Except Thrown (List Notification) :=
  match TenantModel.find ambient
      (fun notification => decide (notification.userId = .text userId))
      database.notifications with
  | .error thrown => .error thrown
  | .ok found => .ok (found.reverse.take 100)

/-- Create a notification under a generated identity, dispatch it and save it. -/
def notify (ambient : Ambient) (app : PushApp) (generated : ObjectId) (now : Int)
    (input : NotifyInput) (database : Database) : Database × Except Thrown Notification :=
  match TenantModel.create ambient
      { id := generated, userId := input.userId, channel := input.channel.getD .push,
        type := input.type, title := input.title, body := input.body, data := input.data,
        status := .queued : Notification }
      database.notifications with
  | .error thrown => (database, .error thrown)
  | .ok (queued, notifications) =>
    let dispatched := dispatch ambient app now database.users queued
    let pushes := database.pushes ++ dispatched.2.toList
    match TenantModel.save ambient queued dispatched.1 notifications with
    | .error thrown =>
      ({ database with notifications := notifications, pushes := pushes }, .error thrown)
    | .ok (stored, saved) =>
      ({ database with notifications := saved, pushes := pushes }, .ok stored)

/-- Notifying writes notifications and pushes and nothing else. -/
theorem notify_writes (ambient : Ambient) (app : PushApp) (generated : ObjectId) (now : Int)
    (input : NotifyInput) (database : Database) :
    ∃ notifications pushes, (notify ambient app generated now input database).1 =
      { database with notifications := notifications, pushes := pushes } := by
  unfold notify
  split
  · exact ⟨database.notifications, database.pushes, rfl⟩
  · simp only
    split
    · exact ⟨_, _, rfl⟩
    · exact ⟨_, _, rfl⟩

/-- A refused notification is not a storage failure. -/
theorem notify_refused {ambient : Ambient} {app : PushApp} {generated : ObjectId} {now : Int}
    {input : NotifyInput} {database : Database} {thrown : Thrown}
    (refused : (notify ambient app generated now input database).2 = .error thrown) :
    thrown ≠ .storage := by
  unfold notify at refused
  split at refused
  · rename_i reason created
    exact Except.error.inj refused ▸ (TenantModel.create_refused created).1
  · simp only at refused
    split at refused
    · rename_i reason saved
      exact Except.error.inj refused ▸ TenantModel.save_refused saved
    · simp at refused

/-- Dispatching settles the status and the time of sending only. -/
theorem dispatch_settles (ambient : Ambient) (app : PushApp) (now : Int) (users : List User)
    (notification : Notification) :
    ∃ status sentAt, (dispatch ambient app now users notification).1 =
      { notification with status := status, sentAt := sentAt } := by
  unfold dispatch
  cases notification.channel with
  | push =>
    cases TenantModel.findByReference ambient notification.userId users with
    | error thrown => exact ⟨.failed, notification.sentAt, rfl⟩
    | ok user => exact ⟨.sent, some now, rfl⟩
  | sms => exact ⟨.sent, some now, rfl⟩

/-- What a dispatch hands over is for the notification. -/
theorem dispatch_hands {ambient : Ambient} {app : PushApp} {now : Int} {users : List User}
    {notification : Notification} {push : Push}
    (handed : (dispatch ambient app now users notification).2 = some push) :
    ∃ tokens, push = pushed app notification tokens := by
  unfold dispatch at handed
  cases channel : notification.channel with
  | push =>
    cases found : TenantModel.findByReference ambient notification.userId users with
    | error thrown => simp [channel, found] at handed
    | ok user =>
      simp only [channel, found, Option.some.injEq] at handed
      exact ⟨_, handed.symm⟩
  | sms => simp [channel] at handed

/-- In a tenant's context a push to one of its users is handed over for the user's devices, and
the notification is settled as sent. -/
theorem dispatch_bound {ambient : Ambient} {tenantId : String} (bound : Bound ambient tenantId)
    (app : PushApp) (now : Int) {users : List User} (distinct : Records.Distinct User.id users)
    {user : User} (stored : user ∈ users) (owned : user.tenantId = tenantId)
    {notification : Notification} (channel : notification.channel = .push)
    (addressed : notification.userId.cast = some user.id) :
    dispatch ambient app now users notification =
      ({ notification with status := .sent, sentAt := some now },
        some (pushed app notification user.fcmTokens)) := by
  have found : TenantModel.findByReference ambient notification.userId users = .ok (some user) := by
    rw [TenantModel.find_by_reference_bound bound addressed]
    exact TenantModel.find_by_id_stored bound distinct stored owned
  simp only [dispatch, channel, found, Option.map_some, Option.getD_some]

/-- The notification that is created for a caller's input. -/
def queued (tenantId : String) (generated : ObjectId) (input : NotifyInput) : Notification :=
  { id := generated, tenantId := tenantId, userId := input.userId,
    channel := input.channel.getD .push, type := input.type, title := input.title,
    body := input.body, data := input.data, status := .queued }

/-- In a tenant's context a dispatched notification that was just created is saved as it is. -/
theorem save_dispatched {ambient : Ambient} {tenantId : String} (bound : Bound ambient tenantId)
    (app : PushApp) (now : Int) (users : List User) {created : Notification}
    {notifications : List Notification} (owned : created.tenantId = tenantId)
    (valid : TenantModel.refusedPath created = none)
    (fresh : ∀ notification ∈ notifications, notification.id ≠ created.id) :
    TenantModel.save ambient created (dispatch ambient app now users created).1
        (notifications ++ [created]) =
      .ok ((dispatch ambient app now users created).1,
        notifications ++ [(dispatch ambient app now users created).1]) := by
  obtain ⟨status, sentAt, dispatched⟩ := dispatch_settles ambient app now users created
  rw [dispatched]
  let settled : Notification := { created with status := status, sentAt := sentAt }
  have accepted : TenantModel.validate ambient settled = .ok settled := by
    rw [TenantModel.validate_bound bound owned]
    have same : TenantModel.refusedPath settled = TenantModel.refusedPath created := rfl
    rw [same, valid]
  have whole : TenantModel.writeBack created settled created = settled := by
    simp [TenantModel.writeBack, settled]
  have rewritten := Records.modify_append (TenantModel.writeBack created settled) fresh
  rw [whole] at rewritten
  rw [TenantModel.save_accepted accepted (Records.lookup_append fresh) (fun _ _ _ => rfl)]
  exact congrArg (fun rows => Except.ok (settled, rows)) rewritten

/-- The database with what a dispatch left of a notification, and the push that it handed over. -/
def delivered (dispatched : Notification × Option Push) (database : Database) : Database :=
  { database with
    notifications := database.notifications ++ [dispatched.1]
    pushes := database.pushes ++ dispatched.2.toList }

/-- In a tenant's context a notification is refused, or created and saved as dispatched. -/
theorem notify_cases {ambient : Ambient} {tenantId : String} (bound : Bound ambient tenantId)
    (app : PushApp) (generated : ObjectId) (now : Int) (input : NotifyInput)
    (database : Database) :
    (∃ thrown, notify ambient app generated now input database = (database, .error thrown)) ∨
      (∀ notification ∈ database.notifications, notification.id ≠ generated) ∧
        notify ambient app generated now input database =
          (delivered (dispatch ambient app now database.users (queued tenantId generated input))
            database,
            .ok (dispatch ambient app now database.users (queued tenantId generated input)).1) := by
  unfold notify
  split
  · rename_i thrown _
    exact .inl ⟨thrown, rfl⟩
  · rename_i created notifications accepted
    obtain ⟨valid, rfl, fresh⟩ := TenantModel.create_ok accepted
    obtain ⟨stamp, unrefused⟩ := TenantModel.validate_ok bound valid
    have same : created = queued tenantId generated input := stamp
    subst same
    have apart : ∀ notification ∈ database.notifications, notification.id ≠ generated :=
      fun notification member => (fresh notification member).1
    simp only [save_dispatched bound app now database.users rfl unrefused apart]
    exact .inr ⟨apart, rfl⟩

/-- In a tenant's context notifying under a new identity stores the dispatched notification
and returns it. -/
theorem notify_stores {ambient : Ambient} {tenantId : String} (bound : Bound ambient tenantId)
    (app : PushApp) {generated : ObjectId} (now : Int) {input : NotifyInput} {database : Database}
    (typed : input.type ≠ "") (titled : input.title ≠ "") (worded : input.body ≠ "")
    (fresh : ∀ notification ∈ database.notifications, notification.id ≠ generated) :
    notify ambient app generated now input database =
      (delivered (dispatch ambient app now database.users (queued tenantId generated input))
        database,
        .ok (dispatch ambient app now database.users (queued tenantId generated input)).1) := by
  have valid : TenantModel.refusedPath (queued tenantId generated input) = none := by
    simp [TenantModel.refusedPath, queued, firstRefused, typed, titled, worded]
  have created : TenantModel.create ambient
      { id := generated, userId := input.userId, channel := input.channel.getD .push,
        type := input.type, title := input.title, body := input.body, data := input.data,
        status := .queued : Notification }
      database.notifications = .ok (queued tenantId generated input,
        database.notifications ++ [queued tenantId generated input]) := by
    refine TenantModel.create_accepted (TenantModel.validate_unset bound rfl valid) ?_
    exact fun stored member => ⟨fresh stored member, rfl⟩
  simp only [notify, created, save_dispatched bound app now database.users rfl valid fresh]
  rfl

/-- In a tenant's context notifying adds notifications and pushes of that tenant and touches no
other ones. -/
theorem notify_appends {ambient : Ambient} {tenantId : String} (bound : Bound ambient tenantId)
    (app : PushApp) (generated : ObjectId) (now : Int) (input : NotifyInput)
    (database : Database) :
    ∃ added handed, (notify ambient app generated now input database).1 =
        { database with
          notifications := database.notifications ++ added
          pushes := database.pushes ++ handed } ∧
      (∀ notification ∈ added, notification.tenantId = tenantId) ∧
      ∀ push ∈ handed, push.tenantId = tenantId := by
  rcases notify_cases bound app generated now input database with ⟨thrown, refused⟩ | ⟨_, stored⟩
  · exact ⟨[], [], by simp [refused], by simp, by simp⟩
  · obtain ⟨status, sentAt, dispatched⟩ := dispatch_settles ambient app now database.users
      (queued tenantId generated input)
    refine ⟨_, _, by rw [stored]; rfl, ?_, ?_⟩
    · intro notification member
      rw [List.mem_singleton.mp member, dispatched]
      rfl
    · intro push member
      obtain ⟨tokens, rfl⟩ := dispatch_hands (Option.mem_toList.mp member)
      rfl

/-- In a tenant's context notifying under a new identity succeeds. -/
theorem notify_succeeds {ambient : Ambient} {tenantId : String} (bound : Bound ambient tenantId)
    (app : PushApp) (generated : ObjectId) (now : Int) (input : NotifyInput)
    (database : Database) (typed : input.type ≠ "") (titled : input.title ≠ "")
    (worded : input.body ≠ "")
    (fresh : ∀ notification ∈ database.notifications, notification.id ≠ generated) :
    ∃ stored, (notify ambient app generated now input database).2 = .ok stored :=
  ⟨_, congrArg Prod.snd (notify_stores bound app now typed titled worded fresh)⟩

end NotificationsService

end CoachingApi
