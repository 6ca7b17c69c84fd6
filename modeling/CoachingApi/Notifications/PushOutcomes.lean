import CoachingApi.Notifications.NotificationsService

/-!
# What a stored notification says of its push

The push service catches a failing provider and answers how many devices were reached; the
pipeline ignores that answer and marks the notification sent unless it catches a failure
itself. So the stored status agrees with the provider's outcome exactly when a device was
reached.
-/

namespace CoachingApi

open TenantContextStore TenantPlugin

namespace NotificationsService

/-- The provider's answer to a message is that it reached a device. -/
def Delivers (provider : PushMessage → Except String Nat) (message : PushMessage) : Prop :=
  ∃ reached, provider message = .ok reached ∧ 0 < reached

/-- A push that was handed over reached a device. -/
def Delivered (push : Push) : Prop := 0 < push.answer.sent

/-- A call records what came of its push: one that reached no device as failed, as sent only one
that did, and the caller sees neither. -/
structure OutcomeRecorded (push : Push) (generated : ObjectId)
    (outcome : Database × Except Thrown Notification) : Prop where
  failed : ¬ Delivered push →
    ∃ notification ∈ outcome.1.notifications,
      notification.id = generated ∧ notification.status = .failed
  sent : ∀ notification ∈ outcome.1.notifications,
    notification.id = generated → notification.status = .sent → Delivered push
  returns : outcome.2.isOk = true

/-- A message for a device asks the provider. -/
theorem send_asks (provider : PushMessage → Except String Nat) {message : PushMessage}
    (equipped : message.tokens ≠ []) :
    PushService.send (some provider) message = .ofProvider (provider message) := by
  have some_ : message.tokens.isEmpty = false := by simpa using equipped
  simp only [PushService.send, some_, Bool.false_eq_true, if_false]

/-- What came of asking the provider tells whether it reached a device. -/
theorem delivered_iff {provider : PushMessage → Except String Nat} {push : Push}
    (asked : push.answer = .ofProvider (provider push.message)) :
    Delivered push ↔ Delivers provider push.message := by
  unfold Delivered Delivers
  rw [asked]
  cases provider push.message with
  | error reason => simp [PushAnswer.ofProvider, PushAnswer.sent]
  | ok successCount => simp [PushAnswer.ofProvider, PushAnswer.sent]

/-- In a tenant's context a push to a user with devices asks the provider once, with the
notification's message for the user's devices, and its answer decides whether the stored status
agrees with it: the two agree exactly when a device was reached.

Proof: the notification is stored as sent and returned, whatever the provider answers. -/
theorem outcome_recorded_iff {ambient : Ambient} {tenantId : String}
    (bound : Bound ambient tenantId) (provider : PushMessage → Except String Nat)
    {generated : ObjectId} (now : Int) {input : NotifyInput} {database : Database} {user : User}
    (distinct : Records.Distinct User.id database.users) (stored : user ∈ database.users)
    (owned : user.tenantId = tenantId) (equipped : user.fcmTokens ≠ [])
    (addressed : input.userId.cast = some user.id) (channel : input.channel.getD .push = .push)
    (typed : input.type ≠ "") (titled : input.title ≠ "") (worded : input.body ≠ "")
    (fresh : ∀ notification ∈ database.notifications, notification.id ≠ generated) :
    ∃ push,
      (notify ambient (some provider) generated now input database).1.pushes =
        database.pushes ++ [push] ∧
      push.notificationId = generated ∧
      push.message = message (queued tenantId generated input) user.fcmTokens ∧
      push.answer = .ofProvider (provider push.message) ∧
      (OutcomeRecorded push generated
          (notify ambient (some provider) generated now input database) ↔
        Delivers provider (message (queued tenantId generated input) user.fcmTokens)) := by
  let settled : Notification :=
    { queued tenantId generated input with status := .sent, sentAt := some now }
  let push := pushed (some provider) (queued tenantId generated input) user.fcmTokens
  have asked : push.answer = .ofProvider (provider push.message) := send_asks provider equipped
  have dispatched : dispatch ambient (some provider) now database.users
      (queued tenantId generated input) = (settled, some push) :=
    dispatch_bound bound (some provider) now distinct stored owned channel addressed
  have notified : notify ambient (some provider) generated now input database =
      (delivered (settled, some push) database, .ok settled) := by
    rw [notify_stores bound (some provider) now typed titled worded fresh, dispatched]
  have kept : settled ∈ (delivered (settled, some push) database).notifications := by
    simp [delivered]
  refine ⟨push, by rw [notified]; rfl, rfl, rfl, asked, ?_⟩
  rw [notified]
  refine Iff.trans ?_ (delivered_iff asked)
  constructor
  · intro recorded
    exact recorded.sent settled kept rfl rfl
  · intro reached
    exact ⟨fun unreached => absurd reached unreached, fun _ _ _ _ => reached, rfl⟩

/-- A user with one device. -/
def equippedUser : Database :=
  { users := [{ id := .repeated '5', tenantId := "institute-a", role := .student, name := "Asha",
                email := "asha@a.test", fcmTokens := ["device-1"], status := .active }] }

/-- A notice for that user. -/
def notice : NotifyInput :=
  { userId := .text (ObjectId.repeated '5').hex, type := "graded", title := "Assignment graded"
    body := "A" }

/-- A call for that user with a provider. -/
def noticeOutcome (provider : PushMessage → Except String Nat) :
    Database × Except Thrown Notification :=
  notify (some { tenantId := some "institute-a" }) (some provider) (.repeated '9') 1 notice
    equippedUser

/-- The push that such a call hands over, with what came of it. -/
def noticePush (answer : PushAnswer) : Push :=
  { notificationId := .repeated '9', tenantId := "institute-a", answer := answer
    message := { tokens := ["device-1"], title := "Assignment graded", body := "A" } }

/-- With a provider that throws the notification is stored as sent. -/
theorem thrown_push_stored_sent :
    (noticeOutcome (fun _ => .error "unavailable")).1.notifications.map Notification.status =
        [.sent] ∧
      (noticeOutcome (fun _ => .error "unavailable")).1.pushes =
        [noticePush (.threw "unavailable")] ∧
      ¬ OutcomeRecorded (noticePush (.threw "unavailable")) (.repeated '9')
        (noticeOutcome (fun _ => .error "unavailable")) := by
  have statuses : (noticeOutcome (fun _ => .error "unavailable")).1.notifications.map
      Notification.status = [.sent] := by
    decide +kernel
  refine ⟨statuses, by decide +kernel, ?_⟩
  intro recorded
  obtain ⟨notification, member, _, failed⟩ := recorded.failed (Nat.lt_irrefl 0)
  have status : notification.status ∈ (noticeOutcome
      (fun _ => .error "unavailable")).1.notifications.map Notification.status :=
    List.mem_map_of_mem member
  rw [statuses, failed] at status
  cases List.mem_singleton.mp status

/-- With a provider that reaches the device the notification is rightly stored as sent. -/
theorem reached_push_recorded :
    (noticeOutcome (fun _ => .ok 1)).1.pushes = [noticePush (.reached 1)] ∧
      OutcomeRecorded (noticePush (.reached 1)) (.repeated '9')
        (noticeOutcome (fun _ => .ok 1)) := by
  have distinct : Records.Distinct User.id equippedUser.users := by decide +kernel
  have pushes : (noticeOutcome (fun _ => .ok 1)).1.pushes = [noticePush (.reached 1)] := by
    decide +kernel
  obtain ⟨push, handed, _, _, _, recorded⟩ := outcome_recorded_iff
    (bound_run "institute-a" (by decide)) (fun _ => .ok 1) 1 distinct
    (List.mem_singleton.mpr rfl) rfl (List.cons_ne_nil _ _)
    (show notice.userId.cast = _ by decide +kernel) rfl (by decide) (by decide) (by decide)
    (show ∀ notification ∈ equippedUser.notifications, notification.id ≠ .repeated '9' by
      decide +kernel)
  obtain rfl : noticePush (.reached 1) = push :=
    List.singleton_inj.mp (pushes.symm.trans handed)
  exact ⟨pushes, recorded.mpr ⟨1, rfl, by decide⟩⟩

end NotificationsService

end CoachingApi
