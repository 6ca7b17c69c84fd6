import CoachingApi.Fees.CaptureTransitions
import CoachingApi.Library.Runs

/-!
# Concurrent captures of one payment

Any number of calls take their steps in any order on one database. A history beside
the database records which call claimed which payment and which call credited an
invoice for which payment; the calls never read it.

The claiming save is unconditional and the unique index compares different documents
only. So a payment is claimed once exactly as long as every claiming save that is
accepted finds it still in the created state. Under that condition every payment is
claimed and credited at most once and keeps its gateway payment id.
-/

namespace CoachingApi

open TenantContextStore TenantPlugin FeesService Runs

namespace CaptureRaces

/-- One delivery being applied. -/
structure CaptureCall where
  ambient : Ambient
  params : CaptureParams

/-- What the history remembers of a step. -/
inductive CaptureEvent where
  | claimed (paymentId : ObjectId)
  | credited (paymentId : ObjectId)
  deriving DecidableEq

/-- The database with the history of the calls on it. -/
structure Traced (κ : Type) where
  database : Database
  history : List (κ × CaptureEvent)

/-- The event of a step: a claiming save or an invoice save that was accepted. -/
def eventOf : CaptureStep → CaptureStep → Option CaptureEvent
  | .claiming .., .claimed payment => some (.claimed payment.id)
  | .crediting .., .notifying payment _ _ => some (.credited payment.id)
  | _, _ => none

section Races

variable {κ : Type} [DecidableEq κ] (deployment : Deployment) (calls : κ → CaptureCall)

/-- One call takes a step. -/
def act (call : κ) (input : StepInput) (shared : Traced κ) (step : CaptureStep) :
    Traced κ × CaptureStep :=
  let next := captureStep deployment (calls call).ambient (calls call).params input
    shared.database step
  (⟨next.1, shared.history ++ ((eventOf step next.2).map (fun event => (call, event))).toList⟩,
    next.2)

/-- Every call is about to start, and nothing has happened. -/
def openedRace (database : Database) : Configuration κ (Traced κ) CaptureStep :=
  ⟨⟨database, []⟩, fun _ => .started⟩

/-- The calls after their steps in the order of a schedule. -/
def race (database : Database) (schedule : List (κ × StepInput)) :
    Configuration κ (Traced κ) CaptureStep :=
  run (turn (act deployment calls)) (openedRace database) schedule

/-- The condition on one step: a claiming save finds its payment still created, or the
unique index refuses it because another document holds the id. -/
def ClaimsPending (configuration : Configuration κ (Traced κ) CaptureStep)
    (turn : κ × StepInput) : Prop :=
  ∀ loaded current, configuration.locals turn.1 = .claiming loaded current →
    (∀ stored ∈ configuration.shared.database.payments,
      stored.id = loaded.id → stored.status = .created) ∨
    TenantModel.save (calls turn.1).ambient loaded current
      configuration.shared.database.payments = .error .duplicateKey

/-- The condition on one step can be tested. -/
instance (configuration : Configuration κ (Traced κ) CaptureStep) (turn : κ × StepInput) :
    Decidable (ClaimsPending calls configuration turn) :=
  match position : configuration.locals turn.1 with
  | .claiming loaded current =>
    decidable_of_iff
      ((∀ stored ∈ configuration.shared.database.payments,
          stored.id = loaded.id → stored.status = .created) ∨
        TenantModel.save (calls turn.1).ambient loaded current
          configuration.shared.database.payments = .error .duplicateKey)
      (by simp [ClaimsPending, position])
  | .started | .noneRecorded | .claimed _ | .rendering .. | .storingReceipt .. | .crediting ..
  | .notifying .. | .returned .. | .threw _ =>
    isTrue (by simp [ClaimsPending, position])

end Races

/-- The payment a call holds a successful claim on. -/
def holding : CaptureStep → Option Payment
  | .claimed payment => some payment
  | .rendering payment _ _ _ => some payment
  | .storingReceipt payment _ _ _ _ => some payment
  | .crediting payment _ _ _ _ => some payment
  | .notifying payment _ _ => some payment
  | .returned result payment => if result.applied then payment else none
  | _ => none

/-- Captured payments keep their status and gateway payment id. -/
def Settled (before after : List Payment) : Prop :=
  ∀ payment ∈ before, payment.status ≠ .created →
    ∃ kept ∈ after, kept.id = payment.id ∧ kept.status = payment.status ∧
      kept.gatewayPaymentId = payment.gatewayPaymentId

/-- Nothing changed. -/
theorem settled_refl (payments : List Payment) : Settled payments payments :=
  fun payment stored _ => ⟨payment, stored, rfl, rfl, rfl⟩

/-- One change after another. -/
theorem settled_trans {first second third : List Payment} (earlier : Settled first second)
    (later : Settled second third) : Settled first third := by
  intro payment stored captured
  obtain ⟨middle, middleStored, sameId, sameStatus, sameGateway⟩ := earlier payment stored captured
  obtain ⟨kept, keptStored, keptId, keptStatus, keptGateway⟩ :=
    later middle middleStored (sameStatus ▸ captured)
  exact ⟨kept, keptStored, keptId.trans sameId, keptStatus.trans sameStatus,
    keptGateway.trans sameGateway⟩

/-- A rewrite of one payment that is still created, or that keeps its status and its
gateway payment id, leaves the captured payments as they are. -/
theorem settled_modify {payments : List Payment} (target : ObjectId) (change : Payment → Payment)
    (keepsId : ∀ payment, (change payment).id = payment.id)
    (keeps : ∀ payment ∈ payments, payment.id = target → payment.status ≠ .created →
      (change payment).status = payment.status ∧
        (change payment).gatewayPaymentId = payment.gatewayPaymentId) :
    Settled payments (Records.modify Payment.id target change payments) := by
  intro payment stored captured
  by_cases same : payment.id = target
  · obtain ⟨sameStatus, sameGateway⟩ := keeps payment stored same captured
    exact ⟨change payment, same ▸ Records.modify_same stored, keepsId payment, sameStatus,
      sameGateway⟩
  · exact ⟨payment, Records.modify_other stored same, rfl, rfl, rfl⟩

/-- What a save of a payment stores: the modified paths of what is in memory, which the
stamp changes in the tenant only. -/
theorem payment_saved {ambient : Ambient} {loaded current stored : Payment}
    {payments updated : List Payment}
    (saved : TenantModel.save ambient loaded current payments = .ok (stored, updated)) :
    (∃ tenant, stored = { current with tenantId := tenant }) ∧
      updated = Records.modify Payment.id loaded.id (TenantModel.writeBack loaded stored) payments := by
  obtain ⟨valid, written, _⟩ := TenantModel.save_ok saved
  obtain ⟨tenant, stamped, _⟩ := TenantModel.validate_stamps valid
  exact ⟨⟨tenant, stamped⟩, written⟩

/-- The write of an accepted claim captures a created payment. -/
theorem claim_write {loaded current stored held : Payment} {tenant : String}
    (stamped : stored = { current with tenantId := tenant }) (created : loaded.status = .created)
    (captured : current.status = .captured) :
    (TenantModel.writeBack loaded stored held).status = .captured := by
  subst stamped
  simp [TenantModel.writeBack, written, created, captured]

/-- The write of a receipt keeps the status and the gateway payment id. -/
theorem receipt_write {payment stored held : Payment} {tenant receiptUrl : String}
    (stamped : stored = { payment with receiptUrl := some receiptUrl, tenantId := tenant }) :
    (TenantModel.writeBack payment stored held).status = held.status ∧
      (TenantModel.writeBack payment stored held).gatewayPaymentId = held.gatewayPaymentId := by
  subst stamped
  simp [TenantModel.writeBack]

/-- In the tenant's context the write of a receipt keeps the payment's standing. -/
theorem receipt_standing {payment held : Payment} {tenantId receiptUrl : String}
    (owned : payment.tenantId = tenantId) :
    standing (TenantModel.writeBack payment
      { payment with receiptUrl := some receiptUrl, tenantId := tenantId } held) =
      standing held := by
  subst owned
  simp [TenantModel.writeBack, standing, facts]

/-- How often an event is in a history. -/
def occurrences {κ : Type} (event : CaptureEvent) (history : List (κ × CaptureEvent)) : Nat :=
  (history.filter (fun entry => decide (entry.2 = event))).length

/-- Adding an event counts it. -/
theorem occurrences_append {κ : Type} (event : CaptureEvent) (history : List (κ × CaptureEvent))
    (call : κ) (added : CaptureEvent) :
    occurrences event (history ++ [(call, added)]) =
      occurrences event history + if added = event then 1 else 0 := by
  by_cases same : added = event <;> simp [occurrences, same]

/-- An event nobody caused occurs never. -/
theorem occurrences_none {κ : Type} {event : CaptureEvent} {history : List (κ × CaptureEvent)}
    (absent : ∀ call, (call, event) ∉ history) : occurrences event history = 0 := by
  rw [occurrences, List.length_eq_zero_iff, List.filter_eq_nil_iff]
  intro entry member
  simp only [decide_eq_true_eq]
  rintro rfl
  exact absent entry.1 member

/-- An event that occurs at most once has one cause. -/
theorem occurrences_unique {κ : Type} {event : CaptureEvent} {history : List (κ × CaptureEvent)}
    (once : occurrences event history ≤ 1) {first second : κ}
    (firstCaused : (first, event) ∈ history) (secondCaused : (second, event) ∈ history) :
    first = second := by
  have firstKept : (first, event) ∈ history.filter (fun entry => decide (entry.2 = event)) :=
    List.mem_filter.mpr ⟨firstCaused, by simp⟩
  have secondKept : (second, event) ∈ history.filter (fun entry => decide (entry.2 = event)) :=
    List.mem_filter.mpr ⟨secondCaused, by simp⟩
  unfold occurrences at once
  cases filtered : history.filter (fun entry => decide (entry.2 = event)) with
  | nil => simp [filtered] at firstKept
  | cons entry rest =>
    rw [filtered] at once firstKept secondKept
    have alone : rest = [] := by
      rw [← List.length_eq_zero_iff]
      simp only [List.length_cons] at once
      omega
    subst alone
    rw [List.mem_singleton] at firstKept secondKept
    exact congrArg Prod.fst (firstKept.trans secondKept.symm)

section Invariant

variable {κ : Type}

/-- The invariant of a race. Every claim in the history is held by a captured payment
and happened once; a call credits a payment it claimed, and only once. -/
structure ClaimedOnce (configuration : Configuration κ (Traced κ) CaptureStep) : Prop where
  distinct : Records.Distinct Payment.id configuration.shared.database.payments
  claiming : ∀ call loaded current, configuration.locals call = .claiming loaded current →
    loaded.status = .created ∧ current.status = .captured ∧ current.id = loaded.id ∧
      loaded.id ∈ configuration.shared.database.payments.map Payment.id
  held : ∀ call payment, holding (configuration.locals call) = some payment →
    (call, CaptureEvent.claimed payment.id) ∈ configuration.shared.history
  captured : ∀ call paymentId,
    (call, CaptureEvent.claimed paymentId) ∈ configuration.shared.history →
      ∃ payment ∈ configuration.shared.database.payments,
        payment.id = paymentId ∧ payment.status ≠ .created
  once : ∀ paymentId, occurrences (.claimed paymentId) configuration.shared.history ≤ 1
  credited : ∀ call paymentId,
    (call, CaptureEvent.credited paymentId) ∈ configuration.shared.history →
      (call, CaptureEvent.claimed paymentId) ∈ configuration.shared.history
  ahead : ∀ call paymentId, 2 ≤ (configuration.locals call).remaining →
    (call, CaptureEvent.credited paymentId) ∉ configuration.shared.history
  creditedOnce : ∀ paymentId,
    occurrences (.credited paymentId) configuration.shared.history ≤ 1

/-- The invariant holds before any call starts. -/
theorem opened_claimed_once {database : Database}
    (distinct : Records.Distinct Payment.id database.payments) :
    ClaimedOnce (openedRace database : Configuration κ (Traced κ) CaptureStep) where
  distinct := distinct
  claiming := by simp [openedRace]
  held := by simp [openedRace, holding]
  captured := by simp [openedRace]
  once := by simp [openedRace, occurrences]
  credited := by simp [openedRace]
  ahead := by simp [openedRace]
  creditedOnce := by simp [openedRace, occurrences]

/-- What a step changes for the other calls: nothing. -/
def OnlyMoves (call : κ) (before after : Configuration κ (Traced κ) CaptureStep) : Prop :=
  ∀ other, other ≠ call → after.locals other = before.locals other

/-- What the payments about to be claimed are is kept when it holds of the acting call. -/
theorem ClaimedOnce.claiming_after {before after : Configuration κ (Traced κ) CaptureStep}
    (invariant : ClaimedOnce before) {call : κ} (moves : OnlyMoves call before after)
    (ids : after.shared.database.payments.map Payment.id =
      before.shared.database.payments.map Payment.id)
    (own : ∀ loaded current, after.locals call = .claiming loaded current →
      loaded.status = .created ∧ current.status = .captured ∧ current.id = loaded.id ∧
        loaded.id ∈ before.shared.database.payments.map Payment.id) :
    ∀ other loaded current, after.locals other = .claiming loaded current →
      loaded.status = .created ∧ current.status = .captured ∧ current.id = loaded.id ∧
        loaded.id ∈ after.shared.database.payments.map Payment.id := by
  intro other loaded current same
  rw [ids]
  by_cases acting : other = call
  · subst acting
    exact own loaded current same
  · exact invariant.claiming other loaded current ((moves other acting) ▸ same)

/-- That a call has claimed the payment it holds is kept when it holds of the acting call. -/
theorem ClaimedOnce.held_after {before after : Configuration κ (Traced κ) CaptureStep}
    (invariant : ClaimedOnce before) {call : κ} (moves : OnlyMoves call before after)
    (grows : ∀ event ∈ before.shared.history, event ∈ after.shared.history)
    (own : ∀ payment, holding (after.locals call) = some payment →
      (call, CaptureEvent.claimed payment.id) ∈ after.shared.history) :
    ∀ other payment, holding (after.locals other) = some payment →
      (other, CaptureEvent.claimed payment.id) ∈ after.shared.history := by
  intro other payment same
  by_cases acting : other = call
  · subst acting
    exact own payment same
  · exact grows _ (invariant.held other payment ((moves other acting) ▸ same))

/-- A step without an event keeps the invariant when it leaves the captured payments as
they are, claims nothing new and only reads a created payment to claim. -/
theorem quiet_claimed_once {before after : Configuration κ (Traced κ) CaptureStep}
    (invariant : ClaimedOnce before) (call : κ) (moves : OnlyMoves call before after)
    (history : after.shared.history = before.shared.history)
    (ids : after.shared.database.payments.map Payment.id =
      before.shared.database.payments.map Payment.id)
    (settled : Settled before.shared.database.payments after.shared.database.payments)
    (holds : ∀ payment, holding (after.locals call) = some payment →
      ∃ held, holding (before.locals call) = some held ∧ held.id = payment.id)
    (fewer : (after.locals call).remaining ≤ (before.locals call).remaining)
    (reads : ∀ loaded current, after.locals call = .claiming loaded current →
      loaded.status = .created ∧ current.status = .captured ∧ current.id = loaded.id ∧
        loaded.id ∈ before.shared.database.payments.map Payment.id) :
    ClaimedOnce after := by
  have grows : ∀ event ∈ before.shared.history, event ∈ after.shared.history := by
    rw [history]
    exact fun _ => id
  refine ⟨?_, invariant.claiming_after moves ids reads, invariant.held_after moves grows ?_, ?_, ?_,
    ?_, ?_, ?_⟩
  · exact Records.same_keys_distinct ids invariant.distinct
  · intro payment same
    rw [history]
    obtain ⟨held, heldBefore, sameId⟩ := holds payment same
    exact sameId ▸ invariant.held call held heldBefore
  · intro other paymentId caused
    rw [history] at caused
    obtain ⟨payment, stored, sameId, captured⟩ := invariant.captured other paymentId caused
    obtain ⟨kept, keptStored, keptId, keptStatus, _⟩ := settled payment stored captured
    exact ⟨kept, keptStored, keptId.trans sameId, keptStatus ▸ captured⟩
  · rw [history]
    exact invariant.once
  · rw [history]
    exact invariant.credited
  · intro other paymentId early
    rw [history]
    by_cases acting : other = call
    · subst acting
      exact invariant.ahead other paymentId (early.trans fewer)
    · exact invariant.ahead other paymentId ((moves other acting) ▸ early)
  · rw [history]
    exact invariant.creditedOnce

/-- A write of a payment that was still created keeps every captured one. -/
theorem settled_open {payments : List Payment} {paymentId : ObjectId} (change : Payment → Payment)
    (keepsId : ∀ row, (change row).id = row.id)
    (open_ : ∀ stored ∈ payments, stored.id = paymentId → stored.status = .created) :
    Settled payments (Records.modify Payment.id paymentId change payments) := by
  refine settled_modify paymentId change keepsId ?_
  intro stored member same notCreated
  exact False.elim (notCreated (open_ stored member same))

/-- A stored receipt keeps the invariant and the captured payments. -/
theorem receipt_claimed_once {before after : Configuration κ (Traced κ) CaptureStep}
    (invariant : ClaimedOnce before) (call : κ) (moves : OnlyMoves call before after)
    {payment stored : Payment} {tenant receiptUrl : String} {loaded current : FeeInvoice}
    {invalid : Bool}
    (position : before.locals call = .storingReceipt payment receiptUrl loaded current invalid)
    (reached : after.locals call = .crediting stored (some receiptUrl) loaded current invalid)
    (stamped : stored = { payment with receiptUrl := some receiptUrl, tenantId := tenant })
    (history : after.shared.history = before.shared.history)
    (written : after.shared.database.payments = Records.modify Payment.id payment.id
      (TenantModel.writeBack payment stored) before.shared.database.payments) :
    ClaimedOnce after ∧
      Settled before.shared.database.payments after.shared.database.payments := by
  have keepsId : ∀ row : Payment, (TenantModel.writeBack payment stored row).id = row.id :=
    fun _ => rfl
  have settled : Settled before.shared.database.payments after.shared.database.payments := by
    rw [written]
    exact settled_modify payment.id _ keepsId (fun held _ _ _ => receipt_write stamped)
  have ids : after.shared.database.payments.map Payment.id =
      before.shared.database.payments.map Payment.id := by
    rw [written]
    exact Records.modify_keys payment.id keepsId _
  refine ⟨quiet_claimed_once invariant call moves history ids settled ?_ ?_ ?_, settled⟩
  · rw [reached, position]
    intro held same
    obtain rfl : stored = held := Option.some.inj same
    exact ⟨payment, rfl, by rw [stamped]⟩
  · rw [reached, position]
    simp [CaptureStep.remaining]
  · rw [reached]
    simp

/-- An accepted claim of a payment that was still created keeps the invariant.

Proof: were the payment claimed before, it would be stored as captured. So this is its
first claim, and the write captures it. -/
theorem claim_claimed_once {before after : Configuration κ (Traced κ) CaptureStep}
    (invariant : ClaimedOnce before) (call : κ) (moves : OnlyMoves call before after)
    {loaded current payment : Payment} {tenant : String}
    (position : before.locals call = .claiming loaded current)
    (reached : after.locals call = .claimed payment)
    (stamped : payment = { current with tenantId := tenant })
    (history : after.shared.history = before.shared.history ++ [(call, .claimed payment.id)])
    (written : after.shared.database.payments = Records.modify Payment.id loaded.id
      (TenantModel.writeBack loaded payment) before.shared.database.payments)
    (open_ : ∀ stored ∈ before.shared.database.payments,
      stored.id = loaded.id → stored.status = .created) :
    ClaimedOnce after := by
  obtain ⟨created, captured, sameId, place⟩ := invariant.claiming call loaded current position
  have paymentId : payment.id = loaded.id := by rw [stamped]; exact sameId
  have keepsId : ∀ row : Payment, (TenantModel.writeBack loaded payment row).id = row.id :=
    fun _ => rfl
  have captures : ∀ row : Payment, (TenantModel.writeBack loaded payment row).status = .captured :=
    fun _ => claim_write stamped created captured
  have settled : Settled before.shared.database.payments after.shared.database.payments := by
    rw [written]
    exact settled_open _ keepsId open_
  have ids : after.shared.database.payments.map Payment.id =
      before.shared.database.payments.map Payment.id := by
    rw [written]
    exact Records.modify_keys loaded.id keepsId _
  have unclaimed : ∀ other, (other, CaptureEvent.claimed payment.id) ∉ before.shared.history := by
    intro other caused
    obtain ⟨stored, member, same, notCreated⟩ := invariant.captured other payment.id caused
    exact notCreated (open_ stored member (same.trans paymentId))
  have grows : ∀ event ∈ before.shared.history, event ∈ after.shared.history := by
    rw [history]
    exact fun _ => List.mem_append_left _
  refine ⟨?_, invariant.claiming_after moves ids (by simp [reached]),
    invariant.held_after moves grows ?_, ?_, ?_, ?_, ?_, ?_⟩
  · exact Records.same_keys_distinct ids invariant.distinct
  · intro held same
    rw [reached] at same
    obtain rfl : payment = held := Option.some.inj same
    rw [history]
    exact List.mem_append_right _ (List.mem_singleton.mpr rfl)
  · intro other claimedId caused
    rw [history, List.mem_append, List.mem_singleton] at caused
    rcases caused with earlier | now
    · obtain ⟨stored, member, same, notCreated⟩ := invariant.captured other claimedId earlier
      obtain ⟨kept, keptMember, keptId, keptStatus, _⟩ := settled stored member notCreated
      exact ⟨kept, keptMember, keptId.trans same, keptStatus ▸ notCreated⟩
    · obtain ⟨stored, member, same⟩ := List.mem_map.mp place
      have claimedSame : claimedId = payment.id := by simpa using congrArg Prod.snd now
      refine ⟨TenantModel.writeBack loaded payment stored, ?_, ?_, ?_⟩
      · rw [written, ← same]
        exact Records.modify_same member
      · rw [claimedSame, paymentId, ← same]
        exact keepsId stored
      · rw [captures stored]
        decide
  · intro claimedId
    rw [history, occurrences_append]
    by_cases same : payment.id = claimedId
    · subst same
      rw [occurrences_none unclaimed]
      simp
    · simp only [CaptureEvent.claimed.injEq, same, if_false]
      exact invariant.once claimedId
  · intro other creditedId caused
    rw [history, List.mem_append] at caused ⊢
    rcases caused with earlier | now
    · exact Or.inl (invariant.credited other creditedId earlier)
    · simp at now
  · intro other creditedId early
    rw [history, List.mem_append, not_or]
    refine ⟨?_, by simp⟩
    by_cases acting : other = call
    · subst acting
      refine invariant.ahead other creditedId ?_
      rw [position]
      simp [CaptureStep.remaining]
    · exact invariant.ahead other creditedId ((moves other acting) ▸ early)
  · intro creditedId
    rw [history, occurrences_append]
    simpa using invariant.creditedOnce creditedId

/-- An accepted invoice save keeps the invariant.

Proof: the call holds the only claim on its payment and has not credited before, so no
call has credited for that payment. -/
theorem credit_claimed_once {before after : Configuration κ (Traced κ) CaptureStep}
    (invariant : ClaimedOnce before) (call : κ) (moves : OnlyMoves call before after)
    {payment : Payment} {receiptUrl : Option String} {loaded current invoice : FeeInvoice}
    {invalid : Bool}
    (position : before.locals call = .crediting payment receiptUrl loaded current invalid)
    (reached : after.locals call = .notifying payment receiptUrl invoice)
    (history : after.shared.history = before.shared.history ++ [(call, .credited payment.id)])
    (payments : after.shared.database.payments = before.shared.database.payments) :
    ClaimedOnce after := by
  have claimed : (call, CaptureEvent.claimed payment.id) ∈ before.shared.history :=
    invariant.held call payment (by rw [position]; rfl)
  have uncredited : ∀ other, (other, CaptureEvent.credited payment.id) ∉ before.shared.history := by
    intro other caused
    have same : other = call := occurrences_unique (invariant.once payment.id)
      (invariant.credited other payment.id caused) claimed
    subst same
    exact invariant.ahead other payment.id (by simp [position, CaptureStep.remaining]) caused
  have grows : ∀ event ∈ before.shared.history, event ∈ after.shared.history := by
    rw [history]
    exact fun _ => List.mem_append_left _
  have ids := congrArg (List.map Payment.id) payments
  refine ⟨?_, invariant.claiming_after moves ids (by simp [reached]),
    invariant.held_after moves grows ?_, ?_, ?_, ?_, ?_, ?_⟩
  · rw [payments]
    exact invariant.distinct
  · intro held same
    rw [reached] at same
    obtain rfl : payment = held := Option.some.inj same
    exact grows _ claimed
  · intro other claimedId caused
    rw [history, List.mem_append] at caused
    rw [payments]
    rcases caused with earlier | now
    · exact invariant.captured other claimedId earlier
    · simp at now
  · intro claimedId
    rw [history, occurrences_append]
    simpa using invariant.once claimedId
  · intro other creditedId caused
    rw [history, List.mem_append] at caused ⊢
    rcases caused with earlier | now
    · exact Or.inl (invariant.credited other creditedId earlier)
    · obtain ⟨rfl, rfl⟩ : other = call ∧ creditedId = payment.id := by simpa using now
      exact Or.inl claimed
  · intro other creditedId early
    rw [history, List.mem_append, not_or]
    by_cases acting : other = call
    · subst acting
      rw [reached] at early
      simp [CaptureStep.remaining] at early
    · refine ⟨invariant.ahead other creditedId ((moves other acting) ▸ early), ?_⟩
      simp [acting]
  · intro creditedId
    rw [history, occurrences_append]
    by_cases same : payment.id = creditedId
    · subst same
      rw [occurrences_none uncredited]
      simp
    · simp only [CaptureEvent.credited.injEq, same, if_false]
      exact invariant.creditedOnce creditedId

/-- One transition of a call keeps the invariant and the captured payments, when its
claiming save meets the condition.

Proof: by cases over the transitions. Only the claim and the credit leave an event, only
the claim and the receipt write a payment, and the receipt writes no status. -/
theorem transition_claimed_once {deployment : Deployment} {ambient : Ambient}
    {params : CaptureParams} {before after : Configuration κ (Traced κ) CaptureStep}
    (invariant : ClaimedOnce before) (call : κ) (moves : OnlyMoves call before after)
    {database next : Database} {step nextStep : CaptureStep}
    (transition : CaptureTransition deployment ambient params database step next nextStep)
    (startsIn : before.shared.database = database) (startsAt : before.locals call = step)
    (endsIn : after.shared.database = next) (endsAt : after.locals call = nextStep)
    (history : after.shared.history =
      before.shared.history ++ ((eventOf step nextStep).map (fun event => (call, event))).toList)
    (condition : ∀ loaded current, step = .claiming loaded current →
      (∀ stored ∈ database.payments, stored.id = loaded.id → stored.status = .created) ∨
        TenantModel.save ambient loaded current database.payments = .error .duplicateKey) :
    ClaimedOnce after ∧
      Settled before.shared.database.payments after.shared.database.payments := by
  have quiet (silent : eventOf step nextStep = none) (payments : next.payments = database.payments)
      (holds : ∀ payment, holding nextStep = some payment →
        ∃ held, holding step = some held ∧ held.id = payment.id)
      (fewer : nextStep.remaining ≤ step.remaining)
      (reads : ∀ loaded current, nextStep = .claiming loaded current →
        loaded.status = .created ∧ current.status = .captured ∧ current.id = loaded.id ∧
          loaded.id ∈ database.payments.map Payment.id) :
      ClaimedOnce after ∧
        Settled before.shared.database.payments after.shared.database.payments := by
    have same : after.shared.database.payments = before.shared.database.payments := by
      rw [endsIn, startsIn, payments]
    have settled : Settled before.shared.database.payments after.shared.database.payments := by
      rw [same]
      exact settled_refl _
    refine ⟨quiet_claimed_once invariant call moves (by simp [history, silent]) (by rw [same]) settled
      ?_ ?_ ?_, settled⟩
    · rw [endsAt, startsAt]
      exact holds
    · rw [endsAt, startsAt]
      exact fewer
    · rw [endsAt, startsIn]
      exact reads
  cases transition with
  | failed step thrown _ =>
    exact quiet (by cases step <;> rfl) rfl (by simp [holding])
      (by simp [CaptureStep.remaining]) (by simp)
  | recorded existing _ =>
    exact quiet rfl rfl (by simp [holding]) (by simp [CaptureStep.remaining]) (by simp)
  | unrecorded _ =>
    exact quiet rfl rfl (by simp [holding]) (by simp [CaptureStep.remaining]) (by simp)
  | nonePending _ =>
    exact quiet rfl rfl (by simp [holding]) (by simp [CaptureStep.remaining]) (by simp)
  | pending payment now found =>
    refine quiet rfl rfl (by simp [holding]) (by simp [CaptureStep.remaining]) ?_
    intro loaded current same
    obtain ⟨rfl, rfl⟩ : payment = loaded ∧ claim params now payment = current := by
      simpa using same
    obtain ⟨member, matching⟩ := TenantModel.find_one_some found
    simp only [decide_eq_true_eq] at matching
    exact ⟨matching.2, rfl, rfl, List.mem_map.mpr ⟨payment, member, rfl⟩⟩
  | lostClaim loaded current _ =>
    exact quiet rfl rfl (by simp [holding]) (by simp [CaptureStep.remaining]) (by simp)
  | claims loaded current payment payments saved =>
    obtain ⟨⟨tenant, stamped⟩, written⟩ := payment_saved saved
    have open_ : ∀ stored ∈ before.shared.database.payments,
        stored.id = loaded.id → stored.status = .created := by
      rw [startsIn]
      rcases condition loaded current rfl with open_ | refused
      · exact open_
      · simp [refused] at saved
    have created := (invariant.claiming call loaded current startsAt).1
    have writes : after.shared.database.payments = Records.modify Payment.id loaded.id
        (TenantModel.writeBack loaded payment) before.shared.database.payments := by
      rw [endsIn, startsIn]
      exact written
    refine ⟨claim_claimed_once invariant call moves startsAt endsAt stamped history writes open_, ?_⟩
    rw [writes]
    exact settled_open _ (fun _ => rfl) open_
  | withoutInvoice payment _ =>
    exact quiet rfl rfl (by simp [holding]) (by simp [CaptureStep.remaining]) (by simp)
  | reads payment invoice paid now _ _ =>
    exact quiet rfl rfl (by simp [holding]) (by simp [CaptureStep.remaining]) (by simp)
  | renders payment loaded current invalid receiptUrl =>
    exact quiet rfl rfl (by simp [holding]) (by simp [CaptureStep.remaining]) (by simp)
  | rendersNothing payment loaded current invalid =>
    exact quiet rfl rfl (by simp [holding]) (by simp [CaptureStep.remaining]) (by simp)
  | storesReceipt payment stored receiptUrl loaded current invalid payments saved =>
    obtain ⟨⟨tenant, stamped⟩, written⟩ := payment_saved saved
    have writes : after.shared.database.payments = Records.modify Payment.id payment.id
        (TenantModel.writeBack payment stored) before.shared.database.payments := by
      rw [endsIn, startsIn]
      exact written
    exact receipt_claimed_once invariant call moves startsAt endsAt stamped
      (by simp [history, eventOf]) writes
  | credits payment receiptUrl loaded current invoice invoices _ =>
    have same : after.shared.database.payments = before.shared.database.payments := by
      rw [endsIn, startsIn]
    refine ⟨credit_claimed_once invariant call moves startsAt endsAt history same, ?_⟩
    rw [same]
    exact settled_refl _
  | notifies payment receiptUrl invoice notifications pushes =>
    exact quiet rfl rfl (by simp [holding]) (by simp [CaptureStep.remaining]) (by simp)
  | notifyFails payment receiptUrl invoice notifications pushes thrown =>
    exact quiet rfl rfl (by simp [holding]) (by simp [CaptureStep.remaining]) (by simp)
  | ended step finished =>
    refine quiet ?_ rfl (fun payment same => ⟨payment, same, rfl⟩) (le_refl _) ?_
    · cases step <;> rfl
    · intro loaded current same
      simp [same, CaptureStep.point] at finished

end Invariant

section Runs

variable {κ : Type} [DecidableEq κ] (deployment : Deployment) (calls : κ → CaptureCall)

/-- One turn under the condition keeps the invariant and the captured payments. -/
theorem turn_claimed_once (configuration : Configuration κ (Traced κ) CaptureStep)
    (input : κ × StepInput) (invariant : ClaimedOnce configuration)
    (condition : ClaimsPending calls configuration input) :
    ClaimedOnce (turn (act deployment calls) configuration input) ∧
      Settled configuration.shared.database.payments
        (turn (act deployment calls) configuration input).shared.database.payments := by
  obtain ⟨call, supplied⟩ := input
  exact transition_claimed_once invariant call
    (fun other different => turn_other _ configuration call other supplied different)
    (capture_step_transition deployment (calls call).ambient (calls call).params supplied
      configuration.shared.database (configuration.locals call))
    rfl rfl rfl (turn_own _ configuration call supplied) rfl condition

/-- In every race whose claiming saves meet the condition, over any database with
distinct payment identities: two calls never both return that they applied one payment;
an invoice is credited for a payment at most once; and a payment that is no longer
created at some point of the schedule keeps its status and gateway payment id to its end.

Proof: the invariant holds before the first step and is kept by every step; a payment's
claims and credits are counted in the history, and captured payments are settled. -/
theorem captured_at_most_once (database : Database) (schedule : List (κ × StepInput))
    (distinct : Records.Distinct Payment.id database.payments)
    (pending : Along (turn (act deployment calls)) (ClaimsPending calls) (openedRace database)
      schedule) :
    (∀ first second payment other invoiceId otherInvoice,
      (race deployment calls database schedule).locals first =
        .returned ⟨true, invoiceId⟩ (some payment) →
      (race deployment calls database schedule).locals second =
        .returned ⟨true, otherInvoice⟩ (some other) →
      payment.id = other.id → first = second) ∧
    (∀ paymentId, occurrences (.credited paymentId)
      (race deployment calls database schedule).shared.history ≤ 1) ∧
    ∀ earlier later, schedule = earlier ++ later →
      Settled (race deployment calls database earlier).shared.database.payments
        (race deployment calls database schedule).shared.database.payments := by
  have kept (start : Configuration κ (Traced κ) CaptureStep) (inputs : List (κ × StepInput))
      (holds : ClaimedOnce start)
      (along : Along (turn (act deployment calls)) (ClaimsPending calls) start inputs) :
      ClaimedOnce (run (turn (act deployment calls)) start inputs) :=
    run_preserves (fun configuration input invariant condition =>
      (turn_claimed_once deployment calls configuration input invariant condition).1) holds along
  have final : ClaimedOnce (race deployment calls database schedule) :=
    kept _ schedule (opened_claimed_once distinct) pending
  refine ⟨?_, final.creditedOnce, ?_⟩
  · intro first second payment other invoiceId otherInvoice firstReturned secondReturned same
    have firstClaimed := final.held first payment (by rw [firstReturned]; rfl)
    have secondClaimed := final.held second other (by rw [secondReturned]; rfl)
    rw [← same] at secondClaimed
    exact occurrences_unique (final.once payment.id) firstClaimed secondClaimed
  · rintro earlier later rfl
    obtain ⟨first, second⟩ := (along_append _ _ _ earlier later).mp pending
    have middle := kept _ earlier (opened_claimed_once distinct) first
    unfold race
    rw [run_append]
    exact run_relates (fun before after =>
        Settled before.shared.database.payments after.shared.database.payments)
      (fun configuration => settled_refl _)
      (fun _ _ _ => settled_trans)
      (fun configuration input invariant condition =>
        turn_claimed_once deployment calls configuration input invariant condition) middle second

end Runs

/-- A deployment with the stub gateway, for whole rupees. -/
def stubDeployment : Deployment :=
  { hmac := fun _ body => body, numberToString := fun amount => toString amount.num }

/-- An unpaid invoice of 1000 rupees. -/
def thousandInvoice : FeeInvoice :=
  { id := .repeated '1', tenantId := "institute-a", studentId := .repeated '2',
    feePlanId := .repeated '3', label := "Installment 1", amountDue := 1000, dueDate := 100 }

/-- Its open payment order. -/
def openPayment : Payment :=
  { id := .repeated '4', tenantId := "institute-a", invoiceId := .repeated '1',
    studentId := .repeated '2', amount := 1000, gatewayOrderId := "order_1" }

/-- The database of the invoice and the order. -/
def openOrder : Database := { invoices := [thousandInvoice], payments := [openPayment] }

/-- A delivery of 400 rupees for the order, in the institute's context. -/
def partDelivery (gatewayPaymentId : String) : CaptureCall :=
  ⟨WebhooksController.contextOf "institute-a",
    { gatewayOrderId := "order_1", gatewayPaymentId := gatewayPaymentId, amount := some 400 }⟩

/-- A call's step at a fixed time, with the identity its notification gets. -/
def stepOf (call : Bool) : Bool × StepInput :=
  (call, { now := 1, notification := .repeated (if call then 'a' else 'b') })

/-- Both calls look the payment up before either claims it; then each runs to its end. -/
def overlapping : List (Bool × StepInput) :=
  [stepOf false, stepOf false, stepOf true, stepOf true, stepOf false, stepOf true] ++
    List.replicate 4 (stepOf false) ++ List.replicate 4 (stepOf true)

/-- One call after the other. -/
def oneAfterOther : List (Bool × StepInput) :=
  List.replicate 8 (stepOf false) ++ List.replicate 8 (stepOf true)

/-- Two deliveries of one gateway payment, one after the other, meet the condition, and
they credit the invoice once. -/
theorem serial_deliveries_credit_once :
    occurrences (.credited (.repeated '4'))
      (race stubDeployment (fun _ : Bool => partDelivery "pay_1") openOrder
        oneAfterOther).shared.history ≤ 1 := by
  exact (captured_at_most_once stubDeployment (fun _ => partDelivery "pay_1") openOrder
    oneAfterOther (by simp [Records.Distinct, openOrder]) (by decide +kernel)).2.1 _

/-- Two overlapping deliveries of one gateway payment both return that they applied it
and credit the invoice twice; under two payment ids the second overwrites the first on
the captured payment. -/
theorem overlapping_deliveries_apply_twice :
    (∃ first second,
      (race stubDeployment (fun _ : Bool => partDelivery "pay_1") openOrder overlapping).locals
          false = .returned ⟨true, some (.repeated '1')⟩ (some first) ∧
        (race stubDeployment (fun _ : Bool => partDelivery "pay_1") openOrder overlapping).locals
          true = .returned ⟨true, some (.repeated '1')⟩ (some second) ∧ first.id = second.id) ∧
      occurrences (.credited (.repeated '4'))
        (race stubDeployment (fun _ : Bool => partDelivery "pay_1") openOrder
          overlapping).shared.history = 2 ∧
      (race stubDeployment (fun _ : Bool => partDelivery "pay_1") openOrder
          overlapping).shared.database.invoices.map FeeInvoice.amountPaid = [800] ∧
      (race stubDeployment (fun call => partDelivery (if call then "pay_2" else "pay_1")) openOrder
          (overlapping.take 5)).shared.database.payments.map Payment.gatewayPaymentId =
        [some "pay_1"] ∧
      (race stubDeployment (fun call => partDelivery (if call then "pay_2" else "pay_1")) openOrder
          overlapping).shared.database.payments.map Payment.gatewayPaymentId = [some "pay_2"] := by
  refine ⟨⟨claim (partDelivery "pay_1").params 1 openPayment,
    claim (partDelivery "pay_1").params 1 openPayment, ?_, ?_, rfl⟩, ?_, ?_, ?_, ?_⟩
  all_goals decide +kernel

end CaptureRaces

end CoachingApi
