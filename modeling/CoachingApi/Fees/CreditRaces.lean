import Mathlib.Algebra.BigOperators.Group.Finset.Basic
import Mathlib.Data.Fintype.Basic
import CoachingApi.Fees.CaptureRaces

/-!
# Concurrent captures of different payments of one invoice

Each call applies the capture of an order of its own, all for one invoice. The invoice
save writes back a sum computed from what the call read, so credits add up exactly as
long as every invoice save finds the amount and the status its call read. Then the paid
amount is the clamped sum of the credits so far, it never decreases, and a paid invoice
stays paid.

The invoice starts consistent: its paid amount is at most the amount due, a whole number
of paisa unless it is the whole amount due, and it is paid only when covered. An amount
due that rounds down loses its fraction to a delivery of nothing, which is excluded.
-/

namespace CoachingApi

open TenantContextStore TenantPlugin FeesService Runs Rounding CaptureRaces

namespace CreditRaces

/-- Deliveries for different payments of one invoice: each names an open order of the
tenant whose payments are for the invoice, and a gateway payment id of its own that is
not in use, and carries a whole paisa amount that is not negative. -/
structure OpenOrders {κ : Type} (tenantId : String) (invoiceId : ObjectId) (amount : κ → ℚ)
    (params : κ → CaptureParams) (database : Database) : Prop where
  named : tenantId ≠ ""
  paymentIds : Records.Distinct Payment.id database.payments
  invoiceIds : Records.Distinct FeeInvoice.id database.invoices
  pending : ∀ call, ∃ payment ∈ database.payments, payment.tenantId = tenantId ∧
    payment.gatewayOrderId = (params call).gatewayOrderId ∧ payment.status = .created
  routed : ∀ call, ∀ payment ∈ database.payments, payment.tenantId = tenantId →
    payment.gatewayOrderId = (params call).gatewayOrderId → payment.invoiceId = invoiceId
  orders : ∀ first second,
    (params first).gatewayOrderId = (params second).gatewayOrderId → first = second
  ids : ∀ first second,
    (params first).gatewayPaymentId = (params second).gatewayPaymentId → first = second
  unused : ∀ call, ∀ payment ∈ database.payments,
    payment.gatewayPaymentId ≠ some (params call).gatewayPaymentId
  amounts : ∀ call, (params call).amount = some (amount call) ∧ 0 ≤ amount call ∧
    Whole (amount call)

/-- An invoice whose amounts and status fit together, and which no delivery of the given
amounts rounds below its amount due. -/
structure Consistent {κ : Type} (amount : κ → ℚ) (invoice : FeeInvoice) : Prop where
  clamped : invoice.amountPaid ≤ invoice.amountDue
  whole : Whole invoice.amountPaid ∨ invoice.amountPaid = invoice.amountDue
  covered : invoice.status = .paid →
    invoice.amountPaid = invoice.amountDue ∧ 0 < invoice.amountDue
  nothing : ∀ call, amount call = 0 → invoice.amountDue ≤ toHundredths invoice.amountDue

/-- Crediting a clamped sum gives the clamped sum with the credit. -/
theorem clamped_credit {due paid total addition : ℚ}
    (whole : Whole paid ∨ paid = due) (totalWhole : Whole total) (nonnegative : 0 ≤ total)
    (additionNonneg : 0 ≤ addition) (additionWhole : Whole addition)
    (nothing : addition = 0 → due ≤ toHundredths due) :
    min due (toHundredths (min due (paid + total) + addition)) =
      min due (paid + (total + addition)) := by
  have full : min due (toHundredths (due + addition)) = due := by
    rw [to_hundredths_add additionWhole]
    apply min_eq_left
    by_cases zero : addition = 0
    · rw [zero, add_zero]
      exact nothing zero
    · have positive : 0 < addition := lt_of_le_of_ne additionNonneg (Ne.symm zero)
      have close := to_hundredths_close due
      have least := additionWhole.one_hundredth positive
      linarith
  rcases le_total due (paid + total) with above | below
  · rw [min_eq_left above, full, min_eq_left (by linarith)]
  · rw [min_eq_right below]
    rcases whole with paidWhole | paidFull
    · rw [to_hundredths_fixed ((paidWhole.add totalWhole).add additionWhole), add_assoc]
    · have none_ : total = 0 := by linarith
      rw [none_, paidFull, add_zero, zero_add, full, min_eq_left (by linarith)]

/-- The invoice a call has in memory to save: as it was read, as it is now, and whether
an assignment could not be cast. -/
def inHand : CaptureStep → Option (FeeInvoice × FeeInvoice × Bool)
  | .rendering _ loaded current invalid => some (loaded, current, invalid)
  | .storingReceipt _ _ loaded current invalid => some (loaded, current, invalid)
  | .crediting _ _ loaded current invalid => some (loaded, current, invalid)
  | _ => none

/-- A call past its invoice save. -/
def hasCredited : CaptureStep → Bool
  | .notifying .. => true
  | .returned .. => true
  | _ => false

/-- The calls that have credited, in order. -/
def creditors {κ : Type} (history : List (κ × CaptureEvent)) : List κ :=
  history.filterMap (fun entry =>
    match entry.2 with
    | .credited _ => some entry.1
    | .claimed _ => none)

/-- A claim credits nothing. -/
@[simp] theorem creditors_claimed {κ : Type} (history : List (κ × CaptureEvent)) (call : κ)
    (paymentId : ObjectId) :
    creditors (history ++ [(call, .claimed paymentId)]) = creditors history := by
  simp [creditors]

/-- A credit adds its call. -/
@[simp] theorem creditors_credited {κ : Type} (history : List (κ × CaptureEvent)) (call : κ)
    (paymentId : ObjectId) :
    creditors (history ++ [(call, .credited paymentId)]) = creditors history ++ [call] := by
  simp [creditors]

section Invariant

variable {κ : Type} (tenantId : String) (invoiceId : ObjectId) (amount : κ → ℚ)
  (params : κ → CaptureParams) (start : Database) (invoice : FeeInvoice)

/-- What a call's own state says at every point: a payment to claim is an order of its
own, a claimed payment is one of the invoice, and the invoice in memory has the sum of
what was read and the call's amount. -/
structure Fits (call : κ) (step : CaptureStep) : Prop where
  claiming : ∀ loaded current, step = .claiming loaded current →
    (∃ payment ∈ start.payments, facts payment = facts loaded) ∧ loaded.tenantId = tenantId ∧
      loaded.gatewayOrderId = (params call).gatewayOrderId ∧ loaded.status = .created ∧
      loaded.gatewayPaymentId ≠ some (params call).gatewayPaymentId ∧
      ∃ now, current = claim (params call) now loaded
  held : ∀ payment, holding step = some payment →
    payment.tenantId = tenantId ∧ payment.invoiceId = invoiceId
  inHand : ∀ loaded current invalid, inHand step = some (loaded, current, invalid) →
    loaded.id = invoiceId ∧ loaded.tenantId = tenantId ∧ loaded.amountDue = invoice.amountDue ∧
      invalid = false ∧ ∃ now receiptUrl, current =
        { credit now (some (min loaded.amountDue
            (toHundredths (loaded.amountPaid + amount call)))) loaded with
          receiptUrl := receiptUrl }

/-- The invariant of such a race, from a start with an invoice. Calls that have not
claimed still find their order and their unused id, a call past its invoice save has
credited, and the stored invoice has the clamped sum of the credits. -/
structure CreditsAddUp (configuration : Configuration κ (Traced κ) CaptureStep) : Prop where
  rows : configuration.shared.database.payments.map facts = start.payments.map facts
  invoiceIds : Records.Distinct FeeInvoice.id configuration.shared.database.invoices
  unused : ∀ call, 6 ≤ (configuration.locals call).remaining →
    ∀ payment ∈ configuration.shared.database.payments,
      payment.gatewayPaymentId ≠ some (params call).gatewayPaymentId
  pending : ∀ call, 6 ≤ (configuration.locals call).remaining →
    ∃ payment ∈ configuration.shared.database.payments, payment.tenantId = tenantId ∧
      payment.gatewayOrderId = (params call).gatewayOrderId ∧ payment.status = .created
  fits : ∀ call, Fits tenantId invoiceId amount params start invoice call
    (configuration.locals call)
  done : ∀ call, hasCredited (configuration.locals call) = true →
    call ∈ creditors configuration.shared.history
  ahead : ∀ call, 2 ≤ (configuration.locals call).remaining →
    call ∉ creditors configuration.shared.history
  onceEach : (creditors configuration.shared.history).Nodup
  tally : ∃ stored ∈ configuration.shared.database.invoices,
    stored.id = invoiceId ∧ stored.tenantId = tenantId ∧ stored.amountDue = invoice.amountDue ∧
      stored.amountPaid = min invoice.amountDue (invoice.amountPaid +
        Records.total amount (creditors configuration.shared.history)) ∧
      (stored.status = .paid → stored.amountPaid = stored.amountDue ∧ 0 < stored.amountDue)

/-- The condition on one step: an invoice save finds the amount and the status that the
call read. -/
def InvoiceUnchanged (configuration : Configuration κ (Traced κ) CaptureStep)
    (turn : κ × StepInput) : Prop :=
  ∀ payment receiptUrl loaded current invalid,
    configuration.locals turn.1 = .crediting payment receiptUrl loaded current invalid →
    ∀ stored ∈ configuration.shared.database.invoices, stored.id = loaded.id →
      stored.amountPaid = loaded.amountPaid ∧ stored.status = loaded.status

/-- What every step keeps of the stored invoice: its paid amount does not decrease and a
paid one stays paid. -/
def Advances (before after : List FeeInvoice) : Prop :=
  ∀ stored ∈ before, stored.id = invoiceId →
    ∃ kept ∈ after, kept.id = invoiceId ∧ stored.amountPaid ≤ kept.amountPaid ∧
      (stored.status = .paid → kept.status = .paid)

/-- Nothing changed. -/
theorem advances_refl (invoices : List FeeInvoice) : Advances invoiceId invoices invoices :=
  fun stored member same => ⟨stored, member, same, le_refl _, id⟩

/-- One change after another. -/
theorem advances_trans {first second third : List FeeInvoice}
    (earlier : Advances invoiceId first second) (later : Advances invoiceId second third) :
    Advances invoiceId first third := by
  intro stored member same
  obtain ⟨middle, middleMember, middleId, grows, staysPaid⟩ := earlier stored member same
  obtain ⟨kept, keptMember, keptId, growsOn, staysPaidOn⟩ := later middle middleMember middleId
  exact ⟨kept, keptMember, keptId, grows.trans growsOn, fun paid => staysPaidOn (staysPaid paid)⟩

variable {tenantId invoiceId amount params start invoice}

/-- The invariant holds before any call starts. -/
theorem opened_credits_add_up (orders : OpenOrders tenantId invoiceId amount params start)
    (place : invoice ∈ start.invoices) (named : invoice.id = invoiceId)
    (owned : invoice.tenantId = tenantId) (consistent : Consistent amount invoice) :
    CreditsAddUp tenantId invoiceId amount params start invoice
      (openedRace start : Configuration κ (Traced κ) CaptureStep) where
  rows := rfl
  invoiceIds := orders.invoiceIds
  unused := fun call _ => orders.unused call
  pending := fun call _ => orders.pending call
  fits := fun call => ⟨by simp [openedRace], by simp [openedRace, holding],
    by simp [openedRace, inHand]⟩
  done := by simp [openedRace, hasCredited]
  ahead := by simp [openedRace, creditors]
  onceEach := by simp [openedRace, creditors]
  tally := by
    refine ⟨invoice, place, named, owned, rfl, ?_, consistent.covered⟩
    simp only [openedRace, creditors, List.filterMap_nil, Records.total, List.map_nil, List.sum_nil,
      add_zero]
    exact (min_eq_right consistent.clamped).symm

/-- A step that writes no invoice and credits nothing keeps the invariant when calls that
have not claimed still find their order and their unused id. -/
theorem uncredited_adds_up {before after : Configuration κ (Traced κ) CaptureStep}
    (invariant : CreditsAddUp tenantId invoiceId amount params start invoice before) (call : κ)
    (moves : OnlyMoves call before after)
    (history : creditors after.shared.history = creditors before.shared.history)
    (rows : after.shared.database.payments.map facts = before.shared.database.payments.map facts)
    (invoices : after.shared.database.invoices = before.shared.database.invoices)
    (unused : ∀ other, 6 ≤ (after.locals other).remaining →
      ∀ payment ∈ after.shared.database.payments,
        payment.gatewayPaymentId ≠ some (params other).gatewayPaymentId)
    (pending : ∀ other, 6 ≤ (after.locals other).remaining →
      ∃ payment ∈ after.shared.database.payments, payment.tenantId = tenantId ∧
        payment.gatewayOrderId = (params other).gatewayOrderId ∧ payment.status = .created)
    (fewer : (after.locals call).remaining ≤ (before.locals call).remaining)
    (fits : Fits tenantId invoiceId amount params start invoice call (after.locals call))
    (done : hasCredited (after.locals call) = true → call ∈ creditors before.shared.history) :
    CreditsAddUp tenantId invoiceId amount params start invoice after := by
  refine ⟨rows.trans invariant.rows, invoices ▸ invariant.invoiceIds, unused, pending, ?_, ?_, ?_,
    ?_, ?_⟩
  · intro other
    by_cases acting : other = call
    · exact acting ▸ fits
    · exact (moves other acting) ▸ invariant.fits other
  · intro other credited
    rw [history]
    by_cases acting : other = call
    · subst acting
      exact done credited
    · exact invariant.done other ((moves other acting) ▸ credited)
  · intro other early
    rw [history]
    by_cases acting : other = call
    · subst acting
      exact invariant.ahead other (early.trans fewer)
    · exact invariant.ahead other ((moves other acting) ▸ early)
  · rw [history]
    exact invariant.onceEach
  · rw [history, invoices]
    exact invariant.tally

/-- A call that has not claimed after a step had not claimed before it. -/
theorem unclaimed_before {before after : Configuration κ (Traced κ) CaptureStep} {call : κ}
    (moves : OnlyMoves call before after)
    (fewer : (after.locals call).remaining ≤ (before.locals call).remaining) {other : κ}
    (early : 6 ≤ (after.locals other).remaining) : 6 ≤ (before.locals other).remaining := by
  by_cases acting : other = call
  · subst acting
    exact early.trans fewer
  · exact (moves other acting) ▸ early

/-- A step that writes no invoice, credits nothing and keeps the standing of every payment
keeps the invariant. -/
theorem quiet_adds_up {before after : Configuration κ (Traced κ) CaptureStep}
    (invariant : CreditsAddUp tenantId invoiceId amount params start invoice before) (call : κ)
    (moves : OnlyMoves call before after)
    (history : creditors after.shared.history = creditors before.shared.history)
    (rows : after.shared.database.payments.map standing =
      before.shared.database.payments.map standing)
    (invoices : after.shared.database.invoices = before.shared.database.invoices)
    (fewer : (after.locals call).remaining ≤ (before.locals call).remaining)
    (fits : Fits tenantId invoiceId amount params start invoice call (after.locals call))
    (done : hasCredited (after.locals call) = true → call ∈ creditors before.shared.history) :
    CreditsAddUp tenantId invoiceId amount params start invoice after := by
  have factRows : after.shared.database.payments.map facts =
      before.shared.database.payments.map facts :=
    Records.determined_reading (fun _ _ equal => congrArg Prod.fst equal) rows
  refine uncredited_adds_up invariant call moves history factRows invoices ?_ ?_ fewer fits done
  · intro other early payment stored
    obtain ⟨same, member, equal⟩ := Records.reading_stored rows stored
    simp only [standing, Prod.mk.injEq] at equal
    rw [← equal.2.1]
    exact invariant.unused other (unclaimed_before moves fewer early) same member
  · intro other early
    obtain ⟨payment, member, owned, order, created⟩ :=
      invariant.pending other (unclaimed_before moves fewer early)
    obtain ⟨same, stored, equal⟩ := Records.reading_stored rows.symm member
    simp only [standing, facts, Prod.mk.injEq] at equal
    exact ⟨same, stored, equal.1.2.1.trans owned, equal.1.2.2.1.trans order,
      equal.2.2.trans created⟩

/-- An accepted claim of a call's own order keeps the invariant.

Proof: it writes one payment of that order, so every other call still finds its order
open, and the id it writes is no other call's. -/
theorem claim_adds_up {before after : Configuration κ (Traced κ) CaptureStep}
    (invariant : CreditsAddUp tenantId invoiceId amount params start invoice before)
    (orders : OpenOrders tenantId invoiceId amount params start) (call : κ)
    (moves : OnlyMoves call before after) {loaded current payment : Payment}
    (position : before.locals call = .claiming loaded current)
    (reached : after.locals call = .claimed payment)
    (stamped : payment = { current with tenantId := tenantId })
    (history : after.shared.history = before.shared.history ++ [(call, .claimed payment.id)])
    (written : after.shared.database.payments = Records.modify Payment.id loaded.id
      (TenantModel.writeBack loaded payment) before.shared.database.payments)
    (invoices : after.shared.database.invoices = before.shared.database.invoices) :
    CreditsAddUp tenantId invoiceId amount params start invoice after := by
  obtain ⟨⟨origin, originStored, originFacts⟩, owned, order, created, unusedId, now, claims⟩ :=
    (invariant.fits call).claiming loaded current position
  have distinct : Records.Distinct Payment.id before.shared.database.payments := by
    have ids : before.shared.database.payments.map Payment.id = start.payments.map Payment.id :=
      Records.determined_reading (fun _ _ equal => congrArg Prod.fst equal) invariant.rows
    exact Records.same_keys_distinct ids orders.paymentIds
  have sameFacts : facts payment = facts loaded := by
    rw [stamped, claims, ← owned]
    rfl
  have writes (row : Payment) : facts (TenantModel.writeBack loaded payment row) = facts row ∧
      (TenantModel.writeBack loaded payment row).gatewayPaymentId =
        some (params call).gatewayPaymentId := by
    subst stamped
    subst claims
    have changed : some (params call).gatewayPaymentId ≠ loaded.gatewayPaymentId :=
      Ne.symm unusedId
    simp [TenantModel.writeBack, facts, claim, owned, written_changed _ changed]
  have fewer : (after.locals call).remaining ≤ (before.locals call).remaining := by
    simp [position, reached, CaptureStep.remaining]
  have unclaimed (other : κ) (early : 6 ≤ (after.locals other).remaining) :
      other ≠ call ∧ 6 ≤ (before.locals other).remaining := by
    refine ⟨?_, unclaimed_before moves fewer early⟩
    rintro rfl
    simp [reached, CaptureStep.remaining] at early
  refine uncredited_adds_up invariant call moves (by rw [history, creditors_claimed]) ?_ invoices
    ?_ ?_ fewer ?_ ?_
  · rw [written]
    exact Records.modify_reading facts (fun row _ _ => (writes row).1)
  · intro other early row stored
    obtain ⟨different, before_⟩ := unclaimed other early
    rw [written] at stored
    obtain ⟨original, member, result⟩ := Records.mem_modify.mp stored
    by_cases touched : original.id = loaded.id
    · rw [if_pos touched] at result
      rw [← result, (writes original).2]
      intro same
      exact different (orders.ids other call (Option.some.inj same).symm)
    · rw [if_neg touched] at result
      exact result ▸ invariant.unused other before_ original member
  · intro other early
    obtain ⟨different, before_⟩ := unclaimed other early
    obtain ⟨row, member, rowOwned, rowOrder, rowCreated⟩ := invariant.pending other before_
    refine ⟨row, ?_, rowOwned, rowOrder, rowCreated⟩
    rw [written]
    refine Records.modify_other member ?_
    intro same
    obtain ⟨held, heldStored, heldFacts⟩ := Records.reading_stored invariant.rows.symm originStored
    obtain ⟨heldId, _, heldOrder, _⟩ := facts_same (heldFacts.trans originFacts)
    have heldRow : held = row :=
      Records.same_record distinct heldStored member (heldId.trans same.symm)
    refine different (orders.orders other call ?_)
    rw [← rowOrder, ← heldRow, heldOrder, order]
  · rw [reached]
    refine ⟨by simp, ?_, by simp [inHand]⟩
    intro held same
    obtain rfl : payment = held := Option.some.inj same
    obtain ⟨_, tenant, _, target⟩ := facts_same sameFacts
    obtain ⟨_, originTenant, originOrder, originInvoice⟩ := facts_same originFacts
    refine ⟨tenant.trans owned, ?_⟩
    rw [target, ← originInvoice]
    exact orders.routed call origin originStored (originTenant.trans owned) (originOrder.trans order)
  · simp [reached, hasCredited]

/-- What an invoice save stores over the document its call read: the sum in memory and
the status computed from it, and nothing else of what the tally reads. -/
theorem credit_write {loaded stored : FeeInvoice} {now : Int} {receiptUrl : Option String}
    {paid : ℚ} (sameTenant : loaded.tenantId = tenantId)
    (sameAmount : stored.amountPaid = loaded.amountPaid) (sameStatus : stored.status = loaded.status) :
    TenantModel.writeBack loaded
        { credit now (some paid) loaded with receiptUrl := receiptUrl, tenantId := tenantId } stored =
      { stored with
        amountPaid := paid
        status := computeInvoiceStatus loaded.amountDue paid loaded.dueDate now
        receiptUrl := written loaded.receiptUrl receiptUrl stored.receiptUrl } := by
  subst sameTenant
  simp [TenantModel.writeBack, credit, sameAmount, sameStatus]

/-- What calls with open orders have credited is a whole number of paisa, and not negative. -/
theorem credited_total (orders : OpenOrders tenantId invoiceId amount params start)
    (calls : List κ) : Whole (Records.total amount calls) ∧ 0 ≤ Records.total amount calls := by
  refine ⟨Whole.sum ?_, Records.total_nonneg (fun other _ => (orders.amounts other).2.1)⟩
  intro value listed
  obtain ⟨other, _, rfl⟩ := List.mem_map.mp listed
  exact (orders.amounts other).2.2

/-- An invoice save by a call that read the clamped sum of the credits so far stores the
clamped sum with its own credit, and the status computed from it. -/
theorem credited_row (orders : OpenOrders tenantId invoiceId amount params start)
    (consistent : Consistent amount invoice) (call : κ) (calls : List κ)
    {loaded stored : FeeInvoice} (now : Int) (receiptUrl : Option String)
    (loadedTenant : loaded.tenantId = tenantId) (loadedDue : loaded.amountDue = invoice.amountDue)
    (samePaid : stored.amountPaid = loaded.amountPaid) (sameStatus : stored.status = loaded.status)
    (storedPaid : stored.amountPaid =
      min invoice.amountDue (invoice.amountPaid + Records.total amount calls)) :
    TenantModel.writeBack loaded
        { credit now (some (min loaded.amountDue
            (toHundredths (loaded.amountPaid + amount call)))) loaded with
          receiptUrl := receiptUrl, tenantId := tenantId } stored =
      { stored with
        amountPaid :=
          min invoice.amountDue (invoice.amountPaid + Records.total amount (calls ++ [call]))
        status := computeInvoiceStatus invoice.amountDue
          (min invoice.amountDue (invoice.amountPaid + Records.total amount (calls ++ [call])))
          loaded.dueDate now
        receiptUrl := written loaded.receiptUrl receiptUrl stored.receiptUrl } := by
  obtain ⟨_, additionNonneg, additionWhole⟩ := orders.amounts call
  obtain ⟨totalWhole, totalNonneg⟩ := credited_total orders calls
  have paid : min loaded.amountDue (toHundredths (loaded.amountPaid + amount call)) =
      min invoice.amountDue (invoice.amountPaid + Records.total amount (calls ++ [call])) := by
    rw [loadedDue, ← samePaid, storedPaid, Records.total_append]
    exact clamped_credit consistent.whole totalWhole totalNonneg additionNonneg additionWhole
      (consistent.nothing call)
  rw [paid, ← loadedDue]
  exact credit_write loadedTenant samePaid sameStatus

/-- The invoice advances when the one stored under its id is followed by one under that id with
no less paid and, when it was paid, still paid. -/
theorem advances_row {before after : List FeeInvoice}
    (distinct : Records.Distinct FeeInvoice.id before) {stored kept : FeeInvoice}
    (member : stored ∈ before) (storedId : stored.id = invoiceId) (place : kept ∈ after)
    (keptId : kept.id = invoiceId) (grows : stored.amountPaid ≤ kept.amountPaid)
    (staysPaid : stored.status = .paid → kept.status = .paid) :
    Advances invoiceId before after := by
  intro earlier earlierMember earlierId
  have same : earlier = stored :=
    Records.same_record distinct earlierMember member (earlierId.trans storedId.symm)
  subst same
  exact ⟨kept, place, keptId, grows, staysPaid⟩

/-- An accepted invoice save that found what its call read keeps the invariant and
advances the invoice.

Proof: the call read the clamped sum of the credits so far, so it writes the clamped sum
with its own; a paid invoice is already at the amount due, and stays there. -/
theorem credit_adds_up {before after : Configuration κ (Traced κ) CaptureStep}
    (invariant : CreditsAddUp tenantId invoiceId amount params start invoice before)
    (orders : OpenOrders tenantId invoiceId amount params start)
    (consistent : Consistent amount invoice) (call : κ) (moves : OnlyMoves call before after)
    {payment : Payment} {receiptUrl : Option String} {loaded current saved : FeeInvoice}
    {invalid : Bool}
    (position : before.locals call = .crediting payment receiptUrl loaded current invalid)
    (reached : after.locals call = .notifying payment receiptUrl saved)
    (stamped : saved = { current with tenantId := tenantId })
    (history : after.shared.history = before.shared.history ++ [(call, .credited payment.id)])
    (payments : after.shared.database.payments = before.shared.database.payments)
    (written_ : after.shared.database.invoices = Records.modify FeeInvoice.id loaded.id
      (TenantModel.writeBack loaded saved) before.shared.database.invoices)
    (unchanged : ∀ stored ∈ before.shared.database.invoices, stored.id = loaded.id →
      stored.amountPaid = loaded.amountPaid ∧ stored.status = loaded.status) :
    CreditsAddUp tenantId invoiceId amount params start invoice after ∧
      Advances invoiceId before.shared.database.invoices after.shared.database.invoices := by
  obtain ⟨loadedId, loadedTenant, loadedDue, _, now, url, sum⟩ :=
    (invariant.fits call).inHand loaded current invalid (by rw [position]; rfl)
  obtain ⟨stored, member, storedId, storedTenant, storedDue, storedPaid, storedCovered⟩ :=
    invariant.tally
  obtain ⟨samePaid, sameStatus⟩ := unchanged stored member (storedId.trans loadedId.symm)
  have order : creditors after.shared.history = creditors before.shared.history ++ [call] := by
    rw [history, creditors_credited]
  have row : TenantModel.writeBack loaded saved stored =
      { stored with
        amountPaid := min invoice.amountDue
          (invoice.amountPaid + Records.total amount (creditors after.shared.history))
        status := computeInvoiceStatus invoice.amountDue (min invoice.amountDue
          (invoice.amountPaid + Records.total amount (creditors after.shared.history)))
          loaded.dueDate now
        receiptUrl := written loaded.receiptUrl url stored.receiptUrl } := by
    rw [stamped, sum, order]
    exact credited_row orders consistent call (creditors before.shared.history) now url
      loadedTenant loadedDue samePaid sameStatus storedPaid
  have place : TenantModel.writeBack loaded saved stored ∈ after.shared.database.invoices := by
    rw [written_, ← storedId.trans loadedId.symm]
    exact Records.modify_same member
  have keepsId : ∀ other : FeeInvoice, (TenantModel.writeBack loaded saved other).id = other.id :=
    fun _ => rfl
  have ahead : call ∉ creditors before.shared.history :=
    invariant.ahead call (by simp [position, CaptureStep.remaining])
  have fewer : (after.locals call).remaining ≤ (before.locals call).remaining := by
    simp [position, reached, CaptureStep.remaining]
  have keptId : (TenantModel.writeBack loaded saved stored).id = invoiceId := by
    rw [keepsId, storedId]
  refine ⟨⟨?_, ?_, ?_, ?_, ?_, ?_, ?_, ?_, ?_⟩, ?_⟩
  · rw [payments]
    exact invariant.rows
  · rw [written_]
    exact Records.modify_distinct keepsId invariant.invoiceIds
  · intro other early
    rw [payments]
    exact invariant.unused other (unclaimed_before moves fewer early)
  · intro other early
    rw [payments]
    exact invariant.pending other (unclaimed_before moves fewer early)
  · intro other
    by_cases acting : other = call
    · subst acting
      rw [reached]
      refine ⟨by simp, ?_, by simp [inHand]⟩
      intro held same
      exact (invariant.fits other).held held (by rw [position]; exact same)
    · exact (moves other acting) ▸ invariant.fits other
  · intro other credited
    rw [order]
    by_cases acting : other = call
    · simp [acting]
    · exact List.mem_append_left _ (invariant.done other ((moves other acting) ▸ credited))
  · intro other early
    rw [order, List.mem_append, not_or, List.mem_singleton]
    by_cases acting : other = call
    · subst acting
      simp [reached, CaptureStep.remaining] at early
    · exact ⟨invariant.ahead other ((moves other acting) ▸ early), acting⟩
  · rw [order, ← List.concat_eq_append]
    exact invariant.onceEach.concat ahead
  · refine ⟨_, place, keptId, ?_, ?_, ?_, ?_⟩
    · rw [row]
      exact storedTenant
    · rw [row]
      exact storedDue
    · rw [row]
    · rw [row]
      intro isPaid
      obtain ⟨reaches, positive⟩ := (status_paid_iff _ _ _ _).mp isPaid
      rw [storedDue]
      exact ⟨le_antisymm (min_le_left _ _) reaches, positive⟩
  · have grows : stored.amountPaid ≤
        min invoice.amountDue (invoice.amountPaid +
          Records.total amount (creditors after.shared.history)) := by
      rw [storedPaid, order, Records.total_append]
      exact min_le_min_left _ (by linarith [(orders.amounts call).2.1])
    refine advances_row invariant.invoiceIds member storedId place keptId ?_ ?_
    · rw [row]
      exact grows
    · intro wasPaid
      obtain ⟨full, positive⟩ := storedCovered wasPaid
      rw [storedDue] at full positive
      rw [row]
      exact (status_paid_iff _ _ _ _).mpr ⟨full ▸ grows, positive⟩

/-- A call with no payment and no invoice in its hands fits. -/
theorem ended_fits {call : κ} {last : CaptureStep}
    (claims : ∀ loaded current, last ≠ .claiming loaded current) (holds : holding last = none)
    (hand : inHand last = none) :
    Fits tenantId invoiceId amount params start invoice call last where
  claiming := fun loaded current same => False.elim (claims loaded current same)
  held := by simp [holds]
  inHand := by simp [hand]

/-- The open order that a call finds is its own, and its claim takes an id that no payment has. -/
theorem found_order_fits {configuration : Configuration κ (Traced κ) CaptureStep}
    (invariant : CreditsAddUp tenantId invoiceId amount params start invoice configuration)
    (bound : Bound (WebhooksController.contextOf tenantId) tenantId) {call : κ}
    (early : 6 ≤ (configuration.locals call).remaining) {payment : Payment} (now : Int)
    (found : TenantModel.findOne (WebhooksController.contextOf tenantId)
      (fun payment => decide (payment.gatewayOrderId = (params call).gatewayOrderId ∧
        payment.status = .created)) configuration.shared.database.payments = .ok (some payment)) :
    Fits tenantId invoiceId amount params start invoice call
      (.claiming payment (claim (params call) now payment)) := by
  obtain ⟨member, owned, matching⟩ := TenantModel.find_one_owned bound found
  obtain ⟨order, created⟩ := of_decide_eq_true matching
  refine ⟨?_, by simp [holding], by simp [inHand]⟩
  intro loaded current same
  obtain ⟨rfl, rfl⟩ : payment = loaded ∧ claim (params call) now payment = current := by
    simpa using same
  exact ⟨Records.reading_stored invariant.rows member, owned, order, created,
    invariant.unused call early payment member, now, rfl⟩

/-- No other payment refuses the claim of a call, since none has its id. -/
theorem claim_lands {configuration : Configuration κ (Traced κ) CaptureStep}
    (invariant : CreditsAddUp tenantId invoiceId amount params start invoice configuration)
    (bound : Bound (WebhooksController.contextOf tenantId) tenantId) {call : κ}
    {loaded current : Payment} (position : configuration.locals call = .claiming loaded current) :
    TenantModel.save (WebhooksController.contextOf tenantId) loaded current
      configuration.shared.database.payments ≠ .error .duplicateKey := by
  intro refused
  obtain ⟨stamped, held, other, valid, _, member, _, clash⟩ := TenantModel.save_duplicate refused
  obtain ⟨_, _, _, _, unusedId, now, claims⟩ :=
    (invariant.fits call).claiming loaded current position
  obtain ⟨sameStamp, _⟩ := TenantModel.validate_ok bound valid
  have changed : some (params call).gatewayPaymentId ≠ loaded.gatewayPaymentId :=
    Ne.symm unusedId
  subst sameStamp
  subst claims
  have taken : other.gatewayPaymentId = some (params call).gatewayPaymentId := by
    simpa [TenantModel.clashes, TenantModel.writeBack, TenantModel.withTenantId, claim,
      written_changed _ changed] using clash
  exact invariant.unused call (by simp [position, CaptureStep.remaining]) other member taken

/-- The invoice that a call finds is the one of the race, and the call adds its own amount to
what it read. -/
theorem read_fits {configuration : Configuration κ (Traced κ) CaptureStep}
    (invariant : CreditsAddUp tenantId invoiceId amount params start invoice configuration)
    (orders : OpenOrders tenantId invoiceId amount params start)
    (bound : Bound (WebhooksController.contextOf tenantId) tenantId) {call : κ}
    {payment : Payment} (position : configuration.locals call = .claimed payment)
    {read : FeeInvoice} {paid : Option ℚ} (now : Int)
    (found : TenantModel.findById (WebhooksController.contextOf tenantId) payment.invoiceId
      configuration.shared.database.invoices = .ok (some read))
    (applies : applyPayment read.amountDue read.amountPaid (params call).amount = .ok paid) :
    Fits tenantId invoiceId amount params start invoice call
      (.rendering payment read (credit now paid read) paid.isNone) := by
  have held := (invariant.fits call).held payment (by rw [position]; rfl)
  obtain ⟨member, owned, matching⟩ := TenantModel.find_one_owned bound found
  have readId : read.id = payment.invoiceId := of_decide_eq_true matching
  obtain ⟨stored, storedMember, storedId, _, storedDue, _⟩ := invariant.tally
  have same : read = stored := Records.same_record invariant.invoiceIds member
    storedMember (readId.trans (held.2.trans storedId.symm))
  obtain ⟨given, nonnegative, _⟩ := orders.amounts call
  have sum : some (min read.amountDue (toHundredths (read.amountPaid + amount call))) = paid := by
    simpa [applyPayment, given, not_lt.mpr nonnegative] using applies
  refine ⟨by simp, ?_, ?_⟩
  · intro other holds
    obtain rfl : payment = other := Option.some.inj holds
    exact held
  · intro loaded current invalid hand
    obtain ⟨rfl, rfl, rfl⟩ : read = loaded ∧ credit now paid read = current ∧
        paid.isNone = invalid := by
      simpa [inHand] using hand
    refine ⟨readId.trans held.2, owned, same ▸ storedDue, by simp [← sum], now,
      read.receiptUrl, ?_⟩
    rw [← sum]
    rfl

/-- One transition of a call keeps the invariant and advances the invoice, when its
invoice save meets the condition.

Proof: by cases over the transitions. The call's id is unused and its order open until it
claims, so its lookups and its claim succeed; the invoice is there, so the call credits. -/
theorem transition_adds_up {deployment : Deployment}
    {before after : Configuration κ (Traced κ) CaptureStep}
    (invariant : CreditsAddUp tenantId invoiceId amount params start invoice before)
    (orders : OpenOrders tenantId invoiceId amount params start)
    (consistent : Consistent amount invoice) (call : κ) (moves : OnlyMoves call before after)
    {database next : Database} {step nextStep : CaptureStep}
    (transition : CaptureTransition deployment (WebhooksController.contextOf tenantId)
      (params call) database step next nextStep)
    (startsIn : before.shared.database = database) (startsAt : before.locals call = step)
    (endsIn : after.shared.database = next) (endsAt : after.locals call = nextStep)
    (history : after.shared.history =
      before.shared.history ++ ((eventOf step nextStep).map (fun event => (call, event))).toList)
    (unchanged : ∀ payment receiptUrl loaded current invalid,
      step = .crediting payment receiptUrl loaded current invalid →
      ∀ stored ∈ database.invoices, stored.id = loaded.id →
        stored.amountPaid = loaded.amountPaid ∧ stored.status = loaded.status) :
    CreditsAddUp tenantId invoiceId amount params start invoice after ∧
      Advances invoiceId before.shared.database.invoices after.shared.database.invoices := by
  have bound : Bound (WebhooksController.contextOf tenantId) tenantId :=
    bound_run tenantId orders.named
  have quiet (silent : eventOf step nextStep = none)
      (payments : next.payments.map standing = database.payments.map standing)
      (invoices : next.invoices = database.invoices)
      (fewer : nextStep.remaining ≤ step.remaining)
      (fits : Fits tenantId invoiceId amount params start invoice call nextStep)
      (done : hasCredited nextStep = true → hasCredited step = true) :
      CreditsAddUp tenantId invoiceId amount params start invoice after ∧
        Advances invoiceId before.shared.database.invoices after.shared.database.invoices := by
    have same : after.shared.database.invoices = before.shared.database.invoices := by
      rw [endsIn, startsIn, invoices]
    refine ⟨quiet_adds_up invariant call moves (by simp [history, silent])
      (by rw [endsIn, startsIn, payments]) same (by rw [endsAt, startsAt]; exact fewer)
      (endsAt ▸ fits) ?_, ?_⟩
    · intro credited
      refine invariant.done call ?_
      rw [startsAt]
      exact done (endsAt ▸ credited)
    · rw [same]
      exact advances_refl invoiceId _
  have fits : Fits tenantId invoiceId amount params start invoice call step :=
    startsAt ▸ invariant.fits call
  cases transition with
  | failed step thrown _ =>
    exact quiet (by cases step <;> rfl) rfl rfl (by simp [CaptureStep.remaining])
      (ended_fits (by simp) rfl rfl) (by simp [hasCredited])
  | recorded existing found =>
    obtain ⟨member, matching⟩ := TenantModel.find_one_some found
    exact False.elim (invariant.unused call (by simp [startsAt, CaptureStep.remaining]) existing
      (startsIn ▸ member) (of_decide_eq_true matching))
  | unrecorded _ =>
    exact quiet rfl rfl rfl (by simp [CaptureStep.remaining]) (ended_fits (by simp) rfl rfl)
      (by simp [hasCredited])
  | nonePending absent =>
    obtain ⟨payment, member, owned, order, created⟩ :=
      invariant.pending call (by simp [startsAt, CaptureStep.remaining])
    have missed := TenantModel.find_one_absent bound absent (startsIn ▸ member) owned
    simp [order, created] at missed
  | pending payment now found =>
    have found : Fits tenantId invoiceId amount params start invoice call
        (.claiming payment (claim (params call) now payment)) :=
      found_order_fits invariant bound (by simp [startsAt, CaptureStep.remaining]) now
        (startsIn ▸ found)
    exact quiet rfl rfl rfl (by simp [CaptureStep.remaining]) found (by simp [hasCredited])
  | lostClaim loaded current refused =>
    exact False.elim (claim_lands invariant bound startsAt (startsIn ▸ refused))
  | claims loaded current payment payments saved =>
    obtain ⟨stamped, written_⟩ := TenantModel.save_bound bound saved
    have same : after.shared.database.invoices = before.shared.database.invoices := by
      rw [endsIn, startsIn]
    refine ⟨claim_adds_up invariant orders call moves startsAt endsAt stamped history ?_ same, ?_⟩
    · rw [endsIn, startsIn]
      exact written_
    · rw [same]
      exact advances_refl invoiceId _
  | withoutInvoice payment absent =>
    obtain ⟨_, target⟩ := fits.held payment rfl
    obtain ⟨stored, member, storedId, storedTenant, _⟩ := invariant.tally
    have missed := TenantModel.find_one_absent bound absent (startsIn ▸ member) storedTenant
    exact False.elim (of_decide_eq_false missed (storedId.trans target.symm))
  | reads payment read paid now found applies =>
    have reading : Fits tenantId invoiceId amount params start invoice call
        (.rendering payment read (credit now paid read) paid.isNone) :=
      read_fits invariant orders bound startsAt now (startsIn ▸ found) applies
    exact quiet rfl rfl rfl (by simp [CaptureStep.remaining]) reading (by simp [hasCredited])
  | renders payment loaded current invalid receiptUrl =>
    refine quiet rfl rfl rfl (by simp [CaptureStep.remaining]) ⟨by simp, fits.held, ?_⟩
      (by simp [hasCredited])
    intro other otherCurrent otherInvalid position
    obtain ⟨rfl, rfl, rfl⟩ : loaded = other ∧
        { current with receiptUrl := some receiptUrl } = otherCurrent ∧ invalid = otherInvalid := by
      simpa [inHand] using position
    obtain ⟨sameId, owned, due, valid, now, url, sum⟩ := fits.inHand loaded current invalid rfl
    exact ⟨sameId, owned, due, valid, now, some receiptUrl, by rw [sum]⟩
  | rendersNothing payment loaded current invalid =>
    exact quiet rfl rfl rfl (by simp [CaptureStep.remaining])
      ⟨by simp, fits.held, fits.inHand⟩ (by simp [hasCredited])
  | storesReceipt payment stored receiptUrl loaded current invalid payments saved =>
    obtain ⟨stamped, written_⟩ := TenantModel.save_bound bound saved
    obtain ⟨owned, target⟩ := fits.held payment rfl
    refine quiet rfl ?_ rfl (by simp [CaptureStep.remaining]) ⟨by simp, ?_, fits.inHand⟩
      (by simp [hasCredited])
    · simp only [written_]
      apply Records.modify_reading standing
      intro row _ _
      subst stamped
      exact receipt_standing owned
    · intro held same
      obtain rfl : stored = held := Option.some.inj same
      rw [stamped]
      exact ⟨rfl, target⟩
  | credits payment receiptUrl loaded current saved invoices stored =>
    obtain ⟨stamped, written_⟩ := TenantModel.save_bound bound stored
    refine credit_adds_up invariant orders consistent call moves startsAt endsAt stamped history
      (by rw [endsIn, startsIn]) ?_ ?_
    · rw [endsIn, startsIn]
      exact written_
    · rw [startsIn]
      exact unchanged payment receiptUrl loaded current false rfl
  | notifies payment receiptUrl saved notifications pushes =>
    exact quiet rfl rfl rfl (by simp [CaptureStep.remaining])
      ⟨by simp, fits.held, by simp [inHand]⟩ (by simp [hasCredited])
  | notifyFails payment receiptUrl saved notifications pushes thrown =>
    exact quiet rfl rfl rfl (by simp [CaptureStep.remaining]) (ended_fits (by simp) rfl rfl)
      (by simp [hasCredited])
  | ended step finished =>
    exact quiet (by cases step <;> rfl) rfl rfl (le_refl _) fits id

end Invariant

section Runs

variable {κ : Type} [DecidableEq κ] (deployment : Deployment) {tenantId : String}
  {invoiceId : ObjectId} {amount : κ → ℚ} {params : κ → CaptureParams} {start : Database}
  {invoice : FeeInvoice}

/-- The calls of such a race: every delivery is applied in the institute's context. -/
def deliveries (tenantId : String) (params : κ → CaptureParams) (call : κ) : CaptureCall :=
  ⟨WebhooksController.contextOf tenantId, params call⟩

/-- The condition on one step can be tested. -/
instance (configuration : Configuration κ (Traced κ) CaptureStep) (turn : κ × StepInput) :
    Decidable (InvoiceUnchanged configuration turn) :=
  match position : configuration.locals turn.1 with
  | .crediting payment receiptUrl loaded current invalid =>
    decidable_of_iff
      (∀ stored ∈ configuration.shared.database.invoices, stored.id = loaded.id →
        stored.amountPaid = loaded.amountPaid ∧ stored.status = loaded.status)
      (by
        constructor
        · rintro same _ _ _ _ _ standing
          obtain ⟨rfl, rfl, rfl, rfl, rfl⟩ := CaptureStep.crediting.inj (position.symm.trans standing)
          exact same
        · intro unchanged
          exact unchanged payment receiptUrl loaded current invalid position)
  | .started | .noneRecorded | .claiming .. | .claimed _ | .rendering .. | .storingReceipt ..
  | .notifying .. | .returned .. | .threw _ =>
    isTrue (by simp [InvoiceUnchanged, position])

/-- One turn under the condition keeps the invariant and advances the invoice. -/
theorem turn_adds_up (orders : OpenOrders tenantId invoiceId amount params start)
    (consistent : Consistent amount invoice)
    (configuration : Configuration κ (Traced κ) CaptureStep) (input : κ × StepInput)
    (invariant : CreditsAddUp tenantId invoiceId amount params start invoice configuration)
    (unchanged : InvoiceUnchanged configuration input) :
    CreditsAddUp tenantId invoiceId amount params start invoice
        (turn (act deployment (deliveries tenantId params)) configuration input) ∧
      Advances invoiceId configuration.shared.database.invoices
        (turn (act deployment (deliveries tenantId params)) configuration
          input).shared.database.invoices := by
  obtain ⟨call, supplied⟩ := input
  exact transition_adds_up invariant orders consistent call
    (fun other different => turn_other _ configuration call other supplied different)
    (capture_step_transition deployment (WebhooksController.contextOf tenantId) (params call)
      supplied configuration.shared.database (configuration.locals call))
    rfl rfl rfl (turn_own _ configuration call supplied) rfl unchanged

/-- When every call has returned, the credits are those of all calls. -/
theorem all_credited [Fintype κ] {configuration : Configuration κ (Traced κ) CaptureStep}
    (invariant : CreditsAddUp tenantId invoiceId amount params start invoice configuration)
    (returned : ∀ call, ∃ result payment, configuration.locals call = .returned result payment) :
    Records.total amount (creditors configuration.shared.history) = ∑ call, amount call := by
  have everyone : (creditors configuration.shared.history).toFinset = Finset.univ := by
    refine Finset.eq_univ_iff_forall.mpr (fun call => List.mem_toFinset.mpr ?_)
    obtain ⟨result, payment, ended⟩ := returned call
    exact invariant.done call (by rw [ended]; rfl)
  rw [Records.total, ← List.sum_toFinset amount invariant.onceEach, everyone]

/-- In every race of deliveries for different payments of one invoice whose invoice saves
meet the condition: once all calls have returned, the stored paid amount is the initial
one with all delivered amounts, clamped to the amount due; and from any point of the
schedule to its end the paid amount does not decrease and a paid invoice stays paid.

Proof: the invariant holds before the first step and is kept by every step, so the stored
amount is the clamped sum of the credits; a call that has returned has credited, each call
at most once. -/
theorem credits_add_up [Fintype κ] (orders : OpenOrders tenantId invoiceId amount params start)
    (place : invoice ∈ start.invoices) (named : invoice.id = invoiceId)
    (owned : invoice.tenantId = tenantId) (consistent : Consistent amount invoice)
    (schedule : List (κ × StepInput))
    (unchanged : Along (turn (act deployment (deliveries tenantId params))) InvoiceUnchanged
      (openedRace start) schedule) :
    ((∀ call, ∃ result payment,
        (race deployment (deliveries tenantId params) start schedule).locals call =
          .returned result payment) →
      ∃ stored ∈ (race deployment (deliveries tenantId params) start
          schedule).shared.database.invoices,
        stored.id = invoiceId ∧ stored.amountDue = invoice.amountDue ∧
          stored.amountPaid = min invoice.amountDue
            (invoice.amountPaid + ∑ call, amount call)) ∧
    ∀ earlier later, schedule = earlier ++ later →
      Advances invoiceId
        (race deployment (deliveries tenantId params) start earlier).shared.database.invoices
        (race deployment (deliveries tenantId params) start schedule).shared.database.invoices := by
  have opened := opened_credits_add_up orders place named owned consistent
  have kept (inputs : List (κ × StepInput))
      (along : Along (turn (act deployment (deliveries tenantId params))) InvoiceUnchanged
        (openedRace start) inputs) :
      CreditsAddUp tenantId invoiceId amount params start invoice
        (race deployment (deliveries tenantId params) start inputs) :=
    run_preserves (fun configuration input invariant condition =>
      (turn_adds_up deployment orders consistent configuration input invariant condition).1)
      opened along
  constructor
  · intro returned
    have final := kept schedule unchanged
    obtain ⟨stored, member, storedId, _, storedDue, storedPaid, _⟩ := final.tally
    refine ⟨stored, member, storedId, storedDue, ?_⟩
    rw [storedPaid, all_credited final returned]
  · rintro earlier later rfl
    obtain ⟨first, second⟩ := (along_append _ _ _ earlier later).mp unchanged
    have middle := kept earlier first
    unfold race
    rw [run_append]
    exact run_relates (fun before after =>
        Advances invoiceId before.shared.database.invoices after.shared.database.invoices)
      (fun configuration => advances_refl invoiceId _)
      (fun _ _ _ => advances_trans invoiceId)
      (fun configuration input invariant condition =>
        turn_adds_up deployment orders consistent configuration input invariant condition)
      middle second

end Runs

/-- A second open order of the invoice of 1000 rupees, for 400 rupees. -/
def partPayment : Payment :=
  { openPayment with id := .repeated '5', amount := 400, gatewayOrderId := "order_2" }

/-- The invoice with both orders open. -/
def twoOrders : Database := { invoices := [thousandInvoice], payments := [openPayment, partPayment] }

/-- The two amounts, the full one first. -/
def orderAmount (call : Bool) : ℚ := if call then 400 else 1000

/-- The deliveries of the two orders. -/
def orderParams (call : Bool) : CaptureParams :=
  { gatewayOrderId := if call then "order_2" else "order_1"
    gatewayPaymentId := if call then "pay_2" else "pay_1"
    amount := some (orderAmount call) }

/-- The two deliveries are for different open orders of the invoice. -/
theorem two_orders_open :
    OpenOrders "institute-a" (.repeated '1') orderAmount orderParams twoOrders where
  named := by decide
  paymentIds := by
    have different : ObjectId.repeated '4' ≠ .repeated '5' := by decide
    simp [Records.Distinct, twoOrders, openPayment, partPayment, different]
  invoiceIds := by simp [Records.Distinct, twoOrders]
  pending := by decide +kernel
  routed := by decide +kernel
  orders := by decide
  ids := by decide
  unused := by decide +kernel
  amounts := by
    intro call
    refine ⟨rfl, by cases call <;> decide +kernel, ?_⟩
    cases call
    · exact ⟨100000, by norm_num [orderAmount]⟩
    · exact ⟨40000, by norm_num [orderAmount]⟩

/-- The unpaid invoice is consistent. -/
theorem thousand_consistent : Consistent orderAmount thousandInvoice where
  clamped := by decide +kernel
  whole := .inl whole_zero
  covered := by decide
  nothing := by decide +kernel

/-- One delivery after the other meets the condition, and the invoice ends with the
clamped sum. -/
theorem serial_orders_add_up :
    ∃ stored ∈ (race stubDeployment (deliveries "institute-a" orderParams) twoOrders
        oneAfterOther).shared.database.invoices,
      stored.id = .repeated '1' ∧ stored.amountDue = 1000 ∧
        stored.amountPaid = min 1000 (0 + ∑ call, orderAmount call) := by
  refine (credits_add_up stubDeployment two_orders_open (by decide) rfl rfl thousand_consistent
    oneAfterOther (by decide +kernel)).1 ?_
  intro call
  cases call
  · exact ⟨⟨true, some (.repeated '1')⟩, some (claim (orderParams false) 1 openPayment),
      by decide +kernel⟩
  · exact ⟨⟨true, some (.repeated '1')⟩, some (claim (orderParams true) 1 partPayment),
      by decide +kernel⟩

/-- Both calls read the invoice before either saves it. -/
def bothRead : List (Bool × StepInput) :=
  List.replicate 5 (stepOf false) ++ List.replicate 5 (stepOf true) ++
    List.replicate 2 (stepOf false) ++ List.replicate 2 (stepOf true)

/-- When both calls read the unpaid invoice, the second save overwrites the first: both
calls return that they applied their payment, the invoice was paid in full, and it ends
partly paid with 400 of the 1000 rupees. -/
theorem overlapping_orders_lose_credit :
    (∃ first second,
      (race stubDeployment (deliveries "institute-a" orderParams) twoOrders bothRead).locals
          false = .returned ⟨true, some (.repeated '1')⟩ (some first) ∧
        (race stubDeployment (deliveries "institute-a" orderParams) twoOrders bothRead).locals
          true = .returned ⟨true, some (.repeated '1')⟩ (some second)) ∧
      (∀ stored ∈ (race stubDeployment (deliveries "institute-a" orderParams) twoOrders
          bothRead).shared.database.invoices,
        stored.amountPaid ≠ min stored.amountDue (0 + ∑ call, orderAmount call)) ∧
      (race stubDeployment (deliveries "institute-a" orderParams) twoOrders
          (bothRead.take 12)).shared.database.invoices.map
            (fun stored => (stored.amountPaid, stored.status)) = [(1000, .paid)] ∧
      (race stubDeployment (deliveries "institute-a" orderParams) twoOrders
          bothRead).shared.database.invoices.map
            (fun stored => (stored.amountPaid, stored.status)) = [(400, .partial_)] := by
  refine ⟨⟨claim (orderParams false) 1 openPayment, claim (orderParams true) 1 partPayment, ?_, ?_⟩,
    ?_, ?_, ?_⟩
  all_goals decide +kernel

end CreditRaces

end CoachingApi
