import CoachingApi.Fees.FeeOperations

/-!
# Invoices that carry a tally

An invoice's paid amount is the amount due or what was credited to it, whichever is
less. Over any way of counting what was credited, a serial delivery without failures
either does nothing, or captures one payment and moves the count of that payment's
invoice by the delivered amount. The amounts are whole numbers of paisa, so rounding and
clamping commute with the running sum.
-/

namespace CoachingApi

open TenantContextStore TenantPlugin FeesService WebhooksController Rounding

namespace Tally

/-- An invoice's amounts and status fit what was credited to it. -/
structure Tallied (credited : ℚ) (invoice : FeeInvoice) : Prop where
  labelled : invoice.label ≠ ""
  due : 0 ≤ invoice.amountDue
  dueWhole : Whole invoice.amountDue
  nonnegative : 0 ≤ credited
  whole : Whole credited
  paid : invoice.amountPaid = min invoice.amountDue credited
  settled : invoice.status = .paid → invoice.amountDue ≤ credited ∧ 0 < invoice.amountDue

/-- Applying a whole amount to a tallied invoice adds it to the clamped sum. -/
theorem Tallied.applies {credited amount : ℚ} {invoice : FeeInvoice}
    (tallied : Tallied credited invoice) (nonnegative : 0 ≤ amount) (whole : Whole amount) :
    applyPayment invoice.amountDue invoice.amountPaid (some amount) =
      .ok (some (min invoice.amountDue (credited + amount))) := by
  have paidWhole : Whole invoice.amountPaid := by
    rw [tallied.paid]
    exact tallied.dueWhole.min tallied.whole
  rw [apply_whole nonnegative paidWhole whole, tallied.paid,
    clamp_absorbs invoice.amountDue credited amount nonnegative]

/-- The credited invoice passes its validators. -/
theorem Tallied.accepted {credited amount : ℚ} {invoice : FeeInvoice}
    (tallied : Tallied credited invoice) (nonnegative : 0 ≤ amount) (now : Int) :
    TenantModel.refusedPath
      (credit now (some (min invoice.amountDue (credited + amount))) invoice) = none := by
  have sum : 0 ≤ min invoice.amountDue (credited + amount) :=
    le_min tallied.due (by linarith [tallied.nonnegative])
  have notNegative : ¬ (min invoice.amountDue (credited + amount) < 0) := not_lt.mpr sum
  refine first_refused_none.mpr ?_
  intro check listed
  simp only [List.mem_cons, List.not_mem_nil, or_false] at listed
  rcases listed with rfl | rfl | rfl
  · exact decide_eq_false tallied.labelled
  · exact decide_eq_false (not_lt.mpr tallied.due)
  · exact decide_eq_false notNegative

/-- The credited invoice carries the tally with the amount. -/
theorem Tallied.credited {credited amount : ℚ} {invoice : FeeInvoice}
    (tallied : Tallied credited invoice) (nonnegative : 0 ≤ amount) (whole : Whole amount)
    (now : Int) (receiptUrl : Option String) :
    Tallied (credited + amount)
      { credit now (some (min invoice.amountDue (credited + amount))) invoice with
        receiptUrl := receiptUrl } where
  labelled := tallied.labelled
  due := tallied.due
  dueWhole := tallied.dueWhole
  nonnegative := add_nonneg tallied.nonnegative nonnegative
  whole := tallied.whole.add whole
  paid := rfl
  settled := by
    intro isPaid
    obtain ⟨covered, positive⟩ := (status_paid_iff _ _ _ _).mp isPaid
    exact ⟨le_trans covered (min_le_right _ _), positive⟩

/-- What an operation keeps of the invoices: each is still there, its paid amount has not
decreased, and if it was paid it is paid with the same amount. -/
def Advances (before after : List FeeInvoice) : Prop :=
  ∀ invoice ∈ before, ∃ kept ∈ after, kept.id = invoice.id ∧
    invoice.amountPaid ≤ kept.amountPaid ∧
    (invoice.status = .paid → kept.status = .paid ∧ kept.amountPaid = invoice.amountPaid)

/-- Nothing changed. -/
theorem advances_refl (invoices : List FeeInvoice) : Advances invoices invoices :=
  fun invoice member => ⟨invoice, member, rfl, le_refl _, fun paid => ⟨paid, rfl⟩⟩

/-- One change after another. -/
theorem advances_trans {first second third : List FeeInvoice} (earlier : Advances first second)
    (later : Advances second third) : Advances first third := by
  intro invoice member
  obtain ⟨middle, middleMember, middleId, grows, stays⟩ := earlier invoice member
  obtain ⟨kept, keptMember, keptId, growsOn, staysOn⟩ := later middle middleMember
  refine ⟨kept, keptMember, keptId.trans middleId, grows.trans growsOn, ?_⟩
  intro paid
  obtain ⟨middlePaid, middleAmount⟩ := stays paid
  obtain ⟨keptPaid, keptAmount⟩ := staysOn middlePaid
  exact ⟨keptPaid, keptAmount.trans middleAmount⟩

/-- New invoices leave the stored ones as they are. -/
theorem advances_append (invoices added : List FeeInvoice) :
    Advances invoices (invoices ++ added) :=
  fun invoice member =>
    ⟨invoice, List.mem_append_left _ member, rfl, le_refl _, fun paid => ⟨paid, rfl⟩⟩

/-- Crediting an invoice advances it. -/
theorem Tallied.advances {credited amount : ℚ} {invoice : FeeInvoice} {invoices : List FeeInvoice}
    (tallied : Tallied credited invoice) (nonnegative : 0 ≤ amount) (now : Int)
    (receiptUrl : Option String) (distinct : Records.Distinct FeeInvoice.id invoices)
    (stored : invoice ∈ invoices) :
    Advances invoices (Records.modify FeeInvoice.id invoice.id
      (fun _ => { credit now (some (min invoice.amountDue (credited + amount))) invoice with
        receiptUrl := receiptUrl }) invoices) := by
  intro other member
  by_cases same : other.id = invoice.id
  · obtain rfl := Records.same_record distinct member stored same
    refine ⟨_, Records.modify_same stored, rfl, ?_, ?_⟩
    · rw [tallied.paid]
      exact min_le_min_left _ (by linarith)
    · intro isPaid
      obtain ⟨covered, positive⟩ := tallied.settled isPaid
      have covers : other.amountDue ≤ credited + amount := by linarith
      refine ⟨(status_paid_iff _ _ _ _).mpr ⟨le_min (le_refl _) covers, positive⟩, ?_⟩
      rw [tallied.paid, min_eq_left covered]
      exact min_eq_left covers
  · exact ⟨other, Records.modify_other member same, rfl, le_refl _, fun paid => ⟨paid, rfl⟩⟩

/-- A database whose invoices carry a tally: identities are distinct, every payment names
a tenant and is for an invoice of that tenant, and every invoice is tallied. -/
structure Sound (credited : ObjectId → ℚ) (database : Database) : Prop where
  paymentIds : Records.Distinct Payment.id database.payments
  invoiceIds : Records.Distinct FeeInvoice.id database.invoices
  named : ∀ payment ∈ database.payments, payment.tenantId ≠ ""
  targets : ∀ payment ∈ database.payments, ∃ invoice ∈ database.invoices,
    invoice.id = payment.invoiceId ∧ invoice.tenantId = payment.tenantId
  tallied : ∀ invoice ∈ database.invoices, Tallied (credited invoice.id) invoice

variable {credited : ObjectId → ℚ} {database : Database}

/-- A sound database is well-formed. -/
theorem Sound.well (sound : Sound credited database) : WellFormed database :=
  ⟨sound.paymentIds, sound.invoiceIds, sound.named⟩

/-- New invoices to which nothing was credited keep a database sound. -/
theorem Sound.invoices (sound : Sound credited database) {added : List FeeInvoice}
    (distinct : Records.Distinct FeeInvoice.id (database.invoices ++ added))
    (fresh : ∀ invoice ∈ added, Tallied (credited invoice.id) invoice) :
    Sound credited { database with invoices := database.invoices ++ added } where
  paymentIds := sound.paymentIds
  invoiceIds := distinct
  named := sound.named
  targets := by
    intro payment member
    obtain ⟨invoice, stored, same, owned⟩ := sound.targets payment member
    exact ⟨invoice, List.mem_append_left _ stored, same, owned⟩
  tallied := by
    intro invoice member
    rcases List.mem_append.mp member with stored | new
    · exact sound.tallied invoice stored
    · exact fresh invoice new

/-- A payment ordered for a stored invoice keeps a database sound. -/
theorem Sound.order (sound : Sound credited database) {payment : Payment} {invoice : FeeInvoice}
    (stored : invoice ∈ database.invoices) (target : payment.invoiceId = invoice.id)
    (owned : invoice.tenantId = payment.tenantId) (named : payment.tenantId ≠ "")
    (fresh : ∀ held ∈ database.payments, held.id ≠ payment.id) :
    Sound credited { database with payments := database.payments ++ [payment] } where
  paymentIds := Records.append_distinct sound.paymentIds fresh
  invoiceIds := sound.invoiceIds
  named := by
    intro other member
    rcases List.mem_append.mp member with held | new
    · exact sound.named other held
    · obtain rfl := List.mem_singleton.mp new
      exact named
  targets := by
    intro other member
    rcases List.mem_append.mp member with held | new
    · exact sound.targets other held
    · obtain rfl := List.mem_singleton.mp new
      exact ⟨invoice, stored, target.symm, owned⟩
  tallied := sound.tallied

/-- The payment that a delivery is for: the open one of its order, in the tenant of the order's
first payment. -/
def paymentFor (params : CaptureParams) (payments : List Payment) : Option Payment :=
  (routedPayment params.gatewayOrderId payments).bind (fun routed =>
    pendingPayment routed.tenantId params.gatewayOrderId payments)

/-- The captured payment and its invoice after a delivery. -/
structure Captures (params : CaptureParams) (database after : Database)
    (payment claimed : Payment) (invoice : FeeInvoice) : Prop where
  stored : payment ∈ database.payments
  invoiceStored : invoice ∈ database.invoices
  target : invoice.id = payment.invoiceId
  open_ : paymentFor params database.payments = some payment
  created : payment.status = .created
  unrecorded : ∀ other ∈ database.payments,
    other.gatewayPaymentId ≠ some params.gatewayPaymentId
  result : ∃ now receiptUrl, claimed = { claim params now payment with receiptUrl := receiptUrl }
  payments : after.payments = Records.modify Payment.id payment.id (fun _ => claimed)
    database.payments
  plans : after.plans = database.plans

/-- The payment that is captured has the order of the delivery. -/
theorem Captures.order {params : CaptureParams} {database after : Database}
    {payment claimed : Payment} {invoice : FeeInvoice}
    (captures : Captures params database after payment claimed invoice) :
    payment.gatewayOrderId = params.gatewayOrderId := by
  obtain ⟨routed, _, pending⟩ := Option.bind_eq_some_iff.mp captures.open_
  exact (pending_payment_some pending).2.2.1

/-- A delivery of a whole amount on a sound database, without failures, either changes
nothing and does not apply, or captures a payment, moves the tally of its invoice by the
amount and advances the invoices.

Proof: a delivery with nothing to claim changes nothing. The invoice of a claimed payment
is there and tallied, so the credit is the clamped sum and passes the validators. -/
theorem Sound.delivery (sound : Sound credited database) {deployment : Deployment}
    {delivery : Delivery} {params : CaptureParams} {inputs : AwaitPoint → StepInput}
    (works : FailureFree inputs)
    (unsent : ∀ stored ∈ database.notifications, stored.id ≠ (inputs .notification).notification)
    (asks : captureOf deployment delivery = some params) {amount : ℚ}
    (given : params.amount = some amount) (nonnegative : 0 ≤ amount) (whole : Whole amount) :
    ((handle deployment inputs delivery database).1 = database ∧
        ∀ result payment, (handle deployment inputs delivery database).2 ≠
          some (.returned ⟨true, result⟩ payment)) ∨
      ∃ payment claimed invoice,
        Captures params database (handle deployment inputs delivery database).1 payment claimed
            invoice ∧
          (handle deployment inputs delivery database).2 =
            some (.returned ⟨true, some payment.invoiceId⟩ (some claimed)) ∧
          Sound (Function.update credited payment.invoiceId
              (credited payment.invoiceId + amount))
            (handle deployment inputs delivery database).1 ∧
          Advances database.invoices (handle deployment inputs delivery database).1.invoices := by
  by_cases claiming : ∃ routed, routedPayment params.gatewayOrderId database.payments =
      some routed ∧ ∃ payment, Claims routed.tenantId params database.payments payment
  · right
    obtain ⟨routed, found, payment, claims⟩ := claiming
    obtain ⟨stored, owned, order, created⟩ := pending_payment_some claims.pending
    obtain ⟨invoice, invoiceStored, target, invoiceOwned⟩ := sound.targets payment stored
    have tallied := sound.tallied invoice invoiceStored
    have applies : applyPayment invoice.amountDue invoice.amountPaid params.amount =
        .ok (some (min invoice.amountDue (credited invoice.id + amount))) := by
      rw [given]
      exact tallied.applies nonnegative whole
    obtain ⟨paymentReceipt, invoiceReceipt, plans, invoices, payments, returned⟩ :=
      handle_credits works sound.well unsent asks found claims invoiceStored target
        (invoiceOwned.trans owned) applies (tallied.accepted nonnegative _)
    have open_ : paymentFor params database.payments = some payment := by
      rw [paymentFor, found, Option.bind_some, claims.pending]
    refine ⟨payment, _, invoice, ⟨stored, invoiceStored, target, open_, created,
      claims.unrecorded, ⟨_, paymentReceipt, rfl⟩, payments, plans⟩, returned, ?_, ?_⟩
    · refine ⟨?_, ?_, ?_, ?_, ?_⟩
      · rw [payments]
        exact Records.replace_distinct rfl sound.paymentIds
      · rw [invoices]
        exact Records.replace_distinct rfl sound.invoiceIds
      · rw [payments]
        intro other member
        rcases Records.mem_replace member with rfl | ⟨held, _⟩
        · exact sound.named payment stored
        · exact sound.named other held
      · rw [payments, invoices]
        have kept (other : FeeInvoice) (held : other ∈ database.invoices) :
            ∃ after ∈ Records.modify FeeInvoice.id invoice.id
                (fun _ => { credit (inputs .invoiceRead).now
                  (some (min invoice.amountDue (credited invoice.id + amount))) invoice with
                  receiptUrl := invoiceReceipt }) database.invoices,
              after.id = other.id ∧ after.tenantId = other.tenantId := by
          by_cases same : other.id = invoice.id
          · obtain rfl := Records.same_record sound.invoiceIds held invoiceStored same
            exact ⟨_, Records.modify_same held, rfl, rfl⟩
          · exact ⟨other, Records.modify_other held same, rfl, rfl⟩
        have source (other : Payment) (held : other ∈ database.payments) :
            ∃ after ∈ Records.modify FeeInvoice.id invoice.id
                (fun _ => { credit (inputs .invoiceRead).now
                  (some (min invoice.amountDue (credited invoice.id + amount))) invoice with
                  receiptUrl := invoiceReceipt }) database.invoices,
              after.id = other.invoiceId ∧ after.tenantId = other.tenantId := by
          obtain ⟨before, beforeStored, sameId, sameTenant⟩ := sound.targets other held
          obtain ⟨after, afterStored, keptId, keptTenant⟩ := kept before beforeStored
          exact ⟨after, afterStored, keptId.trans sameId, keptTenant.trans sameTenant⟩
        intro other member
        rcases Records.mem_replace member with rfl | ⟨held, _⟩
        · exact source payment stored
        · exact source other held
      · rw [invoices]
        intro other member
        rcases Records.mem_replace member with rfl | ⟨held, different⟩
        · have sum : Function.update credited payment.invoiceId
              (credited payment.invoiceId + amount) invoice.id = credited invoice.id + amount := by
            rw [← target, Function.update_self]
          change Tallied (Function.update credited payment.invoiceId
            (credited payment.invoiceId + amount) invoice.id) _
          rw [sum]
          exact tallied.credited nonnegative whole (inputs .invoiceRead).now invoiceReceipt
        · have unmoved : Function.update credited payment.invoiceId
              (credited payment.invoiceId + amount) other.id = credited other.id :=
            Function.update_of_ne (target ▸ different) _ _
          rw [unmoved]
          exact sound.tallied other held
    · rw [invoices]
      exact tallied.advances nonnegative _ _ sound.invoiceIds invoiceStored
  · left
    have nothing : ∀ routed, routedPayment params.gatewayOrderId database.payments =
        some routed → ∀ payment, ¬ Claims routed.tenantId params database.payments payment :=
      fun routed found payment claims => claiming ⟨routed, found, payment, claims⟩
    refine ⟨handle_unclaimed inputs sound.well asks nothing, ?_⟩
    intro result payment ended
    have unapplied := handle_unapplied inputs sound.well asks nothing ended
    simp at unapplied

end Tally

end CoachingApi
