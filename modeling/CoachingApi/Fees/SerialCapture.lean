import CoachingApi.Fees.CaptureRaces

/-!
# One capture taken alone

A serial call either finds nothing to claim and leaves the database as it is, or it
claims the first created payment of its order and goes on to credit that payment's
invoice. Which of the two is decided by the stored payments before the call.
-/

namespace CoachingApi

open TenantContextStore TenantPlugin

namespace FeesService

/-- The payment a call finds to capture: the tenant's first created one of the order. -/
def pendingPayment (tenantId orderId : String) (payments : List Payment) : Option Payment :=
  payments.find? (fun payment => decide (payment.tenantId = tenantId) &&
    decide (payment.gatewayOrderId = orderId ∧ payment.status = .created))

/-- A call claims a payment: it is the one the call finds, no document holds the
gateway payment id yet, and the payment passes its validators. -/
structure Claims (tenantId : String) (params : CaptureParams) (payments : List Payment)
    (payment : Payment) : Prop where
  pending : pendingPayment tenantId params.gatewayOrderId payments = some payment
  unrecorded : ∀ other ∈ payments, other.gatewayPaymentId ≠ some params.gatewayPaymentId
  valid : TenantModel.refusedPath payment = none

/-- Whether a call claims a payment can be tested. -/
instance (tenantId : String) (params : CaptureParams) (payments : List Payment)
    (payment : Payment) : Decidable (Claims tenantId params payments payment) :=
  decidable_of_iff
    (pendingPayment tenantId params.gatewayOrderId payments = some payment ∧
      (∀ other ∈ payments, other.gatewayPaymentId ≠ some params.gatewayPaymentId) ∧
      TenantModel.refusedPath payment = none)
    ⟨fun ⟨pending, unrecorded, valid⟩ => ⟨pending, unrecorded, valid⟩,
      fun claims => ⟨claims.pending, claims.unrecorded, claims.valid⟩⟩

/-- What is found to capture is a stored created payment of the tenant and the order. -/
theorem pending_payment_some {tenantId orderId : String} {payments : List Payment}
    {payment : Payment} (found : pendingPayment tenantId orderId payments = some payment) :
    payment ∈ payments ∧ payment.tenantId = tenantId ∧ payment.gatewayOrderId = orderId ∧
      payment.status = .created := by
  have tested := List.find?_some found
  simp only [Bool.and_eq_true, decide_eq_true_eq] at tested
  exact ⟨List.mem_of_find?_eq_some found, tested.1, tested.2.1, tested.2.2⟩

/-- A payment that can be claimed is stored. -/
theorem Claims.stored {tenantId : String} {params : CaptureParams} {payments : List Payment}
    {payment : Payment} (claims : Claims tenantId params payments payment) : payment ∈ payments :=
  (pending_payment_some claims.pending).1

variable {deployment : Deployment} {ambient : Ambient} {params : CaptureParams}
  {inputs : AwaitPoint → StepInput} {tenantId : String}

/-- A call before an awaited operation performs it next. -/
theorem settle_next {point : AwaitPoint} (fuel : Nat) (database : Database) (step : CaptureStep)
    (stands : step.point = some point) :
    settle deployment ambient params inputs (fuel + 1) database step =
      settle deployment ambient params inputs fuel
        (captureStep deployment ambient params (inputs point) database step).1
        (captureStep deployment ambient params (inputs point) database step).2 := by
  simp only [settle, advance, stands]

/-- An invariant kept by every step holds when a call has taken its steps. -/
theorem settle_preserves {invariant : Database → CaptureStep → Prop}
    (preserved : ∀ point database step, step.point = some point → invariant database step →
      invariant (captureStep deployment ambient params (inputs point) database step).1
        (captureStep deployment ambient params (inputs point) database step).2)
    (fuel : Nat) (database : Database) (step : CaptureStep) (holds : invariant database step) :
    invariant (settle deployment ambient params inputs fuel database step).1
      (settle deployment ambient params inputs fuel database step).2 := by
  induction fuel generalizing database step with
  | zero => exact holds
  | succ fuel inductionHypothesis =>
    cases stands : step.point with
    | none =>
      rw [settle_final deployment ambient params inputs (fuel + 1) database step stands]
      exact holds
    | some point =>
      rw [settle_next fuel database step stands]
      exact inductionHypothesis _ _ (preserved point database step stands holds)

/-- A call that has not claimed: the database is as it was, and the lookups so far found
what a claim needs without failing. -/
def Unclaimed (tenantId : String) (params : CaptureParams) (inputs : AwaitPoint → StepInput)
    (start database : Database) (step : CaptureStep) : Prop :=
  database = start ∧
    match step with
    | .started => True
    | .noneRecorded =>
      (inputs .recordedLookup).fails = false ∧
        ∀ other ∈ start.payments, other.tenantId = tenantId →
          other.gatewayPaymentId ≠ some params.gatewayPaymentId
    | .claiming loaded current =>
      (inputs .recordedLookup).fails = false ∧ (inputs .pendingLookup).fails = false ∧
        (∀ other ∈ start.payments, other.tenantId = tenantId →
          other.gatewayPaymentId ≠ some params.gatewayPaymentId) ∧
        pendingPayment tenantId params.gatewayOrderId start.payments = some loaded ∧
        current = claim params (inputs .pendingLookup).now loaded
    | .returned result _ => result.applied = false
    | .threw _ => True
    | _ => False

/-- Saving a payment as it was loaded stores what is in memory. -/
theorem payment_written {loaded current : Payment} (same : current.id = loaded.id) :
    TenantModel.writeBack loaded current loaded = current := by
  simp [TenantModel.writeBack, ← same]

/-- Saving an invoice as it was loaded stores what is in memory. -/
theorem invoice_written {loaded current : FeeInvoice} (same : current.id = loaded.id) :
    TenantModel.writeBack loaded current loaded = current := by
  simp [TenantModel.writeBack, ← same]

/-- An accepted claiming save had a payment to claim. -/
theorem accepted_claims (bound : Bound ambient tenantId) {payments updated : List Payment}
    (distinct : Records.Distinct Payment.id payments) {loaded stamped : Payment} {now : Int}
    (unrecorded : ∀ other ∈ payments, other.tenantId = tenantId →
      other.gatewayPaymentId ≠ some params.gatewayPaymentId)
    (found : pendingPayment tenantId params.gatewayOrderId payments = some loaded)
    (saved : TenantModel.save ambient loaded (claim params now loaded) payments =
      .ok (stamped, updated)) :
    Claims tenantId params payments loaded := by
  obtain ⟨member, owned, _, _⟩ := pending_payment_some found
  obtain ⟨valid, _, stored, looked, free⟩ := TenantModel.save_ok saved
  obtain ⟨stamp, accepted⟩ := TenantModel.validate_ok bound valid
  have current : stamped = claim params now loaded := by
    rw [stamp, ← owned]
    rfl
  subst current
  obtain rfl : loaded = stored := by
    have same := Records.lookup_stored distinct member
    exact Option.some.inj (same.symm.trans looked)
  refine ⟨found, ?_, accepted⟩
  intro other held same
  by_cases identical : other.id = loaded.id
  · obtain rfl : other = loaded := Records.same_record distinct held member identical
    exact unrecorded other held owned same
  · have write : TenantModel.writeBack loaded (claim params now loaded) loaded =
        claim params now loaded := payment_written rfl
    have clash := free other held identical
    rw [write] at clash
    simp [TenantModel.clashes, claim, same] at clash

/-- A step of a call that has not claimed does not claim, when there is nothing to claim
or one of its first three operations fails. -/
theorem unclaimed_step (bound : Bound ambient tenantId) {start : Database}
    (distinct : Records.Distinct Payment.id start.payments)
    (blocked : (∀ payment, ¬ Claims tenantId params start.payments payment) ∨
      (inputs .recordedLookup).fails = true ∨ (inputs .pendingLookup).fails = true ∨
      (inputs .claimingSave).fails = true)
    (point : AwaitPoint) (database : Database) (step : CaptureStep)
    (stands : step.point = some point)
    (unclaimed : Unclaimed tenantId params inputs start database step) :
    Unclaimed tenantId params inputs start
      (captureStep deployment ambient params (inputs point) database step).1
      (captureStep deployment ambient params (inputs point) database step).2 := by
  obtain ⟨rfl, position⟩ := unclaimed
  cases step with
  | started =>
    obtain rfl : AwaitPoint.recordedLookup = point := Option.some.inj stands
    simp only [captureStep]
    cases fails : (inputs .recordedLookup).fails with
    | true => exact ⟨rfl, trivial⟩
    | false =>
      rw [TenantModel.find_one_bound bound]
      cases found : database.payments.find? (fun payment =>
          decide (TenantModel.tenantId payment = tenantId) &&
            decide (payment.gatewayPaymentId = some params.gatewayPaymentId)) with
      | some existing => exact ⟨rfl, rfl⟩
      | none =>
        refine ⟨rfl, fails, ?_⟩
        intro other member owned same
        have missed := List.find?_eq_none.mp found other member
        simp [TenantModel.tenantId, owned, same] at missed
  | noneRecorded =>
    obtain rfl : AwaitPoint.pendingLookup = point := Option.some.inj stands
    obtain ⟨recorded, unrecorded⟩ := position
    simp only [captureStep]
    cases fails : (inputs .pendingLookup).fails with
    | true => exact ⟨rfl, trivial⟩
    | false =>
      rw [TenantModel.find_one_bound bound]
      cases found : database.payments.find? (fun payment =>
          decide (TenantModel.tenantId payment = tenantId) &&
            decide (payment.gatewayOrderId = params.gatewayOrderId ∧
              payment.status = .created)) with
      | none => exact ⟨rfl, rfl⟩
      | some payment => exact ⟨rfl, recorded, fails, unrecorded, found, rfl⟩
  | claiming loaded current =>
    obtain rfl : AwaitPoint.claimingSave = point := Option.some.inj stands
    obtain ⟨recorded, looked, unrecorded, found, rfl⟩ := position
    simp only [captureStep]
    cases fails : (inputs .claimingSave).fails with
    | true => exact ⟨rfl, trivial⟩
    | false =>
      cases saved : TenantModel.save ambient loaded
          (claim params (inputs .pendingLookup).now loaded) database.payments with
      | error thrown =>
        cases thrown with
        | duplicateKey => exact ⟨rfl, rfl⟩
        | _ => exact ⟨rfl, trivial⟩
      | ok outcome =>
        have claims := accepted_claims bound distinct unrecorded found saved
        rcases blocked with nothing | failing
        · exact False.elim (nothing loaded claims)
        · simp [recorded, looked, fails] at failing
  | claimed payment => exact False.elim position
  | rendering payment loaded current invalid => exact False.elim position
  | storingReceipt payment receiptUrl loaded current invalid => exact False.elim position
  | crediting payment receiptUrl loaded current invalid => exact False.elim position
  | notifying payment receiptUrl invoice => exact False.elim position
  | returned result payment => simp [CaptureStep.point] at stands
  | threw thrown => simp [CaptureStep.point] at stands

/-- A serial call that has nothing to claim, or whose lookups or claiming save fail,
leaves the database as it is and does not return that it applied anything. -/
theorem capture_unclaimed (bound : Bound ambient tenantId) {database : Database}
    (distinct : Records.Distinct Payment.id database.payments)
    (blocked : (∀ payment, ¬ Claims tenantId params database.payments payment) ∨
      (inputs .recordedLookup).fails = true ∨ (inputs .pendingLookup).fails = true ∨
      (inputs .claimingSave).fails = true) :
    (applyCapturedPayment deployment ambient params inputs database).1 = database ∧
      ∀ result payment, (applyCapturedPayment deployment ambient params inputs database).2 =
        .returned result payment → result.applied = false := by
  have settled : Unclaimed tenantId params inputs database
      (applyCapturedPayment deployment ambient params inputs database).1
      (applyCapturedPayment deployment ambient params inputs database).2 :=
    settle_preserves (unclaimed_step bound distinct blocked) 8 database .started ⟨rfl, trivial⟩
  refine ⟨settled.1, ?_⟩
  intro result payment ended
  simpa [ended] using settled.2

/-- The claiming save of a payment that can be claimed is accepted. -/
theorem save_claims (bound : Bound ambient tenantId) {payments : List Payment}
    (distinct : Records.Distinct Payment.id payments) {payment : Payment}
    (claims : Claims tenantId params payments payment) (now : Int) :
    TenantModel.save ambient payment (claim params now payment) payments =
      .ok (claim params now payment,
        Records.modify Payment.id payment.id (fun _ => claim params now payment) payments) := by
  obtain ⟨member, owned, _, _⟩ := pending_payment_some claims.pending
  refine TenantModel.save_loaded bound distinct member owned claims.valid (payment_written rfl) ?_
  intro other held _
  simp [TenantModel.clashes, claim, claims.unrecorded other held]

/-- A serial call that has a payment to claim, and whose lookups and claiming save do not
fail, claims it. -/
theorem capture_claims (bound : Bound ambient tenantId) {database : Database}
    (distinct : Records.Distinct Payment.id database.payments) {payment : Payment}
    (claims : Claims tenantId params database.payments payment)
    (recorded : (inputs .recordedLookup).fails = false)
    (looked : (inputs .pendingLookup).fails = false)
    (saves : (inputs .claimingSave).fails = false) :
    applyCapturedPayment deployment ambient params inputs database =
      settle deployment ambient params inputs 5
        { database with
          payments := Records.modify Payment.id payment.id
            (fun _ => claim params (inputs .pendingLookup).now payment) database.payments }
        (.claimed (claim params (inputs .pendingLookup).now payment)) := by
  obtain ⟨member, owned, order, created⟩ := pending_payment_some claims.pending
  have absent : TenantModel.findOne ambient
      (fun other => decide (other.gatewayPaymentId = some params.gatewayPaymentId))
      database.payments = .ok none := by
    rw [TenantModel.find_one_bound bound, Except.ok.injEq, List.find?_eq_none]
    intro other held
    simp [claims.unrecorded other held]
  have found : TenantModel.findOne ambient
      (fun other => decide (other.gatewayOrderId = params.gatewayOrderId ∧
        other.status = .created)) database.payments = .ok (some payment) := by
    rw [TenantModel.find_one_bound bound]
    exact congrArg Except.ok claims.pending
  have saved := save_claims bound distinct claims (inputs .pendingLookup).now
  unfold applyCapturedPayment
  rw [settle_next 7 database .started rfl]
  simp only [captureStep, recorded, absent, Bool.false_eq_true, if_false]
  rw [settle_next 6 database .noneRecorded rfl]
  simp only [captureStep, looked, found, Bool.false_eq_true, if_false]
  rw [settle_next 5 database (.claiming _ _) rfl]
  simp only [captureStep, saves, saved, Bool.false_eq_true, if_false]

/-- A call past its claim: the payments keep their standing, and the invoices are as they
were until the invoice save and when the call ends in a failing operation. -/
def PastClaim (tenantId : String) (inputs : AwaitPoint → StepInput) (start database : Database)
    (step : CaptureStep) : Prop :=
  database.payments.map standing = start.payments.map standing ∧
    match step with
    | .claimed payment | .rendering payment .. | .storingReceipt payment ..
    | .crediting payment .. =>
      payment.tenantId = tenantId ∧ database.invoices = start.invoices
    | .notifying .. | .returned .. => True
    | .threw thrown =>
      (inputs .notification).fails = false → thrown = .storage → database.invoices = start.invoices
    | _ => False

/-- A step past the claim stays past it.

Proof: only the receipt save writes payments, and only the invoice save writes invoices;
after it nothing throws a storage failure but a failing notification. -/
theorem past_claim_step (bound : Bound ambient tenantId) {start : Database} (point : AwaitPoint)
    (database : Database) (step : CaptureStep) (stands : step.point = some point)
    (past : PastClaim tenantId inputs start database step) :
    PastClaim tenantId inputs start
      (captureStep deployment ambient params (inputs point) database step).1
      (captureStep deployment ambient params (inputs point) database step).2 := by
  obtain ⟨standings, position⟩ := past
  cases step with
  | started => exact False.elim position
  | noneRecorded => exact False.elim position
  | claiming loaded current => exact False.elim position
  | claimed payment =>
    obtain ⟨owned, invoices⟩ := position
    simp only [captureStep]
    split
    · exact ⟨standings, fun _ _ => invoices⟩
    · split
      · exact ⟨standings, fun _ _ => invoices⟩
      · exact ⟨standings, trivial⟩
      · split
        · exact ⟨standings, fun _ _ => invoices⟩
        · exact ⟨standings, owned, invoices⟩
  | rendering payment loaded current invalid =>
    simp only [captureStep]
    split
    · exact ⟨standings, position⟩
    · exact ⟨standings, position⟩
  | storingReceipt payment receiptUrl loaded current invalid =>
    obtain ⟨owned, invoices⟩ := position
    simp only [captureStep]
    split
    · exact ⟨standings, fun _ _ => invoices⟩
    · split
      · exact ⟨standings, fun _ _ => invoices⟩
      · rename_i stored payments saved
        obtain ⟨stamped, written_⟩ := TenantModel.save_bound bound saved
        refine ⟨?_, by rw [stamped]; rfl, invoices⟩
        rw [← standings]
        simp only [written_]
        apply Records.modify_reading standing
        intro held _ _
        rw [stamped]
        exact CaptureRaces.receipt_standing owned
  | crediting payment receiptUrl loaded current invalid =>
    obtain ⟨_, invoices⟩ := position
    simp only [captureStep]
    split
    · exact ⟨standings, fun _ _ => invoices⟩
    · split
      · exact ⟨standings, fun _ _ => invoices⟩
      · split
        · exact ⟨standings, fun _ _ => invoices⟩
        · exact ⟨standings, trivial⟩
  | notifying payment receiptUrl invoice =>
    obtain rfl : AwaitPoint.notification = point := Option.some.inj stands
    simp only [captureStep]
    split
    · rename_i fails
      exact ⟨standings, fun works => by simp [works] at fails⟩
    · obtain ⟨_, _, writes⟩ := NotificationsService.notify_writes ambient deployment.push
        (inputs .notification).notification (inputs .notification).now
        (paidNotification invoice receiptUrl) database
      split
      · rename_i notified thrown failed
        rw [failed] at writes
        refine ⟨by rw [writes]; exact standings, fun _ storage => ?_⟩
        exact False.elim (NotificationsService.notify_refused (congrArg Prod.snd failed) storage)
      · rename_i notified _ sent
        rw [sent] at writes
        exact ⟨by rw [writes]; exact standings, trivial⟩
  | returned result payment => simp [CaptureStep.point] at stands
  | threw thrown => simp [CaptureStep.point] at stands

variable (deployment params) in
/-- From its claim on a call keeps every payment's standing, and it keeps the invoices when
it ends in a failing operation other than the notification. -/
theorem settle_claimed (bound : Bound ambient tenantId) (inputs : AwaitPoint → StepInput)
    (fuel : Nat) (database : Database) (claimed : Payment) (owned : claimed.tenantId = tenantId) :
    (settle deployment ambient params inputs fuel database (.claimed claimed)).1.payments.map
        standing = database.payments.map standing ∧
      ((inputs .notification).fails = false →
        (settle deployment ambient params inputs fuel database (.claimed claimed)).2 =
          .threw .storage →
        (settle deployment ambient params inputs fuel database (.claimed claimed)).1.invoices =
          database.invoices) := by
  have past : PastClaim tenantId inputs database
      (settle deployment ambient params inputs fuel database (.claimed claimed)).1
      (settle deployment ambient params inputs fuel database (.claimed claimed)).2 :=
    settle_preserves (past_claim_step bound) fuel database (.claimed claimed) ⟨rfl, owned, rfl⟩
  refine ⟨past.1, fun works ended => ?_⟩
  have position := past.2
  rw [ended] at position
  exact position works rfl

/-- Sending the notification writes no plan, no invoice and no payment. -/
theorem notifying_keeps (input : StepInput) (database : Database) (payment : Payment)
    (receiptUrl : Option String) (invoice : FeeInvoice) :
    (captureStep deployment ambient params input database
        (.notifying payment receiptUrl invoice)).1.plans = database.plans ∧
      (captureStep deployment ambient params input database
        (.notifying payment receiptUrl invoice)).1.invoices = database.invoices ∧
      (captureStep deployment ambient params input database
        (.notifying payment receiptUrl invoice)).1.payments = database.payments := by
  obtain ⟨_, _, writes⟩ := NotificationsService.notify_writes ambient deployment.push
    input.notification input.now (paidNotification invoice receiptUrl) database
  simp only [captureStep]
  split
  · exact ⟨rfl, rfl, rfl⟩
  · split
    · rename_i notified thrown failed
      rw [failed] at writes
      rw [writes]
      exact ⟨rfl, rfl, rfl⟩
    · rename_i notified _ sent
      rw [sent] at writes
      rw [writes]
      exact ⟨rfl, rfl, rfl⟩

/-- Under a new notification identity a call that has credited returns that it applied the
payment. -/
theorem notifying_returns (bound : Bound ambient tenantId) {input : StepInput}
    (works : input.fails = false) {database : Database}
    (fresh : ∀ stored ∈ database.notifications, stored.id ≠ input.notification)
    (payment : Payment) (receiptUrl : Option String) (invoice : FeeInvoice) :
    (captureStep deployment ambient params input database
        (.notifying payment receiptUrl invoice)).2 =
      .returned ⟨true, some payment.invoiceId⟩ (some payment) := by
  have worded : (paidNotification invoice receiptUrl).body ≠ "" := by
    intro blank
    have ending := (String.append_eq_empty_iff.mp blank).2
    exact absurd ending (by decide)
  obtain ⟨stored, sent⟩ := NotificationsService.notify_succeeds bound deployment.push
    input.notification input.now (paidNotification invoice receiptUrl) database
    (by simp [paidNotification]) (by simp [paidNotification]) worded fresh
  simp only [captureStep, works, Bool.false_eq_true, if_false]
  split
  · rename_i notified thrown failed
    rw [failed] at sent
    simp at sent
  · rfl

/-- A call that has a notification left to send ends with it. -/
theorem settle_notifies (fuel : Nat) (database : Database) (payment : Payment)
    (receiptUrl : Option String) (invoice : FeeInvoice) :
    settle deployment ambient params inputs (fuel + 1) database
        (.notifying payment receiptUrl invoice) =
      captureStep deployment ambient params (inputs .notification) database
        (.notifying payment receiptUrl invoice) := by
  rw [settle_next fuel database (.notifying payment receiptUrl invoice) rfl]
  have ended : (captureStep deployment ambient params (inputs .notification) database
      (.notifying payment receiptUrl invoice)).2.point = none := by
    have progress := capture_step_progress deployment ambient params (inputs .notification) database
      (.notifying payment receiptUrl invoice) (by simp [CaptureStep.remaining])
    refine (point_remaining _).mpr ?_
    simp only [CaptureStep.remaining] at progress ⊢
    omega
  rw [settle_final deployment ambient params inputs fuel _ _ ended]

/-- A claimed payment whose receipt can be saved: it is stored as it is in memory, and
no other document holds its gateway payment id. -/
structure Held (tenantId : String) (payments : List Payment) (claimed : Payment) : Prop where
  distinct : Records.Distinct Payment.id payments
  stored : claimed ∈ payments
  owned : claimed.tenantId = tenantId
  valid : TenantModel.refusedPath claimed = none
  alone : ∀ other ∈ payments, other.id ≠ claimed.id →
    other.gatewayPaymentId ≠ claimed.gatewayPaymentId

/-- From its claim a call reads the invoice, stores a receipt when there is one, and comes
to the invoice save with the payment applied in memory. -/
theorem settle_reads (bound : Bound ambient tenantId) {database : Database} {claimed : Payment}
    (held : Held tenantId database.payments claimed)
    (distinct : Records.Distinct FeeInvoice.id database.invoices) {invoice : FeeInvoice}
    (stored : invoice ∈ database.invoices) (target : invoice.id = claimed.invoiceId)
    (owned : invoice.tenantId = tenantId) {paid : ℚ}
    (applies : applyPayment invoice.amountDue invoice.amountPaid params.amount = .ok (some paid))
    (reads : (inputs .invoiceRead).fails = false) (saves : (inputs .receiptSave).fails = false) :
    ∃ fuel receiptUrl paymentReceipt invoiceReceipt,
      settle deployment ambient params inputs 5 database (.claimed claimed) =
        settle deployment ambient params inputs (fuel + 2)
          { database with
            payments := Records.modify Payment.id claimed.id
              (fun _ => { claimed with receiptUrl := paymentReceipt }) database.payments }
          (.crediting { claimed with receiptUrl := paymentReceipt } receiptUrl invoice
            { credit (inputs .invoiceRead).now (some paid) invoice with
              receiptUrl := invoiceReceipt } false) := by
  have found : TenantModel.findById ambient claimed.invoiceId database.invoices =
      .ok (some invoice) := by
    rw [← target]
    exact TenantModel.find_by_id_stored bound distinct stored owned
  rw [settle_next 4 database (.claimed claimed) rfl]
  simp only [captureStep, reads, found, applies, Bool.false_eq_true, if_false, Option.isNone_some]
  rw [settle_next 3 database (.rendering _ _ _ _) rfl]
  simp only [captureStep]
  cases present (if (inputs .receiptRendering).fails then none
    else (inputs .receiptRendering).receiptUrl) with
  | none =>
    refine ⟨1, none, claimed.receiptUrl, invoice.receiptUrl, ?_⟩
    have same : Records.modify Payment.id claimed.id
        (fun _ => { claimed with receiptUrl := claimed.receiptUrl }) database.payments =
          database.payments :=
      Records.modify_fixed (fun other member same =>
        Records.same_record held.distinct held.stored member same.symm)
    rw [same]
    rfl
  | some receiptUrl =>
    refine ⟨0, some receiptUrl, some receiptUrl, some receiptUrl, ?_⟩
    have saved : TenantModel.save ambient claimed { claimed with receiptUrl := some receiptUrl }
        database.payments =
          .ok ({ claimed with receiptUrl := some receiptUrl },
            Records.modify Payment.id claimed.id
              (fun _ => { claimed with receiptUrl := some receiptUrl }) database.payments) := by
      refine TenantModel.save_loaded bound held.distinct held.stored held.owned held.valid
        (payment_written rfl) ?_
      intro other member different
      simp [TenantModel.clashes, held.alone other member different]
    simp only
    rw [settle_next 2 database (.storingReceipt _ _ _ _ _) rfl]
    simp only [captureStep, saves, saved, Bool.false_eq_true, if_false]

/-- A claimed payment is held. -/
theorem claimed_held {payments : List Payment} (distinct : Records.Distinct Payment.id payments)
    {payment : Payment} (claims : Claims tenantId params payments payment) (now : Int) :
    Held tenantId
      (Records.modify Payment.id payment.id (fun _ => claim params now payment) payments)
      (claim params now payment) := by
  obtain ⟨member, owned, _, _⟩ := pending_payment_some claims.pending
  refine ⟨Records.replace_distinct rfl distinct, Records.modify_same member, owned, claims.valid, ?_⟩
  intro other held different
  rcases Records.mem_replace held with rfl | ⟨stored, _⟩
  · exact False.elim (different rfl)
  · exact claims.unrecorded other stored

/-- No awaited operation of a call fails. A receipt that cannot be rendered is no failure. -/
def FailureFree (inputs : AwaitPoint → StepInput) : Prop :=
  ∀ point, point ≠ .receiptRendering → (inputs point).fails = false

variable (deployment)

/-- A call that claims a payment comes to the save of the payment's invoice with the
payment applied in memory. -/
theorem capture_reads (bound : Bound ambient tenantId) (works : FailureFree inputs)
    {database : Database} (distinct : Records.Distinct Payment.id database.payments)
    {payment : Payment} (claims : Claims tenantId params database.payments payment)
    (invoiceIds : Records.Distinct FeeInvoice.id database.invoices) {invoice : FeeInvoice}
    (stored : invoice ∈ database.invoices) (target : invoice.id = payment.invoiceId)
    (owned : invoice.tenantId = tenantId) {paid : ℚ}
    (applies : applyPayment invoice.amountDue invoice.amountPaid params.amount =
      .ok (some paid)) :
    ∃ fuel receiptUrl paymentReceipt invoiceReceipt,
      applyCapturedPayment deployment ambient params inputs database =
        settle deployment ambient params inputs (fuel + 2)
          { database with
            payments := Records.modify Payment.id payment.id
              (fun _ => { claim params (inputs .pendingLookup).now payment with
                receiptUrl := paymentReceipt }) database.payments }
          (.crediting { claim params (inputs .pendingLookup).now payment with
              receiptUrl := paymentReceipt } receiptUrl invoice
            { credit (inputs .invoiceRead).now (some paid) invoice with
              receiptUrl := invoiceReceipt } false) := by
  rw [capture_claims bound distinct claims (works _ (by simp)) (works _ (by simp))
    (works _ (by simp))]
  have held : Held tenantId
      ({ database with
        payments := Records.modify Payment.id payment.id
          (fun _ => claim params (inputs .pendingLookup).now payment)
          database.payments } : Database).payments
      (claim params (inputs .pendingLookup).now payment) := claimed_held distinct claims _
  obtain ⟨fuel, receiptUrl, paymentReceipt, invoiceReceipt, reads⟩ :=
    settle_reads bound held invoiceIds stored target owned applies
      (works .invoiceRead (by simp)) (works .receiptSave (by simp))
  refine ⟨fuel, receiptUrl, paymentReceipt, invoiceReceipt, ?_⟩
  have twice : Records.modify Payment.id payment.id
      (fun _ => { claim params (inputs .pendingLookup).now payment with
        receiptUrl := paymentReceipt })
      (Records.modify Payment.id payment.id
        (fun _ => claim params (inputs .pendingLookup).now payment) database.payments) =
        Records.modify Payment.id payment.id
          (fun _ => { claim params (inputs .pendingLookup).now payment with
            receiptUrl := paymentReceipt }) database.payments :=
    Records.replace_twice database.payments rfl
  rw [reads, ← twice]
  rfl

/-- A call that claims a payment credits the payment's invoice, when the credited invoice
passes its validators. -/
theorem capture_credits (bound : Bound ambient tenantId) (works : FailureFree inputs)
    {database : Database} (distinct : Records.Distinct Payment.id database.payments)
    {payment : Payment} (claims : Claims tenantId params database.payments payment)
    (invoiceIds : Records.Distinct FeeInvoice.id database.invoices) {invoice : FeeInvoice}
    (stored : invoice ∈ database.invoices) (target : invoice.id = payment.invoiceId)
    (owned : invoice.tenantId = tenantId) {paid : ℚ}
    (applies : applyPayment invoice.amountDue invoice.amountPaid params.amount = .ok (some paid))
    (accepted : TenantModel.refusedPath
      (credit (inputs .invoiceRead).now (some paid) invoice) = none) :
    ∃ receiptUrl paymentReceipt invoiceReceipt,
      applyCapturedPayment deployment ambient params inputs database =
        captureStep deployment ambient params (inputs .notification)
          { database with
            payments := Records.modify Payment.id payment.id
              (fun _ => { claim params (inputs .pendingLookup).now payment with
                receiptUrl := paymentReceipt }) database.payments
            invoices := Records.modify FeeInvoice.id invoice.id
              (fun _ => { credit (inputs .invoiceRead).now (some paid) invoice with
                receiptUrl := invoiceReceipt }) database.invoices }
          (.notifying { claim params (inputs .pendingLookup).now payment with
              receiptUrl := paymentReceipt } receiptUrl
            { credit (inputs .invoiceRead).now (some paid) invoice with
              receiptUrl := invoiceReceipt }) := by
  obtain ⟨fuel, receiptUrl, paymentReceipt, invoiceReceipt, reads⟩ :=
    capture_reads deployment bound works distinct claims invoiceIds stored target owned applies
  refine ⟨receiptUrl, paymentReceipt, invoiceReceipt, ?_⟩
  have saved : TenantModel.save ambient invoice
      { credit (inputs .invoiceRead).now (some paid) invoice with receiptUrl := invoiceReceipt }
      database.invoices =
        .ok ({ credit (inputs .invoiceRead).now (some paid) invoice with
            receiptUrl := invoiceReceipt },
          Records.modify FeeInvoice.id invoice.id
            (fun _ => { credit (inputs .invoiceRead).now (some paid) invoice with
              receiptUrl := invoiceReceipt }) database.invoices) :=
    TenantModel.save_loaded bound invoiceIds stored owned accepted (invoice_written rfl)
      (fun _ _ _ => rfl)
  rw [reads, settle_next (fuel + 1) _ (.crediting _ _ _ _ _) rfl]
  simp only [captureStep, works .invoiceSave (by simp), saved, Bool.false_eq_true, if_false]
  exact settle_notifies fuel _ _ _ _

/-- A call leaves the invoices as they are when the credited invoice does not pass its
validators. -/
theorem capture_refuses (bound : Bound ambient tenantId) (works : FailureFree inputs)
    {database : Database} (distinct : Records.Distinct Payment.id database.payments)
    {payment : Payment} (claims : Claims tenantId params database.payments payment)
    (invoiceIds : Records.Distinct FeeInvoice.id database.invoices) {invoice : FeeInvoice}
    (stored : invoice ∈ database.invoices) (target : invoice.id = payment.invoiceId)
    (owned : invoice.tenantId = tenantId) {paid : ℚ}
    (applies : applyPayment invoice.amountDue invoice.amountPaid params.amount = .ok (some paid))
    {path : String} (refused : TenantModel.refusedPath
      (credit (inputs .invoiceRead).now (some paid) invoice) = some path) :
    (applyCapturedPayment deployment ambient params inputs database).1.invoices =
      database.invoices := by
  obtain ⟨fuel, receiptUrl, paymentReceipt, invoiceReceipt, reads⟩ :=
    capture_reads deployment bound works distinct claims invoiceIds stored target owned applies
  have invalid : TenantModel.save ambient invoice
      { credit (inputs .invoiceRead).now (some paid) invoice with receiptUrl := invoiceReceipt }
      database.invoices = .error (.validation path) := by
    have failed : TenantModel.refusedPath
        { credit (inputs .invoiceRead).now (some paid) invoice with
          receiptUrl := invoiceReceipt } = some path := refused
    rw [TenantModel.save, TenantModel.validate_bound bound owned, failed]
  rw [reads, settle_next (fuel + 1) _ (.crediting _ _ _ _ _) rfl]
  simp only [captureStep, works .invoiceSave (by simp), invalid, Bool.false_eq_true, if_false]
  rw [settle_final deployment ambient params inputs (fuel + 1) _ _ rfl]

/-- A call leaves the invoices as they are when the payment's invoice is not there. -/
theorem capture_unread (bound : Bound ambient tenantId) (works : FailureFree inputs)
    {database : Database} (distinct : Records.Distinct Payment.id database.payments)
    {payment : Payment} (claims : Claims tenantId params database.payments payment)
    (absent : ∀ invoice ∈ database.invoices, invoice.id = payment.invoiceId →
      invoice.tenantId ≠ tenantId) :
    (applyCapturedPayment deployment ambient params inputs database).1.invoices =
      database.invoices := by
  have missed : TenantModel.findById ambient payment.invoiceId database.invoices = .ok none := by
    rw [TenantModel.findById, TenantModel.find_one_bound bound, Except.ok.injEq,
      List.find?_eq_none]
    intro invoice stored tested
    simp only [Bool.and_eq_true, decide_eq_true_eq] at tested
    exact absent invoice stored tested.2 tested.1
  rw [capture_claims bound distinct claims (works _ (by simp)) (works _ (by simp))
    (works _ (by simp)), settle_next 4 _ (.claimed _) rfl]
  have target : (claim params (inputs .pendingLookup).now payment).invoiceId =
      payment.invoiceId := rfl
  simp only [captureStep, works .invoiceRead (by simp), target, missed, Bool.false_eq_true,
    if_false]
  rw [settle_final deployment ambient params inputs 4 _ _ rfl]

end FeesService

namespace WebhooksController

open FeesService

/-- What every stored database has: distinct identities, and payments with a tenant. -/
structure WellFormed (database : Database) : Prop where
  payments : Records.Distinct Payment.id database.payments
  invoices : Records.Distinct FeeInvoice.id database.invoices
  owned : ∀ payment ∈ database.payments, payment.tenantId ≠ ""

/-- A database without payments and invoices is well-formed. -/
theorem well_opened {database : Database} (noPayments : database.payments = [])
    (noInvoices : database.invoices = []) : WellFormed database := by
  constructor
  · rw [noPayments]
    exact List.nodup_nil
  · rw [noInvoices]
    exact List.nodup_nil
  · simp [noPayments]

/-- The first payment of an order is stored. -/
theorem routed_stored {orderId : String} {payments : List Payment} {routed : Payment}
    (found : routedPayment orderId payments = some routed) : routed ∈ payments :=
  List.mem_of_find?_eq_some found

/-- The first payment of an order is of that order. -/
theorem routed_order {orderId : String} {payments : List Payment} {routed : Payment}
    (found : routedPayment orderId payments = some routed) : routed.gatewayOrderId = orderId := by
  unfold routedPayment at found
  simpa using List.find?_some found

/-- Under the context of a stored payment's tenant the tenant is bound. -/
theorem routed_bound {database : Database} (well : WellFormed database) {orderId : String}
    {routed : Payment} (found : routedPayment orderId database.payments = some routed) :
    Bound (contextOf routed.tenantId) routed.tenantId :=
  bound_run routed.tenantId (well.owned routed (routed_stored found))

variable {deployment : Deployment} {delivery : Delivery} {params : CaptureParams}

/-- A routed delivery is the serial call in the tenant's context. -/
theorem handle_routed (inputs : AwaitPoint → StepInput) {database : Database} {routed : Payment}
    (asks : captureOf deployment delivery = some params)
    (found : routedPayment params.gatewayOrderId database.payments = some routed) :
    handle deployment inputs delivery database =
      ((applyCapturedPayment deployment (contextOf routed.tenantId) params inputs database).1,
        some (applyCapturedPayment deployment (contextOf routed.tenantId) params inputs
          database).2) := by
  rw [handle_routes, asks]
  simp only [found]

/-- A delivery for an order nobody has does nothing. -/
theorem handle_unrouted (inputs : AwaitPoint → StepInput) {database : Database}
    (asks : captureOf deployment delivery = some params)
    (missing : routedPayment params.gatewayOrderId database.payments = none) :
    handle deployment inputs delivery database = (database, none) := by
  rw [handle_routes, asks]
  simp only [missing]

/-- A delivery that has nothing to claim does not change the database. -/
theorem handle_unclaimed (inputs : AwaitPoint → StepInput) {database : Database}
    (well : WellFormed database) (asks : captureOf deployment delivery = some params)
    (nothing : ∀ routed, routedPayment params.gatewayOrderId database.payments = some routed →
      ∀ payment, ¬ Claims routed.tenantId params database.payments payment) :
    (handle deployment inputs delivery database).1 = database := by
  cases found : routedPayment params.gatewayOrderId database.payments with
  | none => rw [handle_unrouted inputs asks found]
  | some routed =>
    rw [handle_routed inputs asks found]
    exact (capture_unclaimed (routed_bound well found) well.payments
      (.inl (nothing routed found))).1

/-- A delivery that has nothing to claim does not return that it applied anything. -/
theorem handle_unapplied (inputs : AwaitPoint → StepInput) {database : Database}
    (well : WellFormed database) (asks : captureOf deployment delivery = some params)
    (nothing : ∀ routed, routedPayment params.gatewayOrderId database.payments = some routed →
      ∀ payment, ¬ Claims routed.tenantId params database.payments payment)
    {result : CaptureResult} {payment : Option Payment}
    (ended : (handle deployment inputs delivery database).2 = some (.returned result payment)) :
    result.applied = false := by
  cases found : routedPayment params.gatewayOrderId database.payments with
  | none =>
    rw [handle_unrouted inputs asks found] at ended
    simp at ended
  | some routed =>
    rw [handle_routed inputs asks found] at ended
    exact (capture_unclaimed (routed_bound well found) well.payments
      (.inl (nothing routed found))).2 result payment (Option.some.inj ended)

/-- Once its gateway payment id is recorded no delivery changes the database. -/
theorem handle_recorded (inputs : AwaitPoint → StepInput) {database : Database}
    (well : WellFormed database) (asks : captureOf deployment delivery = some params)
    {held : Payment} (stored : held ∈ database.payments)
    (recorded : held.gatewayPaymentId = some params.gatewayPaymentId) :
    (handle deployment inputs delivery database).1 = database :=
  handle_unclaimed inputs well asks
    (fun _ _ _ claims => claims.unrecorded held stored recorded)

/-- A delivery without failures whose payment and credited invoice pass their validators
captures the payment, credits the invoice and returns that it applied it. -/
theorem handle_credits {inputs : AwaitPoint → StepInput} (works : FailureFree inputs)
    {database : Database} (well : WellFormed database)
    (unsent : ∀ stored ∈ database.notifications, stored.id ≠ (inputs .notification).notification)
    (asks : captureOf deployment delivery = some params) {routed payment : Payment}
    (found : routedPayment params.gatewayOrderId database.payments = some routed)
    (claims : Claims routed.tenantId params database.payments payment) {invoice : FeeInvoice}
    (stored : invoice ∈ database.invoices) (target : invoice.id = payment.invoiceId)
    (owned : invoice.tenantId = routed.tenantId) {paid : ℚ}
    (applies : applyPayment invoice.amountDue invoice.amountPaid params.amount = .ok (some paid))
    (accepted : TenantModel.refusedPath
      (credit (inputs .invoiceRead).now (some paid) invoice) = none) :
    ∃ paymentReceipt invoiceReceipt,
      (handle deployment inputs delivery database).1.plans = database.plans ∧
        (handle deployment inputs delivery database).1.invoices =
          Records.modify FeeInvoice.id invoice.id
            (fun _ => { credit (inputs .invoiceRead).now (some paid) invoice with
              receiptUrl := invoiceReceipt }) database.invoices ∧
        (handle deployment inputs delivery database).1.payments =
          Records.modify Payment.id payment.id
            (fun _ => { claim params (inputs .pendingLookup).now payment with
              receiptUrl := paymentReceipt }) database.payments ∧
        (handle deployment inputs delivery database).2 =
          some (.returned ⟨true, some payment.invoiceId⟩
            (some { claim params (inputs .pendingLookup).now payment with
              receiptUrl := paymentReceipt })) := by
  have bound := routed_bound well found
  obtain ⟨receiptUrl, paymentReceipt, invoiceReceipt, credits⟩ :=
    capture_credits deployment bound works well.payments claims well.invoices stored target owned
      applies accepted
  rw [handle_routed inputs asks found, credits]
  refine ⟨paymentReceipt, invoiceReceipt, (notifying_keeps _ _ _ _ _).1,
    (notifying_keeps _ _ _ _ _).2.1, (notifying_keeps _ _ _ _ _).2.2, ?_⟩
  exact congrArg some
    (notifying_returns bound (works .notification (by simp)) (by exact unsent) _ _ _)

end WebhooksController

end CoachingApi
