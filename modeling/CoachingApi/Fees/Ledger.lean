import CoachingApi.Fees.Tally

/-!
# The serial ledger

Runs of plan creations with automatic splits, invoice generations, payment orders and
deliveries of whole paisa amounts, one operation at a time and without failures. Beside
the database a book keeps the deliveries that were answered that they applied their payment.
In every state reached the paid amount of an invoice is the amount due or the sum of its
entries in the book, whichever is less; a payment and a gateway payment id are entered
once; and delivering an entry again changes nothing.
-/

namespace CoachingApi

open TenantContextStore TenantPlugin FeesService WebhooksController Rounding Runs Tally

namespace Ledger

/-- A delivery that was answered that it applied its payment. -/
structure AppliedDelivery where
  delivery : Delivery
  gatewayPaymentId : String
  paymentId : ObjectId
  invoiceId : ObjectId
  amount : ℚ

/-- The entry of a delivery that is answered that it applied its payment: the amount it carries,
for the payment it is for. -/
def appliedDelivery (deployment : Deployment) (inputs : AwaitPoint → StepInput)
    (delivery : Delivery) (database : Database) : Option AppliedDelivery :=
  match (razorpay deployment inputs delivery database).2, captureOf deployment delivery with
  | .ok true, some params =>
    (paymentFor params database.payments).map (fun payment =>
      { delivery := delivery, gatewayPaymentId := params.gatewayPaymentId,
        paymentId := payment.id, invoiceId := payment.invoiceId, amount := params.amount.getD 0 })
  | _, _ => none

/-- The database with the deliveries applied so far. -/
structure Books where
  database : Database
  applied : List AppliedDelivery

/-- The entry of an operation. -/
def entered (deployment : Deployment) (database : Database) :
    FeeOperation → Option AppliedDelivery
  | .deliver inputs delivery => appliedDelivery deployment inputs delivery database
  | _ => none

/-- An operation with its entry. -/
def book (deployment : Deployment) (books : Books) (operation : FeeOperation) : Books :=
  { database := perform deployment books.database operation
    applied := books.applied ++ (entered deployment books.database operation).toList }

/-- What was credited to an invoice. -/
def credited (applied : List AppliedDelivery) (invoiceId : ObjectId) : ℚ :=
  Records.total AppliedDelivery.amount
    (applied.filter (fun entry => decide (entry.invoiceId = invoiceId)))

/-- The condition on one operation: a plan is split automatically, and a delivery meets no
failure, finds its notification's identity unused and carries a whole amount of paisa. -/
def Regular (deployment : Deployment) (books : Books) : FeeOperation → Prop
  | .createPlan _ _ _ dto => dto.installments.getD [] = []
  | .deliver inputs delivery =>
    FailureFree inputs ∧
      (∀ stored ∈ books.database.notifications,
        stored.id ≠ (inputs .notification).notification) ∧
      ∀ params, captureOf deployment delivery = some params →
        ∃ paisa : ℕ, params.amount = some ((paisa : ℚ) / 100)
  | _ => True

/-- An installment an invoice can be generated for. -/
def Billable (inst : Installment) : Prop :=
  inst.label ≠ "" ∧ 0 ≤ inst.amount ∧ Whole inst.amount

/-- The invariant of such runs: the database is sound over the book, the plans can be
billed, every entry is recorded on a captured payment of its invoice and can be delivered
again, and no payment or gateway payment id is entered twice. -/
structure Balanced (deployment : Deployment) (books : Books) : Prop where
  sound : Sound (credited books.applied) books.database
  plans : ∀ plan ∈ books.database.plans, ∀ inst ∈ plan.installments, Billable inst
  recorded : ∀ entry ∈ books.applied, ∃ payment ∈ books.database.payments,
    payment.id = entry.paymentId ∧ payment.status = .captured ∧
      payment.invoiceId = entry.invoiceId ∧
      payment.gatewayPaymentId = some entry.gatewayPaymentId
  asked : ∀ entry ∈ books.applied, ∃ params, captureOf deployment entry.delivery = some params ∧
    params.gatewayPaymentId = entry.gatewayPaymentId
  paymentsOnce : (books.applied.map AppliedDelivery.paymentId).Nodup
  gatewayOnce : (books.applied.map AppliedDelivery.gatewayPaymentId).Nodup

/-- An entry adds its amount to its invoice. -/
theorem credited_append (applied : List AppliedDelivery) (entry : AppliedDelivery) :
    credited (applied ++ [entry]) =
      Function.update (credited applied) entry.invoiceId
        (credited applied entry.invoiceId + entry.amount) := by
  funext invoiceId
  unfold credited
  by_cases same : entry.invoiceId = invoiceId
  · subst same
    rw [Function.update_self, List.filter_append]
    simp [Records.total_append]
  · rw [Function.update_of_ne (Ne.symm same), List.filter_append]
    simp [same]

/-- Nothing is credited to an invoice without entries. -/
theorem credited_none {applied : List AppliedDelivery} {invoiceId : ObjectId}
    (absent : ∀ entry ∈ applied, entry.invoiceId ≠ invoiceId) :
    credited applied invoiceId = 0 := by
  have none_ : applied.filter (fun entry => decide (entry.invoiceId = invoiceId)) = [] := by
    rw [List.filter_eq_nil_iff]
    intro entry member
    simp [absent entry member]
  simp [credited, none_, Records.total]

/-- The installments of an automatic split can be billed. -/
theorem split_billable {tenantId : String} {now : Int} {dto : CreateFeePlanDto} {plan : FeePlan}
    (created : CreatedPlan tenantId now dto plan) (automatic : dto.installments.getD [] = []) :
    ∀ inst ∈ plan.installments, Billable inst := by
  intro inst listed
  have planned := created.installments
  unfold planInstallments at planned
  rw [automatic] at planned
  have amounts : 0 ≤ inst.amount ∧ Whole inst.amount := by
    cases split : dto.splitInto with
    | none =>
      simp only [split, Except.ok.injEq] at planned
      simp [← planned] at listed
    | some splitInto =>
      simp only [split] at planned
      split at planned
      · simp only [Except.ok.injEq] at planned
        simp [← planned] at listed
      · exact split_amounts planned inst listed
  exact ⟨(valid_installments created.valid inst listed).1, amounts⟩

/-- A generated invoice carries an empty tally. -/
theorem generated_tallied {tenantId : String} {plans : List FeePlan} {invoice : FeeInvoice}
    (generated : Generated tenantId plans invoice)
    (billable : ∀ plan ∈ plans, ∀ inst ∈ plan.installments, Billable inst) :
    Tallied 0 invoice := by
  obtain ⟨plan, stored, _, inst, listed, label, due⟩ := generated.source
  obtain ⟨labelled, nonnegative, whole⟩ := billable plan stored inst listed
  refine ⟨label ▸ labelled, due ▸ nonnegative, due ▸ whole, le_refl _, whole_zero, ?_, ?_⟩
  · rw [generated.unpaid, min_eq_right (due ▸ nonnegative)]
  · exact fun paid => False.elim (generated.open_ paid)

/-- Recording an entry on its captured payment keeps the recorded entries recorded. -/
theorem captured_recorded {deployment : Deployment} {books : Books}
    (balanced : Balanced deployment books) {params : CaptureParams} {after : Database}
    {payment claimed : Payment} {invoice : FeeInvoice}
    (captures : Captures params books.database after payment claimed invoice) :
    (∀ entry ∈ books.applied, entry.paymentId ≠ payment.id ∧
        entry.gatewayPaymentId ≠ params.gatewayPaymentId) ∧
      (∀ entry ∈ books.applied, ∃ held ∈ after.payments, held.id = entry.paymentId ∧
        held.status = .captured ∧ held.invoiceId = entry.invoiceId ∧
        held.gatewayPaymentId = some entry.gatewayPaymentId) := by
  have apart (entry : AppliedDelivery) (member : entry ∈ books.applied) :
      entry.paymentId ≠ payment.id ∧ entry.gatewayPaymentId ≠ params.gatewayPaymentId := by
    obtain ⟨held, stored, same, captured, _, gateway⟩ := balanced.recorded entry member
    constructor
    · intro equal
      obtain rfl := Records.same_record balanced.sound.paymentIds stored captures.stored
        (same.trans equal)
      rw [captures.created] at captured
      exact PaymentStatus.noConfusion captured
    · intro equal
      exact captures.unrecorded held stored (equal ▸ gateway)
  refine ⟨apart, ?_⟩
  intro entry member
  obtain ⟨held, stored, same, rest⟩ := balanced.recorded entry member
  refine ⟨held, ?_, same, rest⟩
  rw [captures.payments]
  exact Records.modify_other stored (same ▸ (apart entry member).1)

/-- Entries are for stored invoices. -/
theorem entry_stored {deployment : Deployment} {books : Books}
    (balanced : Balanced deployment books) {entry : AppliedDelivery}
    (member : entry ∈ books.applied) :
    ∃ invoice ∈ books.database.invoices, invoice.id = entry.invoiceId := by
  obtain ⟨held, stored, _, _, target, _⟩ := balanced.recorded entry member
  obtain ⟨invoice, invoiceStored, same, _⟩ := balanced.sound.targets held stored
  exact ⟨invoice, invoiceStored, same.trans target⟩

/-- A request that meets the condition keeps the books balanced and advances the invoices.

Proof: a plan split automatically can be billed, a generated invoice has no entries, and
an order writes no invoice. -/
theorem request_step {deployment : Deployment} {books : Books} {operation : FeeOperation}
    {after : Database} (balanced : Balanced deployment books)
    (regular : Regular deployment books operation)
    (request : ∀ inputs delivery, operation ≠ .deliver inputs delivery)
    (effect : FeeEffect deployment books.database operation after) :
    Balanced deployment ⟨after, books.applied⟩ ∧
      Advances books.database.invoices after.invoices := by
  cases effect with
  | nothing operation => exact ⟨balanced, advances_refl _⟩
  | plans tenantId generated now dto added created =>
    refine ⟨{ balanced with
      sound := { balanced.sound with }
      plans := ?_ }, advances_refl _⟩
    intro plan member
    rcases List.mem_append.mp member with stored | new
    · exact balanced.plans plan stored
    · exact split_billable (created plan new) regular
  | invoices tenantId draw planId dto named added distinct generated =>
    refine ⟨{ balanced with
      sound := balanced.sound.invoices (distinct balanced.sound.invoiceIds) ?_ },
      advances_append _ _⟩
    intro invoice new
    have unentered : credited books.applied invoice.id = 0 := by
      refine credited_none (fun entry member same => ?_)
      obtain ⟨stored, held, sameId⟩ := entry_stored balanced member
      have ids := distinct balanced.sound.invoiceIds
      simp only [Records.Distinct, List.map_append] at ids
      exact (List.nodup_append.mp ids).2.2 stored.id (List.mem_map.mpr ⟨stored, held, rfl⟩)
        invoice.id (List.mem_map.mpr ⟨invoice, new, rfl⟩) (sameId.trans same)
    rw [unentered]
    exact generated_tallied (generated invoice new) balanced.plans
  | order tenantId live generated invoiceId named payment invoice stored owned unpaid fresh
      ordered =>
    refine ⟨{ balanced with
      sound := balanced.sound.order stored ordered.target (owned.trans ordered.owned.symm)
        (ordered.owned ▸ named) fresh
      recorded := ?_ }, advances_refl _⟩
    intro entry member
    obtain ⟨held, heldStored, rest⟩ := balanced.recorded entry member
    exact ⟨held, List.mem_append_left _ heldStored, rest⟩
  | delivered inputs delivery => exact False.elim (request inputs delivery rfl)

/-- A delivery that meets the condition keeps the books balanced, advances the invoices, and is
entered if it is answered that it applied its payment.

Proof: it either changes nothing or enters the payment it captures, whose amount its
invoice is credited; that payment was not captured and its gateway payment id not
recorded, so neither was entered before. -/
theorem delivery_step {deployment : Deployment} {books : Books}
    (balanced : Balanced deployment books) (inputs : AwaitPoint → StepInput) (delivery : Delivery)
    (regular : Regular deployment books (.deliver inputs delivery)) :
    Balanced deployment (book deployment books (.deliver inputs delivery)) ∧
      Advances books.database.invoices
        (book deployment books (.deliver inputs delivery)).database.invoices ∧
      ((razorpay deployment inputs delivery books.database).2 = .ok true →
        (appliedDelivery deployment inputs delivery books.database).isSome = true) := by
  obtain ⟨works, unsent, amounts⟩ := regular
  have kept (same : (handle deployment inputs delivery books.database).1 = books.database)
      (unapplied : (razorpay deployment inputs delivery books.database).2 ≠ .ok true) :
      Balanced deployment (book deployment books (.deliver inputs delivery)) ∧
        Advances books.database.invoices
          (book deployment books (.deliver inputs delivery)).database.invoices ∧
        ((razorpay deployment inputs delivery books.database).2 = .ok true →
          (appliedDelivery deployment inputs delivery books.database).isSome = true) := by
    have unentered : appliedDelivery deployment inputs delivery books.database = none := by
      unfold appliedDelivery
      split
      · rename_i applied _
        exact False.elim (unapplied applied)
      · rfl
    have unchanged : book deployment books (.deliver inputs delivery) = books := by
      simp only [book, perform, entered, same, unentered, Option.toList_none, List.append_nil]
    rw [unchanged]
    exact ⟨balanced, advances_refl _, fun applied => False.elim (unapplied applied)⟩
  cases asks : captureOf deployment delivery with
  | none =>
    have ignored : handle deployment inputs delivery books.database = (books.database, none) := by
      rw [handle_routes, asks]
    exact kept (by rw [ignored]) (by simp [razorpay, ignored])
  | some params =>
    obtain ⟨paisa, given⟩ := amounts params asks
    have nonnegative : 0 ≤ (paisa : ℚ) / 100 := by positivity
    have whole : Whole ((paisa : ℚ) / 100) := by simpa using whole_hundredths (paisa : ℤ)
    rcases balanced.sound.delivery works unsent asks given nonnegative whole with
      ⟨same, unapplied⟩ | ⟨payment, claimed, invoice, captures, returned, sound, advances⟩
    · refine kept same (fun applied => ?_)
      simp only [razorpay] at applied
      split at applied
      · rename_i result payment ended
        obtain ⟨applies, invoiceId⟩ := result
        obtain rfl : applies = true := Except.ok.inj applied
        exact unapplied invoiceId payment ended
      · cases applied
      · cases applied
    · obtain ⟨now, receiptUrl, result⟩ := captures.result
      have claimedId : claimed.id = payment.id := by rw [result]; rfl
      have entry : appliedDelivery deployment inputs delivery books.database =
          some { delivery := delivery, gatewayPaymentId := params.gatewayPaymentId,
                 paymentId := claimed.id, invoiceId := payment.invoiceId,
                 amount := (paisa : ℚ) / 100 } := by
        simp only [appliedDelivery, razorpay, asks, returned, captures.open_, Option.map_some, given,
          Option.getD_some, claimedId]
      have booked : book deployment books (.deliver inputs delivery) =
          ⟨(handle deployment inputs delivery books.database).1, books.applied ++
            [{ delivery := delivery, gatewayPaymentId := params.gatewayPaymentId,
               paymentId := claimed.id, invoiceId := payment.invoiceId,
               amount := (paisa : ℚ) / 100 }]⟩ := by
        simp only [book, perform, entered, entry, Option.toList_some]
      obtain ⟨apart, stillRecorded⟩ := captured_recorded balanced captures
      rw [booked]
      refine ⟨⟨?_, ?_, ?_, ?_, ?_, ?_⟩, advances, fun _ => by rw [entry]; rfl⟩
      · rw [credited_append]
        exact sound
      · rw [captures.plans]
        exact balanced.plans
      · intro other member
        rcases List.mem_append.mp member with earlier | last
        · exact stillRecorded other earlier
        · obtain rfl := List.mem_singleton.mp last
          refine ⟨claimed, ?_, rfl, ?_, ?_, ?_⟩
          · rw [captures.payments]
            exact Records.modify_same captures.stored
          · rw [result]
            rfl
          · rw [result]
            rfl
          · rw [result]
            rfl
      · intro other member
        rcases List.mem_append.mp member with earlier | last
        · exact balanced.asked other earlier
        · obtain rfl := List.mem_singleton.mp last
          exact ⟨params, asks, rfl⟩
      · exact Records.append_distinct balanced.paymentsOnce
          (fun other member => claimedId ▸ (apart other member).1)
      · exact Records.append_distinct balanced.gatewayOnce
          (fun other member => (apart other member).2)

/-- An operation that meets the condition keeps the books balanced and advances the
invoices. -/
theorem book_step {deployment : Deployment} (books : Books) (operation : FeeOperation)
    (balanced : Balanced deployment books) (regular : Regular deployment books operation) :
    Balanced deployment (book deployment books operation) ∧
      Advances books.database.invoices (book deployment books operation).database.invoices := by
  have unentered (none_ : entered deployment books.database operation = none) :
      book deployment books operation =
        ⟨perform deployment books.database operation, books.applied⟩ := by
    simp only [book, none_, Option.toList_none, List.append_nil]
  have effect := perform_effect deployment books.database operation
  cases operation with
  | createPlan tenantId generated now dto =>
    rw [unentered rfl]
    exact request_step balanced regular (by simp) effect
  | generateInvoices tenantId draw planId dto =>
    rw [unentered rfl]
    exact request_step balanced regular (by simp) effect
  | createPaymentOrder tenantId live generated invoiceId =>
    rw [unentered rfl]
    exact request_step balanced regular (by simp) effect
  | deliver inputs delivery =>
    obtain ⟨kept, advances, _⟩ := delivery_step balanced inputs delivery regular
    exact ⟨kept, advances⟩

/-- What is in the book stays in it. -/
theorem applied_kept {deployment : Deployment} {books : Books} {entry : AppliedDelivery}
    (member : entry ∈ books.applied) (operations : List FeeOperation) :
    entry ∈ (run (book deployment) books operations).applied :=
  run_invariant (fun later : Books => entry ∈ later.applied)
    (fun _ _ kept => List.mem_append_left _ kept) member operations

/-- The serial ledger law. Start from a database without plans, invoices and payments, and
run any operations that meet the condition. Then every delivery that was answered that it was
applied is in the book; every invoice's paid amount is the amount due or the sum of the
book's deliveries for it, whichever is less; no payment and no gateway payment id was applied
twice; from any point of the run to its end paid amounts do not decrease and a paid invoice
stays paid with the same amount; and delivering an applied delivery again, whether or not it
fails, changes nothing.

Proof: the books are balanced at the start and every operation keeps them so. An applied
delivery's gateway payment id is recorded on a stored payment. -/
theorem serial_ledger_law (deployment : Deployment) (start : Database)
    (noPlans : start.plans = []) (noInvoices : start.invoices = [])
    (noPayments : start.payments = []) (operations : List FeeOperation)
    (regular : Along (book deployment) (Regular deployment) ⟨start, []⟩ operations) :
    (∀ earlier inputs delivery later, operations = earlier ++ .deliver inputs delivery :: later →
      (razorpay deployment inputs delivery
        (run (book deployment) ⟨start, []⟩ earlier).database).2 = .ok true →
      ∃ entry ∈ (run (book deployment) ⟨start, []⟩ operations).applied,
        appliedDelivery deployment inputs delivery
          (run (book deployment) ⟨start, []⟩ earlier).database = some entry) ∧
    (∀ invoice ∈ (run (book deployment) ⟨start, []⟩ operations).database.invoices,
      invoice.amountPaid = min invoice.amountDue
        (credited (run (book deployment) ⟨start, []⟩ operations).applied invoice.id)) ∧
    ((run (book deployment) ⟨start, []⟩ operations).applied.map
        AppliedDelivery.gatewayPaymentId).Nodup ∧
    ((run (book deployment) ⟨start, []⟩ operations).applied.map
        AppliedDelivery.paymentId).Nodup ∧
    (∀ earlier later, operations = earlier ++ later →
      Advances (run (book deployment) ⟨start, []⟩ earlier).database.invoices
        (run (book deployment) ⟨start, []⟩ operations).database.invoices) ∧
    ∀ entry ∈ (run (book deployment) ⟨start, []⟩ operations).applied, ∀ inputs,
      (handle deployment inputs entry.delivery
          (run (book deployment) ⟨start, []⟩ operations).database).1 =
        (run (book deployment) ⟨start, []⟩ operations).database := by
  have opened : Balanced deployment ⟨start, []⟩ :=
    { sound := ⟨by simp [Records.Distinct, noPayments], by simp [Records.Distinct, noInvoices],
        by simp [noPayments], by simp [noPayments], by simp [noInvoices]⟩
      plans := by simp [noPlans]
      recorded := by simp
      asked := by simp
      paymentsOnce := by simp
      gatewayOnce := by simp }
  have kept (inputs : List FeeOperation)
      (along : Along (book deployment) (Regular deployment) ⟨start, []⟩ inputs) :
      Balanced deployment (run (book deployment) ⟨start, []⟩ inputs) :=
    run_preserves (fun books operation balanced condition =>
      (book_step books operation balanced condition).1) opened along
  have final := kept operations regular
  refine ⟨?_, fun invoice stored => (final.sound.tallied invoice stored).paid, final.gatewayOnce,
    final.paymentsOnce, ?_, ?_⟩
  · rintro earlier inputs delivery later rfl applied
    obtain ⟨first, condition, _⟩ := (along_append _ _ _ earlier _).mp regular
    obtain ⟨_, _, enters⟩ := delivery_step (kept earlier first) inputs delivery condition
    obtain ⟨entry, entered⟩ := Option.isSome_iff_exists.mp (enters applied)
    refine ⟨entry, ?_, entered⟩
    rw [run_append, run_cons]
    apply applied_kept
    exact List.mem_append_right _ (Option.mem_toList.mpr entered)
  · rintro earlier later rfl
    obtain ⟨first, second⟩ := (along_append _ _ _ earlier later).mp regular
    rw [run_append]
    exact run_relates (fun before after =>
        Advances before.database.invoices after.database.invoices)
      (fun books => advances_refl _) (fun _ _ _ => advances_trans)
      (fun books operation balanced condition => book_step books operation balanced condition)
      (kept earlier first) second
  · intro entry member inputs
    obtain ⟨params, asks, same⟩ := final.asked entry member
    obtain ⟨held, stored, _, _, _, recorded⟩ := final.recorded entry member
    exact handle_recorded inputs final.sound.well asks stored (same ▸ recorded)

/-- A delivery of 200 rupees for the first invoice's order. -/
def termDelivery : Delivery :=
  { body :=
      { event := some "payment.captured"
        entity := some { id := some "pay_1", orderId := some "order_stub_cccccccccccccccccccccccc_0",
                         amount := some 20000 } } }

/-- A plan of 1000 rupees split in two, generated for one student; an order for the first
invoice; and its delivery, twice. -/
def termOperations : List FeeOperation :=
  [.createPlan "institute-a" (.repeated '1') 0
      { name := "Term", totalAmount := 1000, splitInto := some 2 },
    .generateInvoices "institute-a" (fun i => (.repeated (if i = 0 then 'c' else 'd'), 0))
      (.repeated '1') { studentIds := some [.repeated '2'] },
    .createPaymentOrder "institute-a" (fun _ => .error .storage) (.repeated '3') (.repeated 'c'),
    .deliver (fun _ => { now := 1, notification := .repeated '4' }) termDelivery,
    .deliver (fun _ => { now := 2, notification := .repeated '5' }) termDelivery]

/-- The run meets the condition, so its two invoices follow the ledger law. The delivery is in the
book once, and the first invoice is paid its 200 rupees. -/
theorem term_ledger_law :
    (run (book CaptureRaces.stubDeployment) ⟨{}, []⟩ termOperations).database.invoices.map
        FeeInvoice.amountPaid = [200, 0] ∧
      (run (book CaptureRaces.stubDeployment) ⟨{}, []⟩ termOperations).applied.map
        AppliedDelivery.amount = [200] ∧
      ∀ invoice ∈ (run (book CaptureRaces.stubDeployment) ⟨{}, []⟩ termOperations).database.invoices,
        invoice.amountPaid = min invoice.amountDue
          (credited (run (book CaptureRaces.stubDeployment) ⟨{}, []⟩ termOperations).applied
            invoice.id) := by
  refine ⟨by decide +kernel, by decide +kernel,
    (serial_ledger_law CaptureRaces.stubDeployment {} rfl rfl rfl termOperations ?_).2.1⟩
  have paid (params : CaptureParams)
      (asks : captureOf CaptureRaces.stubDeployment termDelivery = some params) :
      ∃ paisa : ℕ, params.amount = some ((paisa : ℚ) / 100) := by
    have amount : (captureOf CaptureRaces.stubDeployment termDelivery).map CaptureParams.amount =
        some (some (20000 / 100)) := by decide +kernel
    rw [asks] at amount
    exact ⟨20000, by simpa using amount⟩
  exact ⟨rfl, trivial, trivial, ⟨fun _ _ => rfl, by decide +kernel, paid⟩,
    ⟨fun _ _ => rfl, by decide +kernel, paid⟩, trivial⟩

end Ledger

end CoachingApi
