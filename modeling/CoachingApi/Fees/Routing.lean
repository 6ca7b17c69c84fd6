import CoachingApi.Fees.FeeOperations

/-!
# Deliveries stay inside one tenant

A delivery is routed to the tenant of the first payment of its order, found without any
tenant's scope, and then runs in that tenant's context. Orders are unique to one invoice:
a live gateway gives fresh ids, and the stub derives them from the invoice's identity. So
all payments of an order are one tenant's and for one invoice, and a delivery writes at
most one of them, its invoice, and notifications of that tenant, whether or not it fails.
-/

namespace CoachingApi

open TenantContextStore TenantPlugin FeesService WebhooksController Runs

namespace Routing

/-- Where an invoice belongs. -/
def place (invoice : FeeInvoice) : ObjectId × String := (invoice.id, invoice.tenantId)

/-- What a call in a tenant's context did to a database: it rewrote one payment and one
invoice, neither of which changed what no capture changes, and added notifications and pushes of
the tenant. -/
structure Confined (tenantId : String) (paymentId invoiceId : ObjectId)
    (before after : Database) : Prop where
  payments : Records.Rewrites Payment.id facts paymentId before.payments after.payments
  invoices : Records.Rewrites FeeInvoice.id place invoiceId before.invoices after.invoices
  notifications : ∃ added, after.notifications = before.notifications ++ added ∧
    ∀ notification ∈ added, notification.tenantId = tenantId
  pushes : ∃ handed, after.pushes = before.pushes ++ handed ∧
    ∀ push ∈ handed, push.tenantId = tenantId
  others : (after.tenants, after.users, after.students, after.plans) =
    (before.tenants, before.users, before.students, before.plans)

/-- A call past its claim that is confined: it holds the payment and, once it has read it,
the invoice. -/
def Inside (tenantId : String) (paymentId invoiceId : ObjectId) (before database : Database)
    (step : CaptureStep) : Prop :=
  Confined tenantId paymentId invoiceId before database ∧
    match step with
    | .claimed payment =>
      payment.id = paymentId ∧ payment.tenantId = tenantId ∧ payment.invoiceId = invoiceId
    | .rendering payment loaded .. | .storingReceipt payment _ loaded ..
    | .crediting payment _ loaded .. =>
      (payment.id = paymentId ∧ payment.tenantId = tenantId ∧ payment.invoiceId = invoiceId) ∧
        loaded.id = invoiceId ∧ loaded.tenantId = tenantId
    | .notifying .. | .returned .. | .threw _ => True
    | _ => False

variable {deployment : Deployment} {ambient : Ambient} {params : CaptureParams}
  {inputs : AwaitPoint → StepInput} {tenantId : String}

/-- A step past the claim stays confined.

Proof: the receipt save rewrites the payment and the invoice save the invoice, each under
the tenant they already have; the notification is created in the tenant's context. -/
theorem inside_step (bound : Bound ambient tenantId) {paymentId invoiceId : ObjectId}
    {before : Database} (point : AwaitPoint) (database : Database) (step : CaptureStep)
    (stands : step.point = some point)
    (inside : Inside tenantId paymentId invoiceId before database step) :
    Inside tenantId paymentId invoiceId before
      (captureStep deployment ambient params (inputs point) database step).1
      (captureStep deployment ambient params (inputs point) database step).2 := by
  obtain ⟨confined, position⟩ := inside
  cases step with
  | started => exact False.elim position
  | noneRecorded => exact False.elim position
  | claiming loaded current => exact False.elim position
  | claimed payment =>
    simp only [captureStep]
    split
    · exact ⟨confined, trivial⟩
    · split
      · exact ⟨confined, trivial⟩
      · exact ⟨confined, trivial⟩
      · rename_i invoice found
        obtain ⟨_, owned, matching⟩ := TenantModel.find_one_owned bound found
        have target : invoice.id = payment.invoiceId := of_decide_eq_true matching
        split
        · exact ⟨confined, trivial⟩
        · exact ⟨confined, position, target.trans position.2.2, owned⟩
  | rendering payment loaded current invalid =>
    simp only [captureStep]
    split
    · exact ⟨confined, position⟩
    · exact ⟨confined, position⟩
  | storingReceipt payment receiptUrl loaded current invalid =>
    obtain ⟨⟨same, owned, target⟩, invoice⟩ := position
    simp only [captureStep]
    split
    · exact ⟨confined, trivial⟩
    · split
      · exact ⟨confined, trivial⟩
      · rename_i stored payments saved
        obtain ⟨stamped, written_⟩ := TenantModel.save_bound bound saved
        refine ⟨{ confined with payments := ?_ }, ⟨?_, ?_, ?_⟩, invoice⟩
        · simp only [written_]
          rw [← same] at confined ⊢
          refine confined.payments.modify (fun _ _ equal => congrArg Prod.fst equal) ?_
          intro row
          rw [stamped]
          exact congrArg Prod.fst (CaptureRaces.receipt_standing owned)
        · rw [stamped]
          exact same
        · rw [stamped]
          rfl
        · rw [stamped]
          exact target
  | crediting payment receiptUrl loaded current invalid =>
    obtain ⟨_, sameInvoice, owned⟩ := position
    simp only [captureStep]
    split
    · exact ⟨confined, trivial⟩
    · split
      · exact ⟨confined, trivial⟩
      · split
        · exact ⟨confined, trivial⟩
        · rename_i stored invoices saved
          obtain ⟨stamped, written_⟩ := TenantModel.save_bound bound saved
          refine ⟨{ confined with invoices := ?_ }, trivial⟩
          simp only [written_]
          rw [← sameInvoice] at confined ⊢
          refine confined.invoices.modify (fun _ _ equal => congrArg Prod.fst equal) ?_
          intro row
          subst owned
          rw [stamped]
          simp [place, TenantModel.writeBack, TenantModel.withTenantId]
  | notifying payment receiptUrl invoice =>
    simp only [captureStep]
    split
    · exact ⟨confined, trivial⟩
    · obtain ⟨added, handed, writes, owned, handedOwned⟩ := NotificationsService.notify_appends bound
        deployment.push (inputs point).notification (inputs point).now
        (paidNotification invoice receiptUrl) database
      obtain ⟨earlier, appended, earlierOwned⟩ := confined.notifications
      obtain ⟨pushed, followed, pushedOwned⟩ := confined.pushes
      have still : Confined tenantId paymentId invoiceId before
          { database with
            notifications := database.notifications ++ added
            pushes := database.pushes ++ handed } := by
        refine { confined with
                 notifications := ⟨earlier ++ added, ?_, ?_⟩, pushes := ⟨pushed ++ handed, ?_, ?_⟩ }
        · simp only [appended, List.append_assoc]
        · exact List.forall_mem_append.mpr ⟨earlierOwned, owned⟩
        · simp only [followed, List.append_assoc]
        · exact List.forall_mem_append.mpr ⟨pushedOwned, handedOwned⟩
      split
      · rename_i notified thrown failed
        rw [failed] at writes
        exact ⟨by rw [writes]; exact still, trivial⟩
      · rename_i notified _ sent
        rw [sent] at writes
        exact ⟨by rw [writes]; exact still, trivial⟩
  | returned result payment => simp [CaptureStep.point] at stands
  | threw thrown => simp [CaptureStep.point] at stands

/-- A call in a tenant's context, failing or not, changes nothing or is confined to the
payment it claims and that payment's invoice. -/
theorem capture_confined (bound : Bound ambient tenantId) {database : Database}
    (distinct : Records.Distinct Payment.id database.payments) :
    (applyCapturedPayment deployment ambient params inputs database).1 = database ∨
      ∃ payment, Claims tenantId params database.payments payment ∧
        Confined tenantId payment.id payment.invoiceId database
          (applyCapturedPayment deployment ambient params inputs database).1 := by
  by_cases blocked : (∀ payment, ¬ Claims tenantId params database.payments payment) ∨
      (inputs .recordedLookup).fails = true ∨ (inputs .pendingLookup).fails = true ∨
      (inputs .claimingSave).fails = true
  · exact .inl (capture_unclaimed bound distinct blocked).1
  · right
    simp only [not_or, not_forall, not_not, Bool.not_eq_true] at blocked
    obtain ⟨⟨payment, claims⟩, recorded, looked, saves⟩ := blocked
    refine ⟨payment, claims, ?_⟩
    rw [capture_claims bound distinct claims recorded looked saves]
    obtain ⟨stored, owned, _, _⟩ := pending_payment_some claims.pending
    have claimed : Confined tenantId payment.id payment.invoiceId database
        { database with
          payments := Records.modify Payment.id payment.id
            (fun _ => claim params (inputs .pendingLookup).now payment) database.payments } :=
      { payments := ⟨_, fun row member same => by
          rw [Records.same_record distinct member stored same]
          rfl, rfl⟩
        invoices := Records.rewrites_refl _ _ _ _
        notifications := ⟨[], by simp, by simp⟩
        pushes := ⟨[], by simp, by simp⟩
        others := rfl }
    have settled : Inside tenantId payment.id payment.invoiceId database
        (settle deployment ambient params inputs 5
          { database with
            payments := Records.modify Payment.id payment.id
              (fun _ => claim params (inputs .pendingLookup).now payment) database.payments }
          (.claimed (claim params (inputs .pendingLookup).now payment))).1
        (settle deployment ambient params inputs 5
          { database with
            payments := Records.modify Payment.id payment.id
              (fun _ => claim params (inputs .pendingLookup).now payment) database.payments }
          (.claimed (claim params (inputs .pendingLookup).now payment))).2 :=
      settle_preserves (inside_step bound) 5 _ _ ⟨claimed, rfl, owned, rfl⟩
    exact settled.1

/-- The invariant of the reachable databases: identities are distinct, a payment names its
invoice's tenant, the payments of an order are one tenant's and for one invoice, and a stub
order is derived from the invoice's identity. -/
structure Routable (deployment : Deployment) (database : Database) : Prop where
  paymentIds : Records.Distinct Payment.id database.payments
  invoiceIds : Records.Distinct FeeInvoice.id database.invoices
  named : ∀ payment ∈ database.payments, payment.tenantId ≠ ""
  targets : ∀ payment ∈ database.payments, ∃ invoice ∈ database.invoices,
    invoice.id = payment.invoiceId ∧ invoice.tenantId = payment.tenantId
  orders : ∀ first ∈ database.payments, ∀ second ∈ database.payments,
    first.gatewayOrderId = second.gatewayOrderId →
      first.tenantId = second.tenantId ∧ first.invoiceId = second.invoiceId
  stub : RazorpayGateway.enabled deployment = false → ∀ payment ∈ database.payments,
    ∃ paid : String, payment.gatewayOrderId = s!"order_stub_{payment.invoiceId.hex}_{paid}"

/-- A stub order tells its invoice: identities are equally long. -/
theorem stub_order_target {first second : ObjectId} {firstPaid secondPaid : String}
    (same : s!"order_stub_{first.hex}_{firstPaid}" = s!"order_stub_{second.hex}_{secondPaid}") :
    first = second := by
  have letters := congrArg String.toList same
  simp only [toString, String.toList_append, List.append_assoc] at letters
  have tails := List.append_cancel_left letters
  have lengths : first.hex.toList.length = second.hex.toList.length := by
    rw [String.length_toList, String.length_toList, first.length_hex, second.length_hex]
  exact ObjectId.hex_injective (String.toList_inj.mp (List.append_inj tails lengths).1)

/-- A routable database is well-formed. -/
theorem Routable.well {database : Database} (routable : Routable deployment database) :
    WellFormed database := ⟨routable.paymentIds, routable.invoiceIds, routable.named⟩

/-- A database with the payments' facts and the invoices' places of a well-formed one is
well-formed. -/
theorem well_same {before after : Database} (well : WellFormed before)
    (payments : after.payments.map facts = before.payments.map facts)
    (invoices : after.invoices.map place = before.invoices.map place) : WellFormed after := by
  constructor
  · have ids : after.payments.map Payment.id = before.payments.map Payment.id :=
      Records.determined_reading (fun _ _ equal => congrArg Prod.fst equal) payments
    exact Records.same_keys_distinct ids well.payments
  · have ids : after.invoices.map FeeInvoice.id = before.invoices.map FeeInvoice.id :=
      Records.determined_reading (fun _ _ equal => congrArg Prod.fst equal) invoices
    exact Records.same_keys_distinct ids well.invoices
  · intro payment member
    obtain ⟨original, stored, equal⟩ := Records.reading_stored payments member
    simp only [facts, Prod.mk.injEq] at equal
    exact equal.2.1 ▸ well.owned original stored

/-- A database with the payments' facts and the invoices' places of a routable one is
routable. -/
theorem Routable.same {before after : Database} (routable : Routable deployment before)
    (payments : after.payments.map facts = before.payments.map facts)
    (invoices : after.invoices.map place = before.invoices.map place) :
    Routable deployment after := by
  have origin (payment : Payment) (member : payment ∈ after.payments) :
      ∃ original ∈ before.payments, original.tenantId = payment.tenantId ∧
        original.gatewayOrderId = payment.gatewayOrderId ∧
        original.invoiceId = payment.invoiceId := by
    obtain ⟨original, stored, equal⟩ := Records.reading_stored payments member
    simp only [facts, Prod.mk.injEq] at equal
    exact ⟨original, stored, equal.2.1, equal.2.2.1, equal.2.2.2⟩
  obtain ⟨paymentIds, invoiceIds, named⟩ := well_same routable.well payments invoices
  refine ⟨paymentIds, invoiceIds, named, ?_, ?_, ?_⟩
  · intro payment member
    obtain ⟨original, stored, tenant, _, target⟩ := origin payment member
    obtain ⟨invoice, invoiceStored, sameId, sameTenant⟩ := routable.targets original stored
    obtain ⟨kept, keptStored, keptPlace⟩ := Records.reading_stored invoices.symm invoiceStored
    obtain ⟨keptId, keptTenant⟩ := Prod.mk.inj keptPlace
    exact ⟨kept, keptStored, keptId.trans (sameId.trans target),
      keptTenant.trans (sameTenant.trans tenant)⟩
  · intro first firstMember second secondMember same
    obtain ⟨firstOriginal, firstStored, firstTenant, firstOrder, firstTarget⟩ :=
      origin first firstMember
    obtain ⟨secondOriginal, secondStored, secondTenant, secondOrder, secondTarget⟩ :=
      origin second secondMember
    rw [← firstTenant, ← firstTarget, ← secondTenant, ← secondTarget]
    exact routable.orders firstOriginal firstStored secondOriginal secondStored
      (firstOrder.trans (same.trans secondOrder.symm))
  · intro stubbed payment member
    obtain ⟨original, stored, _, order, target⟩ := origin payment member
    obtain ⟨paid, derived⟩ := routable.stub stubbed original stored
    exact ⟨paid, by rw [← order, derived, target]⟩

/-- The condition on one operation: a live gateway answers with an order id that no stored
payment has. -/
def FreshOrders (deployment : Deployment) (database : Database) : FeeOperation → Prop
  | .createPaymentOrder _ live _ _ =>
    RazorpayGateway.enabled deployment = true → ∀ request reply, live request = .ok reply →
      ∀ payment ∈ database.payments, payment.gatewayOrderId ≠ reply.id
  | _ => True

/-- A new order for a stored invoice keeps a database routable.

Proof: a live order is of no stored payment. A stub order of a stored payment is for the
same invoice, which has one tenant. -/
theorem Routable.order {database : Database} (routable : Routable deployment database)
    {live : OrderRequest → Except Thrown OrderReply} {payment : Payment} {invoice : FeeInvoice}
    (stored : invoice ∈ database.invoices) (owned : invoice.tenantId = tenantId)
    (named : tenantId ≠ "") (fresh : ∀ held ∈ database.payments, held.id ≠ payment.id)
    (ordered : Ordered deployment tenantId live invoice payment)
    (freshOrder : RazorpayGateway.enabled deployment = true → ∀ request reply,
      live request = .ok reply → ∀ held ∈ database.payments, held.gatewayOrderId ≠ reply.id) :
    Routable deployment { database with payments := database.payments ++ [payment] } := by
  have apart (held : Payment) (heldStored : held ∈ database.payments)
      (same : held.gatewayOrderId = payment.gatewayOrderId) :
      held.tenantId = payment.tenantId ∧ held.invoiceId = payment.invoiceId := by
    rcases ordered.order with ⟨enabled, request, reply, answered, order, _⟩ | ⟨stubbed, order⟩
    · exact False.elim (freshOrder enabled request reply answered held heldStored
        (same.trans order))
    · obtain ⟨paid, derived⟩ := routable.stub stubbed held heldStored
      have target : held.invoiceId = invoice.id :=
        stub_order_target (derived.symm.trans (same.trans order))
      obtain ⟨source, sourceStored, sourceId, sourceTenant⟩ := routable.targets held heldStored
      obtain rfl := Records.same_record routable.invoiceIds sourceStored stored
        (sourceId.trans target)
      exact ⟨sourceTenant.symm.trans (owned.trans ordered.owned.symm),
        target.trans ordered.target.symm⟩
  refine ⟨Records.append_distinct routable.paymentIds fresh, routable.invoiceIds, ?_, ?_, ?_, ?_⟩
  · intro other member
    rcases List.mem_append.mp member with held | new
    · exact routable.named other held
    · obtain rfl := List.mem_singleton.mp new
      exact ordered.owned ▸ named
  · intro other member
    rcases List.mem_append.mp member with held | new
    · exact routable.targets other held
    · obtain rfl := List.mem_singleton.mp new
      exact ⟨invoice, stored, ordered.target.symm, owned.trans ordered.owned.symm⟩
  · intro first firstMember second secondMember same
    rcases List.mem_append.mp firstMember with firstHeld | firstNew
    · rcases List.mem_append.mp secondMember with secondHeld | secondNew
      · exact routable.orders first firstHeld second secondHeld same
      · obtain rfl := List.mem_singleton.mp secondNew
        exact apart first firstHeld same
    · obtain rfl := List.mem_singleton.mp firstNew
      rcases List.mem_append.mp secondMember with secondHeld | secondNew
      · obtain ⟨tenant, target⟩ := apart second secondHeld same.symm
        exact ⟨tenant.symm, target.symm⟩
      · obtain rfl := List.mem_singleton.mp secondNew
        exact ⟨rfl, rfl⟩
  · intro stubbed other member
    rcases List.mem_append.mp member with held | new
    · exact routable.stub stubbed other held
    · obtain rfl := List.mem_singleton.mp new
      rcases ordered.order with ⟨enabled, _⟩ | ⟨_, order⟩
      · simp [stubbed] at enabled
      · exact ⟨_, by rw [order, ordered.target]⟩

variable (deployment) in
/-- A delivery on a well-formed database, failing or not, changes nothing or is confined
to a payment of its order that is not captured yet and that payment's invoice. -/
theorem delivery_confined {database : Database} (well : WellFormed database)
    (inputs : AwaitPoint → StepInput) (delivery : Delivery) :
    (handle deployment inputs delivery database).1 = database ∨
      ∃ params payment, captureOf deployment delivery = some params ∧
        payment ∈ database.payments ∧ payment.gatewayOrderId = params.gatewayOrderId ∧
        payment.status = .created ∧
        Confined payment.tenantId payment.id payment.invoiceId database
          (handle deployment inputs delivery database).1 := by
  cases asks : captureOf deployment delivery with
  | none => exact .inl (by rw [handle_routes, asks])
  | some params =>
    cases found : routedPayment params.gatewayOrderId database.payments with
    | none => exact .inl (by rw [handle_unrouted inputs asks found])
    | some routed =>
      rw [handle_routed inputs asks found]
      rcases capture_confined (routed_bound well found) well.payments with
        same | ⟨payment, claims, confined⟩
      · exact .inl same
      · obtain ⟨stored, owned, order, created⟩ := pending_payment_some claims.pending
        exact .inr ⟨params, payment, rfl, stored, order, created, owned ▸ confined⟩

variable (deployment) in
/-- A delivery on a well-formed database changes no plan and no student. -/
theorem delivery_keeps {database : Database} (well : WellFormed database)
    (inputs : AwaitPoint → StepInput) (delivery : Delivery) :
    (handle deployment inputs delivery database).1.plans = database.plans ∧
      (handle deployment inputs delivery database).1.students = database.students := by
  rcases delivery_confined deployment well inputs delivery with
    same | ⟨params, payment, _, _, _, _, confined⟩
  · rw [same]
    exact ⟨rfl, rfl⟩
  · have others := confined.others
    simp only [Prod.mk.injEq] at others
    exact ⟨others.2.2.2, others.2.2.1⟩

/-- An operation that meets the condition keeps a database routable. -/
theorem perform_routable (database : Database) (operation : FeeOperation)
    (routable : Routable deployment database)
    (fresh : FreshOrders deployment database operation) :
    Routable deployment (perform deployment database operation) := by
  have effect := perform_effect deployment database operation
  generalize perform deployment database operation = after at effect
  cases effect with
  | nothing _ => exact routable
  | plans tenantId generated now dto added created => exact { routable with }
  | invoices tenantId draw planId dto named added distinct generated =>
    refine { routable with invoiceIds := distinct routable.invoiceIds, targets := ?_ }
    intro payment member
    obtain ⟨invoice, stored, same, owned⟩ := routable.targets payment member
    exact ⟨invoice, List.mem_append_left _ stored, same, owned⟩
  | order tenantId live generated invoiceId named payment invoice stored owned unpaid new
      ordered => exact routable.order stored owned named new ordered fresh
  | delivered inputs delivery =>
    rcases delivery_confined deployment routable.well inputs delivery with
      same | ⟨params, payment, _, _, _, _, confined⟩
    · rw [same]
      exact routable
    · exact routable.same confined.payments.reading confined.invoices.reading

variable (deployment) in
/-- Every operation keeps a database well-formed, whether or not it fails. -/
theorem perform_well {database : Database} (well : WellFormed database)
    (operation : FeeOperation) : WellFormed (perform deployment database operation) := by
  have effect := perform_effect deployment database operation
  generalize perform deployment database operation = after at effect
  cases effect with
  | nothing _ => exact well
  | plans tenantId generated now dto added created => exact { well with }
  | invoices tenantId draw planId dto named added distinct generated =>
    exact { well with invoices := distinct well.invoices }
  | order tenantId live generated invoiceId named payment invoice stored owned unpaid new
      ordered =>
    refine { well with payments := Records.append_distinct well.payments new, owned := ?_ }
    intro other member
    rcases List.mem_append.mp member with held | added
    · exact well.owned other held
    · rw [List.mem_singleton.mp added, ordered.owned]
      exact named
  | delivered inputs delivery =>
    rcases delivery_confined deployment well inputs delivery with
      same | ⟨params, payment, _, _, _, _, confined⟩
    · rw [same]
      exact well
    · exact well_same well confined.payments.reading confined.invoices.reading

/-- The payments, invoices and notifications of a tenant. -/
def ofTenant (tenantId : String) (database : Database) :
    List Payment × List FeeInvoice × List Notification :=
  (database.payments.filter (fun payment => decide (payment.tenantId = tenantId)),
    database.invoices.filter (fun invoice => decide (invoice.tenantId = tenantId)),
    database.notifications.filter (fun notification => decide (notification.tenantId = tenantId)))

/-- A confined change leaves every other tenant's payments, invoices and notifications as
they were. -/
theorem Confined.others_unchanged {before after : Database} {payment : Payment}
    {invoice : FeeInvoice} (confined : Confined payment.tenantId payment.id invoice.id before after)
    (paymentIds : Records.Distinct Payment.id before.payments)
    (invoiceIds : Records.Distinct FeeInvoice.id before.invoices)
    (stored : payment ∈ before.payments) (invoiceStored : invoice ∈ before.invoices)
    (owned : invoice.tenantId = payment.tenantId) {other : String}
    (different : other ≠ payment.tenantId) : ofTenant other after = ofTenant other before := by
  have payments := confined.payments.selection (fun reading => decide (reading.2.1 = other)) (by
    intro row member selected same
    obtain rfl := Records.same_record paymentIds member stored same
    exact different (of_decide_eq_true selected).symm)
  have invoices := confined.invoices.selection (fun reading => decide (reading.2 = other)) (by
    intro row member selected same
    obtain rfl := Records.same_record invoiceIds member invoiceStored same
    exact different ((of_decide_eq_true selected).symm.trans owned))
  obtain ⟨added, appended, addedOwned⟩ := confined.notifications
  have notifications : after.notifications.filter
      (fun notification => decide (notification.tenantId = other)) =
        before.notifications.filter
          (fun notification => decide (notification.tenantId = other)) := by
    have none_ : added.filter
        (fun notification => decide (notification.tenantId = other)) = [] := by
      rw [List.filter_eq_nil_iff]
      intro notification member
      simp [addedOwned notification member, Ne.symm different]
    rw [appended, List.filter_append, none_, List.append_nil]
  unfold ofTenant
  rw [notifications]
  exact Prod.ext payments (Prod.ext invoices rfl)

/-- Webhook routing stays inside one tenant. Start from a database without invoices and
payments and run any plan creations, generations, orders and deliveries, where a live
gateway gives fresh order ids. Then the payments of an order belong to one tenant and one
invoice; and any delivery, failing or not, changes nothing, or rewrites one payment of its
order and that payment's invoice, both of one tenant, adds notifications of that tenant,
and leaves every other tenant's payments, invoices and notifications as they were.

Proof: every operation keeps the database routable, and on such a database the delivery is
confined to the payment it claims. -/
theorem webhooks_stay_inside (deployment : Deployment) (start : Database)
    (noInvoices : start.invoices = []) (noPayments : start.payments = [])
    (operations : List FeeOperation)
    (fresh : Along (perform deployment) (FreshOrders deployment) start operations) :
    (∀ first ∈ (run (perform deployment) start operations).payments,
      ∀ second ∈ (run (perform deployment) start operations).payments,
        first.gatewayOrderId = second.gatewayOrderId →
          first.tenantId = second.tenantId ∧ first.invoiceId = second.invoiceId) ∧
    ∀ inputs delivery,
      (handle deployment inputs delivery (run (perform deployment) start operations)).1 =
          run (perform deployment) start operations ∨
        ∃ params payment invoice, captureOf deployment delivery = some params ∧
          payment ∈ (run (perform deployment) start operations).payments ∧
          payment.gatewayOrderId = params.gatewayOrderId ∧
          invoice ∈ (run (perform deployment) start operations).invoices ∧
          invoice.id = payment.invoiceId ∧ invoice.tenantId = payment.tenantId ∧
          Confined payment.tenantId payment.id invoice.id
            (run (perform deployment) start operations)
            (handle deployment inputs delivery (run (perform deployment) start operations)).1 ∧
          ∀ other, other ≠ payment.tenantId →
            ofTenant other
                (handle deployment inputs delivery (run (perform deployment) start operations)).1 =
              ofTenant other (run (perform deployment) start operations) := by
  have opened : Routable deployment start := by
    refine ⟨?_, ?_, ?_, ?_, ?_, ?_⟩ <;> simp [Records.Distinct, noInvoices, noPayments]
  have routable : Routable deployment (run (perform deployment) start operations) :=
    run_preserves perform_routable opened fresh
  refine ⟨routable.orders, ?_⟩
  intro inputs delivery
  rcases delivery_confined deployment routable.well inputs delivery with
    same | ⟨params, payment, asks, stored, order, _, confined⟩
  · exact .inl same
  · obtain ⟨invoice, invoiceStored, target, owned⟩ := routable.targets payment stored
    rw [← target] at confined
    exact .inr ⟨params, payment, invoice, asks, stored, order, invoiceStored, target, owned,
      confined, fun other different => confined.others_unchanged routable.paymentIds
        routable.invoiceIds stored invoiceStored owned different⟩

/-- Two institutes generate an invoice each and order its payment from the stub gateway. -/
def twoInstitutes : List FeeOperation :=
  let plan (tenantId : String) (generated : ObjectId) : FeeOperation :=
    .createPlan tenantId generated 0
      { name := "Term", totalAmount := 1000, splitInto := some 1 }
  let generate (tenantId : String) (plan invoice : ObjectId) : FeeOperation :=
    .generateInvoices tenantId (fun _ => (invoice, 0)) plan
      { studentIds := some [.repeated '9'] }
  let order (tenantId : String) (generated invoice : ObjectId) : FeeOperation :=
    .createPaymentOrder tenantId (fun _ => .error .storage) generated invoice
  [plan "institute-a" (.repeated '1'), plan "institute-b" (.repeated '2'),
    generate "institute-a" (.repeated '1') (.repeated 'a'),
    generate "institute-b" (.repeated '2') (.repeated 'b'),
    order "institute-a" (.repeated '3') (.repeated 'a'),
    order "institute-b" (.repeated '4') (.repeated 'b')]

/-- A delivery for the first institute's order. -/
def firstCapture : Delivery :=
  { body :=
      { event := some "payment.captured"
        entity := some { id := some "pay_1", amount := some 100000
                         orderId := some "order_stub_aaaaaaaaaaaaaaaaaaaaaaaa_0" } } }

/-- The payments of the two institutes' orders do not mix. A capture in the first institute pays
its invoice, and leaves the second one's payment, invoice and notifications as they were. -/
theorem two_institutes_apart :
    let database := run (perform CaptureRaces.stubDeployment) {} twoInstitutes
    let delivered := (handle CaptureRaces.stubDeployment
      (fun _ => { now := 1, notification := .repeated 'c' }) firstCapture database).1
    (∀ first ∈ database.payments, ∀ second ∈ database.payments,
      first.gatewayOrderId = second.gatewayOrderId →
        first.tenantId = second.tenantId ∧ first.invoiceId = second.invoiceId) ∧
      database.payments.length = 2 ∧
      delivered.invoices.map FeeInvoice.amountPaid = [1000, 0] ∧
      ofTenant "institute-b" delivered = ofTenant "institute-b" database := by
  intro database delivered
  have stubbed : RazorpayGateway.enabled CaptureRaces.stubDeployment = false := by decide
  obtain ⟨apart, inside⟩ := webhooks_stay_inside CaptureRaces.stubDeployment {} rfl rfl
    twoInstitutes ⟨trivial, trivial, trivial, trivial, fun live => by simp [stubbed] at live,
      fun live => by simp [stubbed] at live, trivial⟩
  refine ⟨apart, by decide +kernel, by decide +kernel, ?_⟩
  rcases inside (fun _ => { now := 1, notification := .repeated 'c' }) firstCapture with
    same | ⟨params, payment, invoice, asks, stored, order, _, _, _, _, others⟩
  · exact congrArg (ofTenant "institute-b") same
  · have asked : captureOf CaptureRaces.stubDeployment firstCapture =
        some { gatewayOrderId := "order_stub_aaaaaaaaaaaaaaaaaaaaaaaa_0"
               gatewayPaymentId := "pay_1", amount := some 1000 } := by
      decide +kernel
    have first : ∀ payment ∈ database.payments,
        payment.gatewayOrderId = "order_stub_aaaaaaaaaaaaaaaaaaaaaaaa_0" →
          "institute-b" ≠ payment.tenantId := by
      decide +kernel
    obtain rfl := Option.some.inj (asks.symm.trans asked)
    exact others "institute-b" (first payment stored order)

end Routing

end CoachingApi
