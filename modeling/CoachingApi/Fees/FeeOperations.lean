import CoachingApi.Fees.SerialCapture
import CoachingApi.Library.Runs

/-!
# The fee operations, one at a time

The requests of institutes and the deliveries of the gateway as one operation type on
the whole database. Each operation has a lemma that says everything it can write; the
invariants of serial runs are proved from these.
-/

namespace CoachingApi

open TenantContextStore TenantPlugin Runs

/-- A request of an institute's member, or a delivery of the gateway. -/
inductive FeeOperation where
  | createPlan (tenantId : String) (generated : ObjectId) (now : Int) (dto : CreateFeePlanDto)
  | generateInvoices (tenantId : String) (draw : Nat → ObjectId × Int) (planId : ObjectId)
      (dto : GenerateInvoicesDto)
  | createPaymentOrder (tenantId : String) (live : OrderRequest → Except Thrown OrderReply)
      (generated : ObjectId) (invoiceId : ObjectId)
  | deliver (inputs : AwaitPoint → StepInput) (delivery : Delivery)

namespace FeesService

/-- The database after an operation. -/
def perform (deployment : Deployment) (database : Database) : FeeOperation → Database
  | .createPlan tenantId generated now dto =>
    (createPlan deployment (WebhooksController.contextOf tenantId) generated now dto database).1
  | .generateInvoices tenantId draw planId dto =>
    (generateInvoices (WebhooksController.contextOf tenantId) draw planId dto database).1
  | .createPaymentOrder tenantId live generated invoiceId =>
    (createPaymentOrder deployment (WebhooksController.contextOf tenantId) live generated invoiceId
      database).1
  | .deliver inputs delivery =>
    (WebhooksController.handle deployment inputs delivery database).1

/-- A tenant's context is bound to the tenant or refuses everything. -/
theorem context_bound (tenantId : String) :
    Bound (WebhooksController.contextOf tenantId) tenantId ∨
      Unbound (WebhooksController.contextOf tenantId) := by
  by_cases named : tenantId = ""
  · exact .inr ⟨rfl, by simp [WebhooksController.contextOf, getTenantId, present, named]⟩
  · exact .inl (bound_run tenantId named)

/-- A plan as its creation stores it. -/
structure CreatedPlan (tenantId : String) (now : Int) (dto : CreateFeePlanDto) (plan : FeePlan) :
    Prop where
  owned : plan.tenantId = tenantId
  installments : planInstallments now dto = .ok plan.installments
  valid : TenantModel.refusedPath plan = none

/-- Creating a plan stores at most one plan and nothing else. -/
theorem create_plan_appends (deployment : Deployment) {ambient : Ambient} {tenantId : String}
    (bound : Bound ambient tenantId) (generated : ObjectId) (now : Int) (dto : CreateFeePlanDto)
    (database : Database) :
    ∃ added, (createPlan deployment ambient generated now dto database).1 =
        { database with plans := database.plans ++ added } ∧
      ∀ plan ∈ added, CreatedPlan tenantId now dto plan := by
  have nothing : ∃ added, database = { database with plans := database.plans ++ added } ∧
      ∀ plan ∈ added, CreatedPlan tenantId now dto plan :=
    ⟨[], by simp, by simp⟩
  unfold createPlan
  cases planned : planInstallments now dto with
  | error thrown => exact nothing
  | ok installments =>
    simp only
    split
    · exact nothing
    · split
      · exact nothing
      · split
        · exact nothing
        · rename_i plan plans created
          obtain ⟨valid, appended, _⟩ := TenantModel.create_ok created
          obtain ⟨stamp, accepted⟩ := TenantModel.validate_ok bound valid
          refine ⟨[plan], by rw [appended], ?_⟩
          intro other member
          obtain rfl := List.mem_singleton.mp member
          exact ⟨by rw [stamp]; rfl, by rw [planned, stamp]; rfl, accepted⟩

/-- An invoice as its generation stores it: unpaid, for an installment of one of the
tenant's plans. -/
structure Generated (tenantId : String) (plans : List FeePlan) (invoice : FeeInvoice) : Prop where
  owned : invoice.tenantId = tenantId
  unpaid : invoice.amountPaid = 0
  open_ : invoice.status ≠ .paid
  source : ∃ plan ∈ plans, plan.tenantId = tenantId ∧ ∃ inst ∈ plan.installments,
    invoice.label = inst.label ∧ invoice.amountDue = inst.amount

/-- An upsert stores at most one generated invoice, under a new identity. -/
theorem upsert_appends {ambient : Ambient} {tenantId : String} (bound : Bound ambient tenantId)
    {generated : ObjectId} {now : Int} {plan : FeePlan} {studentId : ObjectId}
    {inst : Installment} {invoices updated : List FeeInvoice} {upserted : Bool}
    {plans : List FeePlan} (stored : plan ∈ plans) (owned : plan.tenantId = tenantId)
    (listed : inst ∈ plan.installments)
    (result : upsertInvoice ambient generated now plan studentId inst invoices =
      .ok (upserted, updated)) :
    ∃ added, updated = invoices ++ added ∧
      (Records.Distinct FeeInvoice.id invoices → Records.Distinct FeeInvoice.id updated) ∧
      ∀ invoice ∈ added, Generated tenantId plans invoice := by
  unfold upsertInvoice at result
  rw [scope_bound bound] at result
  simp only at result
  split at result
  · obtain ⟨_, rfl⟩ := Prod.mk.inj (Except.ok.inj result)
    exact ⟨[], by simp, id, by simp⟩
  · split at result
    · simp at result
    · rename_i free
      obtain ⟨_, rfl⟩ := Prod.mk.inj (Except.ok.inj result)
      refine ⟨_, rfl, ?_, ?_⟩
      · intro distinct
        simp only [List.any_eq_true, decide_eq_true_eq, not_exists, not_and] at free
        exact Records.append_distinct distinct (fun invoice held => free invoice held)
      · intro invoice member
        obtain rfl := List.mem_singleton.mp member
        refine ⟨rfl, rfl, ?_, plan, stored, owned, inst, listed, rfl, rfl⟩
        intro paid
        obtain ⟨covered, positive⟩ := (status_paid_iff _ _ _ _).mp paid
        linarith

/-- The generation loop stores generated invoices under new identities.

Proof: by induction on the students and installments that remain. -/
theorem upserts_append {ambient : Ambient} {tenantId : String} (bound : Bound ambient tenantId)
    {plan : FeePlan} {plans : List FeePlan} (stored : plan ∈ plans)
    (owned : plan.tenantId = tenantId) (pairs : List (ObjectId × Installment))
    (listed : ∀ pair ∈ pairs, pair.2 ∈ plan.installments) (draw : Nat → ObjectId × Int)
    (created : Nat) (invoices : List FeeInvoice) :
    ∃ added, (upsertInvoices ambient plan pairs draw created invoices).1 = invoices ++ added ∧
      (Records.Distinct FeeInvoice.id invoices → Records.Distinct FeeInvoice.id
        (upsertInvoices ambient plan pairs draw created invoices).1) ∧
      ∀ invoice ∈ added, Generated tenantId plans invoice := by
  induction pairs generalizing draw created invoices with
  | nil => exact ⟨[], by simp [upsertInvoices], id, by simp⟩
  | cons pair rest inductionHypothesis =>
    obtain ⟨studentId, inst⟩ := pair
    unfold upsertInvoices
    cases result : upsertInvoice ambient (draw 0).1 (draw 0).2 plan studentId inst invoices with
    | error thrown => exact ⟨[], by simp, id, by simp⟩
    | ok outcome =>
      obtain ⟨upserted, updated⟩ := outcome
      obtain ⟨first, rfl, firstDistinct, firstGenerated⟩ :=
        upsert_appends bound stored owned (listed (studentId, inst) (by simp)) result
      obtain ⟨later, appended, laterDistinct, laterGenerated⟩ :=
        inductionHypothesis (fun pair member => listed pair (by simp [member]))
          (fun i => draw (i + 1)) (if upserted then created + 1 else created) (invoices ++ first)
      refine ⟨first ++ later, ?_, fun distinct => laterDistinct (firstDistinct distinct), ?_⟩
      · simp only [appended, List.append_assoc]
      · intro invoice member
        rcases List.mem_append.mp member with early | late
        · exact firstGenerated invoice early
        · exact laterGenerated invoice late

/-- Generating invoices stores generated invoices and nothing else. -/
theorem generate_appends {ambient : Ambient} {tenantId : String} (bound : Bound ambient tenantId)
    (draw : Nat → ObjectId × Int) (planId : ObjectId) (dto : GenerateInvoicesDto)
    (database : Database) :
    ∃ added, (generateInvoices ambient draw planId dto database).1 =
        { database with invoices := database.invoices ++ added } ∧
      (Records.Distinct FeeInvoice.id database.invoices →
        Records.Distinct FeeInvoice.id (database.invoices ++ added)) ∧
      ∀ invoice ∈ added, Generated tenantId database.plans invoice := by
  have nothing : ∃ added, database = { database with invoices := database.invoices ++ added } ∧
      (Records.Distinct FeeInvoice.id database.invoices →
        Records.Distinct FeeInvoice.id (database.invoices ++ added)) ∧
      ∀ invoice ∈ added, Generated tenantId database.plans invoice :=
    ⟨[], by simp, by simp, by simp⟩
  unfold generateInvoices
  cases found : TenantModel.findById ambient planId database.plans with
  | error thrown => exact nothing
  | ok result =>
    cases result with
    | none => exact nothing
    | some plan =>
      obtain ⟨stored, owned, _⟩ := TenantModel.find_one_owned bound found
      simp only
      split
      · exact nothing
      · split
        · exact nothing
        · rename_i studentIds _
          obtain ⟨added, appended, distinct, generated⟩ := upserts_append bound stored owned
            (studentIds.flatMap (fun studentId =>
              plan.installments.map (fun inst => (studentId, inst))))
            (by
              intro pair member
              obtain ⟨studentId, _, paired⟩ := List.mem_flatMap.mp member
              obtain ⟨inst, listed, rfl⟩ := List.mem_map.mp paired
              exact listed)
            draw 0 database.invoices
          exact ⟨added, by simp only [appended], appended ▸ distinct, generated⟩

/-- A payment as its order creates it: for the outstanding balance of an invoice of the
tenant that is not paid. -/
structure Ordered (deployment : Deployment) (tenantId : String)
    (live : OrderRequest → Except Thrown OrderReply) (invoice : FeeInvoice) (payment : Payment) :
    Prop where
  owned : payment.tenantId = tenantId
  target : payment.invoiceId = invoice.id
  balance : payment.amount = invoice.amountDue - invoice.amountPaid
  uncaptured : payment.gatewayPaymentId = none
  created : payment.status = .created
  valid : TenantModel.refusedPath payment = none
  order : (RazorpayGateway.enabled deployment = true ∧
      ∃ request reply, live request = .ok reply ∧ payment.gatewayOrderId = reply.id ∧
        request.amount = round (payment.amount * 100)) ∨
    (RazorpayGateway.enabled deployment = false ∧ payment.gatewayOrderId =
      s!"order_stub_{invoice.id.hex}_{deployment.numberToString invoice.amountPaid}")

/-- Creating an order is refused and changes nothing, or stores one payment for the balance of
an invoice of the tenant, under a new identity, and answers with it. -/
theorem order_cases (deployment : Deployment) {ambient : Ambient} {tenantId : String}
    (bound : Bound ambient tenantId) (live : OrderRequest → Except Thrown OrderReply)
    (generated : ObjectId) (invoiceId : ObjectId) (database : Database) :
    (∃ thrown, createPaymentOrder deployment ambient live generated invoiceId database =
        (database, .error thrown)) ∨
      ∃ payment invoice order,
        createPaymentOrder deployment ambient live generated invoiceId database =
            ({ database with payments := database.payments ++ [payment] }, .ok order) ∧
          (order.gatewayOrderId = payment.gatewayOrderId ∧ order.amount = payment.amount) ∧
          invoice ∈ database.invoices ∧ invoice.id = invoiceId ∧ invoice.tenantId = tenantId ∧
          invoice.status ≠ .paid ∧ (∀ stored ∈ database.payments, stored.id ≠ payment.id) ∧
          Ordered deployment tenantId live invoice payment := by
  unfold createPaymentOrder getInvoice
  cases found : TenantModel.findById ambient invoiceId database.invoices with
  | error thrown => exact .inl ⟨_, rfl⟩
  | ok result =>
    cases result with
    | none => exact .inl ⟨_, rfl⟩
    | some invoice =>
      obtain ⟨stored, owned, sought⟩ := TenantModel.find_one_owned bound found
      have same : invoice.id = invoiceId := of_decide_eq_true sought
      simp only
      split
      · exact .inl ⟨_, rfl⟩
      · rename_i unpaid
        split
        · exact .inl ⟨_, rfl⟩
        · rename_i order ordered
          split
          · exact .inl ⟨_, rfl⟩
          · rename_i payment payments created
            obtain ⟨valid, appended, fresh⟩ := TenantModel.create_ok created
            obtain ⟨stamp, accepted⟩ := TenantModel.validate_ok bound valid
            refine .inr ⟨payment, invoice, _, by rw [appended], ⟨?_, ?_⟩, stored, same, owned, unpaid,
              fun held member => (fresh held member).1, ?_⟩
            · rw [stamp]
              rfl
            · rw [stamp]
              rfl
            rw [stamp] at accepted ⊢
            refine ⟨rfl, rfl, rfl, rfl, rfl, accepted, ?_⟩
            unfold RazorpayGateway.createOrder at ordered
            cases enabled : RazorpayGateway.enabled deployment with
            | true =>
              simp only [enabled, if_true] at ordered
              split at ordered
              · simp at ordered
              · rename_i reply answered
                refine .inl ⟨rfl, _, reply, answered, ?_, rfl⟩
                rw [← Except.ok.inj ordered]
                rfl
            | false =>
              simp only [enabled, Bool.false_eq_true, if_false] at ordered
              refine .inr ⟨rfl, ?_⟩
              rw [← Except.ok.inj ordered]
              rfl

/-- An answered order ran in its tenant's context. -/
theorem order_bound {deployment : Deployment} {tenantId : String}
    {live : OrderRequest → Except Thrown OrderReply} {generated invoiceId : ObjectId}
    {database after : Database} {order : PaymentOrder}
    (placed : createPaymentOrder deployment (WebhooksController.contextOf tenantId) live generated
      invoiceId database = (after, .ok order)) :
    Bound (WebhooksController.contextOf tenantId) tenantId := by
  rcases context_bound tenantId with bound | unbound
  · exact bound
  · obtain ⟨thrown, failed⟩ := TenantModel.find_one_unbound unbound
      (fun invoice : FeeInvoice => decide (TenantModel.id invoice = invoiceId)) database.invoices
    simp [createPaymentOrder, getInvoice, TenantModel.findById, failed] at placed

/-- What an operation does to the database. -/
inductive FeeEffect (deployment : Deployment) (database : Database) :
    FeeOperation → Database → Prop where
  | nothing (operation : FeeOperation) : FeeEffect deployment database operation database
  | plans (tenantId : String) (generated : ObjectId) (now : Int) (dto : CreateFeePlanDto)
      (added : List FeePlan) (created : ∀ plan ∈ added, CreatedPlan tenantId now dto plan) :
      FeeEffect deployment database (.createPlan tenantId generated now dto)
        { database with plans := database.plans ++ added }
  | invoices (tenantId : String) (draw : Nat → ObjectId × Int) (planId : ObjectId)
      (dto : GenerateInvoicesDto) (named : tenantId ≠ "") (added : List FeeInvoice)
      (distinct : Records.Distinct FeeInvoice.id database.invoices →
        Records.Distinct FeeInvoice.id (database.invoices ++ added))
      (generated : ∀ invoice ∈ added, Generated tenantId database.plans invoice) :
      FeeEffect deployment database (.generateInvoices tenantId draw planId dto)
        { database with invoices := database.invoices ++ added }
  | order (tenantId : String) (live : OrderRequest → Except Thrown OrderReply)
      (generated invoiceId : ObjectId) (named : tenantId ≠ "") (payment : Payment)
      (invoice : FeeInvoice) (stored : invoice ∈ database.invoices)
      (owned : invoice.tenantId = tenantId) (unpaid : invoice.status ≠ .paid)
      (fresh : ∀ held ∈ database.payments, held.id ≠ payment.id)
      (ordered : Ordered deployment tenantId live invoice payment) :
      FeeEffect deployment database (.createPaymentOrder tenantId live generated invoiceId)
        { database with payments := database.payments ++ [payment] }
  | delivered (inputs : AwaitPoint → StepInput) (delivery : Delivery) :
      FeeEffect deployment database (.deliver inputs delivery)
        (WebhooksController.handle deployment inputs delivery database).1

/-- Every operation has one of the effects. -/
theorem perform_effect (deployment : Deployment) (database : Database)
    (operation : FeeOperation) :
    FeeEffect deployment database operation (perform deployment database operation) := by
  cases operation with
  | createPlan tenantId generated now dto =>
    rcases context_bound tenantId with bound | unbound
    · obtain ⟨added, result, created⟩ :=
        create_plan_appends deployment bound generated now dto database
      simp only [perform, result]
      exact .plans tenantId generated now dto added created
    · have refused : perform deployment database (.createPlan tenantId generated now dto) =
          database := by
        simp only [perform, createPlan]
        cases planInstallments now dto with
        | error thrown => rfl
        | ok installments =>
          obtain ⟨thrown, failed⟩ := TenantModel.create_unbound unbound
            { id := generated, name := dto.name, totalAmount := dto.totalAmount,
              batchId := dto.batchId.map PostedId.reference,
              installments := installments : FeePlan } database.plans
          simp only [failed]
          split
          · rfl
          · split <;> rfl
      rw [refused]
      exact .nothing _
  | generateInvoices tenantId draw planId dto =>
    rcases context_bound tenantId with bound | unbound
    · obtain ⟨added, result, distinct, generated⟩ :=
        generate_appends bound draw planId dto database
      simp only [perform, result]
      exact .invoices tenantId draw planId dto bound.nonempty added distinct generated
    · obtain ⟨thrown, failed⟩ := TenantModel.find_one_unbound unbound
        (fun plan : FeePlan => decide (TenantModel.id plan = planId)) database.plans
      simp only [perform, generateInvoices, TenantModel.findById, failed]
      exact .nothing _
  | createPaymentOrder tenantId live generated invoiceId =>
    rcases context_bound tenantId with bound | unbound
    · rcases order_cases deployment bound live generated invoiceId database with
        ⟨thrown, same⟩ | ⟨payment, invoice, order, result, _, stored, _, owned, unpaid, fresh,
          ordered⟩
      · simp only [perform, same]
        exact .nothing _
      · simp only [perform, result]
        exact .order tenantId live generated invoiceId bound.nonempty payment invoice stored owned
          unpaid fresh ordered
    · obtain ⟨thrown, failed⟩ := TenantModel.find_one_unbound unbound
        (fun invoice : FeeInvoice => decide (TenantModel.id invoice = invoiceId))
        database.invoices
      simp only [perform, createPaymentOrder, getInvoice, TenantModel.findById, failed]
      exact .nothing _
  | deliver inputs delivery => exact .delivered inputs delivery

end FeesService

end CoachingApi
