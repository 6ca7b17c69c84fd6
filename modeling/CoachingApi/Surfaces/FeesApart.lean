import CoachingApi.Surfaces.RecordsApart

/-!
# The fee services on an institute's part

Plans, the generation of invoices and payment orders. A generation upserts one invoice after
the other, each of them apart for the institute, and a new payment has no payment identity of
the gateway, so the index over all tenants compares it with none.
-/

namespace CoachingApi

open TenantModel TenantPlugin TenantContextStore Partitions

section Rows

variable {ambient : Ambient} {tenant : String} (bound : Bound ambient tenant) (plan : FeePlan)
include bound

/-- One upsert of a generation. -/
theorem upsert_invoice_apart {generated : ObjectId} (now : Int) (studentId : ObjectId)
    (inst : Installment) {invoices : List FeeInvoice}
    (distinct : Records.Distinct TenantModel.id invoices)
    (fresh : FreshFor tenant generated invoices) :
    RowsApart tenant invoices
      (FeesService.upsertInvoice ambient generated now plan studentId inst) := by
  have inside : ∀ invoice ∈ invoices, (TenantModel.visible (some tenant) invoice &&
      decide (invoice.studentId = studentId ∧ invoice.feePlanId = plan.id ∧
        invoice.label = inst.label)) = true → tenantId invoice = tenant := by
    intro invoice _ matched
    rw [Bool.and_eq_true] at matched
    exact of_decide_eq_true matched.1
  cases there : invoices.any (fun invoice => TenantModel.visible (some tenant) invoice &&
      decide (invoice.studentId = studentId ∧ invoice.feePlanId = plan.id ∧
        invoice.label = inst.label)) with
  | true =>
    apply (answering_apart distinct false).agree <;>
      simp only [FeesService.upsertInvoice, scope_bound bound, any_own inside, there, if_true]
  | false =>
    obtain ⟨added, same⟩ : ∃ added : FeeInvoice, added =
        { id := generated, tenantId := tenant, studentId := studentId, feePlanId := plan.id,
          label := inst.label, amountDue := inst.amount, amountPaid := 0, dueDate := inst.dueDate,
          status := computeInvoiceStatus inst.amount 0 inst.dueDate now } := ⟨_, rfl⟩
    have owned : tenantId added = tenant := by rw [same]; rfl
    have identity : TenantModel.id added = generated := by rw [same]; rfl
    have unindexed : ∀ invoice : FeeInvoice, clashes invoice added = false := fun _ => rfl
    have inserts := inserting_apart distinct owned (identity.symm ▸ fresh)
      (never_led unindexed) true
    apply inserts.agree <;>
      simp only [FeesService.upsertInvoice, scope_bound bound, any_own inside, there,
        Bool.false_eq_true, if_false, Option.getD_some, ← same, identity, unindexed, Bool.or_false]
      <;> rfl

/-- The loop of a generation.

Proof: by induction on the students and installments. The identities that are still to be drawn
stay fresh, because an upsert leaves the rows of the others as they are. -/
theorem upsert_invoices_apart (work : List (ObjectId × Installment))
    {draw : Nat → ObjectId × Int} (created : Nat) {invoices : List FeeInvoice}
    (distinct : Records.Distinct TenantModel.id invoices)
    (fresh : ∀ i, FreshFor tenant (draw i).1 invoices) :
    Apart ownRows (Records.Distinct TenantModel.id) tenant invoices
      (FeesService.upsertInvoices ambient plan work draw created) := by
  induction work generalizing draw created invoices with
  | nil => exact apart_answer distinct (.ok created)
  | cons item rest inductionHypothesis =>
    obtain ⟨studentId, inst⟩ := item
    have first := (upsert_invoice_apart bound plan (draw 0).2 studentId inst distinct
      (fresh 0)).attempt distinct
    have whole : Apart ownRows (Records.Distinct TenantModel.id) tenant invoices
        (andThen
          (attempt (FeesService.upsertInvoice ambient (draw 0).1 (draw 0).2 plan studentId inst))
          (fun upserted => FeesService.upsertInvoices ambient plan rest (fun i => draw (i + 1))
            (if upserted then created + 1 else created))) :=
      first.andThen (fun upserted _ => inductionHypothesis _ first.kept
        (fun i => fresh_kept (fresh (i + 1)) first.others))
    apply whole.agree <;> simp only [FeesService.upsertInvoices, andThen, attempt]
    · cases FeesService.upsertInvoice ambient (draw 0).1 (draw 0).2 plan studentId inst
        invoices <;> rfl
    · cases FeesService.upsertInvoice ambient (draw 0).1 (draw 0).2 plan studentId inst
        (ownRows tenant invoices) <;> rfl

/-- The students of a generation are those of the part. -/
theorem generation_students_on_part (campus : Campus) (dto : GenerateInvoicesDto) :
    FeesService.generationStudents ambient plan dto (campus.part tenant).database =
      FeesService.generationStudents ambient plan dto campus.database := by
  simp only [FeesService.generationStudents, Campus.part, find_on_own bound]

/-- An invoice is read from the part. -/
theorem get_invoice_on_part (campus : Campus) (invoiceId : ObjectId) :
    FeesService.getInvoice ambient invoiceId (campus.part tenant).database =
      FeesService.getInvoice ambient invoiceId campus.database := by
  simp only [FeesService.getInvoice, Campus.part, find_by_id_on_own bound]

end Rows

section Services

variable {ambient : Ambient} {tenant : String} (bound : Bound ambient tenant) {campus : Campus}
  (identified : campus.Identified)
include bound identified

/-- The creation of a plan. -/
theorem create_plan_apart (deployment : Deployment) {generated : ObjectId}
    (free : campus.Free tenant generated) (now : Int) (dto : CreateFeePlanDto) :
    ApartFor tenant campus
      (onDatabase (FeesService.createPlan deployment ambient generated now dto)) := by
  cases made : FeesService.planInstallments now dto with
  | error thrown =>
    apply (apart_answer identified (.error thrown)).agree <;>
      simp only [onDatabase, FeesService.createPlan, made]
  | ok installments =>
    by_cases empty : installments.isEmpty = true
    · apply (apart_answer identified
        (.error (.badRequest "Provide installments or splitInto"))).agree <;>
        simp only [onDatabase, FeesService.createPlan, made, if_pos empty]
    · obtain ⟨sum, total⟩ : ∃ sum, sum = (installments.map Installment.amount).sum := ⟨_, rfl⟩
      by_cases apart : round (sum * 100) ≠ round (dto.totalAmount * 100)
      · apply (apart_answer identified (.error (.badRequest
          (s!"Installments ({deployment.numberToString sum}) must sum to " ++
            s!"totalAmount ({deployment.numberToString dto.totalAmount})")))).agree <;>
          simp only [onDatabase, FeesService.createPlan, made, if_neg empty, ← total, if_pos apart]
      · obtain ⟨plan, same⟩ : ∃ plan : FeePlan, plan =
            { id := generated, name := dto.name, totalAmount := dto.totalAmount,
              batchId := dto.batchId.map PostedId.reference, installments := installments } := ⟨_, rfl⟩
        have identity : TenantModel.id plan = generated := by rw [same]; rfl
        have creates : RowsApart tenant campus.database.plans (create ambient plan) :=
          create_apart bound identified.plans (identity.symm ▸ Collection.plans.fresh free)
            (never_led (fun _ => rfl))
        apply (Collection.plans.write_apart identified creates).agree <;>
          simp only [onDatabase, FeesService.createPlan, made, if_neg empty, ← total,
            if_neg apart, ← same, Collection.write_eq, Collection.plans]
        · cases create ambient plan campus.database.plans <;> rfl
        · cases create ambient plan (campus.part tenant).database.plans <;> rfl

/-- The generation of invoices. -/
theorem generate_invoices_apart {draw : Nat → ObjectId × Int}
    (free : ∀ i, campus.Free tenant (draw i).1) (planId : ObjectId) (dto : GenerateInvoicesDto) :
    ApartFor tenant campus
      (onDatabase (FeesService.generateInvoices ambient draw planId dto)) := by
  have plans : findById ambient planId (campus.part tenant).database.plans =
      findById ambient planId campus.database.plans := find_by_id_on_own bound _ _
  cases found : findById ambient planId campus.database.plans with
  | error thrown =>
    apply (apart_answer identified (.error thrown)).agree <;>
      simp only [onDatabase, FeesService.generateInvoices, plans, found]
  | ok held =>
    cases held with
    | none =>
      apply (apart_answer identified (.error (.notFound "Fee plan not found"))).agree <;>
        simp only [onDatabase, FeesService.generateInvoices, plans, found]
    | some plan =>
      by_cases empty : plan.installments.isEmpty = true
      · apply (apart_answer identified
          (.error (.badRequest "Fee plan has no installments"))).agree <;>
          simp only [onDatabase, FeesService.generateInvoices, plans, found, if_pos empty]
      · have students := generation_students_on_part bound plan campus dto
        cases selected : FeesService.generationStudents ambient plan dto campus.database with
        | error thrown =>
          apply (apart_answer identified (.error thrown)).agree <;>
            simp only [onDatabase, FeesService.generateInvoices, plans, found, if_neg empty,
              students, selected]
        | ok studentIds =>
          have loops := upsert_invoices_apart bound plan (studentIds.flatMap (fun studentId =>
            plan.installments.map (fun inst => (studentId, inst)))) 0 identified.invoices
            (fun i => Collection.invoices.fresh (free i))
          apply (Collection.invoices.on_apart identified loops).agree
          · simp only [onDatabase, FeesService.generateInvoices, found, if_neg empty, selected]
            rfl
          · simp only [onDatabase, FeesService.generateInvoices, plans, found, if_neg empty,
              students, selected]
            rfl

/-- A payment order. -/
theorem create_payment_order_apart (deployment : Deployment)
    (live : OrderRequest → Except Thrown OrderReply) {generated : ObjectId}
    (free : campus.Free tenant generated) (invoiceId : ObjectId) :
    ApartFor tenant campus
      (onDatabase (FeesService.createPaymentOrder deployment ambient live generated invoiceId)) := by
  have invoices := get_invoice_on_part bound campus invoiceId
  cases found : FeesService.getInvoice ambient invoiceId campus.database with
  | error thrown =>
    apply (apart_answer identified (.error thrown)).agree <;>
      simp only [onDatabase, FeesService.createPaymentOrder, invoices, found]
  | ok invoice =>
    by_cases settled : invoice.status = .paid
    · apply (apart_answer identified (.error (.badRequest "Invoice already paid"))).agree <;>
        simp only [onDatabase, FeesService.createPaymentOrder, invoices, found, if_pos settled]
    · cases ordered : RazorpayGateway.createOrder deployment live
          (invoice.amountDue - invoice.amountPaid)
          s!"{invoice.id.hex}_{deployment.numberToString invoice.amountPaid}"
          [("invoiceId", invoice.id.hex), ("tenantId", invoice.tenantId)] with
      | error thrown =>
        apply (apart_answer identified (.error thrown)).agree <;>
          simp only [onDatabase, FeesService.createPaymentOrder, invoices, found, if_neg settled,
            ordered]
      | ok order =>
        obtain ⟨payment, same⟩ : ∃ payment : Payment, payment =
            { id := generated, invoiceId := invoice.id, studentId := invoice.studentId,
              amount := invoice.amountDue - invoice.amountPaid,
              gatewayOrderId := order.gatewayOrderId, status := .created } := ⟨_, rfl⟩
        have identity : TenantModel.id payment = generated := by rw [same]; rfl
        have unpaid : payment.gatewayPaymentId = none := by rw [same]
        have unindexed : ∀ stored : Payment, clashes stored (withTenantId tenant payment) = false := by
          intro stored
          simp [clashes, withTenantId, unpaid]
        have creates : RowsApart tenant campus.database.payments (create ambient payment) :=
          create_apart bound identified.payments (identity.symm ▸ Collection.payments.fresh free)
            (never_led unindexed)
        have orders := creates.answered (fun created =>
          .ok { paymentId := created.id, gatewayOrderId := order.gatewayOrderId,
                amount := invoice.amountDue - invoice.amountPaid,
                keyId := deployment.keyId : PaymentOrder })
        apply (Collection.payments.write_apart identified orders).agree <;>
          simp only [onDatabase, FeesService.createPaymentOrder, invoices, found, if_neg settled,
            ordered, ← same, Collection.write_eq, Collection.payments, answered]
        · cases create ambient payment campus.database.payments <;> rfl
        · cases create ambient payment (campus.part tenant).database.payments <;> rfl

end Services

end CoachingApi
