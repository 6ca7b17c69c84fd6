import CoachingApi.Schemas.Classes

/-!
# Fee plans, invoices, payments and the database that holds them

Amounts are rupees as exact rationals and times are milliseconds. The payment gateway
field has one value only and the timestamps of creation and update are read by no
modelled function; both are left out.
-/

namespace CoachingApi

/-- One installment of a plan. -/
structure Installment where
  label : String
  amount : ℚ
  dueDate : Int
  deriving DecidableEq

/-- A fee structure that generates invoices for students. -/
structure FeePlan where
  id : ObjectId
  tenantId : String := ""
  name : String
  totalAmount : ℚ
  batchId : Option Reference := none
  installments : List Installment := []
  deriving DecidableEq

instance : TenantModel FeePlan where
  modelName := "FeePlan"
  id := FeePlan.id
  tenantId := FeePlan.tenantId
  withTenantId := fun tenant plan => { plan with tenantId := tenant }
  clashes := fun _ _ => false
  refusedPath := fun plan =>
    firstRefused [(plan.name = "", "name"), (plan.totalAmount < 0, "totalAmount"),
      (plan.installments.any (fun installment => installment.label = ""), "installments.label"),
      (plan.installments.any (fun installment => installment.amount < 0), "installments.amount")]
  writeBack := fun loaded current stored =>
    { stored with
      tenantId := written loaded.tenantId current.tenantId stored.tenantId
      name := written loaded.name current.name stored.name
      totalAmount := written loaded.totalAmount current.totalAmount stored.totalAmount
      batchId := written loaded.batchId current.batchId stored.batchId
      installments := written loaded.installments current.installments stored.installments }
  with_tenant_id := fun _ _ => rfl
  with_tenant_same := fun _ => rfl
  with_tenant_keeps := fun _ _ => rfl
  write_back_keeps := fun _ _ _ => rfl

/-- The installments of a plan that passes its validators are labelled and not negative. -/
theorem valid_installments {plan : FeePlan} (valid : TenantModel.refusedPath plan = none) :
    ∀ inst ∈ plan.installments, inst.label ≠ "" ∧ 0 ≤ inst.amount := by
  intro inst member
  have labelled := first_refused_none.mp valid
    (plan.installments.any (fun installment => installment.label = ""), "installments.label")
    (by simp)
  have counted := first_refused_none.mp valid
    (plan.installments.any (fun installment => installment.amount < 0), "installments.amount")
    (by simp)
  simp only [List.any_eq_false, decide_eq_true_eq] at labelled counted
  exact ⟨labelled inst member, not_lt.mp (counted inst member)⟩

/-- An invoice of one student for one installment. -/
structure FeeInvoice where
  id : ObjectId
  tenantId : String
  studentId : ObjectId
  feePlanId : ObjectId
  label : String
  amountDue : ℚ
  amountPaid : ℚ := 0
  dueDate : Int
  status : InvoiceStatus := .pending
  receiptUrl : Option String := none
  deriving DecidableEq

instance : TenantModel FeeInvoice where
  modelName := "FeeInvoice"
  id := FeeInvoice.id
  tenantId := FeeInvoice.tenantId
  withTenantId := fun tenant invoice => { invoice with tenantId := tenant }
  clashes := fun _ _ => false
  refusedPath := fun invoice =>
    firstRefused [(invoice.label = "", "label"), (invoice.amountDue < 0, "amountDue"),
      (invoice.amountPaid < 0, "amountPaid")]
  writeBack := fun loaded current stored =>
    { stored with
      tenantId := written loaded.tenantId current.tenantId stored.tenantId
      studentId := written loaded.studentId current.studentId stored.studentId
      feePlanId := written loaded.feePlanId current.feePlanId stored.feePlanId
      label := written loaded.label current.label stored.label
      amountDue := written loaded.amountDue current.amountDue stored.amountDue
      amountPaid := written loaded.amountPaid current.amountPaid stored.amountPaid
      dueDate := written loaded.dueDate current.dueDate stored.dueDate
      status := written loaded.status current.status stored.status
      receiptUrl := written loaded.receiptUrl current.receiptUrl stored.receiptUrl }
  with_tenant_id := fun _ _ => rfl
  with_tenant_same := fun _ => rfl
  with_tenant_keeps := fun _ _ => rfl
  write_back_keeps := fun _ _ _ => rfl

/-- A gateway payment against an invoice. The gateway's payment id is set on capture
and is unique over all tenants. -/
structure Payment where
  id : ObjectId
  tenantId : String := ""
  invoiceId : ObjectId
  studentId : ObjectId
  amount : ℚ
  gatewayOrderId : String
  gatewayPaymentId : Option String := none
  gatewaySignature : Option String := none
  status : PaymentStatus := .created
  paidAt : Option Int := none
  receiptUrl : Option String := none
  deriving DecidableEq

instance : TenantModel Payment where
  modelName := "Payment"
  id := Payment.id
  tenantId := Payment.tenantId
  withTenantId := fun tenant payment => { payment with tenantId := tenant }
  clashes := fun stored candidate =>
    candidate.gatewayPaymentId.isSome &&
      decide (stored.gatewayPaymentId = candidate.gatewayPaymentId)
  refusedPath := fun payment =>
    firstRefused [(payment.amount < 0, "amount"), (payment.gatewayOrderId = "", "gatewayOrderId")]
  writeBack := fun loaded current stored =>
    { stored with
      tenantId := written loaded.tenantId current.tenantId stored.tenantId
      invoiceId := written loaded.invoiceId current.invoiceId stored.invoiceId
      studentId := written loaded.studentId current.studentId stored.studentId
      amount := written loaded.amount current.amount stored.amount
      gatewayOrderId := written loaded.gatewayOrderId current.gatewayOrderId stored.gatewayOrderId
      gatewayPaymentId :=
        written loaded.gatewayPaymentId current.gatewayPaymentId stored.gatewayPaymentId
      gatewaySignature :=
        written loaded.gatewaySignature current.gatewaySignature stored.gatewaySignature
      status := written loaded.status current.status stored.status
      paidAt := written loaded.paidAt current.paidAt stored.paidAt
      receiptUrl := written loaded.receiptUrl current.receiptUrl stored.receiptUrl }
  with_tenant_id := fun _ _ => rfl
  with_tenant_same := fun _ => rfl
  with_tenant_keeps := fun _ _ => rfl
  write_back_keeps := fun _ _ _ => rfl

/-- The collections the modelled services use, and what was handed to the push service. -/
structure Database where
  tenants : List Tenant := []
  users : List User := []
  students : List Student := []
  batches : List Batch := []
  plans : List FeePlan := []
  invoices : List FeeInvoice := []
  payments : List Payment := []
  notifications : List Notification := []
  pushes : List Push := []
  auditLogs : List AuditLog := []
  assignments : List Assignment := []
  submissions : List Submission := []
  tests : List Test := []
  scores : List TestScore := []
  attendance : List Attendance := []

end CoachingApi
