import CoachingApi.Common.ValidationPipe
import CoachingApi.Fees.RazorpayGateway

/-!
# Fee plans, invoice generation and payment orders

The service operations that precede a capture, on the whole database. Identities and
clock readings are inputs. Generation walks students and installments in order and
upserts one invoice at a time; what was stored before a failure stays stored. The listings of
plans and of invoices are here too.
-/

namespace CoachingApi

open TenantContextStore TenantPlugin

/-- The body of a plan creation. Dates are parsed. -/
structure CreateFeePlanDto where
  name : String
  totalAmount : ℚ
  batchId : Option PostedId := none
  installments : Option (List Installment) := none
  splitInto : Option Int := none
  firstDueDate : Option Int := none

/-- The body of an invoice generation. -/
structure GenerateInvoicesDto where
  studentIds : Option (List ObjectId) := none

/-- The query of a listing of invoices. -/
structure InvoiceFilter where
  studentId : Option String := none
  status : Option InvoiceStatus := none

/-- What a payment order hands to the client. -/
structure PaymentOrder where
  paymentId : ObjectId
  gatewayOrderId : String
  amount : ℚ
  keyId : Option String
  deriving DecidableEq

namespace FeesService

/-- `listPlans`, the newest first. Creation times are taken to grow with the order of
creation. -/
def listPlans (ambient : Ambient) (database : Database) : Except Thrown (List FeePlan) :=
  (TenantModel.find ambient (fun _ => true) database.plans).map List.reverse

/-- The installments a plan is created with: the explicit ones, otherwise a split. -/
def planInstallments (now : Int) (dto : CreateFeePlanDto) : Except Thrown (List Installment) :=
  match dto.installments.getD [], dto.splitInto with
  | [], some splitInto =>
    if splitInto = 0 then .ok []
    else splitEqualInstallments dto.totalAmount splitInto (dto.firstDueDate.getD now)
  | installments, _ => .ok installments

/-- `createPlan`. -/
def createPlan (deployment : Deployment) (ambient : Ambient) (generated : ObjectId) (now : Int)
    (dto : CreateFeePlanDto) (database : Database) : Database × Except Thrown FeePlan :=
  match planInstallments now dto with
  | .error thrown => (database, .error thrown)
  | .ok installments =>
    if installments.isEmpty then
      (database, .error (.badRequest "Provide installments or splitInto"))
    else
      let sum := (installments.map Installment.amount).sum
      if round (sum * 100) ≠ round (dto.totalAmount * 100) then
        (database, .error (.badRequest
          (s!"Installments ({deployment.numberToString sum}) must sum to " ++
            s!"totalAmount ({deployment.numberToString dto.totalAmount})")))
      else
        match TenantModel.create ambient
            { id := generated, name := dto.name, totalAmount := dto.totalAmount,
              batchId := dto.batchId.map PostedId.reference, installments := installments : FeePlan }
            database.plans with
        | .error thrown => (database, .error thrown)
        | .ok (plan, plans) => ({ database with plans := plans }, .ok plan)

/-- Upsert one invoice by student, plan and label; whether it was inserted. Nothing but
the scope decides its tenant, and no validator runs. -/
def upsertInvoice (ambient : Ambient) (generated : ObjectId) (now : Int) (plan : FeePlan)
    (studentId : ObjectId) (inst : Installment) (invoices : List FeeInvoice) :
    Except Thrown (Bool × List FeeInvoice) :=
  let status := computeInvoiceStatus inst.amount 0 inst.dueDate now
  match queryScope ambient "query" "FeeInvoice" with
  | .error message => .error (.error message)
  | .ok scope =>
    if invoices.any (fun invoice => TenantModel.visible scope invoice &&
        decide (invoice.studentId = studentId ∧ invoice.feePlanId = plan.id ∧
          invoice.label = inst.label)) then .ok (false, invoices)
    else if invoices.any (fun invoice => decide (invoice.id = generated)) then
      .error .duplicateKey
    else
      .ok (true, invoices ++
        [{ id := generated, tenantId := scope.getD "", studentId := studentId,
           feePlanId := plan.id, label := inst.label, amountDue := inst.amount, amountPaid := 0,
           dueDate := inst.dueDate, status := status }])

/-- The loop over students and installments. Each upsert draws an identity and a clock
reading; the first failure ends it. -/
def upsertInvoices (ambient : Ambient) (plan : FeePlan) :
    List (ObjectId × Installment) → (Nat → ObjectId × Int) → Nat → List FeeInvoice →
      List FeeInvoice × Except Thrown Nat
  | [], _, created, invoices => (invoices, .ok created)
  | (studentId, inst) :: rest, draw, created, invoices =>
    match upsertInvoice ambient (draw 0).1 (draw 0).2 plan studentId inst invoices with
    | .error thrown => (invoices, .error thrown)
    | .ok (upserted, updated) =>
      upsertInvoices ambient plan rest (fun i => draw (i + 1))
        (if upserted then created + 1 else created) updated

/-- The students of a generation: the listed ones, otherwise those that hold the plan's batch as
the plan does. -/
def generationStudents (ambient : Ambient) (plan : FeePlan) (dto : GenerateInvoicesDto)
    (database : Database) : Except Thrown (List ObjectId) :=
  match dto.studentIds.getD [] with
  | [] =>
    match plan.batchId with
    | none => .error (.badRequest "Plan has no batch; provide studentIds")
    | some batchId =>
      (TenantModel.find ambient (fun student => student.holds batchId)
        database.students).map (fun students => students.map Student.id)
  | studentIds => .ok studentIds

/-- `generateInvoices`: how many were created. -/
def generateInvoices (ambient : Ambient) (draw : Nat → ObjectId × Int) (planId : ObjectId)
    (dto : GenerateInvoicesDto) (database : Database) : Database × Except Thrown Nat :=
  match TenantModel.findById ambient planId database.plans with
  | .error thrown => (database, .error thrown)
  | .ok none => (database, .error (.notFound "Fee plan not found"))
  | .ok (some plan) =>
    if plan.installments.isEmpty then
      (database, .error (.badRequest "Fee plan has no installments"))
    else
      match generationStudents ambient plan dto database with
      | .error thrown => (database, .error thrown)
      | .ok studentIds =>
        let outcome := upsertInvoices ambient plan
          (studentIds.flatMap (fun studentId => plan.installments.map (fun inst => (studentId, inst))))
          draw 0 database.invoices
        ({ database with invoices := outcome.1 }, outcome.2)

/-- The student of a filter, unless it names none. -/
def filterStudent (filter : InvoiceFilter) : Except Thrown (Option ObjectId) :=
  match present filter.studentId with
  | none => .ok none
  | some studentId =>
    match ObjectId.cast studentId with
    | some id => .ok (some id)
    | none => .error (.error
        "input must be a 24 character hex string, 12 byte Uint8Array, or an integer")

/-- `listInvoices`, by due date. -/
def listInvoices (ambient : Ambient) (filter : InvoiceFilter) (database : Database) :
    Except Thrown (List FeeInvoice) :=
  match filterStudent filter with
  | .error thrown => .error thrown
  | .ok studentId =>
    (TenantModel.find ambient
      (fun invoice => decide ((∀ id ∈ studentId, invoice.studentId = id) ∧
        ∀ status ∈ filter.status, invoice.status = status))
      database.invoices).map
        (fun invoices => invoices.mergeSort (fun first second =>
          decide (first.dueDate ≤ second.dueDate)))

/-- `getInvoice`. -/
def getInvoice (ambient : Ambient) (invoiceId : ObjectId) (database : Database) :
    Except Thrown FeeInvoice :=
  match TenantModel.findById ambient invoiceId database.invoices with
  | .error thrown => .error thrown
  | .ok none => .error (.notFound "Invoice not found")
  | .ok (some invoice) => .ok invoice

/-- `createPaymentOrder`: an order for the outstanding balance, and its payment. -/
def createPaymentOrder (deployment : Deployment) (ambient : Ambient)
    (live : OrderRequest → Except Thrown OrderReply) (generated : ObjectId)
    (invoiceId : ObjectId) (database : Database) : Database × Except Thrown PaymentOrder :=
  match getInvoice ambient invoiceId database with
  | .error thrown => (database, .error thrown)
  | .ok invoice =>
    if invoice.status = .paid then (database, .error (.badRequest "Invoice already paid"))
    else
      let amount := invoice.amountDue - invoice.amountPaid
      match RazorpayGateway.createOrder deployment live amount
          s!"{invoice.id.hex}_{deployment.numberToString invoice.amountPaid}"
          [("invoiceId", invoice.id.hex), ("tenantId", invoice.tenantId)] with
      | .error thrown => (database, .error thrown)
      | .ok order =>
        match TenantModel.create ambient
            { id := generated, invoiceId := invoice.id, studentId := invoice.studentId,
              amount := amount, gatewayOrderId := order.gatewayOrderId,
              status := .created : Payment }
            database.payments with
        | .error thrown => (database, .error thrown)
        | .ok (payment, payments) =>
          ({ database with payments := payments },
            .ok { paymentId := payment.id, gatewayOrderId := order.gatewayOrderId,
                  amount := amount, keyId := deployment.keyId })

end FeesService

end CoachingApi
