import CoachingApi.Library.Grouping
import CoachingApi.Library.Revisions
import CoachingApi.Library.Rounding
import CoachingApi.Schemas.Fees

/-!
# The reports

Each report groups an institute's records in one aggregation, and goes through the groups in
the order in which they come, which the database does not promise. That order is a parameter.
The fees report adds up the groups of invoices by status; those of attendance and of marks have
one row for each student, with its rate and its average rounded to hundredths.
-/

namespace CoachingApi

open TenantContextStore Rounding

namespace ReportsService

/-- One group of the aggregation. -/
structure StatusRow where
  status : InvoiceStatus
  due : ℚ
  paid : ℚ
  count : Nat
  deriving DecidableEq

/-- The stage `$group` by status. -/
def groupByStatus (invoices : List FeeInvoice) : List StatusRow :=
  (Grouping.groups FeeInvoice.status invoices).map (fun group =>
    { status := group.1
      due := (group.2.map FeeInvoice.amountDue).sum
      paid := (group.2.map FeeInvoice.amountPaid).sum
      count := group.2.length })

/-- The report; a status that `byStatus` does not name has no count. -/
structure FeesSummary where
  billed : ℚ
  collected : ℚ
  outstanding : ℚ
  byStatus : InvoiceStatus → Option Nat

/-- The variables of the loop over the groups. -/
structure Totals where
  billed : ℚ := 0
  collected : ℚ := 0
  byStatus : InvoiceStatus → Option Nat := fun _ => none

/-- One iteration of the loop. -/
def addRow (totals : Totals) (row : StatusRow) : Totals :=
  { billed := totals.billed + row.due
    collected := totals.collected + row.paid
    byStatus := Function.update totals.byStatus row.status (some row.count) }

/-- `feesSummary`, with the order in which the aggregation returns its groups. -/
def feesSummary (ambient : Ambient) (arrange : List StatusRow → List StatusRow)
    (database : Database) : Except Thrown FeesSummary :=
  match TenantModel.aggregate ambient groupByStatus database.invoices with
  | .error thrown => .error thrown
  | .ok rows =>
    let totals := (arrange rows).foldl addRow {}
    .ok { billed := totals.billed, collected := totals.collected,
          outstanding := totals.billed - totals.collected, byStatus := totals.byStatus }

/-- One student's group of attendance records. -/
structure PresenceRow where
  studentId : ObjectId
  present : Nat
  total : Nat
  deriving DecidableEq

/-- A record of a student who came, on time or late. -/
def attended (record : Attendance) : Bool :=
  decide (record.status = .present ∨ record.status = .late)

/-- The stage `$group` of attendance records by student. -/
def groupPresence (records : List Attendance) : List PresenceRow :=
  (Grouping.groups Attendance.studentId records).map (fun group =>
    { studentId := group.1
      present := (group.2.map (fun record => if attended record then 1 else 0)).sum
      total := group.2.length })

/-- A student's row of the attendance report. -/
structure PresenceSummary where
  studentId : String
  present : Nat
  total : Nat
  rate : ℚ
  deriving DecidableEq

/-- The row made of a group. The rate is rounded in exact arithmetic. -/
def presenceOf (row : PresenceRow) : PresenceSummary :=
  { studentId := row.studentId.hex
    present := row.present
    total := row.total
    rate := if row.total = 0 then 0 else toHundredths ((row.present : ℚ) / row.total) }

/-- `attendanceSummary`. -/
def attendanceSummary (ambient : Ambient) (arrange : List PresenceRow → List PresenceRow)
    (database : Database) : Except Thrown (List PresenceSummary) :=
  match TenantModel.aggregate ambient groupPresence database.attendance with
  | .error thrown => .error thrown
  | .ok rows => .ok ((arrange rows).map presenceOf)

/-- One student's group of scores. -/
structure MarksRow where
  studentId : ObjectId
  avg : ℚ
  count : Nat
  deriving DecidableEq

/-- The stage `$group` of scores by student. -/
def groupMarks (scores : List TestScore) : List MarksRow :=
  (Grouping.groups TestScore.studentId scores).map (fun group =>
    { studentId := group.1
      avg := (group.2.map TestScore.marks).sum / group.2.length
      count := group.2.length })

/-- A student's row of the report of marks. -/
structure MarksSummary where
  studentId : String
  avgMarks : ℚ
  tests : Nat
  deriving DecidableEq

/-- The row made of a group. The average is taken and rounded in exact arithmetic. -/
def marksOf (row : MarksRow) : MarksSummary :=
  { studentId := row.studentId.hex, avgMarks := toHundredths row.avg, tests := row.count }

/-- `performanceSummary`. -/
def performanceSummary (ambient : Ambient) (arrange : List MarksRow → List MarksRow)
    (database : Database) : Except Thrown (List MarksSummary) :=
  match TenantModel.aggregate ambient groupMarks database.scores with
  | .error thrown => .error thrown
  | .ok rows => .ok ((arrange rows).map marksOf)

end ReportsService

end CoachingApi
