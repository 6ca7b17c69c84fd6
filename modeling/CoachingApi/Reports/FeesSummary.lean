import CoachingApi.Reports.ReportsService

/-!
# The fees report and the ledger

What the report is for: the totals of an institute's invoices, and how many have each status.
The loop over the groups adds their sums up and assigns their counts under their statuses, so
it comes to the sums over the invoices in whatever order the groups come.
-/

namespace CoachingApi

open TenantContextStore TenantPlugin

namespace ReportsService

/-- The totals of a ledger of invoices, and how many have each status. -/
def ledgerSummary (invoices : List FeeInvoice) : FeesSummary :=
  { billed := (invoices.map FeeInvoice.amountDue).sum
    collected := (invoices.map FeeInvoice.amountPaid).sum
    outstanding := (invoices.map (fun invoice => invoice.amountDue - invoice.amountPaid)).sum
    byStatus := fun status =>
      let count := invoices.countP (fun invoice => decide (invoice.status = status))
      if count = 0 then none else some count }

/-- A ledger's totals do not depend on its order. -/
theorem ledger_perm {first second : List FeeInvoice} (same : first.Perm second) :
    ledgerSummary first = ledgerSummary second := by
  unfold ledgerSummary
  rw [(same.map FeeInvoice.amountDue).sum_eq, (same.map FeeInvoice.amountPaid).sum_eq,
    (same.map (fun invoice => invoice.amountDue - invoice.amountPaid)).sum_eq]
  simp only [same.countP_eq]

/-- The loop adds the groups' sums up and assigns their counts in order.

Proof: by induction on the groups. -/
theorem fold_rows (rows : List StatusRow) (totals : Totals) :
    rows.foldl addRow totals =
      { billed := totals.billed + (rows.map StatusRow.due).sum
        collected := totals.collected + (rows.map StatusRow.paid).sum
        byStatus := Revisions.assignAll totals.byStatus
          (rows.map (fun row => (row.status, row.count))) } := by
  induction rows generalizing totals with
  | nil => simp
  | cons row rest inductionHypothesis =>
    rw [List.foldl_cons, inductionHypothesis]
    simp only [addRow, List.map_cons, List.sum_cons, add_assoc, Revisions.assign_all_cons]

/-- The assignments of the groups, in any order, are those of the statuses that occur. -/
theorem mem_counts {invoices : List FeeInvoice} {rows : List StatusRow}
    (arranged : rows.Perm (groupByStatus invoices)) {entry : InvoiceStatus × Nat} :
    entry ∈ rows.map (fun row => (row.status, row.count)) ↔
      entry.1 ∈ invoices.map FeeInvoice.status ∧
        entry.2 = invoices.countP (fun invoice => decide (invoice.status = entry.1)) := by
  rw [(arranged.map (fun row => (row.status, row.count))).mem_iff, groupByStatus, List.map_map,
    List.mem_map]
  constructor
  · rintro ⟨group, member, rfl⟩
    obtain ⟨occurs, members⟩ := Grouping.mem_groups.mp member
    refine ⟨occurs, ?_⟩
    simp only [Function.comp_apply, members, List.countP_eq_length_filter]
  · rintro ⟨occurs, counted⟩
    refine ⟨(entry.1, invoices.filter (fun invoice => decide (invoice.status = entry.1))),
      Grouping.mem_groups.mpr ⟨occurs, rfl⟩, ?_⟩
    apply Prod.ext
    · rfl
    · rw [counted, List.countP_eq_length_filter]
      rfl

/-- The counts assigned by the groups in any order are the counts of the statuses. -/
theorem counts_assigned {invoices : List FeeInvoice} {rows : List StatusRow}
    (arranged : rows.Perm (groupByStatus invoices)) :
    Revisions.assignAll (fun _ => none) (rows.map (fun row => (row.status, row.count))) =
      (ledgerSummary invoices).byStatus := by
  have distinct : ((rows.map (fun row => (row.status, row.count))).map Prod.fst).Nodup := by
    have keys := (arranged.map (fun row => (row.status, row.count))).map Prod.fst
    rw [keys.nodup_iff, groupByStatus, List.map_map, List.map_map]
    exact Grouping.groups_distinct FeeInvoice.status invoices
  funext status
  rw [Revisions.assign_all_read]
  let count := invoices.countP (fun invoice => decide (invoice.status = status))
  by_cases occurs : status ∈ invoices.map FeeInvoice.status
  · have assigned : (status, count) ∈ rows.map (fun row => (row.status, row.count)) :=
      (mem_counts arranged).mpr ⟨occurs, rfl⟩
    have counted : count ≠ 0 := by
      obtain ⟨invoice, member, same⟩ := List.mem_map.mp occurs
      have positive : 0 < count :=
        List.countP_pos_iff.mpr ⟨invoice, member, decide_eq_true same⟩
      omega
    rw [Revisions.last_under_distinct distinct assigned]
    exact (if_neg counted).symm
  · have unassigned : Revisions.lastUnder status
        (rows.map (fun row => (row.status, row.count))) = none := by
      rw [Revisions.last_under_none]
      intro entry member same
      exact occurs (same ▸ ((mem_counts arranged).mp member).1)
    have uncounted : count = 0 := by
      rw [List.countP_eq_zero]
      intro invoice member same
      exact occurs (of_decide_eq_true same ▸ List.mem_map_of_mem member)
    rw [unassigned]
    exact (if_pos uncounted).symm

/-- What the loop leaves, with the groups in any order, is the summary of the invoices. -/
theorem loop_summary {invoices : List FeeInvoice} {rows : List StatusRow}
    (arranged : rows.Perm (groupByStatus invoices)) :
    rows.foldl addRow {} =
      { billed := (ledgerSummary invoices).billed
        collected := (ledgerSummary invoices).collected
        byStatus := (ledgerSummary invoices).byStatus } := by
  have due : (rows.map StatusRow.due).sum = (invoices.map FeeInvoice.amountDue).sum := by
    rw [(arranged.map StatusRow.due).sum_eq, groupByStatus, List.map_map]
    exact Grouping.sum_groups FeeInvoice.status FeeInvoice.amountDue invoices
  have paid : (rows.map StatusRow.paid).sum = (invoices.map FeeInvoice.amountPaid).sum := by
    rw [(arranged.map StatusRow.paid).sum_eq, groupByStatus, List.map_map]
    exact Grouping.sum_groups FeeInvoice.status FeeInvoice.amountPaid invoices
  rw [fold_rows, due, paid, counts_assigned arranged, zero_add, zero_add]
  rfl

/-- What is outstanding is what is billed and not collected. -/
theorem ledger_outstanding (invoices : List FeeInvoice) :
    (ledgerSummary invoices).billed - (ledgerSummary invoices).collected =
      (ledgerSummary invoices).outstanding := by
  induction invoices with
  | nil => simp [ledgerSummary]
  | cons invoice rest inductionHypothesis =>
    simp only [ledgerSummary, List.map_cons, List.sum_cons] at inductionHypothesis ⊢
    linarith

/-- The report of an institute is the summary of its ledger, in whatever order the groups
come. -/
theorem fees_summary_ledger {ambient : Ambient} {tenantId : String}
    (bound : Bound ambient tenantId) {arrange : List StatusRow → List StatusRow}
    (arranges : ∀ rows, (arrange rows).Perm rows) (database : Database) :
    feesSummary ambient arrange database =
      .ok (ledgerSummary (database.invoices.filter
        (fun invoice => decide (invoice.tenantId = tenantId)))) := by
  have read := TenantModel.aggregate_bound bound groupByStatus database.invoices
  simp only [feesSummary, read, loop_summary (arranges _), ledger_outstanding]
  rfl

/-- Nothing is owed back where no invoice is overpaid. -/
theorem outstanding_nonneg {invoices : List FeeInvoice}
    (capped : ∀ invoice ∈ invoices, invoice.amountPaid ≤ invoice.amountDue) :
    0 ≤ (ledgerSummary invoices).outstanding :=
  Records.total_nonneg (fun invoice member => sub_nonneg.mpr (capped invoice member))

/-- The statuses an invoice may have. -/
def invoiceStatuses : List InvoiceStatus := [.pending, .partial_, .paid, .overdue]

/-- The counts of a summary add up to the number of invoices. -/
theorem counts_complete (invoices : List FeeInvoice) :
    (invoiceStatuses.map (fun status => ((ledgerSummary invoices).byStatus status).getD 0)).sum =
      invoices.length := by
  have counted (status : InvoiceStatus) : ((ledgerSummary invoices).byStatus status).getD 0 =
      ((invoices.filter (fun invoice => decide (invoice.status = status))).map (fun _ => 1)).sum := by
    simp only [ledgerSummary, List.countP_eq_length_filter, List.map_const', List.sum_replicate_nat,
      mul_one]
    split
    · rename_i none_
      rw [none_]
      rfl
    · rfl
  have covered : ∀ invoice ∈ invoices, invoice.status ∈ invoiceStatuses := by
    intro invoice _
    cases invoice.status with
    | pending | partial_ | paid | overdue => decide
  simp only [counted]
  rw [Grouping.sum_under_keys FeeInvoice.status (fun _ => 1) (by decide) invoices covered]
  simp

/-- The report equals the ledger: its totals are those of the institute's invoices, nothing
is outstanding below zero where none of them is overpaid, its counts are those of the statuses
that occur, and neither the order of the groups nor other institutes' invoices matter.

Proof: adding up the groups of a list of invoices is adding up the list, whichever order the
groups come in, and the hook has left the institute's invoices only. -/
theorem fees_summary_is_ledger {ambient : Ambient} {tenantId : String}
    (bound : Bound ambient tenantId) {arrange : List StatusRow → List StatusRow}
    (arranges : ∀ rows, (arrange rows).Perm rows) {database : Database}
    (capped : ∀ invoice ∈ database.invoices, invoice.tenantId = tenantId →
      invoice.amountPaid ≤ invoice.amountDue) :
    let own := database.invoices.filter (fun invoice => decide (invoice.tenantId = tenantId))
    ∃ summary, feesSummary ambient arrange database = .ok summary ∧
      summary.billed = (own.map FeeInvoice.amountDue).sum ∧
      summary.collected = (own.map FeeInvoice.amountPaid).sum ∧
      summary.outstanding = (own.map (fun invoice => invoice.amountDue - invoice.amountPaid)).sum ∧
      0 ≤ summary.outstanding ∧
      (∀ status, summary.byStatus status =
        if own.countP (fun invoice => decide (invoice.status = status)) = 0 then none
        else some (own.countP (fun invoice => decide (invoice.status = status)))) ∧
      (invoiceStatuses.map (fun status => (summary.byStatus status).getD 0)).sum = own.length ∧
      ∀ (rearrange : List StatusRow → List StatusRow) (other : Database),
        (∀ rows, (rearrange rows).Perm rows) →
          (other.invoices.filter (fun invoice => decide (invoice.tenantId = tenantId))).Perm own →
            feesSummary ambient rearrange other = .ok summary := by
  intro own
  have paidUp : ∀ invoice ∈ own, invoice.amountPaid ≤ invoice.amountDue := by
    intro invoice member
    obtain ⟨stored, owned⟩ := List.mem_filter.mp member
    exact capped invoice stored (of_decide_eq_true owned)
  refine ⟨ledgerSummary own, fees_summary_ledger bound arranges database, rfl, rfl, rfl,
    outstanding_nonneg paidUp, fun _ => rfl, counts_complete own, ?_⟩
  intro rearrange other rearranges same
  rw [fees_summary_ledger bound rearranges other, ledger_perm same]

/-- Two institutes with invoices in three statuses. -/
def twoLedgers : Database :=
  let invoice (digit : Char) (tenantId : String) (amountPaid : ℚ) (status : InvoiceStatus) :
      FeeInvoice :=
    { id := .repeated digit, tenantId := tenantId, studentId := .repeated '2',
      feePlanId := .repeated '3', label := "Term", amountDue := 1000, amountPaid := amountPaid,
      dueDate := 0, status := status }
  { invoices := [invoice 'a' "institute-a" 0 .pending, invoice 'b' "institute-b" 0 .overdue,
      invoice 'c' "institute-a" 400 .partial_, invoice 'd' "institute-a" 0 .pending] }

/-- The report of the first institute, with the groups in reverse. -/
theorem reversed_groups_summed :
    ∃ summary, feesSummary (some { tenantId := some "institute-a" }) List.reverse twoLedgers =
        .ok summary ∧
      summary.billed = 3000 ∧ summary.collected = 400 ∧ summary.outstanding = 2600 ∧
        summary.byStatus .pending = some 2 ∧ summary.byStatus .overdue = none := by
  have capped : ∀ invoice ∈ twoLedgers.invoices, invoice.tenantId = "institute-a" →
      invoice.amountPaid ≤ invoice.amountDue := by
    decide +kernel
  obtain ⟨summary, reported, billed, collected, outstanding, _, counts, _⟩ :=
    fees_summary_is_ledger (bound_run "institute-a" (by decide)) List.reverse_perm capped
  refine ⟨summary, reported, ?_, ?_, ?_, ?_, ?_⟩
  · rw [billed]
    decide +kernel
  · rw [collected]
    decide +kernel
  · rw [outstanding]
    decide +kernel
  · rw [counts]
    decide +kernel
  · rw [counts]
    decide +kernel

end ReportsService

end CoachingApi
