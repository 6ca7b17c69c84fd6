import CoachingApi.Library.Rounding
import CoachingApi.Schemas.Fees

/-!
# Fee calculation

The pure helpers: splitting a total into installments of whole paisa, the status of
an invoice from its amounts and due date, and the clamped application of a payment.
A number that is not a number is absent; comparisons with it are false and arithmetic
propagates it, which is how an amount that is missing from a delivery arrives here.

Amounts are exact. Due dates are advanced by whole days, without daylight saving.
-/

namespace CoachingApi

open Rounding

/-- Split a total into equal installments of whole paisa, giving the remainder to the
earliest ones. -/
def splitEqualInstallments (total : ℚ) (count : Int) (firstDueDate : Int)
    (intervalDays : Int := 30) : Except Thrown (List Installment) :=
  if count < 1 then .error (.error "installment count must be >= 1")
  else if total < 0 then .error (.error "total must be >= 0")
  else
    let totalPaisa : Int := round (total * 100)
    let base : Int := totalPaisa / count
    let remainder : Int := totalPaisa - base * count
    .ok ((List.range count.toNat).map (fun i : ℕ =>
      { label := s!"Installment {i + 1}"
        amount := ((base + if (i : Int) < remainder then 1 else 0 : Int) : ℚ) / 100
        dueDate := firstDueDate + i * intervalDays * dayMilliseconds }))

/-- The status of an invoice from its amounts and due date. -/
def computeInvoiceStatus (amountDue amountPaid : ℚ) (dueDate now : Int) : InvoiceStatus :=
  if amountPaid ≥ amountDue ∧ amountDue > 0 then .paid
  else if amountPaid > 0 ∧ amountPaid < amountDue then .partial_
  else if dueDate < now then .overdue
  else .pending

/-- Apply a payment to a paid amount, clamped so that it never overshoots. A payment
that is not a number gives an amount that is none. -/
def applyPayment (amountDue amountPaid : ℚ) (payment : Option ℚ) : Except Thrown (Option ℚ) :=
  match payment with
  | none => .ok none
  | some payment =>
    if payment < 0 then .error (.error "payment must be >= 0")
    else .ok (some (min amountDue (toHundredths (amountPaid + payment))))

/-- Every installment of a split is a nonnegative whole number of paisa. -/
theorem split_amounts {total : ℚ} {count firstDueDate intervalDays : Int}
    {installments : List Installment}
    (split : splitEqualInstallments total count firstDueDate intervalDays = .ok installments) :
    ∀ installment ∈ installments, 0 ≤ installment.amount ∧ Whole installment.amount := by
  unfold splitEqualInstallments at split
  by_cases tooFew : count < 1
  · simp [tooFew] at split
  · by_cases negative : total < 0
    · simp [tooFew, negative] at split
    · simp only [if_neg tooFew, if_neg negative, Except.ok.injEq] at split
      subst split
      intro installment member
      obtain ⟨i, _, rfl⟩ := List.mem_map.mp member
      have paisaNonneg : 0 ≤ round (total * 100) := by
        rw [round_half_up]
        exact Int.floor_nonneg.mpr (by linarith)
      have baseNonneg : 0 ≤ round (total * 100) / count :=
        Int.ediv_nonneg paisaNonneg (by omega)
      refine ⟨?_, whole_hundredths _⟩
      apply div_nonneg _ (by norm_num)
      exact_mod_cast (by split <;> omega :
        0 ≤ round (total * 100) / count +
          if (i : Int) < round (total * 100) - round (total * 100) / count * count then 1 else 0)

/-- An invoice computes as paid exactly when a positive amount is covered. -/
theorem status_paid_iff (amountDue amountPaid : ℚ) (dueDate now : Int) :
    computeInvoiceStatus amountDue amountPaid dueDate now = .paid ↔
      amountDue ≤ amountPaid ∧ 0 < amountDue := by
  unfold computeInvoiceStatus
  by_cases covered : amountPaid ≥ amountDue ∧ amountDue > 0
  · simp only [if_pos covered, true_iff]
    exact covered
  · rw [if_neg covered]
    constructor
    · intro paid
      split at paid
      · exact InvoiceStatus.noConfusion paid
      · split at paid <;> exact InvoiceStatus.noConfusion paid
    · intro both
      exact False.elim (covered both)

/-- A status computed at a time is the one computed later, unless it is pending and the due
date has passed by then. -/
theorem status_later_iff (amountDue amountPaid : ℚ) (dueDate : Int) {now later : Int}
    (ordered : now ≤ later) :
    computeInvoiceStatus amountDue amountPaid dueDate now =
        computeInvoiceStatus amountDue amountPaid dueDate later ↔
      (computeInvoiceStatus amountDue amountPaid dueDate now = .pending → later ≤ dueDate) := by
  unfold computeInvoiceStatus
  by_cases covered : amountPaid ≥ amountDue ∧ amountDue > 0
  · simp only [if_pos covered, true_iff]
    intro pending
    exact InvoiceStatus.noConfusion pending
  · by_cases part : amountPaid > 0 ∧ amountPaid < amountDue
    · simp only [if_neg covered, if_pos part, true_iff]
      intro pending
      exact InvoiceStatus.noConfusion pending
    · simp only [if_neg covered, if_neg part]
      by_cases passed : dueDate < now
      · have still : dueDate < later := by omega
        simp [passed, still]
      · by_cases since : dueDate < later
        · simp [passed, since]
        · simp [passed, since, not_lt.mp since]

/-- A payment of whole paisa that is not negative is added to a whole paid amount and
clamped by the amount due. -/
theorem apply_whole {amountDue amountPaid payment : ℚ} (nonnegative : 0 ≤ payment)
    (paidWhole : Whole amountPaid) (paymentWhole : Whole payment) :
    applyPayment amountDue amountPaid (some payment) =
      .ok (some (min amountDue (amountPaid + payment))) := by
  simp only [applyPayment, if_neg (not_lt.mpr nonnegative)]
  rw [to_hundredths_fixed (paidWhole.add paymentWhole)]

end CoachingApi
