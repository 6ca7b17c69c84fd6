import Mathlib.Algebra.BigOperators.Ring.List
import CoachingApi.Fees.PlanCoverage
import CoachingApi.Fees.Routing

/-!
# Paying a plan in full

An order is for the outstanding balance, rounded to whole paisa; a capture credits whole
paisa. So an invoice whose amount has a fraction of a paisa is settled by its order exactly
when the amount rounds up. A plan is checked by its rounded sum only. All of its invoices
are settled and charged its total exactly when its installments together lack at most half a
paisa to whole ones.
-/

namespace CoachingApi

open TenantPlugin FeesService WebhooksController Rounding

namespace FullPayments

variable {deployment : Deployment} {tenantId : String} {plan : FeePlan} {inst : Installment}

/-- A delivery of the paisa of the order. -/
def termDelivery (amount : ℚ) : Delivery :=
  { body :=
      { event := some "payment.captured"
        entity := some { id := some "pay_1"
                         orderId := some "order_stub_aaaaaaaaaaaaaaaaaaaaaaaa_0"
                         amount := some (round (amount * 100) : ℤ) } } }

end FullPayments

end CoachingApi
