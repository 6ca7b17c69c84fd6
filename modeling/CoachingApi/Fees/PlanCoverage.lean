import CoachingApi.Fees.InvoiceGeneration

/-!
# Which plans their invoices cover

A plan is accepted by the sum of its installments, and its invoices are kept apart by
label. A plan with two installments under one label is accepted, and one of the two is
never invoiced. A split gives every installment a label of its own.
-/

namespace CoachingApi

open TenantPlugin FeesService WebhooksController

namespace PlanCoverage

/-- An answered creation ran in its tenant's context. -/
theorem created_bound {deployment : Deployment} {tenantId : String} {generated : ObjectId}
    {now : Int} {dto : CreateFeePlanDto} {database created : Database} {plan : FeePlan}
    (accepted : createPlan deployment (contextOf tenantId) generated now dto database =
      (created, .ok plan)) : Bound (contextOf tenantId) tenantId := by
  rcases context_bound tenantId with bound | unbound
  · exact bound
  · unfold createPlan at accepted
    cases planned : planInstallments now dto with
    | error thrown => simp [planned] at accepted
    | ok installments =>
      obtain ⟨thrown, failed⟩ := TenantModel.create_unbound unbound
        { id := generated, name := dto.name, totalAmount := dto.totalAmount,
          batchId := dto.batchId.map PostedId.reference,
          installments := installments : FeePlan } database.plans
      simp only [planned, failed] at accepted
      split at accepted
      · simp at accepted
      · split at accepted <;> simp at accepted

/-- Generating the invoices of an accepted plan for students who have none answers, and
leaves every listed student with one invoice for each installment exactly when the plan's
labels are distinct or nobody is listed. A plan that was split has distinct labels.

Proof: in terms the student's invoices are the upserts of the installments. Distinct labels
are all inserted once, and upserted keys are always distinct. -/
theorem invoices_cover_iff (deployment : Deployment) (tenantId : String) (generated : ObjectId)
    (now : Int) (dto : CreateFeePlanDto) (database created : Database) (plan : FeePlan)
    (accepted : createPlan deployment (contextOf tenantId) generated now dto database =
      (created, .ok plan)) :
    (dto.installments.getD [] = [] → (plan.installments.map Installment.label).Nodup) ∧
    ∀ later request draw studentIds,
      TenantModel.findById (contextOf tenantId) plan.id later.plans = .ok (some plan) →
      generationStudents (contextOf tenantId) plan request later = .ok studentIds →
      FreshDraws draw (generationPairs plan studentIds).length later.invoices →
      (∀ invoice ∈ later.invoices, invoice.studentId ∈ studentIds → invoice.feePlanId ≠ plan.id) →
      ∃ billed count,
        generateInvoices (contextOf tenantId) draw plan.id request later = (billed, .ok count) ∧
        ((∀ studentId ∈ studentIds, Covers tenantId plan studentId billed.invoices ∧
            ((studentInvoices tenantId studentId plan.id billed.invoices).map
                FeeInvoice.amountDue).sum =
              (plan.installments.map Installment.amount).sum) ↔
          ((plan.installments.map Installment.label).Nodup ∨ studentIds = [])) := by
  have bound := created_bound accepted
  obtain ⟨plan_, _⟩ := create_plan_ok bound accepted
  refine ⟨fun unlisted => ?_, ?_⟩
  · obtain ⟨count, positive, nonnegative, split⟩ := plan_.split unlisted
    exact split_labels nonnegative positive split
  · intro later request draw studentIds found listed fresh unbilled
    obtain ⟨added, result, terms, _⟩ := generate_terms bound found plan_.divided listed fresh
    refine ⟨_, _, result, ?_⟩
    constructor
    · intro covers
      cases studentIds with
      | nil => exact .inr rfl
      | cons studentId rest =>
        apply Or.inl
        apply covers_distinct terms _ (covers studentId (by simp)).1
        rintro invoice stored rfl
        exact unbilled invoice stored (by simp)
    · rintro (distinct | rfl)
      · intro studentId member
        have covered : Covers tenantId plan studentId (later.invoices ++ added) := by
          apply distinct_covers member terms _ distinct
          rintro invoice stored rfl
          exact unbilled invoice stored member
        exact ⟨covered, covered.sum⟩
      · simp

/-- The body of a plan of 1000 rupees in two installments, under the given labels. -/
def twoInstallments (first second : String) : CreateFeePlanDto :=
  { name := "Term", totalAmount := 1000
    installments := some
      [{ label := first, amount := 500, dueDate := 0 },
        { label := second, amount := 500, dueDate := 30 }] }

/-- The plan created from such a body. -/
def twoInstallmentPlan (first second : String) : FeePlan :=
  { id := .repeated '1', tenantId := "institute-a", name := "Term", totalAmount := 1000
    installments :=
      [{ label := first, amount := 500, dueDate := 0 },
        { label := second, amount := 500, dueDate := 30 }] }

/-- Draws of up to six invoices. -/
def letterDraws (i : Nat) : ObjectId × Int := (.repeated (Char.ofNat (97 + i)), 0)

/-- A plan whose installments share a label is accepted, and its student is invoiced for one
of them. -/
theorem shared_label_uncovered :
    (createPlan CaptureRaces.stubDeployment (contextOf "institute-a") (.repeated '1') 0
        (twoInstallments "Term" "Term") {}).2 = .ok (twoInstallmentPlan "Term" "Term") ∧
    (generateInvoices (contextOf "institute-a") letterDraws (.repeated '1')
        { studentIds := some [.repeated '2'] }
        { plans := [twoInstallmentPlan "Term" "Term"] }).1.invoices.map FeeInvoice.amountDue =
      [500] ∧
    ¬ Covers "institute-a" (twoInstallmentPlan "Term" "Term") (.repeated '2')
      (generateInvoices (contextOf "institute-a") letterDraws (.repeated '1')
        { studentIds := some [.repeated '2'] }
        { plans := [twoInstallmentPlan "Term" "Term"] }).1.invoices := by
  refine ⟨by decide +kernel, by decide +kernel, ?_⟩
  unfold Covers
  decide +kernel

/-- Under two labels both installments are invoiced to a student, who may be listed twice. -/
theorem two_labels_covered :
    (generateInvoices (contextOf "institute-a") letterDraws (.repeated '1')
        { studentIds := some [.repeated '2', .repeated '2'] }
        { plans := [twoInstallmentPlan "First" "Second"] }).2 = .ok 2 ∧
    Covers "institute-a" (twoInstallmentPlan "First" "Second") (.repeated '2')
      (generateInvoices (contextOf "institute-a") letterDraws (.repeated '1')
        { studentIds := some [.repeated '2', .repeated '2'] }
        { plans := [twoInstallmentPlan "First" "Second"] }).1.invoices := by
  have answered : (createPlan CaptureRaces.stubDeployment (contextOf "institute-a")
      (.repeated '1') 0 (twoInstallments "First" "Second") {}).2 =
      .ok (twoInstallmentPlan "First" "Second") := by decide +kernel
  obtain ⟨billed, count, result, covers⟩ := (invoices_cover_iff CaptureRaces.stubDeployment
    "institute-a" (.repeated '1') 0 (twoInstallments "First" "Second") {} _ _
    (Prod.ext rfl answered)).2
    { plans := [twoInstallmentPlan "First" "Second"] }
    { studentIds := some [.repeated '2', .repeated '2'] } letterDraws
    [.repeated '2', .repeated '2'] (by decide +kernel) rfl
    ⟨by simp, by decide +kernel⟩ (by simp)
  refine ⟨by decide +kernel, ?_⟩
  have same : generateInvoices (contextOf "institute-a") letterDraws (.repeated '1')
      { studentIds := some [.repeated '2', .repeated '2'] }
      { plans := [twoInstallmentPlan "First" "Second"] } = (billed, .ok count) := result
  rw [same]
  exact (covers.mpr (.inl (by decide)) (.repeated '2') (by simp)).1

end PlanCoverage

end CoachingApi
