import CoachingApi.Fees.FeeOperations
import CoachingApi.Fees.InstallmentSplit
import CoachingApi.Library.Upserts

/-!
# What a generation stores

The terms of an invoice are what generation writes once and nothing changes later: whose
it is, for which installment, how much and until when. In terms, a generation is a batch
of upserts keyed by tenant, student, plan and label, one for each listed student and each
installment. Two installments under one label share an invoice, so the invoices cover the
plan exactly when its labels are distinct.
-/

namespace CoachingApi

open TenantContextStore TenantPlugin FeesService Upserts

/-- What generation writes of an invoice and nothing changes later. -/
structure InvoiceTerms where
  tenantId : String
  studentId : ObjectId
  feePlanId : ObjectId
  label : String
  amountDue : ℚ
  dueDate : Int
  deriving DecidableEq

/-- The terms of a stored invoice. -/
def FeeInvoice.terms (invoice : FeeInvoice) : InvoiceTerms :=
  { tenantId := invoice.tenantId, studentId := invoice.studentId, feePlanId := invoice.feePlanId,
    label := invoice.label, amountDue := invoice.amountDue, dueDate := invoice.dueDate }

/-- What the upsert's filter compares. -/
def InvoiceTerms.key (terms : InvoiceTerms) : String × ObjectId × ObjectId × String :=
  (terms.tenantId, terms.studentId, terms.feePlanId, terms.label)

namespace FeesService

/-- The terms a generation asks for a student and an installment. -/
def askedTerms (tenantId : String) (plan : FeePlan) (pair : ObjectId × Installment) :
    InvoiceTerms :=
  { tenantId := tenantId, studentId := pair.1, feePlanId := plan.id, label := pair.2.label,
    amountDue := pair.2.amount, dueDate := pair.2.dueDate }

/-- The students of a generation with the plan's installments, in the order of the loop. -/
def generationPairs (plan : FeePlan) (studentIds : List ObjectId) : List (ObjectId × Installment) :=
  studentIds.flatMap (fun studentId => plan.installments.map (fun inst => (studentId, inst)))

/-- The identities drawn for a number of upserts are new, as generated identities are. -/
structure FreshDraws (draw : Nat → ObjectId × Int) (upserts : Nat) (invoices : List FeeInvoice) :
    Prop where
  unstored : ∀ i < upserts, ∀ invoice ∈ invoices, invoice.id ≠ (draw i).1
  distinct : ∀ i < upserts, ∀ j < upserts, (draw i).1 = (draw j).1 → i = j

/-- An invoice as a generation adds it: nothing is paid, and its status says so. -/
def Unpaid (invoice : FeeInvoice) : Prop :=
  invoice.amountPaid = 0 ∧ invoice.receiptUrl = none ∧
    ∃ now, invoice.status = computeInvoiceStatus invoice.amountDue 0 invoice.dueDate now

variable {ambient : Ambient} {tenantId : String}

/-- One upsert under a new identity, in terms. -/
theorem upsert_terms (bound : Bound ambient tenantId) {generated : ObjectId} (now : Int)
    (plan : FeePlan) (studentId : ObjectId) (inst : Installment) {invoices : List FeeInvoice}
    (unstored : ∀ invoice ∈ invoices, invoice.id ≠ generated) :
    ∃ added upserted, upsertInvoice ambient generated now plan studentId inst invoices =
        .ok (upserted, invoices ++ added) ∧
      added.length = (if upserted then 1 else 0) ∧
      (invoices ++ added).map FeeInvoice.terms = upsert InvoiceTerms.key
        (invoices.map FeeInvoice.terms) (askedTerms tenantId plan (studentId, inst)) ∧
      ∀ invoice ∈ added, invoice.id = generated ∧ Unpaid invoice := by
  have keyed (invoice : FeeInvoice) :
      invoice.terms.key = (askedTerms tenantId plan (studentId, inst)).key ↔
        invoice.tenantId = tenantId ∧ invoice.studentId = studentId ∧ invoice.feePlanId = plan.id ∧
          invoice.label = inst.label := by
    simp [FeeInvoice.terms, InvoiceTerms.key, askedTerms]
  unfold upsertInvoice
  rw [scope_bound bound]
  simp only
  split
  · rename_i matched
    simp only [List.any_eq_true, Bool.and_eq_true, decide_eq_true_eq, TenantModel.visible]
      at matched
    obtain ⟨invoice, stored, owned, same⟩ := matched
    refine ⟨[], false, by simp, rfl, ?_, by simp⟩
    rw [upsert_present, List.append_nil]
    simp only [List.map_map, List.mem_map]
    exact ⟨invoice, stored, (keyed invoice).mpr ⟨owned, same⟩⟩
  · rename_i unmatched
    rw [if_neg]
    · refine ⟨_, true, rfl, rfl, ?_, ?_⟩
      · rw [upsert_absent, List.map_append]
        · rfl
        · intro present
          simp only [List.map_map, List.mem_map, Function.comp_apply] at present
          obtain ⟨invoice, stored, same⟩ := present
          apply unmatched
          simp only [List.any_eq_true, Bool.and_eq_true, decide_eq_true_eq, TenantModel.visible]
          exact ⟨invoice, stored, (keyed invoice).mp same⟩
      · intro invoice member
        obtain rfl := List.mem_singleton.mp member
        exact ⟨rfl, rfl, rfl, now, rfl⟩
    · simpa using unstored

/-- The generation loop under new identities, in terms.

Proof: by induction on the students and installments that remain. -/
theorem upserts_terms (bound : Bound ambient tenantId) (plan : FeePlan)
    (pairs : List (ObjectId × Installment)) {draw : Nat → ObjectId × Int} (created : Nat)
    {invoices : List FeeInvoice} (fresh : FreshDraws draw pairs.length invoices) :
    ∃ added, upsertInvoices ambient plan pairs draw created invoices =
        (invoices ++ added, .ok (created + added.length)) ∧
      (invoices ++ added).map FeeInvoice.terms = upsertAll InvoiceTerms.key
        (invoices.map FeeInvoice.terms) (pairs.map (askedTerms tenantId plan)) ∧
      ∀ invoice ∈ added, Unpaid invoice := by
  induction pairs generalizing draw created invoices with
  | nil => exact ⟨[], by simp [upsertInvoices], by simp, by simp⟩
  | cons pair rest inductionHypothesis =>
    obtain ⟨studentId, inst⟩ := pair
    obtain ⟨first, upserted, result, counted, firstTerms, firstUnpaid⟩ :=
      upsert_terms bound (draw 0).2 plan studentId inst (fresh.unstored 0 (by simp))
    have later : FreshDraws (fun i => draw (i + 1)) rest.length (invoices ++ first) := by
      constructor
      · intro i bounded invoice member
        rcases List.mem_append.mp member with held | new
        · exact fresh.unstored (i + 1) (by simpa using bounded) invoice held
        · rw [(firstUnpaid invoice new).1]
          intro same
          have position := fresh.distinct 0 (by simp) (i + 1) (by simpa using bounded) same
          omega
      · intro i iBounded j jBounded same
        have position := fresh.distinct (i + 1) (by simpa using iBounded) (j + 1)
          (by simpa using jBounded) same
        omega
    obtain ⟨added, loop, laterTerms, laterUnpaid⟩ :=
      inductionHypothesis (if upserted then created + 1 else created) later
    refine ⟨first ++ added, ?_, ?_, ?_⟩
    · simp only [upsertInvoices, result, loop, List.append_assoc, List.length_append, counted]
      congr 2
      split <;> omega
    · rw [← List.append_assoc, laterTerms, firstTerms]
      rfl
    · intro invoice member
      rcases List.mem_append.mp member with early | late
      · exact (firstUnpaid invoice early).2
      · exact laterUnpaid invoice late

/-- A generation that has a plan, installments and students adds unpaid invoices and counts
them; in terms it is a batch of upserts. -/
theorem generate_terms (bound : Bound ambient tenantId) {draw : Nat → ObjectId × Int}
    {planId : ObjectId} {dto : GenerateInvoicesDto} {database : Database} {plan : FeePlan}
    {studentIds : List ObjectId}
    (found : TenantModel.findById ambient planId database.plans = .ok (some plan))
    (divided : plan.installments ≠ [])
    (listed : generationStudents ambient plan dto database = .ok studentIds)
    (fresh : FreshDraws draw (generationPairs plan studentIds).length database.invoices) :
    ∃ added, generateInvoices ambient draw planId dto database =
        ({ database with invoices := database.invoices ++ added }, .ok added.length) ∧
      (database.invoices ++ added).map FeeInvoice.terms = upsertAll InvoiceTerms.key
        (database.invoices.map FeeInvoice.terms)
        ((generationPairs plan studentIds).map (askedTerms tenantId plan)) ∧
      ∀ invoice ∈ added, Unpaid invoice := by
  obtain ⟨added, loop, terms, unpaid⟩ :=
    upserts_terms bound plan (generationPairs plan studentIds) 0 fresh
  refine ⟨added, ?_, terms, unpaid⟩
  have filled : plan.installments.isEmpty = false := by
    simpa using divided
  unfold generateInvoices
  simp only [found, filled, listed, Bool.false_eq_true, if_false]
  rw [generationPairs, Nat.zero_add] at loop
  rw [loop]

/-- The invoices that an upsert's filter matches. -/
def invoicesUnder (key : String × ObjectId × ObjectId × String) (invoices : List FeeInvoice) :
    List FeeInvoice :=
  invoices.filter (fun invoice => decide (invoice.terms.key = key))

/-- As many invoices are under a key as terms are. -/
theorem under_length (key : String × ObjectId × ObjectId × String) (invoices : List FeeInvoice) :
    (invoicesUnder key invoices).length =
      ((invoices.map FeeInvoice.terms).filter (fun terms => decide (terms.key = key))).length := by
  rw [List.filter_map, List.length_map]
  rfl

/-- The student's upserts among those of a generation, in the order of the loop: the plan's
installments, once for each time the student is listed. -/
theorem student_pairs (plan : FeePlan) (studentId : ObjectId) (studentIds : List ObjectId) :
    (generationPairs plan studentIds).filter (fun pair => decide (pair.1 = studentId)) =
      generationPairs plan (studentIds.filter (fun other => decide (other = studentId))) := by
  induction studentIds with
  | nil => rfl
  | cons other rest inductionHypothesis =>
    simp only [generationPairs, List.flatMap_cons, List.filter_append] at inductionHypothesis ⊢
    rw [inductionHypothesis, List.filter_map]
    by_cases same : other = studentId
    · rw [List.filter_cons_of_pos (by simpa using same), List.flatMap_cons]
      simp [Function.comp_def, same]
    · rw [List.filter_cons_of_neg (by simpa using same)]
      simp [Function.comp_def, same]

/-- The invoices of a student for a plan of a tenant. -/
def studentInvoices (tenantId : String) (studentId planId : ObjectId) (invoices : List FeeInvoice) :
    List FeeInvoice :=
  invoices.filter (fun invoice => decide (invoice.tenantId = tenantId ∧
    invoice.studentId = studentId ∧ invoice.feePlanId = planId))

/-- A student's invoices for a plan cover it: one invoice for each installment, with its
label, amount and due date. -/
def Covers (tenantId : String) (plan : FeePlan) (studentId : ObjectId)
    (invoices : List FeeInvoice) : Prop :=
  ((studentInvoices tenantId studentId plan.id invoices).map
      (fun invoice => (invoice.label, invoice.amountDue, invoice.dueDate))).Perm
    (plan.installments.map (fun inst => (inst.label, inst.amount, inst.dueDate)))

/-- Invoices that cover a plan are due for what its installments add up to. -/
theorem Covers.sum {plan : FeePlan} {studentId : ObjectId} {invoices : List FeeInvoice}
    (covers : Covers tenantId plan studentId invoices) :
    ((studentInvoices tenantId studentId plan.id invoices).map FeeInvoice.amountDue).sum =
      (plan.installments.map Installment.amount).sum := by
  have amounts := (covers.map (fun billed : String × ℚ × Int => billed.2.1)).sum_eq
  simpa only [List.map_map, Function.comp_def] using amounts

/-- In terms, the invoices of a student who had none are the student's upserts. -/
theorem student_terms {plan : FeePlan} {studentIds : List ObjectId}
    {before after : List FeeInvoice} (studentId : ObjectId)
    (terms : after.map FeeInvoice.terms = upsertAll InvoiceTerms.key (before.map FeeInvoice.terms)
      ((generationPairs plan studentIds).map (askedTerms tenantId plan)))
    (unbilled : ∀ invoice ∈ before, invoice.studentId = studentId → invoice.feePlanId ≠ plan.id) :
    (studentInvoices tenantId studentId plan.id after).map FeeInvoice.terms =
      upsertAll InvoiceTerms.key []
        ((generationPairs plan (studentIds.filter (fun other => decide (other = studentId)))).map
          (askedTerms tenantId plan)) := by
  let selects : String × ObjectId × ObjectId × String → Bool := fun key =>
    decide (key.1 = tenantId ∧ key.2.1 = studentId ∧ key.2.2.1 = plan.id)
  have reads (invoices : List FeeInvoice) :
      (studentInvoices tenantId studentId plan.id invoices).map FeeInvoice.terms =
        (invoices.map FeeInvoice.terms).filter (fun terms => selects terms.key) := by
    rw [List.filter_map]
    rfl
  have nothing : (before.map FeeInvoice.terms).filter (fun terms => selects terms.key) = [] := by
    rw [← reads, List.map_eq_nil_iff, studentInvoices, List.filter_eq_nil_iff]
    intro invoice stored
    simp only [decide_eq_true_eq, not_and]
    exact fun _ same => unbilled invoice stored same
  have asked : ((generationPairs plan studentIds).map (askedTerms tenantId plan)).filter
      (fun terms => selects terms.key) =
      ((generationPairs plan studentIds).filter (fun pair => decide (pair.1 = studentId))).map
        (askedTerms tenantId plan) := by
    rw [List.filter_map]
    congr 1
    apply List.filter_congr
    intro pair _
    exact decide_eq_decide.mpr (by simp [askedTerms, InvoiceTerms.key])
  rw [reads, terms, upsert_all_filter, nothing, asked, student_pairs]

/-- A student who is listed has the plan's installments asked, and then once more for each
further listing. -/
theorem listed_pairs (plan : FeePlan) {studentId : ObjectId} {studentIds : List ObjectId}
    (listed : studentId ∈ studentIds) :
    ∃ again, generationPairs plan (studentIds.filter (fun other => decide (other = studentId))) =
        plan.installments.map (fun inst => (studentId, inst)) ++ again ∧
      ∀ pair ∈ again, pair.1 = studentId ∧ pair.2 ∈ plan.installments := by
  have member : studentId ∈ studentIds.filter (fun other => decide (other = studentId)) := by
    simpa using listed
  cases only : studentIds.filter (fun other => decide (other = studentId)) with
  | nil => simp [only] at member
  | cons first rest =>
    have same (other : ObjectId) (held : other ∈ first :: rest) : other = studentId := by
      rw [← only] at held
      simpa using (List.mem_filter.mp held).2
    refine ⟨generationPairs plan rest, ?_, ?_⟩
    · rw [generationPairs, List.flatMap_cons, same first (by simp)]
      rfl
    · intro pair held
      obtain ⟨other, stored, paired⟩ := List.mem_flatMap.mp held
      obtain ⟨inst, asked, rfl⟩ := List.mem_map.mp paired
      exact ⟨same other (by simp [stored]), asked⟩

/-- Under distinct labels the upserts of a listed student without invoices cover the plan. -/
theorem distinct_covers {plan : FeePlan} {studentIds : List ObjectId}
    {before after : List FeeInvoice} {studentId : ObjectId} (listed : studentId ∈ studentIds)
    (terms : after.map FeeInvoice.terms = upsertAll InvoiceTerms.key (before.map FeeInvoice.terms)
      ((generationPairs plan studentIds).map (askedTerms tenantId plan)))
    (unbilled : ∀ invoice ∈ before, invoice.studentId = studentId → invoice.feePlanId ≠ plan.id)
    (distinct : (plan.installments.map Installment.label).Nodup) :
    Covers tenantId plan studentId after := by
  obtain ⟨again, pairs, repeated⟩ := listed_pairs plan listed
  have billed := student_terms studentId terms unbilled
  have keys : ((plan.installments.map
      (askedTerms tenantId plan ∘ fun inst => (studentId, inst))).map InvoiceTerms.key).Nodup := by
    rw [List.map_map]
    apply List.Nodup.of_map (fun key : String × ObjectId × ObjectId × String => key.2.2.2)
    rw [List.map_map]
    exact distinct
  rw [pairs, List.map_append, upsert_all_append, List.map_map,
    upsert_all_fresh keys (by simp), List.nil_append, upsert_all_present] at billed
  · have read := congrArg
      (List.map (fun terms : InvoiceTerms => (terms.label, terms.amountDue, terms.dueDate))) billed
    simp only [List.map_map] at read
    exact List.Perm.of_eq read
  · intro asked member
    obtain ⟨pair, held, rfl⟩ := List.mem_map.mp member
    obtain ⟨same, stored⟩ := repeated pair held
    simp only [List.map_map, List.mem_map, Function.comp_apply]
    exact ⟨pair.2, stored, by rw [← same]⟩

/-- The invoices of a student who had none have distinct labels, so they cover a plan only
when its labels are distinct. -/
theorem covers_distinct {plan : FeePlan} {studentIds : List ObjectId}
    {before after : List FeeInvoice} {studentId : ObjectId}
    (terms : after.map FeeInvoice.terms = upsertAll InvoiceTerms.key (before.map FeeInvoice.terms)
      ((generationPairs plan studentIds).map (askedTerms tenantId plan)))
    (unbilled : ∀ invoice ∈ before, invoice.studentId = studentId → invoice.feePlanId ≠ plan.id)
    (covers : Covers tenantId plan studentId after) :
    (plan.installments.map Installment.label).Nodup := by
  have billed := student_terms studentId terms unbilled
  have keys : (((studentInvoices tenantId studentId plan.id after).map FeeInvoice.terms).map
      InvoiceTerms.key).Nodup := by
    rw [billed]
    exact upsert_all_distinct _ List.nodup_nil
  have labels : ((studentInvoices tenantId studentId plan.id after).map FeeInvoice.label).Nodup := by
    rw [List.map_map] at keys
    apply List.Nodup.map_on _ keys.of_map
    intro first firstMember second secondMember same
    have owns (invoice : FeeInvoice)
        (member : invoice ∈ studentInvoices tenantId studentId plan.id after) :
        invoice.terms.key = (tenantId, studentId, plan.id, invoice.label) := by
      obtain ⟨_, owned⟩ := List.mem_filter.mp member
      obtain ⟨rfl, rfl, same⟩ := of_decide_eq_true owned
      simp only [FeeInvoice.terms, InvoiceTerms.key, same]
    apply List.inj_on_of_nodup_map keys firstMember secondMember
    simp only [Function.comp_apply, owns first firstMember, owns second secondMember, same]
  have read := covers.map (fun billed : String × ℚ × Int => billed.1)
  rw [List.map_map, List.map_map] at read
  exact read.nodup_iff.mp labels

end FeesService

end CoachingApi
