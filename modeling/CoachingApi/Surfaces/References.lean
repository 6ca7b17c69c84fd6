import CoachingApi.Surfaces.MemberRecords

/-!
# References between records

Tests, assignments, plans and invoices are never deleted and keep their identities, so what
refers to them by way of the tenant surface never dangles: a score has a test of its institute
and lies between nothing and the test's most marks, a submission has an assignment, an invoice
is for an installment of a plan, and a payment is for an invoice. Students and batches can be
deleted, and references to them are not among these.
-/

namespace CoachingApi

open TenantModel TenantPlugin TenantContextStore

/-- The pipe lets no negative marks through. -/
def TenantRequest.Validated : TenantRequest → Prop
  | .recordScore _ _ dto => 0 ≤ dto.marks
  | _ => True

namespace TenantApi

/-- A score refers to a test of its tenant, within the test's marks. -/
def Graded (tests : List Test) (score : TestScore) : Prop :=
  ∃ test ∈ tests, test.tenantId = score.tenantId ∧ test.id = score.testId ∧ 0 ≤ score.marks ∧
    score.marks ≤ test.maxMarks

/-- A submission refers to an assignment of its tenant. -/
def Assigned (assignments : List Assignment) (submission : Submission) : Prop :=
  ∃ assignment ∈ assignments, assignment.tenantId = submission.tenantId ∧
    assignment.id = submission.assignmentId

/-- An invoice refers to a plan of its tenant, for one of its installments. -/
def Planned (plans : List FeePlan) (invoice : FeeInvoice) : Prop :=
  ∃ plan ∈ plans, plan.tenantId = invoice.tenantId ∧ plan.id = invoice.feePlanId ∧
    ∃ inst ∈ plan.installments, inst.label = invoice.label ∧ inst.amount = invoice.amountDue

/-- A payment refers to an invoice of its tenant and its student. -/
def Invoiced (invoices : List FeeInvoice) (payment : Payment) : Prop :=
  ∃ invoice ∈ invoices, invoice.tenantId = payment.tenantId ∧ invoice.id = payment.invoiceId ∧
    invoice.studentId = payment.studentId

/-- No reference dangles, and scores and submissions have distinct identities. -/
structure References (campus : Campus) : Prop where
  scoreIds : Records.Distinct TestScore.id campus.database.scores
  submissionIds : Records.Distinct Submission.id campus.database.submissions
  scores : ∀ score ∈ campus.database.scores, Graded campus.database.tests score
  submissions : ∀ submission ∈ campus.database.submissions,
    Assigned campus.database.assignments submission
  invoices : ∀ invoice ∈ campus.database.invoices, Planned campus.database.plans invoice
  payments : ∀ payment ∈ campus.database.payments, Invoiced campus.database.invoices payment

section Parents

variable (ambient : Ambient) {database : Database}

/-- The creation of a test keeps the tests that are stored. -/
theorem create_test_keeps (draw : AcademicsDraw) (dto : CreateTestDto) :
    ∀ test ∈ database.tests,
      test ∈ (AcademicsService.createTest ambient draw dto database).1.tests := by
  intro test stored
  unfold AcademicsService.createTest
  split
  · exact stored
  · split
    · exact stored
    · rename_i created
      obtain ⟨_, rfl, _⟩ := create_ok created
      exact List.mem_append_left _ stored

/-- The creation of an assignment keeps the assignments that are stored. -/
theorem create_assignment_keeps (draw : AcademicsDraw) (createdBy : ObjectId)
    (dto : CreateAssignmentDto) :
    ∀ assignment ∈ database.assignments, assignment ∈
      (AcademicsService.createAssignment ambient draw createdBy dto database).1.assignments := by
  intro assignment stored
  unfold AcademicsService.createAssignment
  split
  · exact stored
  · split
    · exact stored
    · rename_i created
      obtain ⟨_, rfl, _⟩ := create_ok created
      exact List.mem_append_left _ stored

end Parents

section Services

variable {ambient : Ambient} {tenant : String} (bound : Bound ambient tenant)
  {database : Database}
include bound

/-- A score that is recorded keeps identities distinct, and every score is one that was stored or
lies within the marks of a test of the tenant. -/
theorem record_score_graded (deployment : AcademicsDeployment) (draw : AcademicsDraw)
    (id : String) {dto : RecordScoreDto} (validated : 0 ≤ dto.marks)
    (distinct : Records.Distinct TestScore.id database.scores) :
    let after := (AcademicsService.recordScore deployment ambient draw id dto database).1
    Records.Distinct TestScore.id after.scores ∧
      ∀ score ∈ after.scores, score ∈ database.scores ∨ Graded database.tests score := by
  intro after
  have nothing : Records.Distinct TestScore.id database.scores ∧
      ∀ score ∈ database.scores, score ∈ database.scores ∨ Graded database.tests score :=
    ⟨distinct, fun _ stored => .inl stored⟩
  unfold after AcademicsService.recordScore
  split
  · exact nothing
  · cases found : findByText ambient id database.tests with
    | error thrown => exact nothing
    | ok held =>
      cases held with
      | none => exact nothing
      | some test =>
        obtain ⟨stored, owned, _⟩ := find_by_text_owned bound found
        simp only
        split
        · exact nothing
        · rename_i within
          split
          · exact nothing
          · split
            · exact nothing
            · rename_i score scores upserted
              have keepsId : ∀ row, TenantModel.id (AcademicsService.rescore dto row) =
                  TenantModel.id row := fun _ => rfl
              obtain ⟨ids, rows, anew⟩ := upsert_one_stores bound distinct keepsId upserted
              refine ⟨ids, fun row member => (rows row member).imp_right ?_⟩
              rintro rfl
              rcases anew with ⟨graded, _, ownGraded, matched, rfl⟩ | rfl
              · have about := of_decide_eq_true matched
                exact ⟨test, stored, owned.trans ownGraded.symm, about.1.symm, validated,
                  not_lt.mp within⟩
              · exact ⟨test, stored, owned, rfl, validated, not_lt.mp within⟩

/-- After a submission every submission is one that was stored or has an assignment of the
tenant. -/
theorem submit_assigned (draw : AcademicsDraw) (id : String) (dto : SubmitAssignmentDto)
    (distinct : Records.Distinct Submission.id database.submissions) :
    let after := (AcademicsService.submit ambient draw id dto database).1
    Records.Distinct Submission.id after.submissions ∧
      ∀ submission ∈ after.submissions,
        submission ∈ database.submissions ∨ Assigned database.assignments submission := by
  intro after
  have nothing : Records.Distinct Submission.id database.submissions ∧
      ∀ submission ∈ database.submissions,
        submission ∈ database.submissions ∨ Assigned database.assignments submission :=
    ⟨distinct, fun _ stored => .inl stored⟩
  unfold after AcademicsService.submit
  split
  · exact nothing
  · cases found : findByText ambient id database.assignments with
    | error thrown => exact nothing
    | ok held =>
      cases held with
      | none => exact nothing
      | some assignment =>
        obtain ⟨stored, owned, _⟩ := find_by_text_owned bound found
        simp only
        split
        · exact nothing
        · split
          · exact nothing
          · rename_i submission submissions upserted
            have keepsId : ∀ row, TenantModel.id (AcademicsService.resubmit dto.fileUrl draw.now row) =
                TenantModel.id row := fun _ => rfl
            obtain ⟨ids, rows, anew⟩ := upsert_one_stores bound distinct keepsId upserted
            refine ⟨ids, fun row member => (rows row member).imp_right ?_⟩
            rintro rfl
            rcases anew with ⟨submitted, _, ownSubmitted, matched, rfl⟩ | rfl
            · have about := of_decide_eq_true matched
              exact ⟨assignment, stored, owned.trans ownSubmitted.symm, about.1.symm⟩
            · exact ⟨assignment, stored, owned, rfl⟩

/-- A grading changes neither the identities of submissions nor what they are for. -/
theorem grade_keeps (deployment : AcademicsDeployment) (draw : AcademicsDraw) (id : String)
    (dto : GradeSubmissionDto) :
    (AcademicsService.grade deployment ambient draw id dto database).1.submissions.map
        (fun submission => (submission.id, submission.tenantId, submission.assignmentId)) =
      database.submissions.map
        (fun submission => (submission.id, submission.tenantId, submission.assignmentId)) := by
  unfold AcademicsService.grade
  split
  · rfl
  · cases updates : findByTextAndUpdate ambient id (AcademicsService.gradeSubmission dto)
        database.submissions with
    | error thrown => rfl
    | ok ended =>
      obtain ⟨found, submissions⟩ := ended
      cases found with
      | none => rfl
      | some submission =>
        obtain ⟨record, _, _, _, _, rfl⟩ := find_by_text_and_update_ok bound updates
        obtain ⟨_, _, writes⟩ := AcademicsService.notify_graded_writes deployment ambient draw id
          dto submission
          { database with
            submissions := Records.modify TenantModel.id (TenantModel.id record)
              (AcademicsService.gradeSubmission dto) database.submissions }
        simp only [writes]
        exact Records.modify_reading
          (fun submission : Submission =>
            (submission.id, submission.tenantId, submission.assignmentId)) (fun _ _ _ => rfl)

/-- What one upsert of a generation leaves is stored or for an installment of the plan. -/
theorem upsert_planned {plans : List FeePlan} {plan : FeePlan} (stored : plan ∈ plans)
    (owned : plan.tenantId = tenant) {generated : ObjectId} {now : Int} {studentId : ObjectId}
    {inst : Installment} (listed : inst ∈ plan.installments) {invoices updated : List FeeInvoice}
    {upserted : Bool}
    (result : FeesService.upsertInvoice ambient generated now plan studentId inst invoices =
      .ok (upserted, updated)) :
    ∀ invoice ∈ updated, invoice ∈ invoices ∨ Planned plans invoice := by
  unfold FeesService.upsertInvoice at result
  rw [scope_bound bound] at result
  simp only at result
  split at result
  · obtain ⟨_, rfl⟩ := Prod.mk.inj (Except.ok.inj result)
    exact fun _ member => .inl member
  · split at result
    · cases result
    · obtain ⟨_, rfl⟩ := Prod.mk.inj (Except.ok.inj result)
      intro invoice member
      rcases List.mem_append.mp member with old | new
      · exact .inl old
      · rw [List.mem_singleton.mp new]
        exact .inr ⟨plan, stored, owned, rfl, inst, listed, rfl, rfl⟩

/-- What the loop of a generation leaves is stored or for an installment of the plan.

Proof: by induction on the students and installments. -/
theorem upserts_planned {plans : List FeePlan} {plan : FeePlan} (stored : plan ∈ plans)
    (owned : plan.tenantId = tenant) (work : List (ObjectId × Installment))
    (listed : ∀ item ∈ work, item.2 ∈ plan.installments) (draw : Nat → ObjectId × Int)
    (created : Nat) (invoices : List FeeInvoice) :
    ∀ invoice ∈ (FeesService.upsertInvoices ambient plan work draw created invoices).1,
      invoice ∈ invoices ∨ Planned plans invoice := by
  induction work generalizing draw created invoices with
  | nil => exact fun _ member => .inl member
  | cons item rest inductionHypothesis =>
    obtain ⟨studentId, inst⟩ := item
    unfold FeesService.upsertInvoices
    cases result : FeesService.upsertInvoice ambient (draw 0).1 (draw 0).2 plan studentId inst
        invoices with
    | error thrown => exact fun _ member => .inl member
    | ok outcome =>
      intro invoice member
      have later := inductionHypothesis (fun other held => listed other (List.mem_cons_of_mem _ held))
        (fun i => draw (i + 1)) (if outcome.1 then created + 1 else created) outcome.2 invoice member
      rcases later with early | planned
      · exact upsert_planned bound stored owned (listed _ List.mem_cons_self) result invoice early
      · exact .inr planned

/-- After a generation every invoice is one that was stored or is for an installment of a plan of
the tenant. -/
theorem generate_planned (draw : Nat → ObjectId × Int) (planId : ObjectId)
    (dto : GenerateInvoicesDto) :
    ∀ invoice ∈ (FeesService.generateInvoices ambient draw planId dto database).1.invoices,
      invoice ∈ database.invoices ∨ Planned database.plans invoice := by
  unfold FeesService.generateInvoices
  cases found : findById ambient planId database.plans with
  | error thrown => exact fun _ member => .inl member
  | ok held =>
    cases held with
    | none => exact fun _ member => .inl member
    | some plan =>
      obtain ⟨stored, owned, _⟩ := find_one_owned bound found
      simp only
      split
      · exact fun _ member => .inl member
      · split
        · exact fun _ member => .inl member
        · apply upserts_planned bound stored owned
          intro item member
          obtain ⟨studentId, _, paired⟩ := List.mem_flatMap.mp member
          obtain ⟨inst, listed, rfl⟩ := List.mem_map.mp paired
          exact listed

/-- After an order every payment is one that was stored or is for an invoice of the tenant. -/
theorem order_invoiced (deployment : Deployment) (live : OrderRequest → Except Thrown OrderReply)
    (generated invoiceId : ObjectId) :
    ∀ payment ∈ (FeesService.createPaymentOrder deployment ambient live generated invoiceId
        database).1.payments,
      payment ∈ database.payments ∨ Invoiced database.invoices payment := by
  unfold FeesService.createPaymentOrder FeesService.getInvoice
  cases found : findById ambient invoiceId database.invoices with
  | error thrown => exact fun _ member => .inl member
  | ok held =>
    cases held with
    | none => exact fun _ member => .inl member
    | some invoice =>
      obtain ⟨stored, owned, _⟩ := find_one_owned bound found
      simp only
      split
      · exact fun _ member => .inl member
      · split
        · exact fun _ member => .inl member
        · split
          · exact fun _ member => .inl member
          · rename_i created
            obtain ⟨valid, rfl, _⟩ := create_ok created
            obtain ⟨stamp, _⟩ := validate_ok bound valid
            intro payment member
            rcases List.mem_append.mp member with old | new
            · exact .inl old
            · rw [List.mem_singleton.mp new, stamp]
              exact .inr ⟨invoice, stored, owned, rfl, rfl⟩

end Services

/-- A reference to a test stands while tests are only added. -/
theorem Graded.mono {before after : List Test} (kept : ∀ test ∈ before, test ∈ after)
    {score : TestScore} (graded : Graded before score) : Graded after score := by
  obtain ⟨test, stored, about⟩ := graded
  exact ⟨test, kept test stored, about⟩

/-- A reference to an assignment stands while assignments are only added. -/
theorem Assigned.mono {before after : List Assignment}
    (kept : ∀ assignment ∈ before, assignment ∈ after) {submission : Submission}
    (assigned : Assigned before submission) : Assigned after submission := by
  obtain ⟨assignment, stored, about⟩ := assigned
  exact ⟨assignment, kept assignment stored, about⟩

/-- A reference to a plan stands while plans are only added. -/
theorem Planned.mono {before after : List FeePlan} (kept : ∀ plan ∈ before, plan ∈ after)
    {invoice : FeeInvoice} (planned : Planned before invoice) : Planned after invoice := by
  obtain ⟨plan, stored, about⟩ := planned
  exact ⟨plan, kept plan stored, about⟩

/-- A reference to an invoice stands while invoices are only added. -/
theorem Invoiced.mono {before after : List FeeInvoice}
    (kept : ∀ invoice ∈ before, invoice ∈ after) {payment : Payment}
    (invoiced : Invoiced before payment) : Invoiced after payment := by
  obtain ⟨invoice, stored, about⟩ := invoiced
  exact ⟨invoice, kept invoice stored, about⟩

section Requests

variable (deployment : TenantApiDeployment) {ambient : Ambient} {tenant : String}
  (bound : Bound ambient tenant) (user : TenantPrincipal) (campus : Campus)
  (request : TenantRequest)

/-- Tests are only added. -/
theorem serve_tests :
    ∀ test ∈ campus.database.tests,
      test ∈ (serve deployment ambient user campus request).1.database.tests := by
  intro test member
  by_cases written : Holding.tests ∈ request.writes
  · cases request with
    | createTest draw dto => exact create_test_keeps ambient draw dto test member
    | _ => simp [TenantRequest.writes] at written
  · have same : (serve deployment ambient user campus request).1.database.tests =
        campus.database.tests :=
      (serve_writes deployment ambient user campus request).same written
    rw [same]
    exact member

/-- Assignments are only added. -/
theorem serve_assignments :
    ∀ assignment ∈ campus.database.assignments,
      assignment ∈ (serve deployment ambient user campus request).1.database.assignments := by
  intro assignment member
  by_cases written : Holding.assignments ∈ request.writes
  · cases request with
    | createAssignment draw dto =>
      simp only [serve]
      split
      · exact member
      · exact create_assignment_keeps ambient draw _ dto assignment member
    | _ => simp [TenantRequest.writes] at written
  · have same : (serve deployment ambient user campus request).1.database.assignments =
        campus.database.assignments :=
      (serve_writes deployment ambient user campus request).same written
    rw [same]
    exact member

include bound

/-- Plans are only added. -/
theorem serve_plans :
    ∀ plan ∈ campus.database.plans,
      plan ∈ (serve deployment ambient user campus request).1.database.plans := by
  intro plan member
  by_cases written : Holding.plans ∈ request.writes
  · cases request with
    | createPlan generated now dto =>
      obtain ⟨added, creates, _⟩ := FeesService.create_plan_appends deployment.fees bound generated
        now dto campus.database
      simp only [serve, stored, creates]
      exact List.mem_append_left added member
    | _ => simp [TenantRequest.writes] at written
  · have same : (serve deployment ambient user campus request).1.database.plans =
        campus.database.plans :=
      (serve_writes deployment ambient user campus request).same written
    rw [same]
    exact member

/-- Invoices are only added, for installments of plans. -/
theorem serve_invoices :
    (∀ invoice ∈ campus.database.invoices,
      invoice ∈ (serve deployment ambient user campus request).1.database.invoices) ∧
      ∀ invoice ∈ (serve deployment ambient user campus request).1.database.invoices,
        invoice ∈ campus.database.invoices ∨ Planned campus.database.plans invoice := by
  by_cases written : Holding.invoices ∈ request.writes
  · cases request with
    | generateInvoices draw id dto =>
      simp only [serve]
      split
      · exact ⟨fun _ member => member, fun _ member => .inl member⟩
      · rename_i planId _
        refine ⟨fun invoice member => ?_, generate_planned bound draw planId dto⟩
        obtain ⟨added, generates, _⟩ := FeesService.generate_appends bound draw planId dto
          campus.database
        simp only [stored, generates]
        exact List.mem_append_left added member
    | _ => simp [TenantRequest.writes] at written
  · have same : (serve deployment ambient user campus request).1.database.invoices =
        campus.database.invoices :=
      (serve_writes deployment ambient user campus request).same written
    rw [same]
    exact ⟨fun _ member => member, fun _ member => .inl member⟩

/-- Payments are stored or for invoices. -/
theorem serve_payments :
    ∀ payment ∈ (serve deployment ambient user campus request).1.database.payments,
      payment ∈ campus.database.payments ∨ Invoiced campus.database.invoices payment := by
  by_cases written : Holding.payments ∈ request.writes
  · cases request with
    | createOrder live generated invoiceId =>
      exact order_invoiced bound deployment.fees live generated invoiceId.id
    | _ => simp [TenantRequest.writes] at written
  · have same : (serve deployment ambient user campus request).1.database.payments =
        campus.database.payments :=
      (serve_writes deployment ambient user campus request).same written
    rw [same]
    exact fun _ member => .inl member

/-- Scores are stored or within the marks of tests. -/
theorem serve_scores (validated : request.Validated)
    (distinct : Records.Distinct TestScore.id campus.database.scores) :
    Records.Distinct TestScore.id
        (serve deployment ambient user campus request).1.database.scores ∧
      ∀ score ∈ (serve deployment ambient user campus request).1.database.scores,
        score ∈ campus.database.scores ∨ Graded campus.database.tests score := by
  by_cases written : Holding.scores ∈ request.writes
  · cases request with
    | recordScore draw id dto =>
      exact record_score_graded bound deployment.academics draw id validated distinct
    | _ => simp [TenantRequest.writes] at written
  · have same : (serve deployment ambient user campus request).1.database.scores =
        campus.database.scores :=
      (serve_writes deployment ambient user campus request).same written
    rw [same]
    exact ⟨distinct, fun _ member => .inl member⟩

/-- Submissions are stored or for assignments. -/
theorem serve_submissions
    (distinct : Records.Distinct Submission.id campus.database.submissions)
    (assigned : ∀ submission ∈ campus.database.submissions,
      Assigned campus.database.assignments submission) :
    Records.Distinct Submission.id
        (serve deployment ambient user campus request).1.database.submissions ∧
      ∀ submission ∈ (serve deployment ambient user campus request).1.database.submissions,
        Assigned campus.database.assignments submission := by
  by_cases written : Holding.submissions ∈ request.writes
  · cases request with
    | submit draw id dto =>
      obtain ⟨ids, rows⟩ := submit_assigned bound draw id dto distinct
      exact ⟨ids, fun submission member =>
        (rows submission member).elim (assigned submission) (fun new => new)⟩
    | grade draw id dto =>
      have keeps := @grade_keeps ambient tenant bound campus.database deployment.academics draw id dto
      constructor
      · refine Records.same_keys_distinct ?_ distinct
        exact Records.determined_reading (fun _ _ same => congrArg Prod.fst same) keeps
      · intro submission member
        obtain ⟨original, held, same⟩ := Records.reading_stored keeps member
        obtain ⟨assignment, there, owned, about⟩ := assigned original held
        simp only [Prod.mk.injEq] at same
        exact ⟨assignment, there, owned.trans same.2.1, about.trans same.2.2⟩
    | _ => simp [TenantRequest.writes] at written
  · have same : (serve deployment ambient user campus request).1.database.submissions =
        campus.database.submissions :=
      (serve_writes deployment ambient user campus request).same written
    rw [same]
    exact ⟨distinct, assigned⟩

end Requests

/-- A call keeps every reference. -/
theorem after_references (deployment : TenantApiDeployment) {campus : Campus} {call : Call}
    (validated : call.request.Validated) (references : References campus) :
    References (after deployment campus call) := by
  cases admits : admitted deployment call with
  | error thrown =>
    have same : after deployment campus call = campus := by simp only [after, handle, admits]
    exact same.symm ▸ references
  | ok user =>
    have bound := admitted_bound admits
    have served : after deployment campus call =
        (serve deployment (intercept user.tenantId) user campus call.request).1 := by
      simp only [after, handle, admits]
    rw [served]
    obtain ⟨scoreIds, scores⟩ := serve_scores deployment bound user campus call.request validated
      references.scoreIds
    obtain ⟨submissionIds, submissions⟩ := serve_submissions deployment bound user campus
      call.request references.submissionIds references.submissions
    obtain ⟨kept, invoices⟩ := serve_invoices deployment bound user campus call.request
    have payments := serve_payments deployment bound user campus call.request
    constructor
    · exact scoreIds
    · exact submissionIds
    · intro score member
      have graded := (scores score member).elim (references.scores score) (fun new => new)
      exact graded.mono (serve_tests deployment user campus call.request)
    · intro submission member
      exact (submissions submission member).mono
        (serve_assignments deployment user campus call.request)
    · intro invoice member
      have planned := (invoices invoice member).elim (references.invoices invoice)
        (fun new => new)
      exact planned.mono (serve_plans deployment bound user campus call.request)
    · intro payment member
      have invoiced := (payments payment member).elim (references.payments payment)
        (fun new => new)
      exact invoiced.mono kept

/-- In every run of calls of the tenant surface whose bodies pass the pipe no reference ever
dangles, and no score leaves the bounds of its test.

Proof: by induction on the calls. A call that stores a reference has looked up what it refers to,
and nothing that is referred to is deleted. -/
theorem references_kept (deployment : TenantApiDeployment) {start : Campus} {calls : List Call}
    (validated : ∀ call ∈ calls, call.request.Validated) (references : References start) :
    References (Runs.run (after deployment) start calls) := by
  induction calls generalizing start with
  | nil => exact references
  | cons call rest inductionHypothesis =>
    have first := after_references deployment (validated call List.mem_cons_self) references
    exact inductionHypothesis (fun other member => validated other (List.mem_cons_of_mem _ member))
      first

/-- A test out of fifty. -/
def termTest : Test :=
  { id := .repeated 'e', tenantId := "institute-a", batchId := .repeated 'f', title := "Term",
    maxMarks := 50, date := 0 }

/-- A teacher records a score in a test. -/
theorem score_within_test :
    References (Runs.run (after quiet) { database := { tests := [termTest] } }
      [callOf "institute-a" .teacher (.repeated '1')
        (.recordScore { recordId := .repeated 'a', notificationId := .repeated 'b', now := 0 }
          termTest.id.hex { studentId := .ofId (.repeated '2'), marks := 42 })]) := by
  have opened : References { database := { tests := [termTest] } } := by
    constructor <;> first | exact List.nodup_nil | simp
  apply references_kept quiet _ opened
  intro call member
  rw [List.mem_singleton.mp member]
  have marked : (0 : ℚ) ≤ 42 := by norm_num
  exact marked

end TenantApi

end CoachingApi
