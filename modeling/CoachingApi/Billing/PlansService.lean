import CoachingApi.Schemas.Platform

/-!
# The plans that the platform sells

A plan is created after the setters and the validators of its schema, and is changed in place by
an update that runs none of them. A key of a body that is omitted leaves what is stored; a price
that is null is stored as null. Nulls of the other keys are left out.
-/

namespace CoachingApi

/-- The body of a plan's creation. -/
structure CreatePlanDto where
  name : String
  tier : PlanTier
  priceMonthly : ℚ
  limits : PlanLimits
  features : Option (List String) := none

/-- The body of a plan's change. -/
structure UpdatePlanDto where
  name : Option String := none
  priceMonthly : OptionalValue ℚ := .omitted
  limits : Option PlanLimits := none
  features : Option (List String) := none

namespace PlansService

/-- The price by which plans are listed: a null price comes before every number. -/
def cheaper (first second : Plan) : Bool :=
  match first.priceMonthly, second.priceMonthly with
  | none, _ => true
  | some _, none => false
  | some one, some other => decide (one ≤ other)

/-- `list`, the cheapest first. -/
def list (plans : List Plan) : List Plan := plans.mergeSort cheaper

/-- The plan that a body asks for. -/
def createdPlan (generated : ObjectId) (dto : CreatePlanDto) : Plan :=
  Plan.cast
    { id := generated, name := dto.name, tier := dto.tier, priceMonthly := some dto.priceMonthly,
      limits := dto.limits, features := dto.features.getD [] }

/-- `create`. -/
def create (generated : ObjectId) (dto : CreatePlanDto) (plans : List Plan) :
    List Plan × Except Thrown Plan :=
  let plan := createdPlan generated dto
  match plan.refusedPath with
  | some path => (plans, .error (.validation path))
  | none =>
    if plans.any (fun stored => decide (stored.id = plan.id)) then (plans, .error .duplicateKey)
    else (plans ++ [plan], .ok plan)

/-- The change that a body asks for. -/
def changePlan (dto : UpdatePlanDto) (plan : Plan) : Plan :=
  { plan with
    name := (dto.name.map Text.trim).getD plan.name
    priceMonthly := dto.priceMonthly.update (fun price => price) plan.priceMonthly
    limits := dto.limits.getD plan.limits
    features := dto.features.getD plan.features }

/-- `update`. -/
def update (id : String) (dto : UpdatePlanDto) (plans : List Plan) :
    List Plan × Except Thrown Plan :=
  match castId "Plan" id with
  | .error thrown => (plans, .error thrown)
  | .ok target =>
    match Records.lookup Plan.id target plans with
    | none => (plans, .error (.notFound "Plan not found"))
    | some plan => (Records.modify Plan.id target (changePlan dto) plans, .ok (changePlan dto plan))

/-- A creation adds the plan under an identity of its own, or leaves the plans as they are. -/
theorem create_cases (generated : ObjectId) (dto : CreatePlanDto) (plans : List Plan) :
    (∃ thrown, create generated dto plans = (plans, .error thrown)) ∨
      create generated dto plans =
          (plans ++ [createdPlan generated dto], .ok (createdPlan generated dto)) ∧
        ∀ plan ∈ plans, plan.id ≠ generated := by
  unfold create
  simp only
  split
  · exact .inl ⟨_, rfl⟩
  · split
    · exact .inl ⟨_, rfl⟩
    · rename_i free
      refine .inr ⟨rfl, ?_⟩
      intro plan stored same
      exact free (List.any_eq_true.mpr ⟨plan, stored, decide_eq_true same⟩)

/-- An update changes the plan its text names, or leaves the plans as they are. -/
theorem update_cases (id : String) (dto : UpdatePlanDto) (plans : List Plan) :
    (∃ thrown, update id dto plans = (plans, .error thrown)) ∨
      ∃ plan ∈ plans, ObjectId.cast id = some plan.id ∧
        update id dto plans =
          (Records.modify Plan.id plan.id (changePlan dto) plans, .ok (changePlan dto plan)) := by
  unfold update castId
  cases casts : ObjectId.cast id with
  | none => exact .inl ⟨_, rfl⟩
  | some target =>
    simp only
    cases found : Records.lookup Plan.id target plans with
    | none => exact .inl ⟨_, rfl⟩
    | some plan =>
      obtain ⟨stored, rfl⟩ := Records.lookup_some found
      exact .inr ⟨plan, stored, rfl, rfl⟩

end PlansService

end CoachingApi
