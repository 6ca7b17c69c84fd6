import CoachingApi.Billing.BillingService
import CoachingApi.Billing.PlansService
import CoachingApi.Library.Histories
import CoachingApi.Library.Runs

/-!
# The recurring revenue, from what was recorded

What the revenue is for: over the institutes whose subscription was last set to be active, the
prices last set for the plans it was last set to. Two histories tell these, of the prices that
plans were created with or changed to, and of the plan and the status that subscriptions were
upserted with. The joined aggregation over the stored documents comes to the same.
-/

namespace CoachingApi

open Revisions Histories

/-- What the platform sells and has sold. -/
structure Sales where
  plans : List Plan := []
  subscriptions : List Subscription := []

/-- A call of the plans' or the billing service that writes. -/
inductive SalesCall where
  | createPlan (generated : ObjectId) (dto : CreatePlanDto)
  | updatePlan (id : String) (dto : UpdatePlanDto)
  | upsert (generated : ObjectId) (params : SubscriptionParams)

/-- The prices set for plans. -/
abbrev PriceHistory := List (ObjectId × Option ℚ)

/-- The plan and the status set for institutes' subscriptions. -/
abbrev SubscriptionHistory := List (ObjectId × ObjectId × SubscriptionStatus)

namespace Sales

/-- What a call leaves. -/
def perform (sales : Sales) : SalesCall → Sales
  | .createPlan generated dto =>
    { sales with plans := (PlansService.create generated dto sales.plans).1 }
  | .updatePlan id dto => { sales with plans := (PlansService.update id dto sales.plans).1 }
  | .upsert generated params =>
    { sales with
      subscriptions := (BillingService.upsert generated params sales.subscriptions).1 }

/-- What a body sets a price to, if it does. -/
def priceGiven : OptionalValue ℚ → Option (Option ℚ)
  | .omitted => none
  | .null => some none
  | .value price => some (some price)

/-- The price that a call sets when it is answered, if it sets one. -/
def pricesSet (sales : Sales) : SalesCall → PriceHistory
  | .createPlan generated dto =>
    match (PlansService.create generated dto sales.plans).2 with
    | .error _ => []
    | .ok _ => [(generated, some dto.priceMonthly)]
  | .updatePlan id dto =>
    match (PlansService.update id dto sales.plans).2, priceGiven dto.priceMonthly with
    | .ok plan, some price => [(plan.id, price)]
    | _, _ => []
  | .upsert .. => []

/-- What a call sets of a subscription when it is answered; the status is active where none is
given. -/
def subscriptionsSet (sales : Sales) : SalesCall → SubscriptionHistory
  | .upsert generated params =>
    match (BillingService.upsert generated params sales.subscriptions).2,
      ObjectId.cast params.tenantId, ObjectId.cast params.planId with
    | .ok _, some tenantId, some planId => [(tenantId, planId, params.status.getD .active)]
    | _, _, _ => []
  | _ => []

/-- What a subscription is set to. -/
def terms (subscription : Subscription) : ObjectId × SubscriptionStatus :=
  (subscription.planId, subscription.status)

/-- The price of what an institute was last set to, where that is an active subscription to a
plan that has been created. -/
def paidPrice (prices : PriceHistory) : Option (ObjectId × SubscriptionStatus) → Option (Option ℚ)
  | some (planId, .active) => lastUnder planId prices
  | _ => none

/-- What the two histories say of the recurring revenue. -/
def revenueTold (prices : PriceHistory) (subscriptions : SubscriptionHistory) : Revenue :=
  let paid := (keys subscriptions).filterMap
    (fun tenantId => paidPrice prices (lastUnder tenantId subscriptions))
  { mrr := (paid.map (fun price => price.getD 0)).sum
    activeSubscriptions := paid.length
    currency := "INR" }

/-- Plans and subscriptions follow the histories; subscriptions have distinct identities. -/
structure Told (sales : Sales) (prices : PriceHistory) (subscriptions : SubscriptionHistory) :
    Prop where
  plans : Follows Plan.id Plan.priceMonthly sales.plans prices
  subscriptions : Follows Subscription.tenantId terms sales.subscriptions subscriptions
  subscriptionIds : Records.Distinct Subscription.id sales.subscriptions

/-- A price after an update is the one given, or the one there was. -/
theorem price_changed (dto : UpdatePlanDto) (plan : Plan) :
    (PlansService.changePlan dto plan).priceMonthly =
      (priceGiven dto.priceMonthly).getD plan.priceMonthly := by
  simp only [PlansService.changePlan]
  cases dto.priceMonthly <;> rfl

/-- A call on plans keeps them following the prices set. -/
theorem plans_follow {sales : Sales} {prices : PriceHistory}
    (follows : Follows Plan.id Plan.priceMonthly sales.plans prices) (call : SalesCall) :
    Follows Plan.id Plan.priceMonthly (perform sales call).plans
      (prices ++ pricesSet sales call) := by
  cases call with
  | createPlan generated dto =>
    rcases PlansService.create_cases generated dto sales.plans with
      ⟨thrown, refused⟩ | ⟨created, fresh⟩
    · simp only [perform, pricesSet, refused, List.append_nil]
      exact follows
    · simp only [perform, pricesSet, created]
      exact follows.append fresh
  | updatePlan id dto =>
    rcases PlansService.update_cases id dto sales.plans with
      ⟨thrown, refused⟩ | ⟨plan, stored, _, updated⟩
    · simp only [perform, pricesSet, refused, List.append_nil]
      exact follows
    · have keeps : ∀ plan, (PlansService.changePlan dto plan).id = plan.id := fun _ => rfl
      simp only [perform, pricesSet, updated]
      cases given : priceGiven dto.priceMonthly with
      | none =>
        rw [List.append_nil]
        apply follows.untouched keeps
        intro plan
        rw [price_changed, given]
        rfl
      | some price =>
        apply follows.rewrite stored keeps
        intro plan
        rw [price_changed, given]
        rfl
  | upsert generated params =>
    simp only [perform, pricesSet, List.append_nil]
    exact follows

/-- A call on subscriptions keeps them following what they were set to. -/
theorem subscriptions_follow {sales : Sales} {history : SubscriptionHistory}
    (ids : Records.Distinct Subscription.id sales.subscriptions)
    (follows : Follows Subscription.tenantId terms sales.subscriptions history)
    (call : SalesCall) :
    Records.Distinct Subscription.id (perform sales call).subscriptions ∧
      Follows Subscription.tenantId terms (perform sales call).subscriptions
        (history ++ subscriptionsSet sales call) := by
  cases call with
  | upsert generated params =>
    rcases BillingService.upsert_cases generated params sales.subscriptions with
      ⟨thrown, refused⟩ | ⟨tenantId, planId, tenant, plan, written⟩
    · simp only [perform, subscriptionsSet, refused, List.append_nil]
      exact ⟨ids, follows⟩
    · rcases written with ⟨subscription, stored, rfl, renewed⟩ | ⟨added, absent, fresh⟩
      · simp only [perform, subscriptionsSet, renewed, tenant, plan]
        constructor
        · exact Records.modify_distinct (fun _ => rfl) ids
        · rw [Records.modify_same_row follows.distinct ids stored]
          exact follows.rewrite stored (fun _ => rfl) (fun _ => rfl)
      · simp only [perform, subscriptionsSet, added, tenant, plan]
        constructor
        · exact Records.append_distinct ids fresh
        · exact follows.append absent
  | createPlan | updatePlan =>
    simp only [perform, subscriptionsSet, List.append_nil]
    exact ⟨ids, follows⟩

/-- The joined documents carry the prices of the plans of the subscriptions. -/
theorem joined_prices {plans : List Plan} {prices : PriceHistory}
    (follows : Follows Plan.id Plan.priceMonthly plans prices)
    (subscriptions : List Subscription) :
    (BillingService.unwindPlans (BillingService.lookupPlans plans subscriptions)).map
        (fun document => document.2.priceMonthly) =
      subscriptions.filterMap (fun subscription => lastUnder subscription.planId prices) := by
  induction subscriptions with
  | nil => rfl
  | cons subscription rest inductionHypothesis =>
    have first : (plans.filter (fun plan => decide (plan.id = subscription.planId))).map
        Plan.priceMonthly = (lastUnder subscription.planId prices).toList := by
      rw [← follows.reads]
      cases found : Records.lookup Plan.id subscription.planId plans with
      | some plan =>
        rw [Records.filter_found follows.distinct found]
        rfl
      | none =>
        have nothing : plans.filter (fun plan => decide (plan.id = subscription.planId)) = [] :=
          List.filter_eq_nil_iff.mpr (List.find?_eq_none.mp found)
        rw [nothing]
        rfl
    unfold BillingService.unwindPlans BillingService.lookupPlans at inductionHypothesis ⊢
    rw [List.map_cons, List.flatMap_cons, List.map_append, inductionHypothesis, List.map_map]
    have own : (plans.filter (fun plan => decide (plan.id = subscription.planId))).map
        ((fun document : Subscription × Plan => document.2.priceMonthly) ∘
          (fun plan => (subscription, plan))) = (lastUnder subscription.planId prices).toList :=
      first
    rw [own, List.filterMap_cons]
    cases lastUnder subscription.planId prices with
    | none => rfl
    | some price => rfl

/-- The revenue is the sum and the number of the prices of the joined documents. -/
theorem revenue_of_prices (plans : List Plan) (subscriptions : List Subscription) :
    let paid := (BillingService.unwindPlans (BillingService.lookupPlans plans
      (BillingService.matchActive subscriptions))).map (fun document => document.2.priceMonthly)
    BillingService.mrr plans subscriptions =
      { mrr := (paid.map (fun price => price.getD 0)).sum, activeSubscriptions := paid.length,
        currency := "INR" } := by
  intro paid
  unfold BillingService.mrr BillingService.groupRevenue
  rw [List.map_map, List.length_map]
  simp only
  split
  · rename_i nothing
    rw [List.isEmpty_iff.mp nothing]
    rfl
  · rfl

/-- The revenue of what follows two histories is what these say. -/
theorem revenue_told {sales : Sales} {prices : PriceHistory} {subscriptions : SubscriptionHistory}
    (told : Told sales prices subscriptions) :
    BillingService.mrr sales.plans sales.subscriptions = revenueTold prices subscriptions := by
  have paid : ((BillingService.unwindPlans (BillingService.lookupPlans sales.plans
      (BillingService.matchActive sales.subscriptions))).map
        (fun document => document.2.priceMonthly)).Perm
      ((keys subscriptions).filterMap
        (fun tenantId => paidPrice prices (lastUnder tenantId subscriptions))) := by
    have active : (BillingService.matchActive sales.subscriptions).filterMap
        (fun subscription => lastUnder subscription.planId prices) =
          sales.subscriptions.filterMap
            (fun subscription => paidPrice prices (some (terms subscription))) := by
      rw [BillingService.matchActive, List.filterMap_filter]
      apply List.filterMap_congr
      intro subscription _
      unfold terms
      cases subscription.status <;> rfl
    rw [joined_prices told.plans, active]
    exact told.subscriptions.picks (paidPrice prices)
  rw [revenue_of_prices]
  simp only [revenueTold]
  rw [(paid.map (fun price => price.getD 0)).sum_eq, paid.length_eq]

/-- After any run of creations and changes of plans and of upserts of subscriptions, the monthly
recurring revenue is, over the institutes whose subscription was last set to be active, the sum of
the prices last set for the plans that they were last set to, and counts those whose plan has been
created.

Proof: plans follow the prices that were set, and subscriptions the plans and states. -/
theorem revenue_tells_calls {start : Sales} (plans : Records.Distinct Plan.id start.plans)
    (subscriptionIds : Records.Distinct Subscription.id start.subscriptions)
    (subscriptions : Records.Distinct Subscription.tenantId start.subscriptions)
    (calls : List SalesCall) :
    BillingService.mrr (Runs.run perform start calls).plans
        (Runs.run perform start calls).subscriptions =
      revenueTold
        (start.plans.map (fun plan => (plan.id, plan.priceMonthly)) ++
          Runs.outputs perform pricesSet start calls)
        (start.subscriptions.map (fun subscription => (subscription.tenantId, terms subscription)) ++
          Runs.outputs perform subscriptionsSet start calls) := by
  apply revenue_told
  obtain ⟨ids, subscribed⟩ := Runs.run_follows
    (fun (sales : Sales) history => Records.Distinct Subscription.id sales.subscriptions ∧
      Follows Subscription.tenantId terms sales.subscriptions history)
    (fun _ call _ follows => subscriptions_follow follows.1 follows.2 call)
    ⟨subscriptionIds, follows_start subscriptions⟩ calls
  constructor
  · exact Runs.run_follows
      (fun (sales : Sales) prices => Follows Plan.id Plan.priceMonthly sales.plans prices)
      (fun _ call _ follows => plans_follow follows call) (follows_start plans) calls
  · exact subscribed
  · exact ids

/-- A plan of a price. -/
def planOf (digit : Char) (priceMonthly : ℚ) : SalesCall :=
  .createPlan (.repeated digit)
    { name := "Plan", tier := .starter, priceMonthly := priceMonthly, limits := {} }

/-- An institute is put on a plan. -/
def subscribedTo (generated tenant plan : Char) (status : Option SubscriptionStatus) : SalesCall :=
  .upsert (.repeated generated)
    { tenantId := ObjectId.hex (.repeated tenant), planId := ObjectId.hex (.repeated plan),
      status := status }

/-- Three institutes subscribe; one changes its plan, one cancels, and a price is raised. -/
def salesYear : List SalesCall :=
  [planOf 'a' 1000, planOf 'b' 2500, subscribedTo '1' '7' 'a' none, subscribedTo '2' '8' 'a' none,
    subscribedTo '3' '9' 'b' none, subscribedTo '4' '7' 'b' none,
    subscribedTo '5' '9' 'b' (some .canceled),
    .updatePlan (ObjectId.hex (.repeated 'a')) { priceMonthly := .value 1200 }]

/-- Two institutes pay in the end, each the price that its plan has by then. -/
theorem sales_year_revenue :
    BillingService.mrr (Runs.run perform {} salesYear).plans
        (Runs.run perform {} salesYear).subscriptions =
      { mrr := 3700, activeSubscriptions := 2, currency := "INR" } := by
  have told := @revenue_tells_calls {} List.nodup_nil List.nodup_nil List.nodup_nil salesYear
  rw [told]
  decide +kernel

end Sales

end CoachingApi
