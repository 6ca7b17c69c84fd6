import CoachingApi.Library.Revisions
import CoachingApi.Schemas.Platform

/-!
# The subscriptions of institutes

A subscription is created or changed by one upsert under its institute. The monthly recurring
revenue joins the active subscriptions with their plans in one aggregation: a subscription
without a plan counts for nothing, and a price that is null adds nothing.
-/

namespace CoachingApi

/-- The parameters of an upsert. -/
structure SubscriptionParams where
  tenantId : String
  planId : String
  status : Option SubscriptionStatus := none
  currentPeriodEnd : Option Int := none

/-- The answer of the revenue's query. -/
structure Revenue where
  mrr : ℚ
  activeSubscriptions : Nat
  currency : String
  deriving DecidableEq

namespace BillingService

/-- `listSubscriptions`, the newest first. Creation times are taken to grow with the order of
creation. -/
def listSubscriptions (subscriptions : List Subscription) : List Subscription :=
  subscriptions.reverse

/-- The update of a subscription that is there. -/
def renew (planId : ObjectId) (params : SubscriptionParams) (subscription : Subscription) :
    Subscription :=
  { subscription with
    planId := planId
    status := params.status.getD .active
    currentPeriodEnd := params.currentPeriodEnd.or subscription.currentPeriodEnd }

/-- The subscription that an upsert adds where there is none. -/
def newSubscription (generated tenantId planId : ObjectId) (params : SubscriptionParams) :
    Subscription :=
  renew planId params { id := generated, tenantId := tenantId, planId := planId }

/-- `upsert`: both identities are made before anything is looked up. -/
def upsert (generated : ObjectId) (params : SubscriptionParams)
    (subscriptions : List Subscription) : List Subscription × Except Thrown Subscription :=
  match newObjectId params.tenantId, newObjectId params.planId with
  | .error thrown, _ => (subscriptions, .error thrown)
  | .ok _, .error thrown => (subscriptions, .error thrown)
  | .ok tenantId, .ok planId =>
    match subscriptions.find? (fun subscription => decide (subscription.tenantId = tenantId)) with
    | some subscription =>
      (Records.modify Subscription.id subscription.id (renew planId params) subscriptions,
        .ok (renew planId params subscription))
    | none =>
      if subscriptions.any (fun subscription => decide (subscription.id = generated)) then
        (subscriptions, .error .duplicateKey)
      else
        let added := newSubscription generated tenantId planId params
        (subscriptions ++ [added], .ok added)

/-- An upsert rewrites the subscription of its institute, or adds one where there is none, or
leaves the subscriptions as they are. -/
theorem upsert_cases (generated : ObjectId) (params : SubscriptionParams)
    (subscriptions : List Subscription) :
    (∃ thrown, upsert generated params subscriptions = (subscriptions, .error thrown)) ∨
      ∃ tenantId planId, ObjectId.cast params.tenantId = some tenantId ∧
        ObjectId.cast params.planId = some planId ∧
        ((∃ subscription ∈ subscriptions, subscription.tenantId = tenantId ∧
            upsert generated params subscriptions =
              (Records.modify Subscription.id subscription.id (renew planId params) subscriptions,
                .ok (renew planId params subscription))) ∨
          (upsert generated params subscriptions =
              (subscriptions ++ [newSubscription generated tenantId planId params],
                .ok (newSubscription generated tenantId planId params)) ∧
            (∀ subscription ∈ subscriptions, subscription.tenantId ≠ tenantId) ∧
            ∀ subscription ∈ subscriptions, subscription.id ≠ generated)) := by
  unfold upsert newObjectId
  cases tenant : ObjectId.cast params.tenantId with
  | none => exact .inl ⟨_, rfl⟩
  | some tenantId =>
    cases plan : ObjectId.cast params.planId with
    | none => exact .inl ⟨_, rfl⟩
    | some planId =>
      simp only
      cases found : subscriptions.find?
          (fun subscription => decide (subscription.tenantId = tenantId)) with
      | some subscription =>
        have stored := List.mem_of_find?_eq_some found
        have under : subscription.tenantId = tenantId := by simpa using List.find?_some found
        exact .inr ⟨tenantId, planId, rfl, rfl, .inl ⟨subscription, stored, under, rfl⟩⟩
      | none =>
        simp only
        split
        · exact .inl ⟨_, rfl⟩
        · rename_i free
          refine .inr ⟨tenantId, planId, rfl, rfl, .inr ⟨rfl, ?_, ?_⟩⟩
          · intro subscription stored same
            exact List.find?_eq_none.mp found subscription stored (decide_eq_true same)
          · intro subscription stored same
            exact free (List.any_eq_true.mpr ⟨subscription, stored, decide_eq_true same⟩)

/-- The stage `$match` of active subscriptions. -/
def matchActive (subscriptions : List Subscription) : List Subscription :=
  subscriptions.filter (fun subscription => decide (subscription.status = .active))

/-- The stage `$lookup`: each subscription with the plans under its plan's identity. -/
def lookupPlans (plans : List Plan) (subscriptions : List Subscription) :
    List (Subscription × List Plan) :=
  subscriptions.map (fun subscription =>
    (subscription, plans.filter (fun plan => decide (plan.id = subscription.planId))))

/-- The stage `$unwind`: one document for each plan that was found. -/
def unwindPlans (joined : List (Subscription × List Plan)) : List (Subscription × Plan) :=
  joined.flatMap (fun pair => pair.2.map (fun plan => (pair.1, plan)))

/-- The stage `$group` under null: nothing comes of no document. -/
def groupRevenue (documents : List (Subscription × Plan)) : Option (ℚ × Nat) :=
  if documents.isEmpty then none
  else some ((documents.map (fun document => document.2.priceMonthly.getD 0)).sum, documents.length)

/-- `mrr`. -/
def mrr (plans : List Plan) (subscriptions : List Subscription) : Revenue :=
  let row := groupRevenue (unwindPlans (lookupPlans plans (matchActive subscriptions)))
  { mrr := (row.map Prod.fst).getD 0
    activeSubscriptions := (row.map Prod.snd).getD 0
    currency := "INR" }

end BillingService

end CoachingApi
