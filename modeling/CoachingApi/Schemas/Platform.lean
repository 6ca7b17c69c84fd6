import CoachingApi.Auth.RealmSeparation
import CoachingApi.Common.Queries
import CoachingApi.Schemas.Outreach

/-!
# What the platform sells, and to whom

Plans and subscriptions are the platform's own and are not scoped by the tenant plugin. A plan's
price may have been set to null by an update, which runs no validators. The reference to a
billing gateway that a subscription may carry is read and written by nothing and is left out.
-/

namespace CoachingApi

/-- What a plan allows an institute. -/
structure PlanLimits where
  students : Nat := 100
  storageGb : Nat := 5
  deriving DecidableEq

/-- A tier of the platform. -/
structure Plan where
  id : ObjectId
  name : String
  tier : PlanTier
  priceMonthly : Option ℚ := some 0
  limits : PlanLimits := {}
  features : List String := []
  deriving DecidableEq

/-- The setters of the plan's schema. -/
def Plan.cast (plan : Plan) : Plan := { plan with name := Text.trim plan.name }

/-- The first path whose validators refuse a plan. -/
def Plan.refusedPath (plan : Plan) : Option String :=
  firstRefused [(plan.name = "", "name"), (plan.priceMonthly = none, "priceMonthly")]

/-- An institute's subscription to the platform. -/
structure Subscription where
  id : ObjectId
  tenantId : ObjectId
  planId : ObjectId
  status : SubscriptionStatus := .trialing
  currentPeriodEnd : Option Int := none
  deriving DecidableEq

/-- A member of the platform's staff, with what a login selects. -/
structure StaffAccount extends PlatformUser where
  email : String
  passwordHash : String
  twoFactorSecret : Option String := none
  deriving DecidableEq

/-- Everything that is stored: what institutes have, and what is the platform's alone. -/
structure Estate where
  campus : Campus := {}
  plans : List Plan := []
  subscriptions : List Subscription := []
  staff : List StaffAccount := []

/-- The institutes' own records, users and the audit trail. -/
abbrev Estate.database (estate : Estate) : Database := estate.campus.database

end CoachingApi
