/-!
# The tenant context of a request

The ambient context is the value an asynchronous local store holds: absent outside
every request, otherwise a tenant, a bypass marker, or neither. Callbacks receive
it as an argument, which is what they read from the store in the source. Losing a
context across an await that leaves its callback is outside this reading.
-/

namespace CoachingApi

/-- The context bound to a request. Only the platform surface and the webhook set
`bypass`, with the actor that authorized it. -/
structure TenantContext where
  tenantId : Option String := none
  bypass : Option Bool := none
  bypassActor : Option String := none
  deriving DecidableEq

namespace TenantContextStore

/-- What `storage.getStore()` yields. -/
abbrev Ambient := Option TenantContext

/-- Run a callback with a bound context, whatever the surrounding one. -/
def run {α : Type} (context : TenantContext) (callback : Ambient → α) : α := callback (some context)

/-- The active tenant, absent outside a tenant-scoped request. -/
def getTenantId (ambient : Ambient) : Option String := ambient.bind TenantContext.tenantId

/-- Whether tenant scoping is bypassed; an unset marker does not bypass it. -/
def isBypassed (ambient : Ambient) : Bool := ambient.bind TenantContext.bypass == some true

/-- Run a callback with tenant scoping bypassed, recording the actor. -/
def runWithBypass {α : Type} (actor : String) (callback : Ambient → α) : α :=
  callback (some { bypass := some true, bypassActor := some actor })

/-- A bypass context bypasses scoping for every actor. -/
@[simp] theorem is_bypassed_bypass (actor : String) :
    isBypassed (some { bypass := some true, bypassActor := some actor }) = true := rfl

end TenantContextStore

end CoachingApi
