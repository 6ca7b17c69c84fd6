import Mathlib.Logic.Function.Basic
import Mathlib.Tactic.TypeStar

/-!
# A registry of credentials

What a store of accounts is for, over any types of names, tenants, addresses, tokens
and secrets. Names resolve to tenants, a tenant may be suspended, an address of a tenant
has the last secret set for it, and an invitation is issued to an address of a tenant and
used once, until it expires. Enrolling and redeeming are the only ways to set a secret.
-/

namespace CredentialRegistry

/-- An invitation issued to an address of a tenant. -/
structure Invitation (τ ε : Type) where
  tenant : τ
  address : ε
  expiresAt : Int
  used : Bool
  deriving DecidableEq

/-- The tenants by name, whether each one that is open is suspended, their members, and the
secrets and invitations of these. -/
structure Registry (ν τ ε κ π : Type) where
  tenants : ν → Option τ
  suspended : τ → Option Bool
  members : τ → ε → Bool
  secrets : τ → ε → Option π
  invitations : κ → Option (Invitation τ ε)

namespace Registry

variable {ν τ ε κ π : Type}

/-- Nobody is registered. -/
def empty : Registry ν τ ε κ π :=
  ⟨fun _ => none, fun _ => none, fun _ _ => false, fun _ _ => none, fun _ => none⟩

/-- A name, an address and a secret are admitted when the name resolves to a tenant that is
not suspended and whose address holds the secret. -/
def admits [DecidableEq π] (registry : Registry ν τ ε κ π) (name : ν) (address : ε) (secret : π) :
    Bool :=
  match registry.tenants name with
  | none => false
  | some tenant =>
    decide (registry.suspended tenant = some false) &&
      decide (registry.secrets tenant address = some secret)

/-- The invitation a token redeems in a tenant: issued there, unused and not expired. -/
def redeemable [DecidableEq τ] (registry : Registry ν τ ε κ π) (tenant : τ) (token : κ)
    (now : Int) : Option (Invitation τ ε) :=
  match registry.invitations token with
  | none => none
  | some invitation =>
    if invitation.tenant = tenant ∧ invitation.used = false ∧ now ≤ invitation.expiresAt then
      some invitation
    else none

/-- What an admission requires. -/
theorem admits_iff [DecidableEq π] {registry : Registry ν τ ε κ π} {name : ν} {address : ε}
    {secret : π} :
    registry.admits name address secret = true ↔
      ∃ tenant, registry.tenants name = some tenant ∧ registry.suspended tenant = some false ∧
        registry.secrets tenant address = some secret := by
  unfold admits
  cases registry.tenants name with
  | none => simp
  | some tenant => simp

/-- What a redemption requires. -/
theorem redeemable_iff [DecidableEq τ] {registry : Registry ν τ ε κ π} {tenant : τ} {token : κ}
    {now : Int} {invitation : Invitation τ ε} :
    registry.redeemable tenant token now = some invitation ↔
      registry.invitations token = some invitation ∧ invitation.tenant = tenant ∧
        invitation.used = false ∧ now ≤ invitation.expiresAt := by
  unfold redeemable
  cases registry.invitations token with
  | none => simp
  | some issued =>
    by_cases valid : issued.tenant = tenant ∧ issued.used = false ∧ now ≤ issued.expiresAt
    · simp only [valid, and_self, if_true, Option.some.injEq]
      constructor
      · rintro rfl
        exact ⟨rfl, valid⟩
      · exact fun same => same.1
    · simp only [valid, if_false, reduceCtorEq, false_iff, Option.some.injEq]
      rintro ⟨rfl, others⟩
      exact valid others

/-- Two registries agree on one tenant: its standing and its secrets. -/
def AgreeOn (tenant : τ) (first second : Registry ν τ ε κ π) : Prop :=
  first.suspended tenant = second.suspended tenant ∧ first.secrets tenant = second.secrets tenant

/-- Registries that agree on a tenant admit the same to it under names that resolve to it. -/
theorem admits_agree [DecidableEq π] {first second : Registry ν τ ε κ π} {name : ν} {tenant : τ}
    (agree : AgreeOn tenant first second) (firstName : first.tenants name = some tenant)
    (secondName : second.tenants name = some tenant) (address : ε) (secret : π) :
    first.admits name address secret = second.admits name address secret := by
  simp only [admits, firstName, secondName, agree.1, agree.2]

variable [DecidableEq τ]

/-- Write one entry of a table of two keys. -/
def write [DecidableEq ε] {β : Type} (table : τ → ε → β) (tenant : τ) (address : ε) (value : β) :
    τ → ε → β :=
  Function.update table tenant (Function.update (table tenant) address value)

/-- An entry under other keys is not written. -/
theorem write_other [DecidableEq ε] {β : Type} {table : τ → ε → β} {tenant other : τ}
    {address another : ε} {value : β} (apart : ¬ (other = tenant ∧ another = address)) :
    write table tenant address value other another = table other another := by
  by_cases same : other = tenant
  · subst same
    have different : another ≠ address := fun equal => apart ⟨rfl, equal⟩
    simp [write, different]
  · simp [write, same]

/-- The written entry. -/
@[simp] theorem write_same [DecidableEq ε] {β : Type} (table : τ → ε → β) (tenant : τ)
    (address : ε) (value : β) : write table tenant address value tenant address = value := by simp [write]

/-- An entry after a write is the written one or was there before. -/
theorem write_cases [DecidableEq ε] {β : Type} (table : τ → ε → β) (tenant other : τ)
    (address another : ε) (value : β) :
    (other = tenant ∧ another = address ∧ write table tenant address value other another = value) ∨
      (¬ (other = tenant ∧ another = address) ∧
        write table tenant address value other another = table other another) := by
  by_cases same : other = tenant ∧ another = address
  · obtain ⟨rfl, rfl⟩ := same
    exact .inl ⟨rfl, rfl, write_same table other another value⟩
  · exact .inr ⟨same, write_other same⟩

/-- Open a tenant under a name. -/
def opened [DecidableEq ν] (registry : Registry ν τ ε κ π) (name : ν) (tenant : τ) : Registry ν τ ε κ π :=
  { registry with
    tenants := Function.update registry.tenants name (some tenant)
    suspended := Function.update registry.suspended tenant (some false) }

/-- Enrol an address of a tenant with a secret. -/
def enrolled [DecidableEq ε] (registry : Registry ν τ ε κ π) (tenant : τ) (address : ε) (secret : π) :
    Registry ν τ ε κ π :=
  { registry with
    members := write registry.members tenant address true
    secrets := write registry.secrets tenant address (some secret) }

/-- Issue an invitation to an address of a tenant. -/
def invited [DecidableEq ε] [DecidableEq κ] (registry : Registry ν τ ε κ π) (tenant : τ)
    (address : ε) (token : κ) (expiresAt : Int) : Registry ν τ ε κ π :=
  { registry with
    members := write registry.members tenant address true
    invitations :=
      Function.update registry.invitations token (some ⟨tenant, address, expiresAt, false⟩) }

/-- Use an invitation to set the secret of its address. -/
def redeemed [DecidableEq ε] [DecidableEq κ] (registry : Registry ν τ ε κ π) (token : κ)
    (invitation : Invitation τ ε) (secret : π) : Registry ν τ ε κ π :=
  { registry with
    secrets := write registry.secrets invitation.tenant invitation.address (some secret)
    invitations :=
      Function.update registry.invitations token (some { invitation with used := true }) }

/-- Suspend a tenant, or lift its suspension. -/
def standing (registry : Registry ν τ ε κ π) (tenant : τ) (suspended : Bool) :
    Registry ν τ ε κ π :=
  { registry with suspended := Function.update registry.suspended tenant (some suspended) }

/-- Opening a tenant leaves every other one alone. -/
theorem opened_elsewhere [DecidableEq ν] (registry : Registry ν τ ε κ π) (name : ν) {tenant other : τ}
    (apart : other ≠ tenant) : AgreeOn other (registry.opened name tenant) registry :=
  ⟨Function.update_of_ne apart _ _, rfl⟩

/-- Enrolling at a tenant leaves every other one alone. -/
theorem enrolled_elsewhere [DecidableEq ε] (registry : Registry ν τ ε κ π) {tenant other : τ}
    (address : ε) (secret : π) (apart : other ≠ tenant) :
    AgreeOn other (registry.enrolled tenant address secret) registry :=
  ⟨rfl, Function.update_of_ne apart _ _⟩

/-- Redeeming an invitation of a tenant leaves every other one alone. -/
theorem redeemed_elsewhere [DecidableEq ε] [DecidableEq κ] (registry : Registry ν τ ε κ π)
    (token : κ) {invitation : Invitation τ ε} {other : τ} (secret : π)
    (apart : other ≠ invitation.tenant) :
    AgreeOn other (registry.redeemed token invitation secret) registry :=
  ⟨rfl, Function.update_of_ne apart _ _⟩

/-- A change of standing leaves every other tenant alone. -/
theorem standing_elsewhere (registry : Registry ν τ ε κ π) {tenant other : τ} (suspended : Bool)
    (apart : other ≠ tenant) : AgreeOn other (registry.standing tenant suspended) registry :=
  ⟨Function.update_of_ne apart _ _, rfl⟩

end Registry

end CredentialRegistry
