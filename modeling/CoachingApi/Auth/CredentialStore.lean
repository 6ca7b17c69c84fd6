import Mathlib.Data.Set.Function
import CoachingApi.Auth.CredentialCalls

/-!
# The store represents a registry of credentials

A stored user is either credentialed, active under a hash of the address's password, or
pending, invited under the hash of an unused token. The representation ties every member
of the registry to a stored user in one of the two states, every name to an institute and
every unused invitation to its pending user. Each change of the registry is matched by
one write of the store.
-/

namespace CoachingApi

open TenantAuthService CredentialRegistry

variable {deployment : AuthDeployment} {tokens : Set String}

/-- How a stored user stands to the registry. -/
inductive Account (deployment : AuthDeployment) (tokens : Set String) (registry : Credentials)
    (user : User) : Prop where
  | credentialed (salt password : String) (active : user.status = .active)
      (hashed : user.passwordHash = some (deployment.passwords.hash salt password))
      (uninvited : user.inviteTokenHash = none)
      (registered : registry.secrets user.tenantId user.email = some password)
  | pending (token : String) (expiresAt : Int) (invited : user.status = .invited)
      (unhashed : user.passwordHash = none)
      (hashed : user.inviteTokenHash = some (deployment.sha256 token))
      (expires : user.inviteExpiresAt = some expiresAt) (known : token ∈ tokens)
      (issued : registry.invitations token = some ⟨user.tenantId, user.email, expiresAt, false⟩)
      (unset : registry.secrets user.tenantId user.email = none)

/-- The store represents the registry. -/
structure Represents (deployment : AuthDeployment) (tokens : Set String) (database : Database)
    (registry : Credentials) : Prop where
  kept : Kept database
  names : ∀ name tenantId, registry.tenants name = some tenantId ↔
    ∃ tenant ∈ database.tenants, tenant.subdomain = name ∧ tenant.id.hex = tenantId
  standings : ∀ id : ObjectId, registry.suspended id.hex =
    (Records.lookup Tenant.id id database.tenants).map (fun tenant =>
      decide (tenant.status = .suspended))
  members : ∀ tenantId email, registry.members tenantId email = true ↔
    ∃ user ∈ database.users, user.tenantId = tenantId ∧ user.email = email
  accounts : ∀ user ∈ database.users, Account deployment tokens registry user
  secrets : ∀ tenantId email password, registry.secrets tenantId email = some password →
    registry.members tenantId email = true
  invitations : ∀ token invitation, registry.invitations token = some invitation →
    token ∈ tokens ∧ (invitation.used = false → ∃ user ∈ database.users,
      user.tenantId = invitation.tenant ∧ user.email = invitation.address ∧
        user.inviteTokenHash = some (deployment.sha256 token))

/-- The representation looks at institutes and users only. -/
theorem Represents.same {before after : Database} {registry : Credentials}
    (represents : Represents deployment tokens before registry)
    (tenants : after.tenants = before.tenants) (users : after.users = before.users) :
    Represents deployment tokens after registry where
  kept := represents.kept.same tenants users
  names := by rw [tenants]; exact represents.names
  standings := by rw [tenants]; exact represents.standings
  members := by rw [users]; exact represents.members
  accounts := by rw [users]; exact represents.accounts
  secrets := represents.secrets
  invitations := by rw [users]; exact represents.invitations

/-- The empty store represents the empty registry. -/
theorem represents_empty : Represents deployment tokens {} Registry.empty := by
  refine ⟨⟨List.nodup_nil, List.nodup_nil, List.nodup_nil, ?_, ?_⟩, ?_, ?_, ?_, ?_, ?_, ?_⟩ <;>
    simp [Registry.empty, Records.lookup]

/-- An account survives changes elsewhere in the registry. -/
theorem Account.carry {before after : Credentials} {user : User}
    (account : Account deployment tokens before user)
    (secret : after.secrets user.tenantId user.email = before.secrets user.tenantId user.email)
    (issued : ∀ token expiresAt,
      before.invitations token = some ⟨user.tenantId, user.email, expiresAt, false⟩ →
      after.invitations token = before.invitations token) :
    Account deployment tokens after user := by
  cases account with
  | credentialed salt password active hashed uninvited registered =>
    exact .credentialed salt password active hashed uninvited (secret.trans registered)
  | pending token expiresAt invited unhashed hashed expires known recorded unset =>
    exact .pending token expiresAt invited unhashed hashed expires known
      ((issued token expiresAt recorded).trans recorded) (secret.trans unset)

/-- Members after a new user is stored. -/
theorem members_append {database : Database} {registry : Credentials}
    (represents : Represents deployment tokens database registry) (user : User)
    (tenantId email : String) :
    Registry.write registry.members user.tenantId user.email true tenantId email = true ↔
      ∃ other ∈ database.users ++ [user], other.tenantId = tenantId ∧ other.email = email := by
  rcases Registry.write_cases registry.members user.tenantId tenantId user.email email true with
    ⟨rfl, rfl, written_⟩ | ⟨apart, kept⟩
  · rw [written_]
    exact iff_of_true rfl ⟨user, by simp, rfl, rfl⟩
  · rw [kept, represents.members]
    constructor
    · rintro ⟨other, stored, same⟩
      exact ⟨other, by simp [stored], same⟩
    · rintro ⟨other, stored, sameTenant, sameEmail⟩
      rcases List.mem_append.mp stored with earlier | added
      · exact ⟨other, earlier, sameTenant, sameEmail⟩
      · obtain rfl := List.mem_singleton.mp added
        exact False.elim (apart ⟨sameTenant.symm, sameEmail.symm⟩)

/-- A member was one before, or is the new one. -/
theorem member_write {registry : Credentials} {tenant other : String} {address another : String}
    (member : registry.members other another = true) :
    Registry.write registry.members tenant address true other another = true := by
  rcases Registry.write_cases registry.members tenant other address another true with
    ⟨_, _, written_⟩ | ⟨_, kept⟩
  · exact written_
  · rw [kept, member]

/-- A user stored at a free address with a password is one enrolment of the registry. -/
theorem Represents.enrolled {database : Database} {registry : Credentials}
    (represents : Represents deployment tokens database registry) {user : User}
    {salt password : String} (fresh : ∀ other ∈ database.users, other.id ≠ user.id)
    (free : ∀ other ∈ database.users, ¬ (other.tenantId = user.tenantId ∧ other.email = user.email))
    (required : user.name ≠ "" ∧ user.email ≠ "") (active : user.status = .active)
    (hashed : user.passwordHash = some (deployment.passwords.hash salt password))
    (uninvited : user.inviteTokenHash = none) :
    Represents deployment tokens { database with users := database.users ++ [user] }
      (registry.enrolled user.tenantId user.email password) where
  kept := represents.kept.append_user fresh free required
  names := represents.names
  standings := represents.standings
  members := members_append represents user
  accounts := by
    intro other stored
    rcases List.mem_append.mp stored with earlier | added
    · exact (represents.accounts other earlier).carry (Registry.write_other (free other earlier))
        (fun _ _ _ => rfl)
    · obtain rfl := List.mem_singleton.mp added
      exact .credentialed salt password active hashed uninvited (Registry.write_same _ _ _ _)
  secrets := by
    intro tenantId email secret held
    rcases Registry.write_cases registry.secrets user.tenantId tenantId user.email email
        (some password) with ⟨rfl, rfl, _⟩ | ⟨_, kept⟩
    · exact Registry.write_same _ _ _ _
    · exact member_write (represents.secrets tenantId email secret (kept ▸ held))
  invitations := by
    intro token invitation issued
    obtain ⟨known, unused⟩ := represents.invitations token invitation issued
    refine ⟨known, fun unspent => ?_⟩
    obtain ⟨other, stored, holds⟩ := unused unspent
    exact ⟨other, by simp [stored], holds⟩

/-- A user stored at a free address with an invitation is one invitation of the registry. -/
theorem Represents.invited {database : Database} {registry : Credentials}
    (represents : Represents deployment tokens database registry) {user : User} {token : String}
    {expiresAt : Int} (fresh : ∀ other ∈ database.users, other.id ≠ user.id)
    (free : ∀ other ∈ database.users, ¬ (other.tenantId = user.tenantId ∧ other.email = user.email))
    (required : user.name ≠ "" ∧ user.email ≠ "") (invited : user.status = .invited)
    (unhashed : user.passwordHash = none)
    (hashed : user.inviteTokenHash = some (deployment.sha256 token))
    (expires : user.inviteExpiresAt = some expiresAt) (known : token ∈ tokens)
    (unissued : registry.invitations token = none) :
    Represents deployment tokens { database with users := database.users ++ [user] }
      (registry.invited user.tenantId user.email token expiresAt) where
  kept := represents.kept.append_user fresh free required
  names := represents.names
  standings := represents.standings
  members := members_append represents user
  accounts := by
    intro other stored
    rcases List.mem_append.mp stored with earlier | added
    · refine (represents.accounts other earlier).carry rfl (fun issuedToken _ issued => ?_)
      have apart : issuedToken ≠ token := by
        rintro rfl
        rw [unissued] at issued
        cases issued
      exact Function.update_of_ne apart _ _
    · obtain rfl := List.mem_singleton.mp added
      have unset : registry.secrets other.tenantId other.email = none := by
        cases held : registry.secrets other.tenantId other.email with
        | none => rfl
        | some secret =>
          obtain ⟨member, earlier, same⟩ :=
            (represents.members _ _).mp (represents.secrets _ _ secret held)
          exact False.elim (free member earlier same)
      exact .pending token expiresAt invited unhashed hashed expires known
        (Function.update_self _ _ _) unset
  secrets := fun tenantId email secret held =>
    member_write (represents.secrets tenantId email secret held)
  invitations := by
    intro issuedToken invitation issued
    by_cases same : issuedToken = token
    · subst same
      simp only [Registry.invited, Function.update_self, Option.some.injEq] at issued
      subst issued
      exact ⟨known, fun _ => ⟨user, by simp, rfl, rfl, hashed⟩⟩
    · simp only [Registry.invited, Function.update_of_ne same] at issued
      obtain ⟨mentioned, unused⟩ := represents.invitations issuedToken invitation issued
      refine ⟨mentioned, fun unspent => ?_⟩
      obtain ⟨other, stored, holds⟩ := unused unspent
      exact ⟨other, by simp [stored], holds⟩

/-- An institute stored under a free subdomain is one opened tenant of the registry. -/
theorem Represents.opened {database : Database} {registry : Credentials}
    (represents : Represents deployment tokens database registry) {tenant : Tenant}
    (free : ∀ other ∈ database.tenants,
      other.id ≠ tenant.id ∧ other.subdomain ≠ tenant.subdomain)
    (active : tenant.status = .active) :
    Represents deployment tokens { database with tenants := database.tenants ++ [tenant] }
      (registry.opened tenant.subdomain tenant.id.hex) where
  kept := represents.kept.append_tenant free
  names := by
    intro name tenantId
    by_cases same : name = tenant.subdomain
    · subst same
      simp only [Registry.opened, Function.update_self, Option.some.injEq]
      constructor
      · rintro rfl
        exact ⟨tenant, by simp, rfl, rfl⟩
      · rintro ⟨other, stored, subdomain, rfl⟩
        rcases List.mem_append.mp stored with earlier | added
        · exact False.elim ((free other earlier).2 subdomain)
        · rw [List.mem_singleton.mp added]
    · simp only [Registry.opened, Function.update_of_ne same, represents.names]
      constructor
      · rintro ⟨other, stored, holds⟩
        exact ⟨other, by simp [stored], holds⟩
      · rintro ⟨other, stored, subdomain, printed⟩
        rcases List.mem_append.mp stored with earlier | added
        · exact ⟨other, earlier, subdomain, printed⟩
        · rw [List.mem_singleton.mp added] at subdomain
          exact False.elim (same subdomain.symm)
  standings := by
    intro id
    by_cases same : id = tenant.id
    · subst same
      rw [Records.lookup_append (fun other stored => (free other stored).1)]
      simp [Registry.opened, active]
    · have apart : id.hex ≠ tenant.id.hex := fun printed => same (ObjectId.hex_injective printed)
      rw [Records.lookup_append_other _ (Ne.symm same)]
      simp only [Registry.opened, Function.update_of_ne apart]
      exact represents.standings id
  members := represents.members
  accounts := fun user stored =>
    (represents.accounts user stored).carry rfl (fun _ _ _ => rfl)
  secrets := represents.secrets
  invitations := represents.invitations

/-- A change of an institute's standing is one change of the registry. -/
theorem Represents.standing {database : Database} {registry : Credentials}
    (represents : Represents deployment tokens database registry) {target : ObjectId}
    (stored : ∃ tenant ∈ database.tenants, tenant.id = target) (status : TenantStatus) :
    Represents deployment tokens
      { database with
        tenants := Records.modify Tenant.id target (fun tenant => { tenant with status := status })
          database.tenants }
      (registry.standing target.hex (decide (status = .suspended))) where
  kept := represents.kept.modify_tenants target (fun _ => ⟨rfl, rfl⟩)
  names := by
    intro name tenantId
    refine (represents.names name tenantId).trans ?_
    constructor
    · rintro ⟨tenant, earlier, subdomain, printed⟩
      refine ⟨_, Records.mem_modify.mpr ⟨tenant, earlier, rfl⟩, ?_⟩
      split <;> exact ⟨subdomain, printed⟩
    · rintro ⟨tenant, rewritten, subdomain, printed⟩
      obtain ⟨original, earlier, rfl⟩ := Records.mem_modify.mp rewritten
      refine ⟨original, earlier, ?_⟩
      by_cases touched : original.id = target
      · rw [if_pos touched] at subdomain printed
        exact ⟨subdomain, printed⟩
      · rw [if_neg touched] at subdomain printed
        exact ⟨subdomain, printed⟩
  standings := by
    intro id
    have looked := Records.lookup_modify id target database.tenants
      (fun tenant : Tenant => show ({ tenant with status := status } : Tenant).id = tenant.id from rfl)
    simp only [looked]
    by_cases same : id = target
    · subst same
      obtain ⟨tenant, earlier, rfl⟩ := stored
      rw [Records.lookup_stored represents.kept.tenantIds earlier]
      simp [Registry.standing]
    · have apart : id.hex ≠ target.hex := fun printed => same (ObjectId.hex_injective printed)
      simp only [Registry.standing, Function.update_of_ne apart, represents.standings]
      cases found : Records.lookup Tenant.id id database.tenants with
      | none => rfl
      | some tenant =>
        have other : tenant.id ≠ target := by
          rw [(Records.lookup_some found).2]
          exact same
        simp [other]
  members := represents.members
  accounts := fun user earlier =>
    (represents.accounts user earlier).carry rfl (fun _ _ _ => rfl)
  secrets := represents.secrets
  invitations := represents.invitations

/-- An accepted user replacing its pending one is one redemption of the registry. -/
theorem Represents.redeemed {database : Database} {registry : Credentials}
    (represents : Represents deployment tokens database registry) {user : User} {token : String}
    {expiresAt : Int} (injective : Set.InjOn deployment.sha256 tokens)
    (stored : user ∈ database.users) (salt password : String)
    (hashed : user.inviteTokenHash = some (deployment.sha256 token))
    (issued : registry.invitations token =
      some ⟨user.tenantId, user.email, expiresAt, false⟩) :
    Represents deployment tokens
      { database with
        users := Records.modify User.id user.id
          (fun _ => acceptedUser (deployment.passwords.hash salt password) user) database.users }
      (registry.redeemed token ⟨user.tenantId, user.email, expiresAt, false⟩ password) where
  kept := represents.kept.replace_user stored rfl rfl rfl rfl
  names := represents.names
  standings := represents.standings
  members := by
    intro tenantId email
    refine (represents.members tenantId email).trans ?_
    constructor
    · rintro ⟨other, earlier, tenant, address⟩
      by_cases same : other.id = user.id
      · obtain rfl := Records.same_record represents.kept.userIds earlier stored same
        exact ⟨_, Records.modify_same earlier, tenant, address⟩
      · exact ⟨other, Records.modify_other earlier same, tenant, address⟩
    · rintro ⟨other, rewritten, tenant, address⟩
      rcases Records.mem_replace rewritten with rfl | ⟨earlier, _⟩
      · exact ⟨user, stored, tenant, address⟩
      · exact ⟨other, earlier, tenant, address⟩
  accounts := by
    intro other rewritten
    rcases Records.mem_replace rewritten with rfl | ⟨earlier, apart⟩
    · exact .credentialed salt password rfl rfl rfl (Registry.write_same _ _ _ _)
    · have elsewhere : ¬ (other.tenantId = user.tenantId ∧ other.email = user.email) :=
        fun same => apart (congrArg User.id
          (represents.kept.addresses other earlier user stored same.1 same.2))
      refine (represents.accounts other earlier).carry (Registry.write_other elsewhere)
        (fun otherToken _ otherIssued => ?_)
      have different : otherToken ≠ token := by
        rintro rfl
        rw [issued, Option.some.injEq, Invitation.mk.injEq] at otherIssued
        exact elsewhere ⟨otherIssued.1.symm, otherIssued.2.1.symm⟩
      exact Function.update_of_ne different _ _
  secrets := by
    intro tenantId email secret held
    rcases Registry.write_cases registry.secrets user.tenantId tenantId user.email email
        (some password) with ⟨rfl, rfl, _⟩ | ⟨_, kept⟩
    · exact (represents.members _ _).mpr ⟨user, stored, rfl, rfl⟩
    · exact represents.secrets tenantId email secret (kept ▸ held)
  invitations := by
    intro otherToken invitation otherIssued
    by_cases same : otherToken = token
    · subst same
      simp only [Registry.redeemed, Function.update_self, Option.some.injEq] at otherIssued
      subst otherIssued
      exact ⟨(represents.invitations otherToken _ issued).1, fun unspent => by cases unspent⟩
    · simp only [Registry.redeemed, Function.update_of_ne same] at otherIssued
      obtain ⟨known, unused⟩ := represents.invitations otherToken invitation otherIssued
      refine ⟨known, fun unspent => ?_⟩
      obtain ⟨other, earlier, tenant, address, otherHashed⟩ := unused unspent
      have apart : other.id ≠ user.id := by
        intro equal
        obtain rfl := Records.same_record represents.kept.userIds earlier stored equal
        rw [hashed, Option.some.injEq] at otherHashed
        exact same (injective (represents.invitations token _ issued).1 known otherHashed).symm
      exact ⟨other, Records.modify_other earlier apart, tenant, address, otherHashed⟩

end CoachingApi
