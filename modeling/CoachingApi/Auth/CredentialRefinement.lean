import CoachingApi.Auth.CredentialStore

/-!
# The store refines the registry of credentials

Each call is compared with what it is for: from a store that represents a registry both
succeed or both are refused, and the store after the call represents the registry after
it. Runs of calls follow, and with them when a login and an acceptance succeed and that
no call of one tenant moves a login of another.
-/

namespace CoachingApi

open TenantAuthService TenantContextStore CredentialRegistry CredentialCall

variable {deployment : AuthDeployment} {tokens : Set String} {database : Database}
  {registry : Credentials}

/-- A name resolves to the institute that is stored under it. -/
theorem Represents.resolves (represents : Represents deployment tokens database registry)
    (name : String) :
    registry.tenants name =
      (Records.lookup Tenant.subdomain name database.tenants).map (fun tenant => tenant.id.hex) := by
  cases looked : Records.lookup Tenant.subdomain name database.tenants with
  | none =>
    cases resolved : registry.tenants name with
    | none => rfl
    | some tenantId =>
      obtain ⟨tenant, stored, rfl, _⟩ := (represents.names name tenantId).mp resolved
      rw [Records.lookup_stored represents.kept.subdomains stored] at looked
      cases looked
  | some tenant =>
    obtain ⟨stored, named⟩ := Records.lookup_some looked
    exact (represents.names name tenant.id.hex).mpr ⟨tenant, stored, named, rfl⟩

/-- A read of a tenant's user by its email finds one exactly when the email is a member. -/
theorem Represents.found_member (represents : Represents deployment tokens database registry)
    (tenantId email : String) :
    (firstOf tenantId (fun user => decide (user.email = email)) database.users).isSome =
      registry.members tenantId email := by
  rw [Bool.eq_iff_iff, represents.members, firstOf, List.find?_isSome]
  simp

/-- A stored user is the first of its tenant with its email. -/
theorem Represents.first_member (represents : Represents deployment tokens database registry)
    {user : User} (stored : user ∈ database.users) :
    firstOf user.tenantId (fun other => decide (other.email = user.email)) database.users =
      some user := by
  cases found : firstOf user.tenantId (fun other => decide (other.email = user.email))
      database.users with
  | none =>
    have missed := List.find?_eq_none.mp found user stored
    simp at missed
  | some other =>
    obtain ⟨otherStored, sameTenant, sameEmail⟩ := first_of_some found
    rw [represents.kept.addresses other otherStored user stored sameTenant (by simpa using sameEmail)]

/-- A login succeeds exactly when the registry admits the subdomain, the email and the
password.

Proof: an active user is credentialed, and its hash verifies its password only. -/
theorem login_refines (represents : Represents deployment tokens database registry) (now : Int)
    (dto : TenantLoginDto) :
    (login deployment now dto database).isOk =
      registry.admits (queryKey deployment dto.subdomain) (queryKey deployment dto.email)
        dto.password := by
  rw [Bool.eq_iff_iff, is_ok_iff, Registry.admits_iff]
  constructor
  · rintro ⟨granted, answered⟩
    obtain ⟨tenant, user, passwordHash, institute, active, found, hashed, activeUser, verified, _⟩ :=
      login_ok.mp answered
    obtain ⟨stored, owned, addressed⟩ := first_of_some found
    obtain ⟨tenantStored, named⟩ := Tenant.find_by_subdomain_some institute
    have email : user.email = queryKey deployment dto.email := by simpa using addressed
    refine ⟨tenant.id.hex, (represents.names _ _).mpr ⟨tenant, tenantStored, named, rfl⟩, ?_, ?_⟩
    · rw [represents.standings, Records.lookup_stored represents.kept.tenantIds tenantStored]
      simpa using active
    · cases represents.accounts user stored with
      | credentialed salt password _ hash _ registered =>
        rw [hash, TenantPlugin.present_nonempty (deployment.passwords.nonempty salt password),
          Option.some.injEq] at hashed
        rw [← hashed, deployment.passwords.verifies, Except.ok.injEq, decide_eq_true_eq] at verified
        rw [← owned, ← email, verified, registered]
      | pending _ _ invited _ _ _ _ _ _ =>
        rw [activeUser] at invited
        cases invited
  · rintro ⟨tenantId, resolved, unsuspended, secret⟩
    rw [represents.resolves, Option.map_eq_some_iff] at resolved
    obtain ⟨tenant, institute, rfl⟩ := resolved
    have tenantStored := (Records.lookup_some institute).1
    rw [represents.standings, Records.lookup_stored represents.kept.tenantIds tenantStored]
      at unsuspended
    obtain ⟨user, stored, owned, email⟩ :=
      (represents.members _ _).mp (represents.secrets _ _ _ secret)
    have found := represents.first_member stored
    rw [owned, email] at found
    cases represents.accounts user stored with
    | credentialed salt password active hash _ registered =>
      rw [owned, email, secret, Option.some.injEq] at registered
      refine ⟨_, login_ok.mpr ⟨tenant, user, deployment.passwords.hash salt password, institute,
        by simpa using unsuspended, found, ?_, active, ?_, rfl⟩⟩
      · rw [hash, TenantPlugin.present_nonempty (deployment.passwords.nonempty salt password)]
      · rw [deployment.passwords.verifies, registered, decide_eq_true rfl]
    | pending _ _ _ _ _ _ _ _ unset =>
      rw [owned, email, secret] at unset
      cases unset

/-- The first user of a tenant who holds a known token's hash is pending under that token. -/
theorem Represents.holder (represents : Represents deployment tokens database registry)
    (injective : Set.InjOn deployment.sha256 tokens) {tenantId token : String}
    (known : token ∈ tokens) {user : User}
    (found : firstOf tenantId
      (fun other => decide (other.inviteTokenHash = some (deployment.sha256 token)))
      database.users = some user) :
    user ∈ database.users ∧ user.tenantId = tenantId ∧
      user.inviteTokenHash = some (deployment.sha256 token) ∧
      ∃ expiresAt, user.inviteExpiresAt = some expiresAt ∧
        registry.invitations token = some ⟨user.tenantId, user.email, expiresAt, false⟩ := by
  obtain ⟨stored, owned, matching⟩ := first_of_some found
  have hashed : user.inviteTokenHash = some (deployment.sha256 token) := by simpa using matching
  refine ⟨stored, owned, hashed, ?_⟩
  cases represents.accounts user stored with
  | credentialed _ _ _ _ uninvited _ =>
    rw [hashed] at uninvited
    cases uninvited
  | pending held expiresAt _ _ otherHashed expires heldKnown issued _ =>
    rw [hashed, Option.some.injEq] at otherHashed
    obtain rfl := injective known heldKnown otherHashed
    exact ⟨expiresAt, expires, issued⟩

/-- An acceptance succeeds exactly when its institute redeems the token, and matches that
redemption.

Proof: the first user with the token's hash is pending under that token, since hashes of
known tokens are distinct. -/
theorem accept_invite_refines (injective : Set.InjOn deployment.sha256 tokens)
    (represents : Represents deployment tokens database registry) (draws : Draws)
    (subdomain : String) (dto : AcceptInviteDto) (known : dto.token ∈ tokens) :
    ((CredentialCall.acceptInvite subdomain dto).perform deployment draws database).2 =
        (specifyAcceptInvite deployment draws subdomain dto registry).2 ∧
      Represents deployment tokens
        ((CredentialCall.acceptInvite subdomain dto).perform deployment draws database).1
        (specifyAcceptInvite deployment draws subdomain dto registry).1 := by
  have resolved := represents.resolves (queryKey deployment subdomain)
  have institutes : instituteOf deployment subdomain database =
      Records.lookup Tenant.subdomain (queryKey deployment subdomain) database.tenants := rfl
  simp only [perform, specifyAcceptInvite, resolved]
  rw [← institutes]
  cases institute : instituteOf deployment subdomain database with
  | none =>
    have refused : TenantAuthService.acceptInvite deployment draws subdomain dto database =
        (database, .error (.notFound "Institute not found")) := by
      simp [TenantAuthService.acceptInvite, institute]
    simp only [refused, Option.map_none]
    exact ⟨rfl, represents⟩
  | some tenant =>
    simp only [Option.map_some]
    cases redeemed : registry.redeemable tenant.id.hex dto.token draws.now with
    | none =>
      have nobody : ∀ user, firstOf tenant.id.hex
          (fun other => decide (other.inviteTokenHash = some (deployment.sha256 dto.token)))
          database.users = some user → inviteOver draws.now user = true := by
        intro user found
        obtain ⟨_, owned, _, expiresAt, expires, issued⟩ := represents.holder injective known found
        by_contra valid
        have unexpired : draws.now ≤ expiresAt := by simpa [inviteOver, expires] using valid
        rw [Registry.redeemable_iff.mpr ⟨issued, owned, rfl, unexpired⟩] at redeemed
        cases redeemed
      simp only [accept_invite_refused institute nobody]
      exact ⟨rfl, represents⟩
    | some invitation =>
      obtain ⟨issued, place, unused, unexpired⟩ := Registry.redeemable_iff.mp redeemed
      obtain ⟨holder, holderStored, holderOwned, _, holderHashed⟩ :=
        (represents.invitations _ _ issued).2 unused
      cases found : firstOf tenant.id.hex
          (fun other => decide (other.inviteTokenHash = some (deployment.sha256 dto.token)))
          database.users with
      | none =>
        have missed := List.find?_eq_none.mp found holder holderStored
        simp [holderOwned, place, holderHashed] at missed
      | some user =>
        obtain ⟨stored, owned, hashed, expiresAt, expires, userIssued⟩ :=
          represents.holder injective known found
        obtain rfl : invitation = ⟨user.tenantId, user.email, expiresAt, false⟩ :=
          Option.some.inj (issued.symm.trans userIssued)
        have valid : inviteOver draws.now user = false := by
          simpa [inviteOver, expires] using unexpired
        simp only [accept_invite_accepts represents.kept institute found valid]
        exact ⟨rfl, represents.redeemed injective stored draws.salt dto.password hashed issued⟩

/-- A change of standing succeeds exactly when its institute is open, and matches the change
of the registry. -/
theorem set_status_refines (represents : Represents deployment tokens database registry)
    (draws : Draws) (actor id : String) (status : TenantStatus) :
    ((CredentialCall.setStatus actor id status).perform deployment draws database).2 =
        (specifySetStatus id status registry).2 ∧
      Represents deployment tokens
        ((CredentialCall.setStatus actor id status).perform deployment draws database).1
        (specifySetStatus id status registry).1 := by
  simp only [perform, specifySetStatus, TenantsService.setStatus, Tenant.findByIdAndUpdate, castId]
  cases casts : ObjectId.cast id with
  | none => exact ⟨rfl, represents⟩
  | some target =>
    simp only [represents.standings]
    cases looked : Records.lookup Tenant.id target database.tenants with
    | none => exact ⟨rfl, represents⟩
    | some tenant =>
      obtain ⟨stored, rfl⟩ := Records.lookup_some looked
      simp only [Option.map_some, Option.isSome_some, if_true]
      refine ⟨rfl, (represents.standing ⟨tenant, stored, rfl⟩ status).same ?_ ?_⟩
      · exact AuditService.record_tenants _ _
      · exact AuditService.record_users _ _

/-- An invitation succeeds exactly when its address is free and its texts are set, and
matches the invitation of the registry. -/
theorem invite_refines (represents : Represents deployment tokens database registry)
    (draws : Draws) (tenantId : String) (dto : InviteUserDto)
    (fresh : Fresh draws tokens database registry (.invite tenantId dto)) :
    ((CredentialCall.invite tenantId dto).perform deployment draws database).2 =
        (specifyInvite deployment draws tenantId dto registry).2 ∧
      Represents deployment tokens
        ((CredentialCall.invite tenantId dto).perform deployment draws database).1
        (specifyInvite deployment draws tenantId dto registry).1 := by
  obtain ⟨freshId, known, unissued⟩ := fresh
  simp only [perform, specifyInvite, ← represents.found_member]
  by_cases empty : tenantId = ""
  · subst empty
    obtain ⟨thrown, refused⟩ := invite_unbound deployment draws dto database
    simp only [refused, true_or, if_true]
    exact ⟨rfl, represents⟩
  · by_cases invalid : (firstOf tenantId
        (fun user => decide (user.email = queryKey deployment dto.email)) database.users).isSome = true ∨
        Text.trim dto.name = "" ∨ queryKey deployment dto.email = ""
    · obtain ⟨thrown, refused⟩ := invite_refused draws empty invalid
      simp only [refused, empty, false_or, if_pos invalid]
      exact ⟨rfl, represents⟩
    · have free : firstOf tenantId
          (fun user => decide (user.email = queryKey deployment dto.email)) database.users = none := by
        simpa using (not_or.mp invalid).1
      obtain ⟨named, addressed⟩ := not_or.mp (not_or.mp invalid).2
      simp only [invite_accepted empty free freshId named addressed, empty, false_or, if_neg invalid]
      refine ⟨rfl, represents.invited freshId ?_ ⟨named, addressed⟩ rfl rfl rfl rfl known unissued⟩
      rintro stored member ⟨sameTenant, sameEmail⟩
      have missed := List.find?_eq_none.mp free stored member
      simp only [Bool.and_eq_true, decide_eq_true_eq, not_and] at missed
      exact missed sameTenant sameEmail

/-- A provisioning succeeds exactly when its subdomain is free and its texts are set, and
matches what it opens and enrols; a refused administrator leaves the opened tenant. -/
theorem provision_refines (represents : Represents deployment tokens database registry)
    (draws : Draws) (actor : String) (dto : CreateTenantDto)
    (fresh : Fresh draws tokens database registry (.provision actor dto)) :
    ((CredentialCall.provision actor dto).perform deployment draws database).2 =
        (specifyProvision deployment draws dto registry).2 ∧
      Represents deployment tokens
        ((CredentialCall.provision actor dto).perform deployment draws database).1
        (specifyProvision deployment draws dto registry).1 := by
  obtain ⟨freshTenant, freshUser⟩ := fresh
  simp only [perform, specifyProvision, represents.resolves]
  cases looked : Records.lookup Tenant.subdomain (queryKey deployment dto.subdomain)
      database.tenants with
  | some tenant =>
    simp only [TenantsService.provision_taken looked, Option.map_some, Option.isSome_some, true_or,
      if_true]
    exact ⟨rfl, represents⟩
  | none =>
    simp only [Option.map_none, Option.isSome_none, Bool.false_eq_true, false_or]
    by_cases invalid : Text.trim dto.name = "" ∨ queryKey deployment dto.subdomain = ""
    · obtain ⟨thrown, refused⟩ := TenantsService.provision_refused actor draws looked invalid
      simp only [refused, if_pos invalid]
      exact ⟨rfl, represents⟩
    · obtain ⟨named, addressed⟩ := not_or.mp invalid
      obtain ⟨free, stores⟩ :=
        TenantsService.provision_stores actor draws looked named addressed freshTenant
      have opened := represents.opened free rfl
      simp only [stores, if_neg invalid]
      by_cases blank : Text.trim dto.adminName = "" ∨ queryKey deployment dto.adminEmail = ""
      · obtain ⟨thrown, refused⟩ := TenantsService.admin_refused actor draws database blank
        simp only [refused, if_pos blank]
        exact ⟨rfl, opened⟩
      · obtain ⟨adminNamed, adminAddressed⟩ := not_or.mp blank
        simp only [TenantsService.admin_accepted actor draws adminNamed adminAddressed freshUser,
          if_neg blank]
        have freshId : ∀ user ∈ database.users,
            user.id ≠ (TenantsService.provisionedAdmin deployment draws dto).id :=
          fun user stored => (freshUser user stored).1
        have freshAddress : ∀ user ∈ database.users,
            ¬ (user.tenantId = (TenantsService.provisionedAdmin deployment draws dto).tenantId ∧
              user.email = (TenantsService.provisionedAdmin deployment draws dto).email) :=
          fun user stored same => (freshUser user stored).2 same.1
        have required : (TenantsService.provisionedAdmin deployment draws dto).name ≠ "" ∧
            (TenantsService.provisionedAdmin deployment draws dto).email ≠ "" :=
          ⟨adminNamed, adminAddressed⟩
        have enrolled := opened.enrolled freshId freshAddress required rfl rfl rfl
        exact ⟨rfl, enrolled.same (AuditService.record_tenants _ _) (AuditService.record_users _ _)⟩

/-- Every call on credentials refines what it is for: both succeed or both are refused, and
the store after the call represents the registry after it. -/
theorem call_refines (injective : Set.InjOn deployment.sha256 tokens)
    (represents : Represents deployment tokens database registry) (draws : Draws)
    (call : CredentialCall) (fresh : Fresh draws tokens database registry call) :
    (call.perform deployment draws database).2 = (call.specify deployment draws registry).2 ∧
      Represents deployment tokens (call.perform deployment draws database).1
        (call.specify deployment draws registry).1 := by
  cases call with
  | provision actor dto => exact provision_refines represents draws actor dto fresh
  | invite tenantId dto => exact invite_refines represents draws tenantId dto fresh
  | acceptInvite subdomain dto =>
    exact accept_invite_refines injective represents draws subdomain dto fresh
  | setStatus actor id status => exact set_status_refines represents draws actor id status
  | login dto => exact ⟨login_refines represents draws.now dto, represents⟩

/-- A run of fresh calls from the empty store represents the same run of the registry. -/
theorem run_represents (injective : Set.InjOn deployment.sha256 tokens)
    (calls : List (Draws × CredentialCall))
    (fresh : Runs.Along (Runs.pair (credentialStep deployment) (registryStep deployment))
      (fun states input => Fresh input.1 tokens states.1 states.2 input.2) ({}, Registry.empty)
      calls) :
    Represents deployment tokens (reached deployment calls) (registered deployment calls) := by
  have simulates (state : Database) (view : Credentials) (input : Draws × CredentialCall)
      (represents : Represents deployment tokens state view)
      (drawn : Fresh input.1 tokens state view input.2) :
      Represents deployment tokens (credentialStep deployment state input)
        (registryStep deployment view input) :=
    (call_refines injective represents input.1 input.2 drawn).2
  exact Runs.run_simulates simulates represents_empty fresh

end CoachingApi
