import Exetron.Auth.Users

/-!
# Grants and tenants

A creation checks the roles and the stores it links against what the caller may use, which for a
platform admin is everything; an update links whatever it is given. The links stay inside the
user's tenant as long as the requests list only what belongs to it.
-/

namespace Exetron.Auth

open Lib List

def LinkedWithin (users : List User) (links owners : List (Id × Id)) : Prop :=
  ∀ user ∈ users, ∀ tenantId ∈ user.tenantId, ∀ id, (user.id, id) ∈ links → (id, tenantId) ∈ owners

def roleOwners (s : AuthStore) : List (Id × Id) := s.roles.map fun role => (role.id, role.tenantId)

def storeOwners (s : AuthStore) : List (Id × Id) :=
  s.stores.map fun store => (store.id, store.tenantId)

def GrantsWithinTenant (s : AuthStore) : Prop :=
  LinkedWithin s.users (roleLinks s) (roleOwners s) ∧
    LinkedWithin s.users (storeLinks s) (storeOwners s)

/-- The keys of the users are distinct, and new ones are free. -/
structure UserKeys (s : AuthStore) : Prop where
  users : (s.users.map User.id).Nodup
  old : ∀ user ∈ s.users, user.id < s.nextId
  roleLinks : ∀ link ∈ roleLinks s, link.1 < s.nextId
  storeLinks : ∀ link ∈ storeLinks s, link.1 < s.nextId

section
variable {users : List User} {links owners : List (Id × Id)}

theorem linkedWithin_add {user : User} {ids : List Id} (within : LinkedWithin users links owners)
    (newUser : ∀ old ∈ users, old.id ≠ user.id) (newLinks : ∀ link ∈ links, link.1 ≠ user.id)
    (granted : ∀ tenantId ∈ user.tenantId, ∀ id ∈ ids, (id, tenantId) ∈ owners) :
    LinkedWithin (users ++ [user]) (links ++ ids.map fun id => (user.id, id)) owners := by
  intro owner listed tenantId tenant id linked
  rcases mem_append.mp listed with old | new
  · rcases mem_append.mp linked with before | added
    · exact within owner old tenantId tenant id before
    · obtain ⟨_, _, same⟩ := mem_map.mp added
      exact absurd (Prod.mk.inj same).1.symm (newUser owner old)
  · obtain rfl := mem_singleton.mp new
    rcases mem_append.mp linked with before | added
    · exact absurd rfl (newLinks _ before)
    · obtain ⟨id', requested, same⟩ := mem_map.mp added
      obtain rfl : id' = id := (Prod.mk.inj same).2
      exact granted tenantId tenant id' requested

theorem linkedWithin_replace {userId : Id} {requested : Option (List Id)}
    (within : LinkedWithin users links owners)
    (granted : ∀ user ∈ users, user.id = userId → ∀ tenantId ∈ user.tenantId,
      ∀ id ∈ requested.getD [], (id, tenantId) ∈ owners) :
    LinkedWithin users (linksAfter requested userId links) owners := by
  cases requested with
  | none => exact within
  | some ids =>
    intro owner listed tenantId tenant id linked
    rcases mem_append.mp linked with kept | added
    · exact within owner listed tenantId tenant id (mem_filter.mp kept).1
    · obtain ⟨id', asked, same⟩ := mem_map.mp added
      obtain ⟨mine, rfl⟩ := Prod.mk.inj same
      exact granted owner listed mine.symm tenantId tenant id' asked

theorem linkedWithin_modify {userId : Id} {f : User → User}
    (keeps : ∀ user, (f user).id = user.id ∧ (f user).tenantId = user.tenantId)
    (within : LinkedWithin users links owners) :
    LinkedWithin (Rows.modify User.id userId f users) links owners := by
  intro owner listed tenantId tenant id linked
  rcases Rows.mem_of_modify listed with old | ⟨user, old, _, rfl⟩
  · exact within owner old tenantId tenant id linked
  · rw [(keeps user).2] at tenant
    rw [(keeps user).1] at linked
    exact within user old tenantId tenant id linked

end

/-- The tenant whose user a request grants something to. -/
def UserRequest.granteeTenant (s : AuthStore) (r : UserRequest) : Option Id :=
  match r.call with
  | .create dto => (dto.userTenant r.context).toOption.join
  | .update userId _ => (users.findUnique userId s).bind User.tenantId

def UserRequest.roleIds (r : UserRequest) : List Id :=
  match r.call with
  | .create dto => dto.roleIds.getD []
  | .update _ dto => dto.roleIds.getD []

def UserRequest.storeIds (r : UserRequest) : List Id :=
  match r.call with
  | .create dto => dto.storeIds.getD []
  | .update _ dto => dto.storeIds.getD []

/-- The roles and the stores that a request lists for a tenant's user are the tenant's. -/
def KeepsToTenant (s : AuthStore) (r : UserRequest) : Prop :=
  ∀ tenantId ∈ r.granteeTenant s,
    (∀ role ∈ s.roles, role.id ∈ r.roleIds → role.tenantId = tenantId) ∧
    ∀ store ∈ s.stores, store.id ∈ r.storeIds → store.tenantId = tenantId

instance (s : AuthStore) (r : UserRequest) : Decidable (KeepsToTenant s r) := by
  unfold KeepsToTenant
  infer_instance

section
variable {s t : AuthStore}

theorem owned_role {id tenantId : Id} {ids : List Id} (listed : id ∈ ids)
    (stored : id ∈ s.roles.map Role.id)
    (kept : ∀ role ∈ s.roles, role.id ∈ ids → role.tenantId = tenantId) :
    (id, tenantId) ∈ roleOwners s := by
  obtain ⟨role, here, rfl⟩ := mem_map.mp stored
  exact mem_map.mpr ⟨role, here, by rw [kept role here listed]⟩

theorem owned_store {id tenantId : Id} {ids : List Id} (listed : id ∈ ids)
    (stored : id ∈ s.stores.map UserStore.id)
    (kept : ∀ store ∈ s.stores, store.id ∈ ids → store.tenantId = tenantId) :
    (id, tenantId) ∈ storeOwners s := by
  obtain ⟨store, here, rfl⟩ := mem_map.mp stored
  exact mem_map.mpr ⟨store, here, by rw [kept store here listed]⟩

section
variable {context : RequestContext} {dto : CreateUserDto} {tenantId : Option Id} {user : User}

theorem roleLinks_created (created : UserCreated context dto s tenantId user t) :
    roleLinks t = roleLinks s ++ (dto.roleIds.getD []).map fun id => (user.id, id) := by
  rw [created.after]
  simp [roleLinks, Function.comp_def]

theorem storeLinks_created (created : UserCreated context dto s tenantId user t) :
    storeLinks t = storeLinks s ++ (dto.storeIds.getD []).map fun id => (user.id, id) := by
  rw [created.after]
  simp [storeLinks, Function.comp_def]

theorem userKeys_created (keys : UserKeys s) (created : UserCreated context dto s tenantId user t) :
    UserKeys t := by
  have new : user.id = s.nextId := created.user_eq.1
  have next : t.nextId = s.nextId + 1 := by rw [created.after]
  have rows : t.users = s.users ++ [user] := by rw [created.after]
  have older {links : List (Id × Id)} (old : ∀ link ∈ links, link.1 < s.nextId) (ids : List Id) :
      ∀ link ∈ links ++ ids.map (fun id => (user.id, id)), link.1 < t.nextId := by
    rw [next]
    intro link listed
    rcases mem_append.mp listed with before | added
    · exact Nat.lt_succ_of_lt (old link before)
    · obtain ⟨_, _, rfl⟩ := mem_map.mp added
      exact new ▸ Nat.lt_succ_self _
  refine ⟨?_, ?_, ?_, ?_⟩
  · rw [rows]
    refine Rows.nodup_append_key keys.users fun listed => ?_
    obtain ⟨old, stored, same⟩ := mem_map.mp listed
    exact absurd (keys.old old stored) (by rw [same, new]; exact Nat.lt_irrefl _)
  · rw [rows, next]
    intro owner listed
    rcases mem_append.mp listed with old | added
    · exact Nat.lt_succ_of_lt (keys.old owner old)
    · rw [mem_singleton.mp added, new]
      exact Nat.lt_succ_self _
  · rw [roleLinks_created created]
    exact older keys.roleLinks _
  · rw [storeLinks_created created]
    exact older keys.storeLinks _

theorem grants_created (keys : UserKeys s) (within : GrantsWithinTenant s)
    (created : UserCreated context dto s tenantId user t) (kept : ∀ own ∈ tenantId,
      (∀ role ∈ s.roles, role.id ∈ dto.roleIds.getD [] → role.tenantId = own) ∧
      ∀ store ∈ s.stores, store.id ∈ dto.storeIds.getD [] → store.tenantId = own) :
    GrantsWithinTenant t := by
  have new : user.id = s.nextId := created.user_eq.1
  have owner : user.tenantId = tenantId := created.user_eq.2.1
  have newUser : ∀ old ∈ s.users, old.id ≠ user.id := fun old listed =>
    new ▸ Nat.ne_of_lt (keys.old old listed)
  have rows : t.users = s.users ++ [user] := by rw [created.after]
  have roles : roleOwners t = roleOwners s := by rw [created.after]; rfl
  have stores : storeOwners t = storeOwners s := by rw [created.after]; rfl
  constructor
  · rw [rows, roleLinks_created created, roles]
    refine linkedWithin_add within.1 newUser
      (fun link listed => new ▸ Nat.ne_of_lt (keys.roleLinks link listed)) fun own is id listed => ?_
    exact owned_role listed (created.roles id listed) (kept own (owner ▸ is)).1
  · rw [rows, storeLinks_created created, stores]
    refine linkedWithin_add within.2 newUser
      (fun link listed => new ▸ Nat.ne_of_lt (keys.storeLinks link listed)) fun own is id listed => ?_
    exact owned_store listed (created.stores id listed) (kept own (owner ▸ is)).2

end

section
variable {hash : String → String} {userId : Id} {dto : UpdateUserDto} {current : User}

theorem userKeys_updated (keys : UserKeys s) (updated : UserUpdated hash userId dto s current t) :
    UserKeys t := by
  obtain ⟨found, -, -, ⟨userRoles, storeAccess, rfl⟩, roles, stores⟩ := updated
  obtain ⟨stored, same⟩ := Table.findUnique_mem found
  have known : userId < s.nextId := same ▸ keys.old current stored
  have older {links : List (Id × Id)} (old : ∀ link ∈ links, link.1 < s.nextId)
      (requested : Option (List Id)) :
      ∀ link ∈ linksAfter requested userId links, link.1 < s.nextId := by
    cases requested with
    | none => exact old
    | some ids =>
      intro link listed
      rcases mem_append.mp listed with before | added
      · exact old link (mem_filter.mp before).1
      · obtain ⟨_, _, rfl⟩ := mem_map.mp added
        exact known
  refine ⟨?_, ?_, ?_, ?_⟩
  · show ((Rows.modify User.id userId (dto.row hash) s.users).map User.id).Nodup
    have keeps : ∀ user, (dto.row hash user).id = user.id := fun _ => rfl
    rw [Rows.map_modify keeps]
    exact keys.users
  · intro owner listed
    rcases Rows.mem_of_modify listed with old | ⟨user, old, _, rfl⟩
    · exact keys.old owner old
    · exact keys.old user old
  · rw [roles]
    exact older keys.roleLinks _
  · rw [stores]
    exact older keys.storeLinks _

theorem grants_updated (keys : UserKeys s) (within : GrantsWithinTenant s)
    (updated : UserUpdated hash userId dto s current t) (kept : ∀ own ∈ current.tenantId,
      (∀ role ∈ s.roles, role.id ∈ dto.roleIds.getD [] → role.tenantId = own) ∧
      ∀ store ∈ s.stores, store.id ∈ dto.storeIds.getD [] → store.tenantId = own) :
    GrantsWithinTenant t := by
  obtain ⟨found, roleIds, storeIds, ⟨userRoles, storeAccess, rfl⟩, roles, stores⟩ := updated
  obtain ⟨stored, same⟩ := Table.findUnique_mem found
  have only {user : User} (listed : user ∈ s.users) (is : user.id = userId) : user = current :=
    Rows.eq_of_key keys.users listed stored (is.trans same.symm)
  have keeps (user : User) :
      (dto.row hash user).id = user.id ∧ (dto.row hash user).tenantId = user.tenantId := ⟨rfl, rfl⟩
  constructor
  · rw [roles]
    refine linkedWithin_modify keeps (linkedWithin_replace within.1 ?_)
    intro user listed is own tenant id asked
    exact owned_role asked (roleIds id asked) (kept own (only listed is ▸ tenant)).1
  · rw [stores]
    refine linkedWithin_modify keeps (linkedWithin_replace within.2 ?_)
    intro user listed is own tenant id asked
    exact owned_store asked (storeIds id asked) (kept own (only listed is ▸ tenant)).2

end

theorem step_grants {r : UserRequest} (kept : KeepsToTenant s r)
    (h : UserKeys s ∧ GrantsWithinTenant s) :
    UserKeys (step s r) ∧ GrantsWithinTenant (step s r) := by
  obtain ⟨keys, within⟩ := h
  obtain ⟨hash, context, call⟩ := r
  cases call with
  | create dto =>
    refine Call.transact_related (R := fun _ t => UserKeys t ∧ GrantsWithinTenant t) ⟨keys, within⟩
      fun answer t body => ?_
    obtain ⟨tenantId, user, created, _⟩ := createUser_ok body
    refine ⟨userKeys_created keys created, grants_created keys within created fun own is => ?_⟩
    refine kept own ?_
    show own ∈ (dto.userTenant context).toOption.join
    rw [created.tenant]
    exact is
  | update userId dto =>
    refine Call.transact_related (R := fun _ t => UserKeys t ∧ GrantsWithinTenant t) ⟨keys, within⟩
      fun answer t body => ?_
    obtain ⟨current, updated⟩ := updateUser_ok body
    refine ⟨userKeys_updated keys updated, grants_updated keys within updated fun own is => ?_⟩
    refine kept own ?_
    show own ∈ (users.findUnique userId s).bind User.tenantId
    rw [updated.found]
    exact is

end

/-- In a run whose requests keep to the tenants of the users they grant to, every role and every
store that is linked to a tenant's user is that tenant's. -/
theorem grants_within_tenant {s : AuthStore} (keys : UserKeys s) (within : GrantsWithinTenant s)
    {requests : List UserRequest} (along : Trace.Along step KeepsToTenant s requests)
    {before : List UserRequest} (reached : before <+: requests) :
    GrantsWithinTenant (Trace.run step s before) := by
  have keeps : ∀ s r, UserKeys s ∧ GrantsWithinTenant s → KeepsToTenant s r →
      UserKeys (step s r) ∧ GrantsWithinTenant (step s r) := fun _ _ h kept => step_grants kept h
  exact (Trace.run_invariant keeps ⟨keys, within⟩ (Trace.along_prefix reached along)).2

def twoTenants : AuthStore where
  nextId := 30
  tenants := [1, 2]
  users := [{
    id := 20
    tenantId := some 1
    email := "manager@first"
    firstName := "Ann"
    lastName := "First"
    passwordHash := ""
    status := .active
    isPlatformAdmin := false
    lastLoginAt := none }]
  roles := [⟨11, 1⟩, ⟨12, 2⟩]
  stores := [⟨21, 1⟩, ⟨22, 2⟩]
  userRoles := []
  storeAccess := []
  refreshSessions := []

def grant (roleId storeId : Id) : UserRequest where
  hash := fun x => x
  context := {
    userId := "manager"
    tenantId := some 1
    scope := .tenantMember
    storeIds := []
    deviceId := none }
  call := .update 20 { roleIds := some [roleId], storeIds := some [storeId] }

theorem twoTenants_keys : UserKeys twoTenants :=
  ⟨by decide, by decide, by decide, by decide⟩

theorem twoTenants_within : GrantsWithinTenant twoTenants :=
  ⟨fun _ _ _ _ _ linked => absurd linked not_mem_nil,
    fun _ _ _ _ _ linked => absurd linked not_mem_nil⟩

theorem grant_within_tenant : GrantsWithinTenant (Trace.run step twoTenants [grant 11 21]) := by
  have along : Trace.Along step KeepsToTenant twoTenants [grant 11 21] := by decide +kernel
  exact grants_within_tenant twoTenants_keys twoTenants_within along (List.prefix_refl _)

/-- An update links another tenant's role. -/
theorem grant_across_tenants :
    ¬∀ (s : AuthStore) (requests : List UserRequest), UserKeys s → GrantsWithinTenant s →
      GrantsWithinTenant (Trace.run step s requests) := by
  intro always
  have within := (always twoTenants [grant 12 21] twoTenants_keys twoTenants_within).1
  have linked : (20, 12) ∈ roleLinks (Trace.run step twoTenants [grant 12 21]) := by
    decide +kernel
  obtain ⟨user, listed, same, tenant⟩ : ∃ user ∈ (Trace.run step twoTenants [grant 12 21]).users,
      user.id = 20 ∧ user.tenantId = some 1 := by decide +kernel
  have owned := within user listed 1 tenant 12 (same ▸ linked)
  revert owned
  decide +kernel

end Exetron.Auth
