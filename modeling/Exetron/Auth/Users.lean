import Exetron.Access
import Exetron.Lib.Table
import Exetron.Lib.Trace

/-!
# Users

`UsersService`: the creation and the update of users, with the roles and the stores that are linked
to them. The creation checks the links against the caller's tenant, the update not at all.
-/

namespace Exetron.Auth

open Lib

inductive UserStatus where
  | active
  | invited
  | disabled
  deriving DecidableEq

inductive SessionStatus where
  | active
  | revoked
  | expired
  deriving DecidableEq

structure User where
  id : Id
  tenantId : Option Id
  (email firstName lastName passwordHash : String)
  status : UserStatus
  isPlatformAdmin : Bool
  lastLoginAt : Option Instant
  deriving DecidableEq

structure Role where
  (id tenantId : Id)

/-- What users read of a store. -/
structure UserStore where
  (id tenantId : Id)

structure UserRole where
  (userId roleId : Id)

structure UserStoreAccess where
  (userId storeId : Id)

structure RefreshSession where
  (id userId : Id)
  tokenHash : String
  status : SessionStatus
  expiresAt : Instant
  (lastUsedAt revokedAt : Option Instant)
  deriving DecidableEq

structure AuthStore where
  nextId : Id
  tenants : List Id
  users : List User
  roles : List Role
  stores : List UserStore
  userRoles : List UserRole
  storeAccess : List UserStoreAccess
  refreshSessions : List RefreshSession

abbrev AuthTransaction := Tx AuthStore ApiException

abbrev AuthCall := Call AuthStore ApiException

def users : Table AuthStore ApiException User Id where
  rows s := s.users
  put rows s := { s with users := rows }
  key := User.id
  missing := .recordNotFound "User"

def refreshSessions : Table AuthStore ApiException RefreshSession Id where
  rows s := s.refreshSessions
  put rows s := { s with refreshSessions := rows }
  key := RefreshSession.id
  missing := .recordNotFound "RefreshSession"

def roleIdsOf (userId : Id) (s : AuthStore) : List Id :=
  (s.userRoles.filter fun link => link.userId = userId).map UserRole.roleId

def storeIdsOf (userId : Id) (s : AuthStore) : List Id :=
  (s.storeAccess.filter fun link => link.userId = userId).map UserStoreAccess.storeId

def linkUserRoles (userId : Id) (roleIds : List Id) : AuthTransaction Unit := do
  Tx.read fun s => rejectIf (∃ id ∈ roleIds, id ∉ s.roles.map Role.id) .typeError
  Tx.lift (rejectIf (¬roleIds.Nodup) (.uniqueConstraint "UserRole"))
  Tx.write fun s => { s with userRoles := s.userRoles ++ roleIds.map (UserRole.mk userId) }

def linkStoreAccess (userId : Id) (storeIds : List Id) : AuthTransaction Unit := do
  Tx.read fun s => rejectIf (∃ id ∈ storeIds, id ∉ s.stores.map UserStore.id) .typeError
  Tx.lift (rejectIf (¬storeIds.Nodup) (.uniqueConstraint "UserStoreAccess"))
  Tx.write fun s =>
    { s with storeAccess := s.storeAccess ++ storeIds.map (UserStoreAccess.mk userId) }

structure CreateUserDto where
  tenantId : Option Id := none
  (email firstName lastName password : String)
  isPlatformAdmin : Option Bool := none
  roleIds : Option (List Id) := none
  storeIds : Option (List Id) := none

structure UserDto where
  user : User
  (roleIds storeIds : List Id)

def mapUser (user : User) (s : AuthStore) : UserDto :=
  ⟨user, roleIdsOf user.id s, storeIdsOf user.id s⟩

/-- The tenant of the user that a request creates. -/
def CreateUserDto.userTenant (context : RequestContext) (dto : CreateUserDto) :
    Except ApiException (Option Id) :=
  if dto.isPlatformAdmin = some true then .ok none
  else (resolveTenantId context (dto.tenantId.or context.tenantId)).map some

/-- The roles and the stores of a request are those of a tenant that the caller may use. -/
def checkGrants (context : RequestContext) (roleIds storeIds : List Id) (s : AuthStore) :
    Except ApiException Unit := do
  (s.roles.filter fun role => role.id ∈ roleIds).forM fun role =>
    (resolveTenantId context (some role.tenantId)).map fun _ => ()
  (s.stores.filter fun store => store.id ∈ storeIds).forM fun store =>
    (resolveTenantId context (some store.tenantId)).map fun _ => ()

/-- `hash` is the password service's, with the salt it draws. -/
def createUser (hash : String → String) (context : RequestContext) (dto : CreateUserDto) :
    AuthTransaction UserDto := do
  let tenantId ← Tx.lift (dto.userTenant context)
  Tx.lift (if dto.isPlatformAdmin = some true then requirePlatformAdmin context else .ok ())
  Tx.read (checkGrants context (dto.roleIds.getD []) (dto.storeIds.getD []))
  Tx.read fun s => rejectIf (∃ id ∈ tenantId, id ∉ s.tenants) .typeError
  Tx.read fun s =>
    rejectIf (dto.email ∈ s.users.map User.email) (.uniqueConstraint "User")
  let id ← Tx.read fun s => .ok s.nextId
  Tx.write fun s => { s with nextId := s.nextId + 1 }
  let user ← users.create
    { id
      tenantId
      email := dto.email
      firstName := dto.firstName
      lastName := dto.lastName
      passwordHash := hash dto.password
      status := .active
      isPlatformAdmin := dto.isPlatformAdmin.getD false
      lastLoginAt := none }
  linkUserRoles user.id (dto.roleIds.getD [])
  linkStoreAccess user.id (dto.storeIds.getD [])
  Tx.read fun s => .ok (mapUser user s)

structure UpdateUserDto where
  firstName : Option String := none
  lastName : Option String := none
  password : Option String := none
  status : Option UserStatus := none
  roleIds : Option (List Id) := none
  storeIds : Option (List Id) := none

/-- `...(value ? { field: value } : {})` for a text. -/
def filledOr (value : Option String) (current : String) : String :=
  Text.orElse (value.getD "") current

def UpdateUserDto.row (hash : String → String) (dto : UpdateUserDto) (user : User) : User :=
  { user with
    firstName := filledOr dto.firstName user.firstName
    lastName := filledOr dto.lastName user.lastName
    status := dto.status.getD user.status
    passwordHash :=
      if dto.password.getD "" = "" then user.passwordHash else hash (dto.password.getD "") }

/-- `deleteMany` and `createMany` of the links, when the request lists them. -/
def replaceUserRoles (userId : Id) (roleIds : Option (List Id)) : AuthTransaction Unit :=
  match roleIds with
  | none => pure ()
  | some roleIds => do
    Tx.write fun s => { s with userRoles := s.userRoles.filter fun link => link.userId ≠ userId }
    linkUserRoles userId roleIds

def replaceStoreAccess (userId : Id) (storeIds : Option (List Id)) : AuthTransaction Unit :=
  match storeIds with
  | none => pure ()
  | some storeIds => do
    Tx.write fun s =>
      { s with storeAccess := s.storeAccess.filter fun link => link.userId ≠ userId }
    linkStoreAccess userId storeIds

def updateUser (hash : String → String) (context : RequestContext) (userId : Id)
    (dto : UpdateUserDto) : AuthTransaction UserDto := do
  let current ← Tx.read (users.findUniqueOrThrow userId)
  Tx.lift (if current.isPlatformAdmin then requirePlatformAdmin context else .ok ())
  Tx.lift
    (match current.tenantId with
    | some tenantId => (resolveTenantId context (some tenantId)).map fun _ => ()
    | none => .ok ())
  let user ← users.update userId (dto.row hash)
  replaceUserRoles userId dto.roleIds
  replaceStoreAccess userId dto.storeIds
  Tx.read fun s => .ok (mapUser user s)

section
variable {s t : AuthStore} {userId : Id}

theorem linkUserRoles_ok_iff {roleIds : List Id} {u : Unit} :
    linkUserRoles userId roleIds s = .ok (u, t) ↔
      (∀ id ∈ roleIds, id ∈ s.roles.map Role.id) ∧ roleIds.Nodup ∧
        t = { s with userRoles := s.userRoles ++ roleIds.map (UserRole.mk userId) } := by
  simp only [linkUserRoles, Tx.bind_ok_iff, Tx.read_ok_iff, Tx.lift_ok_iff, Tx.write_ok_iff,
    rejectIf_ok_iff, not_not, not_exists, not_and]
  constructor
  · rintro ⟨_, _, ⟨stored, rfl⟩, _, _, ⟨distinct, rfl⟩, rfl⟩
    exact ⟨stored, distinct, rfl⟩
  · rintro ⟨stored, distinct, rfl⟩
    exact ⟨(), s, ⟨stored, rfl⟩, (), s, ⟨distinct, rfl⟩, rfl⟩

theorem linkStoreAccess_ok_iff {storeIds : List Id} {u : Unit} :
    linkStoreAccess userId storeIds s = .ok (u, t) ↔
      (∀ id ∈ storeIds, id ∈ s.stores.map UserStore.id) ∧ storeIds.Nodup ∧
        t = { s with storeAccess := s.storeAccess ++ storeIds.map (UserStoreAccess.mk userId) } := by
  simp only [linkStoreAccess, Tx.bind_ok_iff, Tx.read_ok_iff, Tx.lift_ok_iff, Tx.write_ok_iff,
    rejectIf_ok_iff, not_not, not_exists, not_and]
  constructor
  · rintro ⟨_, _, ⟨stored, rfl⟩, _, _, ⟨distinct, rfl⟩, rfl⟩
    exact ⟨stored, distinct, rfl⟩
  · rintro ⟨stored, distinct, rfl⟩
    exact ⟨(), s, ⟨stored, rfl⟩, (), s, ⟨distinct, rfl⟩, rfl⟩

/-- What a creation leaves behind: the new user with its links. -/
structure UserCreated (context : RequestContext) (dto : CreateUserDto)
    (s : AuthStore) (tenantId : Option Id) (user : User) (t : AuthStore) : Prop where
  tenant : dto.userTenant context = .ok tenantId
  grants : checkGrants context (dto.roleIds.getD []) (dto.storeIds.getD []) s = .ok ()
  user_eq : user.id = s.nextId ∧ user.tenantId = tenantId ∧ user.status = .active
  roles : ∀ id ∈ dto.roleIds.getD [], id ∈ s.roles.map Role.id
  stores : ∀ id ∈ dto.storeIds.getD [], id ∈ s.stores.map UserStore.id
  after : t = { s with
    nextId := s.nextId + 1
    users := s.users ++ [user]
    userRoles := s.userRoles ++ (dto.roleIds.getD []).map (UserRole.mk user.id)
    storeAccess := s.storeAccess ++ (dto.storeIds.getD []).map (UserStoreAccess.mk user.id) }

theorem createUser_ok {hash : String → String} {context : RequestContext} {dto : CreateUserDto}
    {answer : UserDto} (h : createUser hash context dto s = .ok (answer, t)) :
    ∃ tenantId user, UserCreated context dto s tenantId user t ∧ answer = mapUser user t := by
  simp only [createUser, Tx.bind_ok_iff, Tx.read_ok_iff, Tx.lift_ok_iff, Tx.write_ok_iff,
    Table.create_ok_iff, linkUserRoles_ok_iff, linkStoreAccess_ok_iff] at h
  obtain ⟨tenantId, _, ⟨tenant, rfl⟩, _, _, ⟨_, rfl⟩, _, _, ⟨grants, rfl⟩, _, _, ⟨_, rfl⟩, _, _,
    ⟨_, rfl⟩, id, _, ⟨fresh, rfl⟩, _, _, rfl, user, _, ⟨rfl, rfl⟩, _, _, ⟨roles, _, rfl⟩, _, _,
    ⟨stores, _, rfl⟩, shown, rfl⟩ := h
  obtain rfl := Except.ok.inj fresh
  exact ⟨tenantId, _, ⟨tenant, grants, ⟨rfl, rfl, rfl⟩, roles, stores, rfl⟩,
    (Except.ok.inj shown).symm⟩

/-- A user's links after an update: those of the request, or those before it. -/
def linksAfter (requested : Option (List Id)) (userId : Id) (links : List (Id × Id)) :
    List (Id × Id) :=
  match requested with
  | none => links
  | some ids => links.filter (fun link => link.1 ≠ userId) ++ ids.map fun id => (userId, id)

def roleLinks (s : AuthStore) : List (Id × Id) :=
  s.userRoles.map fun link => (link.userId, link.roleId)

def storeLinks (s : AuthStore) : List (Id × Id) :=
  s.storeAccess.map fun link => (link.userId, link.storeId)

theorem replaceUserRoles_ok {roleIds : Option (List Id)} {u : Unit}
    (h : replaceUserRoles userId roleIds s = .ok (u, t)) :
    (∀ id ∈ roleIds.getD [], id ∈ s.roles.map Role.id) ∧
      ∃ links, t = { s with userRoles := links } ∧
        roleLinks t = linksAfter roleIds userId (roleLinks s) := by
  cases roleIds with
  | none =>
    obtain ⟨-, rfl⟩ := Tx.pure_ok_iff.mp h
    exact ⟨fun _ listed => absurd listed List.not_mem_nil, s.userRoles, rfl, rfl⟩
  | some roleIds =>
    simp only [replaceUserRoles, Tx.bind_ok_iff, Tx.write_ok_iff, linkUserRoles_ok_iff] at h
    obtain ⟨_, _, rfl, stored, _, rfl⟩ := h
    refine ⟨stored, _, rfl, ?_⟩
    simp [roleLinks, linksAfter, List.filter_map, Function.comp_def]

theorem replaceStoreAccess_ok {storeIds : Option (List Id)} {u : Unit}
    (h : replaceStoreAccess userId storeIds s = .ok (u, t)) :
    (∀ id ∈ storeIds.getD [], id ∈ s.stores.map UserStore.id) ∧
      ∃ links, t = { s with storeAccess := links } ∧
        storeLinks t = linksAfter storeIds userId (storeLinks s) := by
  cases storeIds with
  | none =>
    obtain ⟨-, rfl⟩ := Tx.pure_ok_iff.mp h
    exact ⟨fun _ listed => absurd listed List.not_mem_nil, s.storeAccess, rfl, rfl⟩
  | some storeIds =>
    simp only [replaceStoreAccess, Tx.bind_ok_iff, Tx.write_ok_iff, linkStoreAccess_ok_iff] at h
    obtain ⟨_, _, rfl, stored, _, rfl⟩ := h
    refine ⟨stored, _, rfl, ?_⟩
    simp [storeLinks, linksAfter, List.filter_map, Function.comp_def]

/-- What an update leaves behind. -/
structure UserUpdated (hash : String → String) (userId : Id) (dto : UpdateUserDto) (s : AuthStore)
    (current : User) (t : AuthStore) : Prop where
  found : users.findUnique userId s = some current
  roles : ∀ id ∈ dto.roleIds.getD [], id ∈ s.roles.map Role.id
  stores : ∀ id ∈ dto.storeIds.getD [], id ∈ s.stores.map UserStore.id
  after : ∃ userRoles storeAccess, t = { s with
    users := Rows.modify User.id userId (dto.row hash) s.users
    userRoles := userRoles
    storeAccess := storeAccess }
  roleLinks : roleLinks t = linksAfter dto.roleIds userId (roleLinks s)
  storeLinks : storeLinks t = linksAfter dto.storeIds userId (storeLinks s)

theorem updateUser_ok {hash : String → String} {context : RequestContext} {dto : UpdateUserDto}
    {answer : UserDto} (h : updateUser hash context userId dto s = .ok (answer, t)) :
    ∃ current, UserUpdated hash userId dto s current t := by
  simp only [updateUser, Tx.bind_ok_iff, Tx.read_ok_iff, Tx.lift_ok_iff, Table.update_ok_iff,
    Table.findUniqueOrThrow_ok_iff] at h
  obtain ⟨current, _, ⟨found, rfl⟩, _, _, ⟨_, rfl⟩, _, _, ⟨_, rfl⟩, user, u, ⟨_, _, _, rfl⟩, _,
    v, linked, _, w, accessed, _, rfl⟩ := h
  obtain ⟨roles, userRoles, rfl, roleLinks_eq⟩ := replaceUserRoles_ok linked
  obtain ⟨stores, storeAccess, rfl, storeLinks_eq⟩ := replaceStoreAccess_ok accessed
  exact ⟨current, found, roles, stores, ⟨userRoles, storeAccess, rfl⟩, roleLinks_eq, storeLinks_eq⟩

end

inductive UserCall where
  | create (dto : CreateUserDto)
  | update (userId : Id) (dto : UpdateUserDto)

structure UserRequest where
  hash : String → String
  context : RequestContext
  call : UserCall

def perform (r : UserRequest) : AuthCall UserDto :=
  match r.call with
  | .create dto => Call.transact (createUser r.hash r.context dto)
  | .update userId dto => Call.transact (updateUser r.hash r.context userId dto)

def step (s : AuthStore) (r : UserRequest) : AuthStore := ((perform r).exec s).2

end Exetron.Auth
