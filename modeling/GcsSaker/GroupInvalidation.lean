import GcsSaker.JdbcGroupHierarchy
import GcsSaker.LifecycleInvariants
import GcsSaker.RefreshSessionStore
import GcsSaker.UserAdministration

/-!
# What a change of a group writes

`update` and `deactivate` of `GroupLifecycleService` over the repositories of the service, in memory
or behind a connection: PostgreSQL for groups and users, Redis for refresh sessions. A command that
is sent over a connection may be refused, or done without its answer coming back. Nobody else writes
during the call.
-/

namespace GcsSaker.Groups

open RefreshSessions (Redis decodeIndex)

/-- What becomes of a command. -/
inductive Fate where
  | answered
  | refused (thrown : Thrown)
  | unanswered (thrown : Thrown)

namespace Fate

def read {α : Type} (fate : Fate) (value : α) : Except Thrown α :=
  match fate with
  | answered => .ok value
  | refused thrown => .error thrown
  | unanswered thrown => .error thrown

theorem eq_of_read {α : Type} {fate : Fate} {value read : α} (h : fate.read value = .ok read) :
    read = value := by
  cases fate with
  | answered => exact (Except.ok.inj h).symm
  | refused thrown => cases h
  | unanswered thrown => cases h

def write {σ : Type} (fate : Fate) (before after : σ) : σ × Except Thrown Unit :=
  match fate with
  | answered => (after, .ok ())
  | refused thrown => (before, .error thrown)
  | unanswered thrown => (after, .error thrown)

end Fate

/-- What befalls a call. `listAll` counts its readings of the groups, `command` and `clock` what it
sends to the users and the sessions. -/
structure Circumstances where
  listAll : ℕ → Fate
  current : Fate
  list : Fate
  hasActiveInGroup : Except Thrown Bool
  command : ℕ → Fate
  clock : ℕ → ℤ
  attempts : ℕ → Attempt

/-! ## Groups -/

inductive OrganizationHierarchyRepository where
  | inMemory (groups : InMemoryOrganizationHierarchyRepository)
  | jdbc (tables : Tables)

namespace OrganizationHierarchyRepository

def units : OrganizationHierarchyRepository → List OrganizationUnit
  | inMemory groups => groups.units
  | jdbc tables => tables.organizationGroups

/-- `JdbcOrganizationHierarchyRepository.read` -/
def readFrom {α : Type} (fate : Fate) (value : α) : Except Thrown α :=
  (fate.read value).mapError fun _ => .groupHierarchyStorage .unavailable

def listAll (fate : Fate) : OrganizationHierarchyRepository → Except Thrown (List OrganizationUnit)
  | inMemory groups => .ok groups.listAll
  | jdbc tables => readFrom fate tables.organizationGroups

def current (fate : Fate) : OrganizationHierarchyRepository → Except Thrown OrganizationHierarchy
  | inMemory groups => groups.current
  | jdbc tables => do
    let active ← readFrom fate (activeUnits tables.organizationGroups)
    OrganizationHierarchy.of active

def update (environment : ℕ → Attempt) (unit : OrganizationUnit) :
    OrganizationHierarchyRepository → OrganizationHierarchyRepository × Except Thrown Unit
  | inMemory groups =>
    match groups.update unit with
    | .ok groups => (inMemory groups, .ok ())
    | .error thrown => (inMemory groups, .error thrown)
  | jdbc tables =>
    let result := execute tables (.update unit, environment)
    (jdbc result.1, result.2)

end OrganizationHierarchyRepository

/-! ## Users and sessions -/

inductive AuthUserRepository where
  | inMemory
  | jdbc (platform : Platform)

/-- The row that an update stores. -/
def AuthUserRepository.row : AuthUserRepository → AuthUser → AuthUser
  | inMemory, user => user
  | jdbc platform, user => AuthUsers.updateRow platform user

inductive RefreshSessionStore where
  | stateless
  | redis (platform : RefreshSessions.Platform)

/-- `sent` counts the commands of the call. -/
structure Accounts where
  users : AuthUsers
  refreshSessions : Redis
  sent : ℕ

def Accounts.send (accounts : Accounts) : Accounts := { accounts with sent := accounts.sent + 1 }

namespace AuthUserRepository

def list (repository : AuthUserRepository) (circumstances : Circumstances) (accounts : Accounts) :
    Except Thrown (List AuthUser) :=
  match repository with
  | inMemory => .ok accounts.users.rows
  | jdbc _ => circumstances.list.read accounts.users.rows

theorem eq_rows_of_list {repository : AuthUserRepository} {circumstances : Circumstances}
    {accounts : Accounts} {users : List AuthUser}
    (h : repository.list circumstances accounts = .ok users) : users = accounts.users.rows := by
  cases repository with
  | inMemory => exact (Except.ok.inj h).symm
  | jdbc platform => exact Fate.eq_of_read h

def persistenceError : Thrown := .runtime "auth_user_write_failed"

def update (repository : AuthUserRepository) (circumstances : Circumstances) (accounts : Accounts)
    (user : AuthUser) : Accounts × Except Thrown Unit :=
  let changed := { accounts.send with users := accounts.users.overwrite [repository.row user] }
  match repository with
  | inMemory =>
    match accounts.users.findByUsername user.username with
    | none => (accounts.send, .error (.illegalState "User not found"))
    | some current =>
      if current.id = user.id then (changed, .ok ())
      else (accounts.send, .error (.illegalArgument "User identity cannot change"))
  | jdbc _ =>
    if accounts.users.Updatable user then
      let result := (circumstances.command accounts.sent).write accounts.send changed
      (result.1, result.2.mapError fun _ => persistenceError)
    else (accounts.send, .error persistenceError)

end AuthUserRepository

namespace RefreshSessionStore

def delete (circumstances : Circumstances) (accounts : Accounts) (key : String) :
    Accounts × Except Thrown Unit :=
  (circumstances.command accounts.sent).write accounts.send
    { accounts.send with refreshSessions := accounts.refreshSessions.erase key }

/-- The keys in the index of the user, each once, and the index itself. -/
def revokedKeys (platform : RefreshSessions.Platform) (index : Option String) (username : String) :
    List String :=
  (decodeIndex index).foldl add [] ++ [platform.userIndexKey username]

def revokePrincipalSessions (store : RefreshSessionStore) (circumstances : Circumstances)
    (accounts : Accounts) (username : String) : Accounts × Except Thrown Unit :=
  match store with
  | stateless => (accounts, .ok ())
  | redis platform =>
    let index := accounts.refreshSessions.get (circumstances.clock accounts.sent)
      (platform.userIndexKey username)
    match (circumstances.command accounts.sent).read index with
    | .error thrown => (accounts.send, .error thrown)
    | .ok index =>
      StoppedPasses.run (delete circumstances) (revokedKeys platform index username) accounts.send

end RefreshSessionStore

/-! ## The service -/

/-- `groups`, `users` and `refreshSessions`, as they are configured and with what they hold. -/
structure LifecycleStores where
  groups : OrganizationHierarchyRepository
  userRepository : AuthUserRepository
  refreshSessionStore : RefreshSessionStore
  accounts : Accounts

inductive GroupChange where
  | update (groupId : GroupId) (command : UpdateGroupCommand)
  | deactivate (groupId : GroupId)

def collaborators (stores : LifecycleStores) (circumstances : Circumstances) :
    Collaborators Accounts where
  list := stores.userRepository.list circumstances
  update := stores.userRepository.update circumstances
  revokePrincipalSessions := stores.refreshSessionStore.revokePrincipalSessions circumstances
  hasActiveInGroup _ _ := circumstances.hasActiveInGroup

def requireGroup (units : List OrganizationUnit) (groupId : GroupId) :
    Except Thrown OrganizationUnit :=
  match unitOf units groupId with
  | some unit => .ok unit
  | none => .error (.illegalState "group not found")

namespace GroupChange

def groupId : GroupChange → GroupId
  | update groupId _ => groupId
  | deactivate groupId => groupId

def updateChecks (stores : LifecycleStores) (circumstances : Circumstances)
    (principal : AuthenticatedPrincipal) (groupId : GroupId) (command : UpdateGroupCommand) :
    Except Thrown (OrganizationUnit × Bool) := do
  requireSystemAdministrator principal
  let units ← stores.groups.listAll (circumstances.listAll 0)
  let current ← requireGroup units groupId
  let nextParent := if command.changeParent then command.parentId else current.parentId
  let updated : OrganizationUnit :=
    { current.renamed command.name with parentId := nextParent }
  let units ← stores.groups.listAll (circumstances.listAll 1)
  validateActive (activeUnits
    (units.map fun unit => if unit.id = updated.id then updated else unit))
  return (updated, current.parentId ≠ updated.parentId)

def deactivateChecks (stores : LifecycleStores) (circumstances : Circumstances)
    (principal : AuthenticatedPrincipal) (groupId : GroupId) :
    Except Thrown (OrganizationUnit × Bool) := do
  requireSystemAdministrator principal
  let units ← stores.groups.listAll (circumstances.listAll 0)
  let current ← requireGroup units groupId
  let units ← stores.groups.listAll (circumstances.listAll 1)
  require ((activeUnits units).length > 1) "at least one active group must remain"
  let units ← stores.groups.listAll (circumstances.listAll 2)
  require (∀ unit ∈ units, ¬ (unit.parentId = some groupId ∧ unit.status = .active))
    "active child groups must be deactivated first"
  let occupied ← circumstances.hasActiveInGroup
  require (occupied = false) "active devices must be disabled first"
  return ({ current with status := .inactive }, true)

/-- The group as it is to be, and whether the users of its subtree are invalidated. -/
def checks (stores : LifecycleStores) (circumstances : Circumstances)
    (principal : AuthenticatedPrincipal) : GroupChange → Except Thrown (OrganizationUnit × Bool)
  | update groupId command => updateChecks stores circumstances principal groupId command
  | deactivate groupId => deactivateChecks stores circumstances principal groupId

end GroupChange

namespace LifecycleStores

def invalidateSubtreeUsers (stores : LifecycleStores) (circumstances : Circumstances)
    (groupId : GroupId) : Accounts × Except Thrown Unit :=
  let hierarchy := stores.groups.current circumstances.current
  match stores.userRepository.list circumstances stores.accounts with
  | .error thrown => (stores.accounts, .error thrown)
  | .ok users =>
    GroupLifecycleService.invalidateUsers (collaborators stores circumstances)
      (users.filter (GroupLifecycleService.inSubtree hierarchy groupId)) stores.accounts

def write (stores : LifecycleStores) (circumstances : Circumstances) (groupId : GroupId)
    (updated : OrganizationUnit) (invalidates : Bool) :
    LifecycleStores × Except Thrown OrganizationUnit :=
  match if invalidates then stores.invalidateSubtreeUsers circumstances groupId
    else (stores.accounts, .ok ()) with
  | (accounts, .error thrown) => ({ stores with accounts }, .error thrown)
  | (accounts, .ok ()) =>
    match stores.groups.update circumstances.attempts updated with
    | (groups, .error thrown) => ({ stores with groups, accounts }, .error thrown)
    | (groups, .ok ()) => ({ stores with groups, accounts }, .ok updated)

def change (stores : LifecycleStores) (circumstances : Circumstances)
    (principal : AuthenticatedPrincipal) (change : GroupChange) :
    LifecycleStores × Except Thrown OrganizationUnit :=
  match change.checks stores circumstances principal with
  | .error thrown => (stores, .error thrown)
  | .ok (updated, invalidates) =>
    stores.write circumstances change.groupId updated invalidates

end LifecycleStores

end GcsSaker.Groups
