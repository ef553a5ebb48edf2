import GcsSaker.AuthModels
import GcsSaker.GroupClosure

/-!
# The lifecycle of groups

`GroupLifecycleService` over `InMemoryOrganizationHierarchyRepository`. Users, sessions and devices
are other stores: `Collaborators` says what they answer, and any of their calls may throw. A call
checks first, then invalidates the users of the subtree, and writes the group last.
-/

namespace GcsSaker.Groups

/-- The check that both the service and the repository make of the active groups to be. -/
def validateActive (active : List OrganizationUnit) : Except Thrown Unit :=
  if active = [] then .ok ()
  else match OrganizationHierarchy.of active with
    | .ok _ => .ok ()
    | .error thrown => .error thrown

/-! ## The repository -/

/-- `unitsById`, in the order of insertion. -/
structure InMemoryOrganizationHierarchyRepository where
  units : List OrganizationUnit
  unique : (units.map OrganizationUnit.id).Nodup

namespace InMemoryOrganizationHierarchyRepository

def current (groups : InMemoryOrganizationHierarchyRepository) :
    Except Thrown OrganizationHierarchy :=
  OrganizationHierarchy.of (activeUnits groups.units)

def listAll (groups : InMemoryOrganizationHierarchyRepository) : List OrganizationUnit :=
  groups.units.insertionSort fun unit unit' => JvmText.notAfter unit.id.value unit'.id.value

/-- The map with `unit` under its id. -/
def put (groups : InMemoryOrganizationHierarchyRepository) (unit : OrganizationUnit) :
    InMemoryOrganizationHierarchyRepository :=
  if h : contains groups.units unit.id then
    { units := KeyedDelta.overwrite OrganizationUnit.id [unit] groups.units
      unique := by
        rw [KeyedDelta.map_key_overwrite]
        exact groups.unique }
  else
    { units := groups.units ++ [unit]
      unique := by
        rw [List.map_append]
        refine List.Nodup.append groups.unique (List.nodup_singleton _) fun id hid hnew => ?_
        exact h (List.mem_singleton.1 hnew ▸ hid) }

def create (groups : InMemoryOrganizationHierarchyRepository) (unit : OrganizationUnit) :
    Except Thrown InMemoryOrganizationHierarchyRepository := do
  require (¬ contains groups.units unit.id) "group already exists"
  require (∀ parent ∈ unit.parentId, contains groups.units parent) "parent group must exist"
  return groups.put unit

def update (groups : InMemoryOrganizationHierarchyRepository) (unit : OrganizationUnit) :
    Except Thrown InMemoryOrganizationHierarchyRepository := do
  require (contains groups.units unit.id) "group not found"
  validateActive (activeUnits (groups.put unit).units)
  return groups.put unit

end InMemoryOrganizationHierarchyRepository

/-! ## The service -/

structure Collaborators (υ : Type) where
  list : υ → Except Thrown (List AuthUser)
  update : υ → AuthUser → υ × Except Thrown Unit
  revokePrincipalSessions : υ → String → υ × Except Thrown Unit
  hasActiveInGroup : υ → GroupId → Except Thrown Bool

structure Stores (υ : Type) where
  groups : InMemoryOrganizationHierarchyRepository
  others : υ

structure CreateGroupCommand where
  id : GroupId
  name : String
  type : GroupType
  parentId : Option GroupId

structure UpdateGroupCommand where
  name : Option String
  parentId : Option GroupId
  changeParent : Bool

def newOrganizationUnit (id : GroupId) (name : String) (type : GroupType)
    (parentId : Option GroupId) (status : GroupStatus) : Except Thrown OrganizationUnit :=
  if h : JvmText.isBlank name = false then .ok ⟨id, name, type, parentId, status, h⟩
  else .error (.illegalArgument "group name must not be blank")

/-- The trimmed name, unless it is missing or blank. -/
def OrganizationUnit.renamed (unit : OrganizationUnit) (name : Option String) : OrganizationUnit :=
  match name with
  | none => unit
  | some name =>
    if h : JvmText.isBlank (JvmText.trim name) = false then
      { unit with name := JvmText.trim name, nameNotBlank := h }
    else unit

namespace GroupLifecycleService

variable {υ : Type}

def requireGroup (groups : InMemoryOrganizationHierarchyRepository) (groupId : GroupId) :
    Except Thrown OrganizationUnit :=
  match unitOf groups.listAll groupId with
  | some unit => .ok unit
  | none => .error (.illegalState "group not found")

def validateHierarchyCandidate (groups : InMemoryOrganizationHierarchyRepository)
    (updated : OrganizationUnit) : Except Thrown Unit :=
  validateActive (activeUnits
    (groups.listAll.map fun unit => if unit.id = updated.id then updated else unit))

/-- The loop over the users of the subtree. -/
def invalidateUsers (collaborators : Collaborators υ) : List AuthUser → υ → υ × Except Thrown Unit
  | [], others => (others, .ok ())
  | user :: users, others =>
    match collaborators.update others user.nextVersion with
    | (others, .error thrown) => (others, .error thrown)
    | (others, .ok ()) =>
      match collaborators.revokePrincipalSessions others user.username with
      | (others, .error thrown) => (others, .error thrown)
      | (others, .ok ()) => invalidateUsers collaborators users others

/-- A user of the group, or of a group below it in the active hierarchy. -/
def inSubtree (hierarchy : Except Thrown OrganizationHierarchy) (groupId : GroupId)
    (user : AuthUser) : Bool :=
  decide (user.groupId = groupId) || match hierarchy with
    | .ok hierarchy => hierarchy.isAncestor groupId user.groupId
    | .error _ => false

def invalidateSubtreeUsers (collaborators : Collaborators υ) (stores : Stores υ)
    (groupId : GroupId) : υ × Except Thrown Unit :=
  match collaborators.list stores.others with
  | .error thrown => (stores.others, .error thrown)
  | .ok users =>
    invalidateUsers collaborators (users.filter (inSubtree stores.groups.current groupId))
      stores.others

/-- Where `invalidates` holds the users are invalidated before the group is written. -/
def write (collaborators : Collaborators υ) (stores : Stores υ) (invalidates : Bool)
    (updated : OrganizationUnit) : Stores υ × Except Thrown OrganizationUnit :=
  match if invalidates then invalidateSubtreeUsers collaborators stores updated.id
    else (stores.others, .ok ()) with
  | (others, .error thrown) => ({ stores with others }, .error thrown)
  | (others, .ok ()) =>
    match stores.groups.update updated with
    | .error thrown => ({ stores with others }, .error thrown)
    | .ok groups => ({ groups, others }, .ok updated)

def createChecks (groups : InMemoryOrganizationHierarchyRepository)
    (principal : AuthenticatedPrincipal) (command : CreateGroupCommand) :
    Except Thrown OrganizationUnit := do
  requireSystemAdministrator principal
  require (∀ parent ∈ command.parentId,
    ∃ unit ∈ groups.listAll, unit.id = parent ∧ unit.status = .active)
    "active parent group is required"
  newOrganizationUnit command.id command.name command.type command.parentId .active

def create (stores : Stores υ) (principal : AuthenticatedPrincipal) (command : CreateGroupCommand) :
    Stores υ × Except Thrown OrganizationUnit :=
  match createChecks stores.groups principal command with
  | .error thrown => (stores, .error thrown)
  | .ok unit =>
    match stores.groups.create unit with
    | .error thrown => (stores, .error thrown)
    | .ok groups => ({ stores with groups }, .ok unit)

/-- The group as it is and as it is to be. -/
def updateChecks (groups : InMemoryOrganizationHierarchyRepository)
    (principal : AuthenticatedPrincipal) (groupId : GroupId) (command : UpdateGroupCommand) :
    Except Thrown (OrganizationUnit × OrganizationUnit) := do
  requireSystemAdministrator principal
  let current ← requireGroup groups groupId
  let nextParent := if command.changeParent then command.parentId else current.parentId
  let updated := { current.renamed command.name with parentId := nextParent }
  validateHierarchyCandidate groups updated
  return (current, updated)

def update (collaborators : Collaborators υ) (stores : Stores υ)
    (principal : AuthenticatedPrincipal) (groupId : GroupId) (command : UpdateGroupCommand) :
    Stores υ × Except Thrown OrganizationUnit :=
  match updateChecks stores.groups principal groupId command with
  | .error thrown => (stores, .error thrown)
  | .ok (current, updated) =>
    write collaborators stores (current.parentId ≠ updated.parentId) updated

def requireActiveParent (groups : InMemoryOrganizationHierarchyRepository)
    (parentId : Option GroupId) : Except Thrown Unit :=
  match parentId with
  | none => .ok ()
  | some parent => do
    let unit ← requireGroup groups parent
    require (unit.status = .active) "active parent group is required"

def activateChecks (groups : InMemoryOrganizationHierarchyRepository)
    (principal : AuthenticatedPrincipal) (groupId : GroupId) : Except Thrown OrganizationUnit := do
  requireSystemAdministrator principal
  let current ← requireGroup groups groupId
  requireActiveParent groups current.parentId
  return { current with status := .active }

def activate (collaborators : Collaborators υ) (stores : Stores υ)
    (principal : AuthenticatedPrincipal) (groupId : GroupId) :
    Stores υ × Except Thrown OrganizationUnit :=
  match activateChecks stores.groups principal groupId with
  | .error thrown => (stores, .error thrown)
  | .ok updated => write collaborators stores false updated

def deactivateChecks (collaborators : Collaborators υ) (stores : Stores υ)
    (principal : AuthenticatedPrincipal) (groupId : GroupId) : Except Thrown OrganizationUnit := do
  requireSystemAdministrator principal
  let current ← requireGroup stores.groups groupId
  require ((activeUnits stores.groups.listAll).length > 1) "at least one active group must remain"
  require (∀ unit ∈ stores.groups.listAll, ¬ (unit.parentId = some groupId ∧ unit.status = .active))
    "active child groups must be deactivated first"
  let occupied ← collaborators.hasActiveInGroup stores.others groupId
  require (occupied = false) "active devices must be disabled first"
  return { current with status := .inactive }

def deactivate (collaborators : Collaborators υ) (stores : Stores υ)
    (principal : AuthenticatedPrincipal) (groupId : GroupId) :
    Stores υ × Except Thrown OrganizationUnit :=
  match deactivateChecks collaborators stores principal groupId with
  | .error thrown => (stores, .error thrown)
  | .ok updated => write collaborators stores true updated

end GroupLifecycleService

inductive LifecycleCall where
  | create (command : CreateGroupCommand)
  | update (groupId : GroupId) (command : UpdateGroupCommand)
  | activate (groupId : GroupId)
  | deactivate (groupId : GroupId)

open GroupLifecycleService in
def lifecycleStep {υ : Type} (collaborators : Collaborators υ) (stores : Stores υ)
    (call : AuthenticatedPrincipal × LifecycleCall) : Stores υ × Except Thrown OrganizationUnit :=
  match call.2 with
  | .create command => create stores call.1 command
  | .update groupId command => update collaborators stores call.1 groupId command
  | .activate groupId => activate collaborators stores call.1 groupId
  | .deactivate groupId => deactivate collaborators stores call.1 groupId

end GcsSaker.Groups
