import GcsSaker.ParentMap
import GcsSaker.StreamDevicePolling

/-!
# The tree of accessible assets

The groups and the devices that a user may see, as one tree: a group stands under its parent if the
user sees that one as well, and else under the root. The status of a group is folded from what is
below it.
-/

namespace GcsSaker.AssetTree

open StreamSlots (DashboardStreamStatus)
open StreamDevicePolling (inheritedNames)
open ParentMap (Forest children roots below climb)

structure AccessibleGroup where
  id : String
  name : String
  parentId : Option String
  deriving DecidableEq

inductive AccessibleGroupDeviceStatus where
  | active
  | pending
  | disabled
  deriving DecidableEq

structure AccessibleGroupDevice where
  deviceUuid : String
  groupId : String
  displayName : String
  deviceType : String
  status : AccessibleGroupDeviceStatus
  streamPaths : List String
  deriving DecidableEq

structure AccessibleGroupInventory where
  groups : List AccessibleGroup
  devices : List AccessibleGroupDevice

structure AssetTreeStreamSource where
  streamPath : Option String
  status : DashboardStreamStatus

inductive AssetTreeStatus where
  | online
  | warning
  | offline
  deriving DecidableEq, Inhabited

inductive AssetTreeNodeType where
  | root
  | group
  | device
  | stream
  | sensor
  deriving DecidableEq, Inhabited

structure AssetTreeNode where
  id : String
  label : String
  type : AssetTreeNodeType
  status : AssetTreeStatus
  detail : Option String := none
  children : Option (List AssetTreeNode) := none
  deriving Inhabited

/-! ## Building -/

/-- Why there is no tree: a `TypeError`, or more calls inside one another than allowed. -/
inductive Failure where
  | typeError
  | tooDeep
  deriving DecidableEq

/-- The entries of the map. -/
def groupItems {α κ : Type*} [DecidableEq κ] (items : List α) (keyOf : α → κ) :
    List (κ × List α) :=
  Grouping.groupBy keyOf items

/-- The entries of `streamsByPath`, the one that was set last in front. -/
def streamsByPath (streams : List AssetTreeStreamSource) : List (String × AssetTreeStreamSource) :=
  (streams.filterMap fun stream =>
    match stream.streamPath with
    | some path => if path ≠ "" then some (path, stream) else none
    | none => none).reverse

def streamStatus : DashboardStreamStatus → AssetTreeStatus
  | .online => .online
  | .offline | .error => .offline
  | .fallback | .reconnecting | .degraded => .warning

def aggregateStatuses (statuses : List AssetTreeStatus) : AssetTreeStatus :=
  if statuses.all (· = .offline) then .offline
  else if statuses.all (· = .online) then .online
  else .warning

def aggregateStatus (children : List AssetTreeNode) : AssetTreeStatus :=
  if children.isEmpty || children.all (·.status = .offline) then .offline
  else if children.all (·.status = .online) then .online
  else .warning

def deviceStatus (device : AccessibleGroupDevice) (streamStatuses : List AssetTreeStatus) :
    AssetTreeStatus :=
  if device.status = .pending then .warning
  else if device.status ≠ .active then .offline
  else if streamStatuses.length ≠ 0 then aggregateStatuses streamStatuses else .online

/-- `aliases[device.deviceUuid]?.trim() || device.displayName`. Without an alias of its own an id
finds what every object inherits under it, which has no `trim`. -/
def deviceLabel (aliases : List (String × String)) (device : AccessibleGroupDevice) :
    Except Failure String :=
  match aliases.lookup device.deviceUuid with
  | some text =>
    let trimmed := String.ofList (EcmaNumber.trim text.toList)
    .ok (if trimmed ≠ "" then trimmed else device.displayName)
  | none => if device.deviceUuid ∈ inheritedNames then .error .typeError else .ok device.displayName

def deviceNode (device : AccessibleGroupDevice)
    (streamsByPath : List (String × AssetTreeStreamSource)) (aliases : List (String × String)) :
    Except Failure AssetTreeNode := do
  let streamStatuses := device.streamPaths.map fun path =>
    match streamsByPath.lookup path with
    | some runtime => streamStatus runtime.status
    | none => .offline
  let status := deviceStatus device streamStatuses
  let label ← deviceLabel aliases device
  return { id := device.deviceUuid, label, detail := device.deviceType, type := .device, status }

/-- `buildGroup`, with at most `depth` calls inside one another. -/
def buildGroup (groupsByParent : List (Option String × List AccessibleGroup))
    (devicesByGroup : List (String × List AccessibleGroupDevice))
    (streamsByPath : List (String × AssetTreeStreamSource)) (aliases : List (String × String)) :
    ℕ → AccessibleGroup → Except Failure AssetTreeNode
  | 0, _ => .error .tooDeep
  | depth + 1, group => do
    let groupNodes ← ((groupsByParent.lookup (some group.id)).getD []).mapM
      (buildGroup groupsByParent devicesByGroup streamsByPath aliases depth)
    let deviceNodes ← ((devicesByGroup.lookup group.id).getD []).mapM fun device =>
      deviceNode device streamsByPath aliases
    let children := groupNodes ++ deviceNodes
    return {
      id := group.id
      label := group.name
      type := .group
      status := aggregateStatus children
      children }

def AccessibleGroupInventory.knownIds (inventory : AccessibleGroupInventory) : List String :=
  inventory.groups.map (·.id)

def AccessibleGroupInventory.rootGroups (inventory : AccessibleGroupInventory) :
    List AccessibleGroup :=
  inventory.groups.filter fun group =>
    match group.parentId with
    | some parentId => parentId ∉ inventory.knownIds
    | none => true

def buildAccessibleAssetTree (depth : ℕ) (inventory : AccessibleGroupInventory)
    (streams : List AssetTreeStreamSource) (aliases : List (String × String)) :
    Except Failure AssetTreeNode := do
  let devicesByGroup := groupItems inventory.devices (·.groupId)
  let groupsByParent := groupItems inventory.groups (·.parentId)
  let children ← inventory.rootGroups.mapM
    (buildGroup groupsByParent devicesByGroup (streamsByPath streams) aliases depth)
  return {
    id := "accessible-assets"
    label := "접근 가능 자산"
    type := .root
    status := aggregateStatus children
    children }

mutual

def collectAssetTreeNodes : AssetTreeNode → List AssetTreeNode
  | root@⟨_, _, _, _, _, none⟩ => [root]
  | root@⟨_, _, _, _, _, some children⟩ => root :: collectFrom children

/-- `children.flatMap(collectAssetTreeNodes)` -/
def collectFrom : List AssetTreeNode → List AssetTreeNode
  | [] => []
  | child :: children => collectAssetTreeNodes child ++ collectFrom children

end

/-- The nodes of a tree under the nodes that they stand under, which are given by type and id. -/
def placements (root : AssetTreeNode) : List ((AssetTreeNodeType × String) × AssetTreeNode) :=
  (collectAssetTreeNodes root).flatMap fun node =>
    (node.children.getD []).map fun child => ((node.type, node.id), child)

/-! ## The inventory -/

namespace AccessibleGroupInventory

variable (inventory : AccessibleGroupInventory)

def IsParent (parent child : AccessibleGroup) : Prop :=
  parent ∈ inventory.groups ∧ child ∈ inventory.groups ∧ child.parentId = some parent.id

def Acyclic : Prop := ∀ group, ¬ Relation.TransGen inventory.IsParent group group

/-- The device is of the group, or of a group below it. -/
def Below (group : AccessibleGroup) (device : AccessibleGroupDevice) : Prop :=
  device ∈ inventory.devices ∧ ∃ owner ∈ inventory.groups, owner.id = device.groupId ∧
    Relation.ReflTransGen inventory.IsParent group owner

/-- The devices of the listed groups. -/
def listedDevices : List AccessibleGroupDevice :=
  inventory.devices.filter (·.groupId ∈ inventory.knownIds)

/-- Where a group belongs: under its parent, and without one in the inventory under the root. -/
def placeOf (group : AccessibleGroup) : AssetTreeNodeType × String :=
  match group.parentId with
  | some parentId =>
    if parentId ∈ inventory.knownIds then (.group, parentId) else (.root, "accessible-assets")
  | none => (.root, "accessible-assets")

end AccessibleGroupInventory

/-- The device has an alias, or an id that no object inherits. -/
def Named (aliases : List (String × String)) (device : AccessibleGroupDevice) : Prop :=
  device.deviceUuid ∈ inheritedNames → (aliases.lookup device.deviceUuid).isSome = true

instance (aliases : List (String × String)) : DecidablePred (Named aliases) := fun device =>
  inferInstanceAs (Decidable (device.deviceUuid ∈ inheritedNames → _))

/-- The tree is built, with one node for each group and each device of a listed group. -/
structure Complete (inventory : AccessibleGroupInventory) (streams : List AssetTreeStreamSource)
    (aliases : List (String × String)) (tree : AssetTreeNode)
    (groupNode : AccessibleGroup → AssetTreeNode)
    (deviceNodeOf : AccessibleGroupDevice → AssetTreeNode) : Prop where
  terminates : ∀ depth ≥ inventory.groups.length,
    buildAccessibleAssetTree depth inventory streams aliases = .ok tree
  group_eq : ∀ group ∈ inventory.groups, (groupNode group).type = .group ∧
    (groupNode group).id = group.id ∧ (groupNode group).label = group.name
  device_eq : ∀ device ∈ inventory.listedDevices,
    deviceNode device (streamsByPath streams) aliases = .ok (deviceNodeOf device)
  placed : (placements tree).Perm
    (inventory.groups.map (fun group => (inventory.placeOf group, groupNode group)) ++
      inventory.listedDevices.map fun device => ((.group, device.groupId), deviceNodeOf device))
  placed_once : ((placements tree).map fun placement =>
    (placement.2.type, placement.2.id)).Nodup
  offline_iff : ∀ group ∈ inventory.groups, (groupNode group).status = .offline ↔
    ∀ device, inventory.Below group device → (deviceNodeOf device).status = .offline
  online : ∀ group ∈ inventory.groups, (groupNode group).status = .online →
    (∃ device, inventory.Below group device) ∧
      ∀ device, inventory.Below group device → (deviceNodeOf device).status = .online

/-! ## Trees -/

theorem collectFrom_eq (nodes : List AssetTreeNode) :
    collectFrom nodes = nodes.flatMap collectAssetTreeNodes := by
  induction nodes with
  | nil => rw [collectFrom, List.flatMap_nil]
  | cons node nodes ih => rw [collectFrom, ih, List.flatMap_cons]

theorem placements_leaf {node : AssetTreeNode} (h : node.children = none) :
    placements node = [] := by
  obtain ⟨id, label, type, status, detail, children⟩ := node
  obtain rfl : children = none := h
  rw [placements, collectAssetTreeNodes, List.flatMap_singleton]
  rfl

theorem placements_inner {node : AssetTreeNode} {nodes : List AssetTreeNode}
    (h : node.children = some nodes) : placements node =
      nodes.map (fun child => ((node.type, node.id), child)) ++ nodes.flatMap placements := by
  obtain ⟨id, label, type, status, detail, children⟩ := node
  obtain rfl : children = some nodes := h
  rw [placements, collectAssetTreeNodes, collectFrom_eq, List.flatMap_cons, List.flatMap_assoc]
  rfl

theorem aggregateStatus_eq_offline_iff {children : List AssetTreeNode} :
    aggregateStatus children = .offline ↔ ∀ child ∈ children, child.status = .offline := by
  have hoffline : (children.isEmpty || children.all (·.status = .offline)) = true ↔
      ∀ child ∈ children, child.status = .offline := by
    rw [Bool.or_eq_true, List.isEmpty_iff, List.all_eq_true]
    simp only [decide_eq_true_eq]
    exact or_iff_right_of_imp fun hnil child hmem => absurd hmem (hnil ▸ List.not_mem_nil)
  rw [← hoffline, aggregateStatus]
  split_ifs with h
  · exact iff_of_true rfl h
  · exact iff_of_false (by decide) h
  · exact iff_of_false (by decide) h

theorem aggregateStatus_eq_online_iff {children : List AssetTreeNode} :
    aggregateStatus children = .online ↔
      children ≠ [] ∧ ∀ child ∈ children, child.status = .online := by
  by_cases hoffline : aggregateStatus children = .offline
  · rw [hoffline]
    refine iff_of_false (by decide) fun ⟨hne, honline⟩ => ?_
    obtain ⟨child, hmem⟩ := List.exists_mem_of_ne_nil children hne
    have hstatus := aggregateStatus_eq_offline_iff.1 hoffline child hmem
    rw [honline child hmem] at hstatus
    cases hstatus
  · have hne : children ≠ [] := by
      rintro rfl
      exact hoffline rfl
    have hsome : ¬ (children.isEmpty || children.all (·.status = .offline)) = true :=
      fun h => hoffline (if_pos h)
    have honline : children.all (·.status = .online) = true ↔
        ∀ child ∈ children, child.status = .online := by
      simp only [List.all_eq_true, decide_eq_true_eq]
    rw [and_iff_right hne, aggregateStatus, if_neg hsome, ← honline]
    split_ifs with h
    · exact iff_of_true rfl h
    · exact iff_of_false (by decide) h

/-! ## Devices -/

section Devices

variable {device : AccessibleGroupDevice} {aliases : List (String × String)}
variable {paths : List (String × AssetTreeStreamSource)}

theorem exists_deviceLabel_iff :
    (∃ label, deviceLabel aliases device = .ok label) ↔ Named aliases device := by
  unfold deviceLabel Named
  cases aliases.lookup device.deviceUuid with
  | some text => exact iff_of_true ⟨_, rfl⟩ fun _ => rfl
  | none =>
      dsimp only
      split_ifs with h
      · refine iff_of_false ?_ fun hnamed => absurd (hnamed h) (by decide)
        rintro ⟨label, hlabel⟩
        cases hlabel
      · exact iff_of_true ⟨_, rfl⟩ fun hmem => absurd hmem h

theorem deviceNode_eq_ok {node : AssetTreeNode} (h : deviceNode device paths aliases = .ok node) :
    node.id = device.deviceUuid ∧ node.type = .device ∧ node.children = none := by
  obtain ⟨label, -, hnode⟩ := CheckedSteps.bind_eq_ok_iff.1 h
  cases hnode
  exact ⟨rfl, rfl, rfl⟩

theorem exists_deviceNode_iff (paths : List (String × AssetTreeStreamSource)) :
    (∃ node, deviceNode device paths aliases = .ok node) ↔ Named aliases device := by
  rw [← exists_deviceLabel_iff]
  constructor
  · rintro ⟨node, h⟩
    obtain ⟨label, hlabel, -⟩ := CheckedSteps.bind_eq_ok_iff.1 h
    exact ⟨label, hlabel⟩
  · rintro ⟨label, hlabel⟩
    exact ⟨_, CheckedSteps.bind_eq_ok_iff.2 ⟨label, hlabel, rfl⟩⟩

end Devices

/-! ## Groups -/

namespace AccessibleGroupInventory

def parentOf (inventory : AccessibleGroupInventory) (group : AccessibleGroup) :
    Option AccessibleGroup :=
  inventory.groups.find? fun parent => group.parentId = some parent.id

def devicesOf (inventory : AccessibleGroupInventory) (group : AccessibleGroup) :
    List AccessibleGroupDevice :=
  inventory.devices.filter (·.groupId = group.id)

variable {inventory : AccessibleGroupInventory} {group parent child : AccessibleGroup}

theorem parentId_of_parentOf (h : inventory.parentOf child = some parent) :
    child.parentId = some parent.id := by
  have hfound := List.find?_some h
  exact of_decide_eq_true hfound

theorem isParent_of_parentOf (hchild : child ∈ inventory.groups)
    (h : inventory.parentOf child = some parent) : inventory.IsParent parent child :=
  ⟨List.mem_of_find?_eq_some h, hchild, parentId_of_parentOf h⟩

theorem parentOf_eq_some_iff (hids : inventory.knownIds.Nodup)
    (hparent : parent ∈ inventory.groups) :
    inventory.parentOf child = some parent ↔ child.parentId = some parent.id := by
  refine ⟨parentId_of_parentOf, fun h => ?_⟩
  have hsome : (inventory.parentOf child).isSome = true :=
    List.find?_isSome.2 ⟨parent, hparent, decide_eq_true h⟩
  obtain ⟨found, hfound⟩ := Option.isSome_iff_exists.1 hsome
  have hid : some found.id = some parent.id := (parentId_of_parentOf hfound).symm.trans h
  rw [hfound, List.inj_on_of_nodup_map hids (List.mem_of_find?_eq_some hfound) hparent
    (Option.some.inj hid)]

theorem parentOf_eq_none_iff : inventory.parentOf group = none ↔
    ∀ parentId, group.parentId = some parentId → parentId ∉ inventory.knownIds := by
  rw [parentOf, List.find?_eq_none]
  constructor
  · intro h parentId hparentId hmem
    obtain ⟨parent, hparent, rfl⟩ := List.mem_map.1 hmem
    exact h parent hparent (decide_eq_true hparentId)
  · intro h parent hparent heq
    exact h parent.id (of_decide_eq_true heq) (List.mem_map_of_mem hparent)

theorem reflTransGen_of_climb {n : ℕ} (hchild : child ∈ inventory.groups)
    (h : climb inventory.parentOf n child = some group) :
    Relation.ReflTransGen inventory.IsParent group child := by
  induction n generalizing child with
  | zero =>
      cases h
      exact .refl
  | succ n ih =>
      rw [ParentMap.climb_succ, Option.bind_eq_some_iff] at h
      obtain ⟨parent, hparent, h⟩ := h
      exact (ih (List.mem_of_find?_eq_some hparent) h).tail (isParent_of_parentOf hchild hparent)

theorem exists_climb_iff (hids : inventory.knownIds.Nodup) (hchild : child ∈ inventory.groups) :
    (∃ n, climb inventory.parentOf n child = some group) ↔
      Relation.ReflTransGen inventory.IsParent group child := by
  refine ⟨fun ⟨n, h⟩ => reflTransGen_of_climb hchild h, fun h => ?_⟩
  clear hchild
  induction h with
  | refl => exact ⟨0, rfl⟩
  | tail _ hstep ih =>
      obtain ⟨hparent, -, hid⟩ := hstep
      obtain ⟨n, hn⟩ := ih
      refine ⟨n + 1, ?_⟩
      rw [ParentMap.climb_succ, (parentOf_eq_some_iff hids hparent).2 hid, Option.bind_some, hn]

theorem forest (hids : inventory.knownIds.Nodup) (hacyclic : inventory.Acyclic) :
    Forest inventory.groups inventory.parentOf where
  nodup := hids.of_map
  parent_mem _ _ h := List.mem_of_find?_eq_some h
  acyclic group n h := by
    have hmem : group ∈ inventory.groups := by
      rw [ParentMap.climb_succ_eq, Option.bind_eq_some_iff] at h
      obtain ⟨child, -, hchild⟩ := h
      exact List.mem_of_find?_eq_some hchild
    rw [ParentMap.climb_succ, Option.bind_eq_some_iff] at h
    obtain ⟨parent, hparent, h⟩ := h
    have hline := reflTransGen_of_climb (List.mem_of_find?_eq_some hparent) h
    exact hacyclic group (.tail' hline (isParent_of_parentOf hmem hparent))

/-- The children that the map gives are those of the forest. -/
theorem filter_parentId (hids : inventory.knownIds.Nodup) (hgroup : group ∈ inventory.groups) :
    (inventory.groups.filter fun child => child.parentId = some group.id) =
      children inventory.groups inventory.parentOf group :=
  List.filter_congr fun _ _ => decide_eq_decide.2 (parentOf_eq_some_iff hids hgroup).symm

theorem rootGroups_eq :
    inventory.rootGroups = roots inventory.groups inventory.parentOf := by
  refine List.filter_congr fun group _ => ?_
  rw [Bool.eq_iff_iff, decide_eq_true_iff, parentOf_eq_none_iff]
  cases group.parentId with
  | none => simp only [reduceCtorEq, false_imp_iff, implies_true]
  | some parentId => simp only [Option.some.injEq, forall_eq', decide_eq_true_eq]

theorem placeOf_of_mem_children (hids : inventory.knownIds.Nodup)
    (hgroup : group ∈ inventory.groups)
    (hchild : child ∈ children inventory.groups inventory.parentOf group) :
    inventory.placeOf child = (.group, group.id) := by
  have hid := (parentOf_eq_some_iff hids hgroup).1 (ParentMap.mem_children.1 hchild).2
  have hknown : group.id ∈ inventory.knownIds := List.mem_map_of_mem hgroup
  simp only [placeOf, hid, if_pos hknown]

theorem placeOf_of_mem_roots (hroot : group ∈ roots inventory.groups inventory.parentOf) :
    inventory.placeOf group = (.root, "accessible-assets") := by
  have hnone := parentOf_eq_none_iff.1 (ParentMap.mem_roots.1 hroot).2
  unfold placeOf
  cases hparentId : group.parentId with
  | none => rfl
  | some parentId => exact if_neg (hnone parentId hparentId)

/-- The devices of the listed groups, one group after the other. -/
theorem flatMap_devicesOf_perm (hids : inventory.knownIds.Nodup) :
    (inventory.groups.flatMap inventory.devicesOf).Perm inventory.listedDevices := by
  have h := Grouping.flatMap_filter_perm (·.groupId) inventory.devices hids
  rwa [knownIds, List.flatMap_map] at h

end AccessibleGroupInventory

/-! ## The tree that is built -/

section Built

variable (inventory : AccessibleGroupInventory)
variable (paths : List (String × AssetTreeStreamSource)) (aliases : List (String × String))

/-- The node of a device that has one. -/
def leaf (device : AccessibleGroupDevice) : AssetTreeNode :=
  match deviceNode device paths aliases with
  | .ok node => node
  | .error _ => default

def innerNode (group : AccessibleGroup) (nodes : List AssetTreeNode) : AssetTreeNode where
  id := group.id
  label := group.name
  type := .group
  status := aggregateStatus nodes
  children := nodes

def subtree (depth : ℕ) (group : AccessibleGroup) : AssetTreeNode :=
  ParentMap.fold inventory.groups inventory.parentOf
    (fun group nodes =>
      innerNode group (nodes ++ (inventory.devicesOf group).map (leaf paths aliases)))
    default depth group

/-- With as many levels as there are groups. -/
def groupTree (group : AccessibleGroup) : AssetTreeNode :=
  subtree inventory paths aliases inventory.groups.length group

/-- The levels end within the depth, and every device on the way has a node. -/
def Fits (depth : ℕ) (group : AccessibleGroup) : Prop :=
  ParentMap.fold inventory.groups inventory.parentOf
    (fun group fits => (∀ fit ∈ fits, fit) ∧
      ∀ device ∈ inventory.devicesOf group, Named aliases device)
    False depth group

end Built

section Spec

variable {inventory : AccessibleGroupInventory} {group : AccessibleGroup} {node : AssetTreeNode}
variable {paths : List (String × AssetTreeStreamSource)} {aliases : List (String × String)}

theorem deviceNode_eq_ok_iff {device : AccessibleGroupDevice} :
    deviceNode device paths aliases = .ok node ↔
      Named aliases device ∧ node = leaf paths aliases device := by
  rw [← exists_deviceNode_iff paths, leaf]
  cases deviceNode device paths aliases with
  | error failure =>
      refine iff_of_false (fun h => ?_) fun ⟨⟨node, h⟩, _⟩ => ?_
      · cases h
      · cases h
  | ok found =>
      refine ⟨fun h => ⟨⟨found, rfl⟩, (Except.ok.inj h).symm⟩, fun h => ?_⟩
      rw [h.2]

theorem leaf_data {device : AccessibleGroupDevice} (h : Named aliases device) :
    (leaf paths aliases device).id = device.deviceUuid ∧
      (leaf paths aliases device).type = .device ∧
      (leaf paths aliases device).children = none :=
  deviceNode_eq_ok (deviceNode_eq_ok_iff.2 ⟨h, rfl⟩)

theorem mapM_deviceNode_eq_ok_iff {devices : List AccessibleGroupDevice}
    {nodes : List AssetTreeNode} :
    (devices.mapM fun device => deviceNode device paths aliases) = .ok nodes ↔
      (∀ device ∈ devices, Named aliases device) ∧ nodes = devices.map (leaf paths aliases) :=
  CheckedSteps.mapM_eq_ok_iff fun _ _ => deviceNode_eq_ok_iff

theorem buildGroup_eq_ok_iff (hids : inventory.knownIds.Nodup) (depth : ℕ)
    (hgroup : group ∈ inventory.groups) :
    buildGroup (groupItems inventory.groups (·.parentId))
        (groupItems inventory.devices (·.groupId)) paths aliases depth group = .ok node ↔
      Fits inventory aliases depth group ∧ node = subtree inventory paths aliases depth group := by
  induction depth generalizing group node with
  | zero =>
      refine iff_of_false (fun h => ?_) fun h => h.1
      cases h
  | succ depth ih =>
      have hchildren : ((groupItems inventory.groups (·.parentId)).lookup (some group.id)).getD [] =
          children inventory.groups inventory.parentOf group :=
        (Grouping.getD_lookup_groupBy _ _ _).trans
          (AccessibleGroupInventory.filter_parentId hids hgroup)
      have hdevices : ((groupItems inventory.devices (·.groupId)).lookup group.id).getD [] =
          inventory.devicesOf group := Grouping.getD_lookup_groupBy _ _ _
      rw [buildGroup, hchildren, hdevices, Fits, subtree, ParentMap.fold_succ, ParentMap.fold_succ,
        List.forall_mem_map]
      have hmapM : ∀ nodes, (children inventory.groups inventory.parentOf group).mapM
          (buildGroup (groupItems inventory.groups (·.parentId))
            (groupItems inventory.devices (·.groupId)) paths aliases depth) = .ok nodes ↔
          (∀ child ∈ children inventory.groups inventory.parentOf group,
            Fits inventory aliases depth child) ∧
          nodes = (children inventory.groups inventory.parentOf group).map
            (subtree inventory paths aliases depth) :=
        fun nodes => CheckedSteps.mapM_eq_ok_iff_of_mem fun child hchild _ =>
          ih (ParentMap.mem_children.1 hchild).1
      constructor
      · intro h
        obtain ⟨nodes, hnodes, h⟩ := CheckedSteps.bind_eq_ok_iff.1 h
        obtain ⟨leaves, hleaves, h⟩ := CheckedSteps.bind_eq_ok_iff.1 h
        obtain ⟨hfits, rfl⟩ := (hmapM nodes).1 hnodes
        obtain ⟨hnamed, rfl⟩ := mapM_deviceNode_eq_ok_iff.1 hleaves
        exact ⟨⟨hfits, hnamed⟩, (Except.ok.inj h).symm⟩
      · rintro ⟨⟨hfits, hnamed⟩, rfl⟩
        refine CheckedSteps.bind_eq_ok_iff.2 ⟨_, (hmapM _).2 ⟨hfits, rfl⟩, ?_⟩
        exact CheckedSteps.bind_eq_ok_iff.2 ⟨_, mapM_deviceNode_eq_ok_iff.2 ⟨hnamed, rfl⟩, rfl⟩

/-! ### Deep enough -/

variable (hforest : Forest inventory.groups inventory.parentOf)
include hforest

theorem subtree_of_le {depth : ℕ} (hgroup : group ∈ inventory.groups)
    (hdepth : inventory.groups.length ≤ depth) : subtree inventory paths aliases depth group =
      groupTree inventory paths aliases group :=
  hforest.fold_of_le hgroup hdepth

theorem groupTree_eq (hgroup : group ∈ inventory.groups) :
    groupTree inventory paths aliases group = innerNode group
      ((children inventory.groups inventory.parentOf group).map
        (groupTree inventory paths aliases) ++
        (inventory.devicesOf group).map (leaf paths aliases)) :=
  hforest.fold_eq hgroup

/-- What is said of the devices below a group is said of its own and of those below its children. -/
theorem forall_devices_below_iff (P : AccessibleGroupDevice → Prop)
    (hgroup : group ∈ inventory.groups) :
    (∀ owner ∈ below inventory.groups inventory.parentOf group,
      ∀ device ∈ inventory.devicesOf owner, P device) ↔
      (∀ child ∈ children inventory.groups inventory.parentOf group,
        ∀ owner ∈ below inventory.groups inventory.parentOf child,
          ∀ device ∈ inventory.devicesOf owner, P device) ∧
      ∀ device ∈ inventory.devicesOf group, P device := by
  rw [hforest.below_eq hgroup, List.forall_mem_cons, List.forall_mem_flatMap, and_comm]

theorem fits_of_le {depth : ℕ} (hgroup : group ∈ inventory.groups)
    (hdepth : inventory.groups.length ≤ depth) :
    Fits inventory aliases depth group = Fits inventory aliases inventory.groups.length group :=
  hforest.fold_of_le hgroup hdepth

theorem fits_iff : ∀ group ∈ inventory.groups,
    (Fits inventory aliases inventory.groups.length group ↔
      ∀ owner ∈ below inventory.groups inventory.parentOf group,
        ∀ device ∈ inventory.devicesOf owner, Named aliases device) := by
  refine hforest.induction_children fun group hgroup ih => ?_
  rw [forall_devices_below_iff hforest _ hgroup, Fits, hforest.fold_eq hgroup, List.forall_mem_map]
  exact and_congr_left' (forall₂_congr ih)

/-! ### Statuses -/

theorem status_groupTree_eq_offline_iff : ∀ group ∈ inventory.groups,
    ((groupTree inventory paths aliases group).status = .offline ↔
      ∀ owner ∈ below inventory.groups inventory.parentOf group,
        ∀ device ∈ inventory.devicesOf owner, (leaf paths aliases device).status = .offline) := by
  refine hforest.induction_children fun group hgroup ih => ?_
  rw [forall_devices_below_iff hforest _ hgroup, groupTree_eq hforest hgroup, innerNode,
    aggregateStatus_eq_offline_iff, List.forall_mem_append, List.forall_mem_map,
    List.forall_mem_map]
  exact and_congr_left' (forall₂_congr ih)

theorem of_status_groupTree_eq_online : ∀ group ∈ inventory.groups,
    (groupTree inventory paths aliases group).status = .online →
      (∃ owner ∈ below inventory.groups inventory.parentOf group,
        ∃ device, device ∈ inventory.devicesOf owner) ∧
      ∀ owner ∈ below inventory.groups inventory.parentOf group,
        ∀ device ∈ inventory.devicesOf owner, (leaf paths aliases device).status = .online := by
  refine hforest.induction_children fun group hgroup ih honline => ?_
  rw [groupTree_eq hforest hgroup, innerNode, aggregateStatus_eq_online_iff,
    List.forall_mem_append, List.forall_mem_map, List.forall_mem_map] at honline
  obtain ⟨hne, hchildren, hdevices⟩ := honline
  rw [forall_devices_below_iff hforest _ hgroup]
  refine ⟨?_, fun child hchild => (ih child hchild (hchildren child hchild)).2, hdevices⟩
  rw [hforest.below_eq hgroup]
  cases hlist : inventory.devicesOf group with
  | cons device devices =>
      exact ⟨group, List.mem_cons_self, device, hlist ▸ List.mem_cons_self⟩
  | nil =>
      -- The group has a child then, and that one is online by a device below it.
      rw [hlist, List.map_nil, List.append_nil, Ne, List.map_eq_nil_iff] at hne
      obtain ⟨child, hchild⟩ := List.exists_mem_of_ne_nil _ hne
      obtain ⟨⟨owner, howner, device, hdevice⟩, -⟩ := ih child hchild (hchildren child hchild)
      refine ⟨owner, List.mem_cons_of_mem _ ?_, device, hdevice⟩
      exact List.mem_flatMap.2 ⟨child, hchild, howner⟩

theorem mem_below_iff (hids : inventory.knownIds.Nodup) (hgroup : group ∈ inventory.groups)
    {device : AccessibleGroupDevice} :
    (∃ owner ∈ below inventory.groups inventory.parentOf group,
      device ∈ inventory.devicesOf owner) ↔ inventory.Below group device := by
  simp only [hforest.mem_below hgroup, AccessibleGroupInventory.devicesOf, List.mem_filter,
    decide_eq_true_eq]
  constructor
  · rintro ⟨owner, ⟨howner, hline⟩, hdevice, hid⟩
    exact ⟨hdevice, owner, howner, hid.symm,
      (AccessibleGroupInventory.exists_climb_iff hids howner).1 hline⟩
  · rintro ⟨hdevice, owner, howner, hid, hline⟩
    exact ⟨owner, ⟨howner, (AccessibleGroupInventory.exists_climb_iff hids howner).2 hline⟩,
      hdevice, hid.symm⟩

theorem forall_below_iff (hids : inventory.knownIds.Nodup) (hgroup : group ∈ inventory.groups)
    (P : AccessibleGroupDevice → Prop) :
    (∀ owner ∈ below inventory.groups inventory.parentOf group,
      ∀ device ∈ inventory.devicesOf owner, P device) ↔
      ∀ device, inventory.Below group device → P device := by
  constructor
  · intro hall device hbelow
    obtain ⟨owner, howner, hdevice⟩ := (mem_below_iff hforest hids hgroup).2 hbelow
    exact hall owner howner device hdevice
  · intro hall owner howner device hdevice
    exact hall device ((mem_below_iff hforest hids hgroup).1 ⟨owner, howner, hdevice⟩)

/-! ### Placements -/

omit hforest in
theorem flatMap_placements_leaf {devices : List AccessibleGroupDevice}
    (hnamed : ∀ device ∈ devices, Named aliases device) :
    (devices.map (leaf paths aliases)).flatMap placements = [] := by
  rw [List.flatMap_map, List.flatMap_eq_nil_iff]
  intro device hdevice
  exact placements_leaf (leaf_data (hnamed device hdevice)).2.2

def placedGroup (inventory : AccessibleGroupInventory)
    (paths : List (String × AssetTreeStreamSource)) (aliases : List (String × String))
    (group : AccessibleGroup) : (AssetTreeNodeType × String) × AssetTreeNode :=
  (inventory.placeOf group, groupTree inventory paths aliases group)

def placedDevice (paths : List (String × AssetTreeStreamSource)) (aliases : List (String × String))
    (device : AccessibleGroupDevice) : (AssetTreeNodeType × String) × AssetTreeNode :=
  ((.group, device.groupId), leaf paths aliases device)

/-- What stands right under a group. -/
def placedIn (inventory : AccessibleGroupInventory)
    (paths : List (String × AssetTreeStreamSource)) (aliases : List (String × String))
    (group : AccessibleGroup) : List ((AssetTreeNodeType × String) × AssetTreeNode) :=
  (children inventory.groups inventory.parentOf group).map (placedGroup inventory paths aliases) ++
    (inventory.devicesOf group).map (placedDevice paths aliases)

omit hforest in
theorem placedIn_eq (hids : inventory.knownIds.Nodup) (hgroup : group ∈ inventory.groups) :
    placedIn inventory paths aliases group =
      ((children inventory.groups inventory.parentOf group).map
        (groupTree inventory paths aliases) ++
        (inventory.devicesOf group).map (leaf paths aliases)).map
          fun child => ((.group, group.id), child) := by
  rw [List.map_append, List.map_map, List.map_map, placedIn]
  refine congrArg₂ _ (List.map_congr_left fun child hchild => ?_)
    (List.map_congr_left fun device hdevice => ?_)
  · rw [placedGroup, AccessibleGroupInventory.placeOf_of_mem_children hids hgroup hchild]
    rfl
  · rw [placedDevice, of_decide_eq_true (List.mem_filter.1 hdevice).2]
    rfl

theorem placements_groupTree (hids : inventory.knownIds.Nodup)
    (hnamed : ∀ owner ∈ inventory.groups,
      ∀ device ∈ inventory.devicesOf owner, Named aliases device) : ∀ group ∈ inventory.groups,
    placements (groupTree inventory paths aliases group) =
      (below inventory.groups inventory.parentOf group).flatMap
        (placedIn inventory paths aliases) := by
  refine hforest.induction_children fun group hgroup ih => ?_
  rw [groupTree_eq hforest hgroup, placements_inner rfl, hforest.below_eq hgroup, List.flatMap_cons,
    List.flatMap_append, flatMap_placements_leaf (hnamed group hgroup), List.append_nil,
    List.flatMap_map, List.flatMap_assoc, placedIn_eq hids hgroup]
  exact congrArg _ (List.flatMap_congr ih)

/-- What stands under the root and under the groups are all groups and all listed devices. -/
theorem flatMap_placedIn_perm (hids : inventory.knownIds.Nodup) :
    ((roots inventory.groups inventory.parentOf).map (placedGroup inventory paths aliases) ++
      inventory.groups.flatMap (placedIn inventory paths aliases)).Perm
    (inventory.groups.map (placedGroup inventory paths aliases) ++
      inventory.listedDevices.map (placedDevice paths aliases)) := by
  have hsplit := (List.flatMap_append_perm inventory.groups
    (fun group => (children inventory.groups inventory.parentOf group).map
      (placedGroup inventory paths aliases))
    fun group => (inventory.devicesOf group).map (placedDevice paths aliases)).symm
  rw [← List.map_flatMap, ← List.map_flatMap] at hsplit
  have hgroups := hforest.roots_append_children_perm.map (placedGroup inventory paths aliases)
  rw [List.map_append] at hgroups
  have hdevices := (AccessibleGroupInventory.flatMap_devicesOf_perm hids).map
    (placedDevice paths aliases)
  refine (hsplit.append_left _).trans ?_
  rw [← List.append_assoc]
  exact hgroups.append hdevices

/-! ### The whole tree -/

omit hforest in
theorem forall_devicesOf_iff (hids : inventory.knownIds.Nodup) (P : AccessibleGroupDevice → Prop) :
    (∀ owner ∈ inventory.groups, ∀ device ∈ inventory.devicesOf owner, P device) ↔
      ∀ device ∈ inventory.listedDevices, P device := by
  rw [← List.forall_mem_flatMap]
  exact forall_congr' fun _ =>
    imp_congr_left (AccessibleGroupInventory.flatMap_devicesOf_perm hids).mem_iff

/-- What is said of the devices below the roots is said of all devices of listed groups. -/
theorem forall_below_roots_iff (hids : inventory.knownIds.Nodup)
    (P : AccessibleGroupDevice → Prop) :
    (∀ root ∈ roots inventory.groups inventory.parentOf,
      ∀ owner ∈ below inventory.groups inventory.parentOf root,
        ∀ device ∈ inventory.devicesOf owner, P device) ↔
      ∀ device ∈ inventory.listedDevices, P device := by
  rw [← forall_devicesOf_iff hids]
  calc (∀ root ∈ roots inventory.groups inventory.parentOf,
        ∀ owner ∈ below inventory.groups inventory.parentOf root,
          ∀ device ∈ inventory.devicesOf owner, P device)
      ↔ ∀ owner ∈ (roots inventory.groups inventory.parentOf).flatMap
          (below inventory.groups inventory.parentOf),
          ∀ device ∈ inventory.devicesOf owner, P device := List.forall_mem_flatMap.symm
    _ ↔ ∀ owner ∈ inventory.groups, ∀ device ∈ inventory.devicesOf owner, P device :=
        forall_congr' fun _ => imp_congr_left hforest.flatMap_below_perm.mem_iff

theorem forall_fits_roots_iff (hids : inventory.knownIds.Nodup) :
    (∀ root ∈ roots inventory.groups inventory.parentOf,
      Fits inventory aliases inventory.groups.length root) ↔
      ∀ device ∈ inventory.listedDevices, Named aliases device := by
  rw [← forall_below_roots_iff hforest hids]
  exact forall₂_congr fun root hroot => fits_iff hforest root (ParentMap.mem_roots.1 hroot).1

def assetTree (inventory : AccessibleGroupInventory)
    (paths : List (String × AssetTreeStreamSource)) (aliases : List (String × String)) :
    AssetTreeNode :=
  let nodes := (roots inventory.groups inventory.parentOf).map
    (groupTree inventory paths aliases)
  { id := "accessible-assets"
    label := "접근 가능 자산"
    type := .root
    status := aggregateStatus nodes
    children := nodes }

theorem buildAccessibleAssetTree_eq_ok_iff {streams : List AssetTreeStreamSource}
    {tree : AssetTreeNode} {depth : ℕ} (hids : inventory.knownIds.Nodup)
    (hdepth : inventory.groups.length ≤ depth) :
    buildAccessibleAssetTree depth inventory streams aliases = .ok tree ↔
      (∀ device ∈ inventory.listedDevices, Named aliases device) ∧
        tree = assetTree inventory (streamsByPath streams) aliases := by
  have hmapM : ∀ nodes, inventory.rootGroups.mapM
      (buildGroup (groupItems inventory.groups (·.parentId))
        (groupItems inventory.devices (·.groupId)) (streamsByPath streams) aliases depth) =
        .ok nodes ↔
      (∀ device ∈ inventory.listedDevices, Named aliases device) ∧
        nodes = (roots inventory.groups inventory.parentOf).map
          (groupTree inventory (streamsByPath streams) aliases) := by
    intro nodes
    rw [AccessibleGroupInventory.rootGroups_eq, ← forall_fits_roots_iff hforest hids]
    refine CheckedSteps.mapM_eq_ok_iff_of_mem fun root hroot node => ?_
    have hmem := (ParentMap.mem_roots.1 hroot).1
    rw [buildGroup_eq_ok_iff hids depth hmem, fits_of_le hforest hmem hdepth,
      subtree_of_le hforest hmem hdepth]
  rw [buildAccessibleAssetTree]
  constructor
  · intro h
    obtain ⟨nodes, hnodes, h⟩ := CheckedSteps.bind_eq_ok_iff.1 h
    obtain ⟨hnamed, rfl⟩ := (hmapM nodes).1 hnodes
    exact ⟨hnamed, (Except.ok.inj h).symm⟩
  · rintro ⟨hnamed, rfl⟩
    exact CheckedSteps.bind_eq_ok_iff.2 ⟨_, (hmapM _).2 ⟨hnamed, rfl⟩, rfl⟩

theorem placements_assetTree (hids : inventory.knownIds.Nodup)
    (hnamed : ∀ device ∈ inventory.listedDevices, Named aliases device) :
    (placements (assetTree inventory paths aliases)).Perm
      (inventory.groups.map (placedGroup inventory paths aliases) ++
        inventory.listedDevices.map (placedDevice paths aliases)) := by
  have hplacements : ∀ group ∈ inventory.groups,
      placements (groupTree inventory paths aliases group) =
        (below inventory.groups inventory.parentOf group).flatMap
          (placedIn inventory paths aliases) :=
    placements_groupTree hforest hids ((forall_devicesOf_iff hids _).2 hnamed)
  have hroots : (roots inventory.groups inventory.parentOf).map (fun group =>
      ((AssetTreeNodeType.root, "accessible-assets"),
        groupTree inventory paths aliases group)) =
      (roots inventory.groups inventory.parentOf).map (placedGroup inventory paths aliases) := by
    refine List.map_congr_left fun group hgroup => ?_
    rw [placedGroup, AccessibleGroupInventory.placeOf_of_mem_roots hgroup]
  refine List.Perm.trans ?_ (flatMap_placedIn_perm hforest hids)
  rw [placements_inner rfl, List.map_map, List.flatMap_map]
  refine List.Perm.append (.of_eq hroots) ?_
  refine List.Perm.trans (.of_eq ?_) (hforest.flatMap_below_perm.flatMap_right _)
  rw [List.flatMap_assoc]
  exact List.flatMap_congr fun group hgroup =>
    hplacements group (ParentMap.mem_roots.1 hgroup).1

variable (paths aliases) in
theorem groupTree_data (hgroup : group ∈ inventory.groups) :
    (groupTree inventory paths aliases group).type = .group ∧
      (groupTree inventory paths aliases group).id = group.id ∧
      (groupTree inventory paths aliases group).label = group.name := by
  rw [groupTree_eq hforest hgroup]
  exact ⟨rfl, rfl, rfl⟩

/-- No two nodes of a type have one id. -/
theorem nodup_placements_assetTree (hids : inventory.knownIds.Nodup)
    (huuids : (inventory.devices.map (·.deviceUuid)).Nodup)
    (hnamed : ∀ device ∈ inventory.listedDevices, Named aliases device) :
    ((placements (assetTree inventory paths aliases)).map fun placement =>
      (placement.2.type, placement.2.id)).Nodup := by
  refine ((placements_assetTree hforest hids hnamed).map _).nodup_iff.2 ?_
  have hgroups : inventory.groups.map (fun group =>
      ((placedGroup inventory paths aliases group).2.type,
        (placedGroup inventory paths aliases group).2.id)) =
      inventory.knownIds.map fun id => (AssetTreeNodeType.group, id) := by
    rw [AccessibleGroupInventory.knownIds, List.map_map]
    refine List.map_congr_left fun group hgroup => ?_
    obtain ⟨htype, hid, -⟩ := groupTree_data paths aliases hforest hgroup
    rw [placedGroup, htype, hid]
    rfl
  have hdevices : inventory.listedDevices.map (fun device =>
      ((placedDevice paths aliases device).2.type, (placedDevice paths aliases device).2.id)) =
      (inventory.listedDevices.map (·.deviceUuid)).map
        fun id => (AssetTreeNodeType.device, id) := by
    rw [List.map_map]
    refine List.map_congr_left fun device hdevice => ?_
    obtain ⟨hid, htype, -⟩ := leaf_data (hnamed device hdevice)
    rw [placedDevice, htype, hid]
    rfl
  have hlisted : (inventory.listedDevices.map (·.deviceUuid)).Nodup :=
    huuids.sublist (List.filter_sublist.map _)
  have hkeys := congrArg₂ (· ++ ·) hgroups hdevices
  rw [List.map_append, List.map_map, List.map_map]
  refine (congrArg List.Nodup hkeys).mpr (List.Nodup.append ?_ ?_ ?_)
  · exact hids.map fun _ _ h => (Prod.mk.inj h).2
  · exact hlisted.map fun _ _ h => (Prod.mk.inj h).2
  · intro key hgroup hdevice
    obtain ⟨id, -, rfl⟩ := List.mem_map.1 hgroup
    obtain ⟨uuid, -, h⟩ := List.mem_map.1 hdevice
    exact absurd (Prod.mk.inj h).1 (by decide)

end Spec

/-- The tree is complete exactly when each device has an alias, or an id that no object inherits. -/
theorem buildAccessibleAssetTree_complete_iff (inventory : AccessibleGroupInventory)
    (streams : List AssetTreeStreamSource) (aliases : List (String × String))
    (hgroups : inventory.knownIds.Nodup)
    (hdevices : (inventory.devices.map (·.deviceUuid)).Nodup) (hacyclic : inventory.Acyclic) :
    (∃ tree groupNode deviceNodeOf,
      Complete inventory streams aliases tree groupNode deviceNodeOf) ↔
      ∀ device ∈ inventory.listedDevices, Named aliases device := by
  have hforest := AccessibleGroupInventory.forest hgroups hacyclic
  constructor
  · rintro ⟨tree, groupNode, deviceNodeOf, h⟩
    have hbuilt := h.terminates inventory.groups.length le_rfl
    exact ((buildAccessibleAssetTree_eq_ok_iff hforest hgroups le_rfl).1 hbuilt).1
  · intro hnamed
    refine ⟨assetTree inventory (streamsByPath streams) aliases,
      groupTree inventory (streamsByPath streams) aliases,
      leaf (streamsByPath streams) aliases, ?_⟩
    exact {
      terminates depth hdepth :=
        (buildAccessibleAssetTree_eq_ok_iff hforest hgroups hdepth).2 ⟨hnamed, rfl⟩
      group_eq group hgroup := groupTree_data _ _ hforest hgroup
      device_eq device hdevice := deviceNode_eq_ok_iff.2 ⟨hnamed device hdevice, rfl⟩
      placed := placements_assetTree hforest hgroups hnamed
      placed_once := nodup_placements_assetTree hforest hgroups hdevices hnamed
      offline_iff group hgroup :=
        (status_groupTree_eq_offline_iff hforest group hgroup).trans
          (forall_below_iff hforest hgroups hgroup _)
      online group hgroup honline := by
        obtain ⟨⟨owner, howner, device, hdevice⟩, hall⟩ :=
          of_status_groupTree_eq_online hforest group hgroup honline
        exact ⟨⟨device, (mem_below_iff hforest hgroups hgroup).1 ⟨owner, howner, hdevice⟩⟩,
          (forall_below_iff hforest hgroups hgroup _).1 hall⟩ }

/-! ## Inventories -/

theorem acyclic_of_lt {inventory : AccessibleGroupInventory} (rank : AccessibleGroup → ℕ)
    (h : ∀ parent ∈ inventory.groups, ∀ child ∈ inventory.groups,
      child.parentId = some parent.id → rank parent < rank child) : inventory.Acyclic := by
  have hlt : ∀ parent child, Relation.TransGen inventory.IsParent parent child →
      rank parent < rank child := by
    intro parent child hline
    induction hline with
    | single hstep => exact h _ hstep.1 _ hstep.2.1 hstep.2.2
    | tail _ hstep ih => exact ih.trans (h _ hstep.1 _ hstep.2.1 hstep.2.2)
  exact fun group hloop => Nat.lt_irrefl _ (hlt group group hloop)

def sampleDevice (deviceUuid groupId : String) (status : AccessibleGroupDeviceStatus)
    (streamPaths : List String) : AccessibleGroupDevice :=
  ⟨deviceUuid, groupId, "현장 드론", "drone", status, streamPaths⟩

/-- The parent of the first group is outside, the last group is empty, and one device is of no
group here. -/
def sampleInventory : AccessibleGroupInventory where
  groups := [⟨"root", "운영본부", some "ministry"⟩, ⟨"team-a", "A팀", some "root"⟩,
    ⟨"team-b", "B팀", some "team-a"⟩]
  devices := [sampleDevice "device-live" "team-a" .active ["raw.device-live.front"],
    sampleDevice "device-idle" "root" .pending [], sampleDevice "device-far" "team-c" .active []]

theorem buildAccessibleAssetTree_complete_sample : ∃ tree groupNode deviceNodeOf,
    Complete sampleInventory [⟨some "raw.device-live.front", .online⟩]
      [("device-live", " 개인 드론 ")] tree groupNode deviceNodeOf :=
  (buildAccessibleAssetTree_complete_iff sampleInventory _ _ (by decide) (by decide)
    (acyclic_of_lt (fun group => sampleInventory.groups.idxOf group) (by decide))).2 (by decide)

/-- Its only device is online, but the group below it is empty. -/
example : (groupTree sampleInventory
    (streamsByPath [⟨some "raw.device-live.front", .online⟩]) []
    ⟨"team-a", "A팀", some "root"⟩).status = .warning := rfl

/-- A device whose id every object inherits. -/
def inheritedInventory : AccessibleGroupInventory where
  groups := [⟨"team-a", "A팀", none⟩]
  devices := [sampleDevice "constructor" "team-a" .active []]

theorem buildAccessibleAssetTree_incomplete :
    inheritedInventory.knownIds.Nodup ∧
    (inheritedInventory.devices.map (·.deviceUuid)).Nodup ∧ inheritedInventory.Acyclic ∧
    ¬ ∃ tree groupNode deviceNodeOf,
      Complete inheritedInventory [] [] tree groupNode deviceNodeOf := by
  refine ⟨by decide, by decide, acyclic_of_lt (fun _ => 0) (by decide), ?_⟩
  rintro ⟨tree, groupNode, deviceNodeOf, h⟩
  have hthrown : buildAccessibleAssetTree 1 inheritedInventory [] [] = .error .typeError := rfl
  have hbuilt := h.terminates 1 le_rfl
  rw [hthrown] at hbuilt
  cases hbuilt

end GcsSaker.AssetTree
