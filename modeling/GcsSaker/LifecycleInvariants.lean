import GcsSaker.GroupLifecycle
import GcsSaker.Machines

/-!
# What the lifecycle keeps

A call either leaves the groups as they are or writes one group, and `Change` says which. From it
the active groups form a hierarchy after every call. The parents of all groups, active and inactive
together, form a forest as long as no inactive group is given a parent that does not exist or lies
at or below it: the checks look at active groups only.
-/

namespace GcsSaker.Groups
open ParentMap

theorem validateActive_eq_ok_iff {active : List OrganizationUnit} :
    validateActive active = .ok () ↔ Forest active := by
  rw [validateActive]
  by_cases hempty : active = []
  · rw [if_pos hempty, hempty]
    exact iff_of_true rfl Forest.nil
  · rw [if_neg hempty]
    cases hof : OrganizationHierarchy.of active with
    | ok hierarchy =>
        have hvalid := OrganizationHierarchy.exists_of_eq_ok_iff.1 ⟨hierarchy, hof⟩
        exact iff_of_true rfl hvalid.toForest
    | error thrown =>
        refine iff_of_false (by simp only [reduceCtorEq, not_false_eq_true]) fun hforest => ?_
        obtain ⟨hierarchy, hok⟩ := OrganizationHierarchy.exists_of_eq_ok_iff.2 ⟨hforest, hempty⟩
        rw [hof] at hok
        cases hok

/-- A new leaf. -/
theorem Forest.append_leaf {units : List OrganizationUnit} {unit : OrganizationUnit}
    (h : Forest units) (hnew : ¬ contains units unit.id)
    (hparent : ∀ parent ∈ unit.parentId, contains units parent) : Forest (units ++ [unit]) where
  unique := by
    rw [List.map_append]
    refine List.Nodup.append h.unique (List.nodup_singleton _) fun id hid he => ?_
    exact hnew (List.mem_singleton.1 he ▸ hid)
  parents := by
    intro other hother parent hp
    rw [contains, List.map_append]
    rcases List.mem_append.1 hother with hold | hlast
    · exact List.mem_append_left _ (h.parents other hold parent hp)
    · rw [List.mem_singleton.1 hlast] at hp
      exact List.mem_append_left _ (hparent parent hp)
  grounded := by
    have hsame : parentOf (units ++ [unit]) =
        Function.update (parentOf units) unit.id unit.parentId := by
      funext id
      have hfind : unitOf (units ++ [unit]) id =
          (unitOf units id).or (unitOf [unit] id) := List.find?_append
      rw [parentOf, hfind]
      by_cases hid : id = unit.id
      · have hnone : unitOf units id = none := KeyedDelta.find_eq_none_iff.2 (hid ▸ hnew)
        have hlast : unitOf [unit] id = some unit := by
          have hone : ([unit].map OrganizationUnit.id).Nodup := List.nodup_singleton _
          exact (KeyedDelta.find_eq_some_iff hone).2 ⟨List.mem_singleton_self unit, hid.symm⟩
        rw [hnone, hlast, hid, Function.update_self]
        rfl
      · have hlast : unitOf [unit] id = none := by
          rw [unitOf, KeyedDelta.find_eq_none_iff, List.map_singleton, List.mem_singleton]
          exact hid
        rw [hlast, Option.or_none, Function.update_of_ne hid, parentOf]
    rw [hsame]
    cases hp : unit.parentId with
    | none => exact grounded_update_none h.grounded
    | some parent =>
        refine (grounded_update_iff h.grounded).2 fun n hup => hnew ?_
        exact contains_of_climb h.parents (hparent parent hp) hup

/-! ## One group written -/

namespace InMemoryOrganizationHierarchyRepository

variable {groups groups' : InMemoryOrganizationHierarchyRepository} {unit : OrganizationUnit}

theorem mem_listAll : unit ∈ groups.listAll ↔ unit ∈ groups.units :=
  (List.perm_insertionSort _ _).mem_iff

theorem unitOf_listAll (id : GroupId) : unitOf groups.listAll id = unitOf groups.units id := by
  have hunique : (groups.listAll.map OrganizationUnit.id).Nodup :=
    ((List.perm_insertionSort _ _).map _).nodup_iff.2 groups.unique
  refine Option.ext fun unit => ?_
  rw [unitOf, unitOf, KeyedDelta.find_eq_some_iff hunique,
    KeyedDelta.find_eq_some_iff groups.unique, mem_listAll]

theorem mem_put {other : OrganizationUnit} : other ∈ (groups.put unit).units ↔
    other = unit ∨ (other ∈ groups.units ∧ other.id ≠ unit.id) := by
  rw [put]
  split
  next h =>
    have hone : ([unit].map OrganizationUnit.id).Nodup := List.nodup_singleton _
    rw [KeyedDelta.mem_overwrite hone, List.mem_singleton, List.map_singleton, List.mem_singleton]
    exact or_congr_left (and_iff_left_of_imp fun he => he ▸ h)
  next h =>
    rw [List.mem_append, List.mem_singleton, or_comm]
    refine or_congr_right (and_iff_left_of_imp fun hmem he => ?_).symm
    exact h (he ▸ List.mem_map_of_mem hmem)

theorem unitOf_put (id : GroupId) : unitOf (groups.put unit).units id =
    if id = unit.id then some unit else unitOf groups.units id := by
  refine Option.ext fun other => ?_
  rw [unitOf, KeyedDelta.find_eq_some_iff (groups.put unit).unique, mem_put]
  by_cases hid : id = unit.id
  · rw [if_pos hid, Option.some.injEq]
    constructor
    · rintro ⟨rfl | ⟨-, hne⟩, ho⟩
      · rfl
      · exact absurd (ho.trans hid) hne
    · rintro rfl
      exact ⟨Or.inl rfl, hid.symm⟩
  · rw [if_neg hid, unitOf, KeyedDelta.find_eq_some_iff groups.unique]
    constructor
    · rintro ⟨rfl | ⟨hmem, -⟩, ho⟩
      · exact absurd ho.symm hid
      · exact ⟨hmem, ho⟩
    · rintro ⟨hmem, ho⟩
      exact ⟨Or.inr ⟨hmem, fun he => hid (ho ▸ he)⟩, ho⟩

theorem parentOf_put :
    parentOf (groups.put unit).units =
      Function.update (parentOf groups.units) unit.id unit.parentId := by
  funext id
  rw [parentOf, unitOf_put]
  by_cases hid : id = unit.id
  · rw [if_pos hid, Option.bind_some, hid, Function.update_self]
  · rw [if_neg hid, Function.update_of_ne hid, parentOf]

theorem contains_put {id : GroupId} : contains (groups.put unit).units id ↔
    id = unit.id ∨ contains groups.units id := by
  constructor
  · intro h
    obtain ⟨other, hmem, rfl⟩ := List.mem_map.1 h
    rcases mem_put.1 hmem with rfl | ⟨hold, -⟩
    · exact Or.inl rfl
    · exact Or.inr (List.mem_map_of_mem hold)
  · intro h
    by_cases hid : id = unit.id
    · exact hid ▸ List.mem_map_of_mem (mem_put.2 (Or.inl rfl))
    · obtain ⟨other, hmem, rfl⟩ := List.mem_map.1 (h.resolve_left hid)
      exact List.mem_map_of_mem (mem_put.2 (Or.inr ⟨hmem, hid⟩))

theorem create_eq_ok_iff : groups.create unit = .ok groups' ↔
    ¬ contains groups.units unit.id ∧ (∀ parent ∈ unit.parentId, contains groups.units parent) ∧
      groups' = groups.put unit := by
  rw [create, CheckedSteps.check_bind_eq_ok_iff, CheckedSteps.check_bind_eq_ok_iff,
    require_eq_ok_iff, require_eq_ok_iff]
  exact and_congr_right fun _ => and_congr_right fun _ =>
    ⟨fun h => (Except.ok.inj h).symm, fun h => congrArg Except.ok h.symm⟩

theorem update_eq_ok_iff : groups.update unit = .ok groups' ↔
    contains groups.units unit.id ∧ Forest (activeUnits (groups.put unit).units) ∧
      groups' = groups.put unit := by
  rw [update, CheckedSteps.check_bind_eq_ok_iff, CheckedSteps.check_bind_eq_ok_iff,
    require_eq_ok_iff, validateActive_eq_ok_iff]
  exact and_congr_right fun _ => and_congr_right fun _ =>
    ⟨fun h => (Except.ok.inj h).symm, fun h => congrArg Except.ok h.symm⟩

end InMemoryOrganizationHierarchyRepository

/-! ## What a call writes -/

open InMemoryOrganizationHierarchyRepository

/-- The group that a call writes when it returns. -/
inductive Change (groups : InMemoryOrganizationHierarchyRepository) :
    LifecycleCall → OrganizationUnit → Prop
  | created {command : CreateGroupCommand} {unit : OrganizationUnit} :
      ¬ contains groups.units unit.id → unit.status = .active →
      (∀ parent ∈ unit.parentId, contains (activeUnits groups.units) parent) →
      Change groups (.create command) unit
  | updated {groupId : GroupId} {command : UpdateGroupCommand} {current unit : OrganizationUnit} :
      unitOf groups.units groupId = some current → unit.id = groupId →
      unit.status = current.status →
      unit.parentId = (if command.changeParent then command.parentId else current.parentId) →
      Forest (activeUnits (groups.put unit).units) → Change groups (.update groupId command) unit
  | activated {groupId : GroupId} {current : OrganizationUnit} :
      unitOf groups.units groupId = some current →
      Forest (activeUnits (groups.put { current with status := .active }).units) →
      Change groups (.activate groupId) { current with status := .active }
  | deactivated {groupId : GroupId} {current : OrganizationUnit} :
      unitOf groups.units groupId = some current → (activeUnits groups.units).length > 1 →
      Forest (activeUnits (groups.put { current with status := .inactive }).units) →
      Change groups (.deactivate groupId) { current with status := .inactive }

section Step

variable {υ : Type} {collaborators : Collaborators υ} {stores : Stores υ}
variable {groups : InMemoryOrganizationHierarchyRepository} {principal : AuthenticatedPrincipal}

theorem requireGroup_eq_ok_iff {groupId : GroupId} {unit : OrganizationUnit} :
    GroupLifecycleService.requireGroup groups groupId = .ok unit ↔
      unitOf groups.units groupId = some unit := by
  rw [GroupLifecycleService.requireGroup, unitOf_listAll]
  cases unitOf groups.units groupId with
  | none => simp only [reduceCtorEq]
  | some current => simp only [Except.ok.injEq, Option.some.injEq]

/-- The group is written last, once nothing has been thrown. -/
theorem write_spec (invalidates : Bool) (updated : OrganizationUnit) :
    let result := GroupLifecycleService.write collaborators stores invalidates updated
    (∃ thrown, result.2 = .error thrown ∧ result.1.groups = stores.groups) ∨
      (result.2 = .ok updated ∧ stores.groups.update updated = .ok result.1.groups) := by
  intro result
  simp only [result, GroupLifecycleService.write]
  split
  next others thrown _ => exact Or.inl ⟨thrown, rfl, rfl⟩
  next others _ =>
    cases hupdate : stores.groups.update updated with
    | error thrown => exact Or.inl ⟨thrown, rfl, rfl⟩
    | ok groups => exact Or.inr ⟨rfl, rfl⟩

theorem createChecks_eq_ok {command : CreateGroupCommand} {unit : OrganizationUnit}
    (h : GroupLifecycleService.createChecks groups principal command = .ok unit) :
    principal.role = .admin ∧ unit.status = .active ∧
      ∀ parent ∈ unit.parentId, contains (activeUnits groups.units) parent := by
  rw [GroupLifecycleService.createChecks, CheckedSteps.check_bind_eq_ok_iff,
    CheckedSteps.check_bind_eq_ok_iff, requireSystemAdministrator_eq_ok_iff,
    require_eq_ok_iff] at h
  obtain ⟨hadmin, hparent, hnew⟩ := h
  rw [newOrganizationUnit] at hnew
  split at hnew
  · cases hnew
    refine ⟨hadmin, rfl, fun parent hp => ?_⟩
    obtain ⟨unit, hmem, rfl, hactive⟩ := hparent parent hp
    exact List.mem_map_of_mem (mem_activeUnits.2 ⟨mem_listAll.1 hmem, hactive⟩)
  · cases hnew

theorem renamed_id (unit : OrganizationUnit) (name : Option String) :
    (unit.renamed name).id = unit.id ∧ (unit.renamed name).status = unit.status := by
  cases name with
  | none => exact ⟨rfl, rfl⟩
  | some name =>
      rw [OrganizationUnit.renamed]
      split
      · exact ⟨rfl, rfl⟩
      · exact ⟨rfl, rfl⟩

theorem updateChecks_eq_ok {groupId : GroupId} {command : UpdateGroupCommand}
    {current updated : OrganizationUnit}
    (h : GroupLifecycleService.updateChecks groups principal groupId command =
      .ok (current, updated)) :
    principal.role = .admin ∧ unitOf groups.units groupId = some current ∧
      updated.id = groupId ∧ updated.status = current.status ∧
      updated.parentId = if command.changeParent then command.parentId else current.parentId := by
  rw [GroupLifecycleService.updateChecks, CheckedSteps.check_bind_eq_ok_iff,
    requireSystemAdministrator_eq_ok_iff, CheckedSteps.bind_eq_ok_iff] at h
  obtain ⟨hadmin, found, hfound, h⟩ := h
  obtain ⟨-, h⟩ := CheckedSteps.check_bind_eq_ok_iff.1 h
  cases h
  rw [requireGroup_eq_ok_iff] at hfound
  obtain ⟨hid, hstatus⟩ := renamed_id current command.name
  exact ⟨hadmin, hfound, hid.trans (KeyedDelta.find_some hfound).2, hstatus, rfl⟩

theorem activateChecks_eq_ok {groupId : GroupId} {updated : OrganizationUnit}
    (h : GroupLifecycleService.activateChecks groups principal groupId = .ok updated) :
    principal.role = .admin ∧ ∃ current, unitOf groups.units groupId = some current ∧
      updated = { current with status := .active } := by
  rw [GroupLifecycleService.activateChecks, CheckedSteps.check_bind_eq_ok_iff,
    requireSystemAdministrator_eq_ok_iff, CheckedSteps.bind_eq_ok_iff] at h
  obtain ⟨hadmin, current, hcurrent, h⟩ := h
  obtain ⟨-, h⟩ := CheckedSteps.check_bind_eq_ok_iff.1 h
  cases h
  exact ⟨hadmin, current, requireGroup_eq_ok_iff.1 hcurrent, rfl⟩

theorem deactivateChecks_eq_ok {groupId : GroupId} {updated : OrganizationUnit}
    (h : GroupLifecycleService.deactivateChecks collaborators stores principal groupId =
      .ok updated) :
    principal.role = .admin ∧ (activeUnits stores.groups.units).length > 1 ∧
      ∃ current, unitOf stores.groups.units groupId = some current ∧
        updated = { current with status := .inactive } := by
  rw [GroupLifecycleService.deactivateChecks, CheckedSteps.check_bind_eq_ok_iff,
    requireSystemAdministrator_eq_ok_iff, CheckedSteps.bind_eq_ok_iff] at h
  obtain ⟨hadmin, current, hcurrent, h⟩ := h
  rw [CheckedSteps.check_bind_eq_ok_iff, require_eq_ok_iff] at h
  obtain ⟨hmany, h⟩ := h
  obtain ⟨-, h⟩ := CheckedSteps.check_bind_eq_ok_iff.1 h
  obtain ⟨occupied, -, h⟩ := CheckedSteps.bind_eq_ok_iff.1 h
  obtain ⟨-, h⟩ := CheckedSteps.check_bind_eq_ok_iff.1 h
  cases h
  have hlength : (activeUnits stores.groups.listAll).length =
      (activeUnits stores.groups.units).length :=
    ((List.perm_insertionSort _ _).filter _).length_eq
  exact ⟨hadmin, hlength ▸ hmany, current, requireGroup_eq_ok_iff.1 hcurrent, rfl⟩

/-- A call that throws leaves the groups; one that returns is a system administrator's and writes
the group that it returns. -/
theorem lifecycleStep_spec (call : AuthenticatedPrincipal × LifecycleCall) :
    let result := lifecycleStep collaborators stores call
    (∃ thrown, result.2 = .error thrown ∧ result.1.groups = stores.groups) ∨
      ∃ unit, result.2 = .ok unit ∧ call.1.role = .admin ∧ Change stores.groups call.2 unit ∧
        result.1.groups = stores.groups.put unit := by
  obtain ⟨principal, call⟩ := call
  cases call with
  | create command =>
      simp only [lifecycleStep, GroupLifecycleService.create]
      cases hchecks : GroupLifecycleService.createChecks stores.groups principal command with
      | error thrown => exact Or.inl ⟨thrown, rfl, rfl⟩
      | ok unit =>
          obtain ⟨hadmin, hactive, hparent⟩ := createChecks_eq_ok hchecks
          dsimp only
          cases hcreate : stores.groups.create unit with
          | error thrown => exact Or.inl ⟨thrown, rfl, rfl⟩
          | ok groups =>
              obtain ⟨hnew, -, rfl⟩ := create_eq_ok_iff.1 hcreate
              exact Or.inr ⟨unit, rfl, hadmin, .created hnew hactive hparent, rfl⟩
  | update groupId command =>
      simp only [lifecycleStep, GroupLifecycleService.update]
      cases hchecks : GroupLifecycleService.updateChecks stores.groups principal groupId command with
      | error thrown => exact Or.inl ⟨thrown, rfl, rfl⟩
      | ok pair =>
          obtain ⟨current, updated⟩ := pair
          obtain ⟨hadmin, hcurrent, hid, hstatus, hparent⟩ := updateChecks_eq_ok hchecks
          refine (write_spec _ updated).imp id ?_
          rintro ⟨hok, hupdate⟩
          obtain ⟨-, hforest, hgroups⟩ := update_eq_ok_iff.1 hupdate
          exact ⟨updated, hok, hadmin, .updated hcurrent hid hstatus hparent hforest, hgroups⟩
  | activate groupId =>
      simp only [lifecycleStep, GroupLifecycleService.activate]
      cases hchecks : GroupLifecycleService.activateChecks stores.groups principal groupId with
      | error thrown => exact Or.inl ⟨thrown, rfl, rfl⟩
      | ok updated =>
          obtain ⟨hadmin, current, hcurrent, rfl⟩ := activateChecks_eq_ok hchecks
          refine (write_spec _ _).imp id ?_
          rintro ⟨hok, hupdate⟩
          obtain ⟨-, hforest, hgroups⟩ := update_eq_ok_iff.1 hupdate
          exact ⟨_, hok, hadmin, .activated hcurrent hforest, hgroups⟩
  | deactivate groupId =>
      simp only [lifecycleStep, GroupLifecycleService.deactivate]
      cases hchecks :
          GroupLifecycleService.deactivateChecks collaborators stores principal groupId with
      | error thrown => exact Or.inl ⟨thrown, rfl, rfl⟩
      | ok updated =>
          obtain ⟨hadmin, hmany, current, hcurrent, rfl⟩ := deactivateChecks_eq_ok hchecks
          refine (write_spec _ _).imp id ?_
          rintro ⟨hok, hupdate⟩
          obtain ⟨-, hforest, hgroups⟩ := update_eq_ok_iff.1 hupdate
          exact ⟨_, hok, hadmin, .deactivated hcurrent hmany hforest, hgroups⟩

end Step

/-! ## The active hierarchy -/

section Active

variable {groups : InMemoryOrganizationHierarchyRepository} {call : LifecycleCall}
variable {unit current : OrganizationUnit}

/-- An active unit besides the one that is written, or the written one itself, stays. -/
theorem activeUnits_put_ne_nil {other : OrganizationUnit} (hother : other ∈ activeUnits groups.units)
    (h : other.id = unit.id → unit.status = .active) :
    activeUnits (groups.put unit).units ≠ [] := by
  obtain ⟨hmem, hactive⟩ := mem_activeUnits.1 hother
  by_cases hid : other.id = unit.id
  · exact List.ne_nil_of_mem (mem_activeUnits.2 ⟨mem_put.2 (Or.inl rfl), h hid⟩)
  · exact List.ne_nil_of_mem (mem_activeUnits.2 ⟨mem_put.2 (Or.inr ⟨hmem, hid⟩), hactive⟩)

theorem activeUnits_put_of_new (hnew : ¬ contains groups.units unit.id)
    (hactive : unit.status = .active) :
    activeUnits (groups.put unit).units = activeUnits groups.units ++ [unit] := by
  have hput : (groups.put unit).units = groups.units ++ [unit] := by
    rw [put, dif_neg hnew]
  rw [hput, activeUnits, activeUnits, List.filter_append, List.filter_singleton,
    decide_eq_true hactive]
  rfl

theorem exists_other {active : List OrganizationUnit}
    (hn : (active.map OrganizationUnit.id).Nodup) (hmany : active.length > 1) (id : GroupId) :
    ∃ other ∈ active, other.id ≠ id := by
  match active, hn, hmany with
  | first :: second :: rest, hn, _ =>
      by_cases hfirst : first.id = id
      · refine ⟨second, List.mem_cons_of_mem _ List.mem_cons_self, fun hsecond => ?_⟩
        refine (List.nodup_cons.1 hn).1 ?_
        rw [hfirst, ← hsecond]
        exact List.mem_map_of_mem List.mem_cons_self
      · exact ⟨first, List.mem_cons_self, hfirst⟩

theorem Change.validHierarchy (h : ValidHierarchy (activeUnits groups.units))
    (hchange : Change groups call unit) : ValidHierarchy (activeUnits (groups.put unit).units) := by
  obtain ⟨other, hother⟩ := List.exists_mem_of_ne_nil _ h.nonempty
  cases hchange with
  | created hnew hactive hparent =>
      refine ⟨?_, activeUnits_put_ne_nil hother fun _ => hactive⟩
      rw [activeUnits_put_of_new hnew hactive]
      exact h.toForest.append_leaf (fun hmem => hnew (contains_of_active hmem)) hparent
  | @updated groupId command current _ hcurrent hid hstatus _ hforest =>
      refine ⟨hforest, activeUnits_put_ne_nil hother fun he => ?_⟩
      obtain ⟨hmem, hactive⟩ := mem_activeUnits.1 hother
      have hsame : unitOf groups.units groupId = some other :=
        (KeyedDelta.find_eq_some_iff groups.unique).2 ⟨hmem, he.trans hid⟩
      rw [hstatus, Option.some.inj (hcurrent.symm.trans hsame), hactive]
  | activated hcurrent hforest =>
      exact ⟨hforest, activeUnits_put_ne_nil hother fun _ => rfl⟩
  | @deactivated groupId current hcurrent hmany hforest =>
      obtain ⟨rest, hrest, hne⟩ := exists_other h.unique hmany current.id
      exact ⟨hforest, activeUnits_put_ne_nil hrest fun he => absurd he hne⟩

end Active

/-! ## All groups -/

section Whole

variable {groups : InMemoryOrganizationHierarchyRepository} {call : LifecycleCall}
variable {unit : OrganizationUnit}

/-- A parent for an inactive group is a group, and neither that group nor one below it. -/
def ParentOutside (groups : InMemoryOrganizationHierarchyRepository) : LifecycleCall → Prop
  | .update groupId command => ∀ current parent, unitOf groups.units groupId = some current →
      current.status = .inactive → command.changeParent = true → command.parentId = some parent →
        contains groups.units parent ∧ ¬ Below groups.units parent groupId
  | _ => True

theorem forest_put_iff (h : Forest groups.units) (hmem : contains groups.units unit.id) :
    Forest (groups.put unit).units ↔ ∀ parent, unit.parentId = some parent →
      contains groups.units parent ∧ ¬ Below groups.units parent unit.id := by
  constructor
  · intro hput parent hparent
    have hknown := hput.parents unit (mem_put.2 (Or.inl rfl)) parent hparent
    refine ⟨(contains_put.1 hknown).elim (fun he => he ▸ hmem) id, ?_⟩
    rintro ⟨-, n, hup⟩
    have hall := hput.grounded
    rw [parentOf_put, hparent] at hall
    exact (grounded_update_iff h.grounded).1 hall n hup
  · intro houtside
    refine ⟨(groups.put unit).unique, fun other hother parent hparent => ?_, ?_⟩
    · rw [contains_put]
      rcases mem_put.1 hother with rfl | ⟨hold, -⟩
      · exact Or.inr (houtside parent hparent).1
      · exact Or.inr (h.parents other hold parent hparent)
    · rw [parentOf_put]
      cases hparent : unit.parentId with
      | none => exact grounded_update_none h.grounded
      | some parent =>
          obtain ⟨hknown, hbelow⟩ := houtside parent hparent
          exact (grounded_update_iff h.grounded).2 fun n hup => hbelow ⟨hknown, n, hup⟩

theorem forest_put_of_same_parent (h : Forest groups.units) {current : OrganizationUnit}
    (hcurrent : current ∈ groups.units) (hid : unit.id = current.id)
    (hparent : unit.parentId = current.parentId) : Forest (groups.put unit).units := by
  rw [forest_put_iff h (hid ▸ List.mem_map_of_mem hcurrent)]
  intro parent hp
  rw [hparent] at hp
  refine ⟨h.parents current hcurrent parent hp, ?_⟩
  rintro ⟨-, n, hup⟩
  have hloop : climb (parentOf groups.units) (n + 1) current.id = some current.id := by
    rw [climb_succ, parentOf_of_mem h.unique hcurrent, hp, Option.bind_some, hup, hid]
  exact (h.grounded current.id).climb_ne (Nat.succ_pos n) hloop

/-- The line above the new parent of an active group is active, and the check has seen it. -/
theorem forest_put_of_active (h : Forest groups.units) (hmem : contains groups.units unit.id)
    (hactive : unit.status = .active) (hforest : Forest (activeUnits (groups.put unit).units)) :
    Forest (groups.put unit).units := by
  have hunit : unit ∈ activeUnits (groups.put unit).units :=
    mem_activeUnits.2 ⟨mem_put.2 (Or.inl rfl), hactive⟩
  rw [forest_put_iff h hmem]
  intro parent hparent
  have hknown := hforest.parents unit hunit parent hparent
  have hfree : ∀ n, climb (parentOf (activeUnits (groups.put unit).units)) n parent ≠
      some unit.id := by
    intro n hup
    have hloop : climb (parentOf (activeUnits (groups.put unit).units)) (n + 1) unit.id =
        some unit.id := by
      rw [climb_succ, parentOf_of_mem hforest.unique hunit, hparent, Option.bind_some, hup]
    exact (hforest.grounded unit.id).climb_ne (Nat.succ_pos n) hloop
  have hold : ∀ id, contains (activeUnits (groups.put unit).units) id → id ≠ unit.id →
      ∃ other ∈ activeUnits (groups.put unit).units, other ∈ groups.units ∧ other.id = id := by
    intro id hid hne
    obtain ⟨other, hother, rfl⟩ := List.mem_map.1 hid
    rcases mem_put.1 (mem_activeUnits.1 hother).1 with rfl | ⟨hmem, -⟩
    · exact absurd rfl hne
    · exact ⟨other, hother, hmem, rfl⟩
  have hpath : ∀ n a, climb (parentOf (activeUnits (groups.put unit).units)) n parent = some a →
      parentOf groups.units a = parentOf (activeUnits (groups.put unit).units) a := by
    intro n a ha
    have hne : a ≠ unit.id := fun he => hfree n (he ▸ ha)
    obtain ⟨other, hother, hmem, rfl⟩ := hold a (contains_of_climb hforest.parents hknown ha) hne
    rw [parentOf_of_mem h.unique hmem, parentOf_of_mem hforest.unique hother]
  obtain ⟨other, -, hmem, rfl⟩ := hold parent hknown fun he => hfree 0 (congrArg some he)
  refine ⟨List.mem_map_of_mem hmem, ?_⟩
  rintro ⟨-, n, hup⟩
  rw [climb_congr hpath] at hup
  exact hfree n hup

/-- A change keeps the forest of all groups exactly when it gives no inactive group a parent that
is unknown or lies in the group's own subtree. -/
theorem Change.forest_iff (h : Forest groups.units) (hchange : Change groups call unit) :
    Forest (groups.put unit).units ↔ ParentOutside groups call := by
  cases hchange with
  | created hnew hactive hparent =>
      refine iff_of_true ?_ trivial
      have hput : (groups.put unit).units = groups.units ++ [unit] := by rw [put, dif_neg hnew]
      rw [hput]
      exact h.append_leaf hnew fun parent hp => contains_of_active (hparent parent hp)
  | @updated groupId command current _ hcurrent hid hstatus hparent hforest =>
      obtain ⟨hmem, hcid⟩ := KeyedDelta.find_some hcurrent
      have hknown : contains groups.units unit.id :=
        hid.trans hcid.symm ▸ List.mem_map_of_mem hmem
      cases hchange : command.changeParent with
      | false =>
          refine iff_of_true (forest_put_of_same_parent h hmem (hid.trans hcid.symm) ?_) ?_
          · rw [hparent, hchange]
            rfl
          · intro _ _ _ _ hnot
            rw [hchange] at hnot
            cases hnot
      | true =>
          rw [hchange, if_pos rfl] at hparent
          cases hold : current.status with
          | active =>
              refine iff_of_true (forest_put_of_active h hknown (hstatus.trans hold) hforest) ?_
              intro found parent hfound hinactive
              rw [Option.some.inj (hcurrent.symm.trans hfound), hinactive] at hold
              cases hold
          | inactive =>
              rw [forest_put_iff h hknown, hparent, hid]
              constructor
              · intro houtside found parent _ _ _ hp
                exact houtside parent hp
              · intro houtside parent hp
                exact houtside current parent hcurrent hold hchange hp
  | @activated groupId current hcurrent hforest =>
      refine iff_of_true ?_ trivial
      exact forest_put_of_same_parent h (KeyedDelta.find_some hcurrent).1 rfl rfl
  | @deactivated groupId current hcurrent hmany hforest =>
      refine iff_of_true ?_ trivial
      exact forest_put_of_same_parent h (KeyedDelta.find_some hcurrent).1 rfl rfl

end Whole

/-! ## Runs -/

section Run

variable {υ : Type} (collaborators : Collaborators υ) (stores : Stores υ)

theorem lifecycleStep_validHierarchy (call : AuthenticatedPrincipal × LifecycleCall)
    (h : ValidHierarchy (activeUnits stores.groups.units)) :
    ValidHierarchy (activeUnits (lifecycleStep collaborators stores call).1.groups.units) := by
  rcases lifecycleStep_spec call with ⟨thrown, -, hsame⟩ | ⟨unit, -, -, hchange, hput⟩
  · rw [hsame]
    exact h
  · rw [hput]
    exact hchange.validHierarchy h

/-- After any calls the active groups form a hierarchy, so that `current` returns it, and a call
that throws leaves every group as it was. -/
theorem active_hierarchy_kept (h : ValidHierarchy (activeUnits stores.groups.units))
    (calls : List (AuthenticatedPrincipal × LifecycleCall)) :
    let reached := Machines.final (lifecycleStep collaborators) stores calls
    ValidHierarchy (activeUnits reached.groups.units) ∧
      (∃ hierarchy, reached.groups.current = .ok hierarchy) ∧
      ∀ call thrown, (lifecycleStep collaborators reached call).2 = .error thrown →
        (lifecycleStep collaborators reached call).1.groups = reached.groups := by
  intro reached
  have hreached : ValidHierarchy (activeUnits reached.groups.units) :=
    Machines.final_invariant (C := fun _ _ => True)
      (fun s call hs _ => lifecycleStep_validHierarchy collaborators s call hs) h
      (Machines.along_of_forall (fun _ _ _ => trivial) stores)
  refine ⟨hreached, OrganizationHierarchy.exists_of_eq_ok_iff.2 hreached, ?_⟩
  intro call thrown hthrown
  rcases lifecycleStep_spec call with ⟨-, -, hsame⟩ | ⟨unit, hok, -⟩
  · exact hsame
  · rw [hthrown] at hok
    cases hok

def quiet : Collaborators Unit where
  list := fun _ => .ok []
  update := fun others _ => (others, .ok ())
  revokePrincipalSessions := fun others _ => (others, .ok ())
  hasActiveInGroup := fun _ _ => .ok false

def systemAdministrator : AuthenticatedPrincipal where
  username := "system"
  role := .admin
  groupId := battalion.id
  securityVersion := 1
  usernameNotBlank := by decide
  securityVersionPositive := by decide

def sampleStores : Stores Unit where
  groups := ⟨[battalion, company], by decide⟩
  others := ()

theorem sampleStores_valid : ValidHierarchy (activeUnits sampleStores.groups.units) :=
  validate_eq_ok_iff.1 (by decide)

theorem active_hierarchy_kept_sample :
    ValidHierarchy [battalion, company] ∧
      (lifecycleStep quiet sampleStores (systemAdministrator, .deactivate battalion.id)).1.groups =
        sampleStores.groups := by
  obtain ⟨hvalid, -, -⟩ := active_hierarchy_kept quiet sampleStores sampleStores_valid
    [(systemAdministrator, .deactivate company.id), (systemAdministrator, .activate company.id)]
  obtain ⟨-, -, hthrown⟩ := active_hierarchy_kept quiet sampleStores sampleStores_valid []
  have hblocked : (lifecycleStep quiet sampleStores
      (systemAdministrator, .deactivate battalion.id)).2 =
        .error (.illegalArgument "active child groups must be deactivated first") := by decide
  exact ⟨hvalid, hthrown _ _ hblocked⟩

/-- All groups together form a forest after every run whose calls give no inactive group a parent
that is unknown or in its own subtree; a call that does and returns breaks the forest. -/
theorem forest_kept_iff (h : Forest stores.groups.units) :
    (∀ calls, Machines.Along (lifecycleStep collaborators)
      (fun stores call => ParentOutside stores.groups call.2) stores calls →
        Forest (Machines.final (lifecycleStep collaborators) stores calls).groups.units) ∧
    ∀ call unit, (lifecycleStep collaborators stores call).2 = .ok unit →
      (Forest (lifecycleStep collaborators stores call).1.groups.units ↔
        ParentOutside stores.groups call.2) := by
  constructor
  · intro calls hcalls
    have hstep : ∀ (s : Stores υ) (call : AuthenticatedPrincipal × LifecycleCall),
        Forest s.groups.units → ParentOutside s.groups call.2 →
          Forest (lifecycleStep collaborators s call).1.groups.units := by
      intro s call hs houtside
      rcases lifecycleStep_spec call with ⟨-, -, hsame⟩ | ⟨unit, -, -, hchange, hput⟩
      · rw [hsame]
        exact hs
      · rw [hput]
        exact (hchange.forest_iff hs).2 houtside
    exact Machines.final_invariant hstep h hcalls
  · intro call unit hok
    rcases lifecycleStep_spec call with ⟨thrown, hthrown, -⟩ | ⟨unit', -, -, hchange, hput⟩
    · rw [hok] at hthrown
      cases hthrown
    · rw [hput]
      exact hchange.forest_iff h

def ontoItself : List (AuthenticatedPrincipal × LifecycleCall) :=
  [(systemAdministrator, .deactivate company.id),
    (systemAdministrator, .update company.id ⟨none, some company.id, true⟩)]

/-- The company is deactivated and then made its own parent. -/
theorem forest_kept_counterexample :
    Forest sampleStores.groups.units ∧
      ¬ Forest (Machines.final (lifecycleStep quiet) sampleStores ontoItself).groups.units := by
  refine ⟨(validate_eq_ok_iff.1 (by decide)).toForest, fun hforest => ?_⟩
  have hloop : climb (parentOf (Machines.final (lifecycleStep quiet) sampleStores
      ontoItself).groups.units) 1 company.id = some company.id := by decide
  exact (hforest.grounded company.id).climb_ne Nat.one_pos hloop

theorem forest_kept_sample :
    Forest [battalion, { company with status := .inactive, parentId := none }] := by
  have hforest : Forest sampleStores.groups.units := (validate_eq_ok_iff.1 (by decide)).toForest
  refine (forest_kept_iff quiet sampleStores hforest).1
    [(systemAdministrator, .deactivate company.id),
      (systemAdministrator, .update company.id ⟨none, none, true⟩)] ⟨trivial, ?_, trivial⟩
  intro current parent _ _ _ hparent
  cases hparent

end Run

end GcsSaker.Groups
