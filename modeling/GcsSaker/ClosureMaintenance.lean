import GcsSaker.JdbcGroupHierarchy

/-!
# The closure follows the hierarchy

The rows that `GroupClosurePlanner.forChange` does not plan are those that the change leaves as they
are. So every run of `create` and `update` keeps the closure equal to the one that `complete`
computes, which is the reflexive transitive closure of the active hierarchy.
-/

namespace GcsSaker.Groups
open ParentMap

/-! ## A change that is planned -/

section Plan

variable {units before after existing : List OrganizationUnit} {unit replacement : OrganizationUnit}

theorem mem_replaceUnit : unit ∈ replaceUnit existing replacement ↔
    (unit ∈ existing ∧ unit.id ≠ replacement.id) ∨ unit = replacement := by
  rw [replaceUnit, List.mem_append, List.mem_filter, decide_eq_true_iff, List.mem_singleton]

theorem complete_eq_ok_iff {rows : List GroupClosureRelation} :
    GroupClosurePlanner.complete units = .ok rows ↔ Forest (activeUnits units) ∧
      rows = relations (activeUnits units) ((activeUnits units).map OrganizationUnit.id) := by
  rw [GroupClosurePlanner.complete, CheckedSteps.bind_eq_ok_iff]
  constructor
  · rintro ⟨active, hactive, hrows⟩
    obtain ⟨rfl, hforest⟩ := activeGroups_eq_ok_iff.1 hactive
    exact ⟨hforest, (Except.ok.inj hrows).symm⟩
  · rintro ⟨hforest, rfl⟩
    exact ⟨_, activeGroups_eq_ok_iff.2 ⟨rfl, hforest⟩, rfl⟩

theorem forChange_eq_ok_iff {scope : GroupClosureScope} :
    GroupClosurePlanner.forChange existing replacement = .ok scope ↔
      Forest (activeUnits existing) ∧ Forest (activeUnits (replaceUnit existing replacement)) ∧
        scope.descendants =
          (descendants (activeUnits (replaceUnit existing replacement)) replacement.id).foldl add
            (descendants (activeUnits existing) replacement.id) ∧
        scope.desired =
          relations (activeUnits (replaceUnit existing replacement)) scope.descendants := by
  rw [GroupClosurePlanner.forChange]
  simp only [CheckedSteps.bind_eq_ok_iff]
  constructor
  · rintro ⟨before, hbefore, after, hafter, hscope⟩
    obtain ⟨rfl, hforest⟩ := activeGroups_eq_ok_iff.1 hbefore
    obtain ⟨rfl, hforest'⟩ := activeGroups_eq_ok_iff.1 hafter
    cases hscope
    exact ⟨hforest, hforest', rfl, rfl⟩
  · obtain ⟨ids, desired⟩ := scope
    rintro ⟨hforest, hforest', hids, hrows⟩
    dsimp only at hids hrows
    subst hids hrows
    exact ⟨_, activeGroups_eq_ok_iff.2 ⟨rfl, hforest⟩, _,
      activeGroups_eq_ok_iff.2 ⟨rfl, hforest'⟩, rfl⟩

/-- Away from the replaced group both hierarchies have the same units. -/
theorem unitOf_replaceUnit (hbefore : Forest (activeUnits existing))
    (hafter : Forest (activeUnits (replaceUnit existing replacement))) {id : GroupId}
    (hid : id ≠ replacement.id) :
    unitOf (activeUnits (replaceUnit existing replacement)) id = unitOf (activeUnits existing) id := by
  refine Option.ext fun unit => ?_
  rw [unitOf, unitOf, KeyedDelta.find_eq_some_iff hafter.unique,
    KeyedDelta.find_eq_some_iff hbefore.unique, mem_activeUnits, mem_activeUnits, mem_replaceUnit]
  refine and_congr_left fun hunit => and_congr_left fun _ => ?_
  have hne : unit ≠ replacement := fun he => hid (he ▸ hunit.symm)
  rw [or_iff_left hne, and_iff_left (hunit ▸ hid)]

theorem contains_iff_unitOf {id : GroupId} : contains units id ↔ unitOf units id ≠ none := by
  rw [unitOf, ne_eq, KeyedDelta.find_eq_none_iff, not_not]
  rfl

/-- A group that neither is nor was below the replaced one keeps its line of ancestors. -/
theorem line_of_unaffected (hbefore : Forest (activeUnits existing))
    (hafter : Forest (activeUnits (replaceUnit existing replacement))) {id : GroupId}
    (hold : ¬ Below (activeUnits existing) id replacement.id)
    (hnew : ¬ Below (activeUnits (replaceUnit existing replacement)) id replacement.id)
    {n : ℕ} {ancestor : GroupId} :
    (contains (activeUnits existing) id ∧
        climb (parentOf (activeUnits existing)) n id = some ancestor) ↔
      (contains (activeUnits (replaceUnit existing replacement)) id ∧
        climb (parentOf (activeUnits (replaceUnit existing replacement))) n id = some ancestor) := by
  by_cases hid : id = replacement.id
  · subst hid
    exact iff_of_false (fun h => hold (Below.refl h.1)) fun h => hnew (Below.refl h.1)
  · have hsame := unitOf_replaceUnit hbefore hafter hid
    rw [contains_iff_unitOf, contains_iff_unitOf, hsame, ← contains_iff_unitOf]
    refine and_congr_right fun hmem => ?_
    have hpath : ∀ m a, climb (parentOf (activeUnits existing)) m id = some a →
        parentOf (activeUnits (replaceUnit existing replacement)) a =
          parentOf (activeUnits existing) a := by
      intro m a ha
      have hne : a ≠ replacement.id := fun he => hold ⟨hmem, m, he ▸ ha⟩
      rw [parentOf, parentOf, unitOf_replaceUnit hbefore hafter hne]
    rw [climb_congr hpath]

theorem nodup_descendantsLoop {fuel : ℕ} {pending affected : List GroupId} (h : affected.Nodup) :
    (descendantsLoop units fuel pending affected).Nodup := by
  induction fuel generalizing pending affected with
  | zero => exact h
  | succ fuel ih =>
      cases pending with
      | nil => exact h
      | cons current pending =>
          rw [descendantsLoop]
          by_cases hcurrent : current ∈ affected
          · rw [if_pos hcurrent]
            exact ih h
          · rw [if_neg hcurrent]
            refine ih (List.Nodup.append h (List.nodup_singleton current) fun id hid hc => ?_)
            exact hcurrent (List.mem_singleton.1 hc ▸ hid)

theorem nodup_foldl_add {α : Type} [DecidableEq α] {xs set : List α} (h : set.Nodup) :
    (xs.foldl add set).Nodup := by
  induction xs generalizing set with
  | nil => exact h
  | cons x xs ih => exact ih (nodup_add h)

theorem nodup_scope {scope : GroupClosureScope}
    (h : GroupClosurePlanner.forChange existing replacement = .ok scope) :
    scope.descendants.Nodup := by
  rw [(forChange_eq_ok_iff.1 h).2.2.1]
  refine nodup_foldl_add ?_
  rw [descendants]
  split
  · exact nodup_descendantsLoop List.nodup_nil
  · exact List.nodup_nil

theorem mem_scope {scope : GroupClosureScope}
    (h : GroupClosurePlanner.forChange existing replacement = .ok scope) {id : GroupId} :
    id ∈ scope.descendants ↔ Below (activeUnits existing) id replacement.id ∨
      Below (activeUnits (replaceUnit existing replacement)) id replacement.id := by
  obtain ⟨hbefore, hafter, hdescendants, -⟩ := forChange_eq_ok_iff.1 h
  rw [hdescendants, mem_foldl_add, mem_descendants hbefore, mem_descendants hafter]

end Plan

/-! ## One change -/

section Change

variable {units existing : List OrganizationUnit} {replacement : OrganizationUnit}
variable {closure before rows : List GroupClosureRelation} {scope : GroupClosureScope}

theorem mem_complete (h : GroupClosurePlanner.complete units = .ok rows)
    {relation : GroupClosureRelation} : relation ∈ rows ↔
      contains (activeUnits units) relation.descendant ∧
        climb (parentOf (activeUnits units)) relation.depth relation.descendant =
          some relation.ancestor := by
  obtain ⟨hforest, rfl⟩ := complete_eq_ok_iff.1 h
  rw [mem_relations hforest]
  exact and_iff_right_of_imp And.left

theorem key_complete_nodup (h : GroupClosurePlanner.complete units = .ok rows) :
    (rows.map GroupClosureRelation.key).Nodup := by
  obtain ⟨hforest, rfl⟩ := complete_eq_ok_iff.1 h
  exact key_relations_nodup hforest

theorem contains_of_mem_complete (h : GroupClosurePlanner.complete units = .ok rows)
    {relation : GroupClosureRelation} (hr : relation ∈ rows) :
    contains units relation.ancestor ∧ contains units relation.descendant := by
  obtain ⟨hforest, -⟩ := complete_eq_ok_iff.1 h
  obtain ⟨hdescendant, hup⟩ := (mem_complete h).1 hr
  exact ⟨contains_of_active (contains_of_climb hforest.parents hdescendant hup),
    contains_of_active hdescendant⟩

/-- The rows outside the scope and the planned ones are the rows of the changed hierarchy. -/
theorem scope_perm_complete (hbefore : GroupClosurePlanner.complete existing = .ok before)
    (hscope : GroupClosurePlanner.forChange existing replacement = .ok scope)
    (hclosure : closure.Perm before)
    (hafter : GroupClosurePlanner.complete (replaceUnit existing replacement) = .ok rows) :
    ((closure.filter fun relation => ¬ relation.descendant ∈ scope.descendants) ++
      scope.desired).Perm rows := by
  obtain ⟨hforest, hforest', -, hdesired⟩ := forChange_eq_ok_iff.1 hscope
  have hmem : ∀ {relation : GroupClosureRelation}, relation ∈ scope.desired ↔
      relation.descendant ∈ scope.descendants ∧ relation ∈ rows := by
    intro relation
    rw [hdesired, mem_relations hforest', mem_complete hafter]
  have hnodup : ((closure.filter fun relation => ¬ relation.descendant ∈ scope.descendants) ++
      scope.desired).Nodup := by
    refine List.Nodup.append ?_ (hdesired ▸ relations_nodup) ?_
    · exact (hclosure.nodup_iff.2 (key_complete_nodup hbefore).of_map).filter _
    · intro relation hr hd
      rw [List.mem_filter, decide_eq_true_iff] at hr
      exact hr.2 (hmem.1 hd).1
  rw [List.perm_ext_iff_of_nodup hnodup (key_complete_nodup hafter).of_map]
  intro relation
  rw [List.mem_append, List.mem_filter, decide_eq_true_iff, hclosure.mem_iff, hmem]
  by_cases hin : relation.descendant ∈ scope.descendants
  · simp only [hin, not_true_eq_false, and_false, true_and, false_or]
  · have hout := hin
    rw [mem_scope hscope, not_or] at hout
    simp only [hin, not_false_eq_true, and_true, false_and, or_false]
    rw [mem_complete hbefore, mem_complete hafter]
    exact line_of_unaffected hforest hforest' hout.1 hout.2

/-- The delta of a change leaves the closure of the changed hierarchy, whatever table of groups the
foreign keys are checked against, as long as it has the groups. -/
theorem applyTo_perm_complete {groups : List OrganizationUnit}
    (hgroups : ∀ id, contains (replaceUnit existing replacement) id → contains groups id)
    (hbefore : GroupClosurePlanner.complete existing = .ok before)
    (hscope : GroupClosurePlanner.forChange existing replacement = .ok scope)
    (hclosure : closure.Perm before) {actual : List GroupClosureRelation}
    (hactual : actual.Perm
      (closure.filter fun relation => relation.descendant ∈ scope.descendants)) :
    ∃ delta closure' after, GroupClosureDelta.between actual scope.desired = .ok delta ∧
      delta.applyTo groups closure = .ok closure' ∧
      GroupClosurePlanner.complete (replaceUnit existing replacement) = .ok after ∧
      closure'.Perm after := by
  obtain ⟨-, hforest', -, hdesired⟩ := forChange_eq_ok_iff.1 hscope
  have hafter := complete_eq_ok_iff.2 ⟨hforest', rfl⟩
  have hkeys : (closure.map GroupClosureRelation.key).Nodup :=
    (hclosure.map _).nodup_iff.2 (key_complete_nodup hbefore)
  have hdesiredRows : ∀ relation ∈ scope.desired, relation.descendant ∈ scope.descendants ∧
      contains groups relation.ancestor ∧ contains groups relation.descendant := by
    intro relation hr
    rw [hdesired, mem_relations hforest'] at hr
    have hrow := contains_of_mem_complete hafter ((mem_complete hafter).2 hr.2)
    exact ⟨hr.1, hgroups _ hrow.1, hgroups _ hrow.2⟩
  obtain ⟨delta, closure', hbetween, happly, hperm⟩ := between_applyTo hkeys
    (hdesired ▸ key_relations_nodup hforest') hactual (fun relation hr => (hdesiredRows relation hr).1)
    fun relation hr => (hdesiredRows relation hr).2
  exact ⟨delta, closure', _, hbetween, happly, hafter,
    hperm.trans (scope_perm_complete hbefore hscope hclosure hafter)⟩

end Change

/-! ## The tables -/

/-- Distinct group ids, and the closure that the planner computes from the groups. -/
structure ClosureConsistent (tables : Tables) : Prop where
  unique : (tables.organizationGroups.map OrganizationUnit.id).Nodup
  complete : ∃ rows, GroupClosurePlanner.complete tables.organizationGroups = .ok rows ∧
    tables.organizationGroupClosure.Perm rows

/-- The primary keys of the two tables. -/
structure KeysUnique (tables : Tables) : Prop where
  groups : (tables.organizationGroups.map OrganizationUnit.id).Nodup
  closure : (tables.organizationGroupClosure.map GroupClosureRelation.key).Nodup

section Tables

variable {tables tables' : Tables} {units units' : List OrganizationUnit} {unit : OrganizationUnit}

theorem ClosureConsistent.keysUnique (h : ClosureConsistent tables) : KeysUnique tables := by
  obtain ⟨rows, hrows, hperm⟩ := h.complete
  exact ⟨h.unique, (hperm.map _).nodup_iff.2 (key_complete_nodup hrows)⟩

theorem unitOf_perm (hn : (units.map OrganizationUnit.id).Nodup) (hperm : units'.Perm units) :
    unitOf units' = unitOf units := by
  funext id
  refine Option.ext fun unit => ?_
  rw [unitOf, unitOf, KeyedDelta.find_eq_some_iff hn,
    KeyedDelta.find_eq_some_iff ((hperm.map _).nodup_iff.2 hn), hperm.mem_iff]

theorem Forest.perm (h : Forest units) (hperm : units'.Perm units) : Forest units' where
  unique := (hperm.map _).nodup_iff.2 h.unique
  parents := by
    intro unit hunit parent hparent
    exact (hperm.map _).mem_iff.2 (h.parents unit (hperm.mem_iff.1 hunit) parent hparent)
  grounded := by
    intro id
    have hsame : parentOf units' = parentOf units := by
      funext id
      rw [parentOf, parentOf, unitOf_perm h.unique hperm]
    exact hsame ▸ h.grounded id

theorem complete_perm {rows : List GroupClosureRelation}
    (h : GroupClosurePlanner.complete units = .ok rows) (hperm : units'.Perm units) :
    ∃ rows', GroupClosurePlanner.complete units' = .ok rows' ∧ rows.Perm rows' := by
  have hactive : (activeUnits units').Perm (activeUnits units) := hperm.filter _
  obtain ⟨hforest, -⟩ := complete_eq_ok_iff.1 h
  have h' := complete_eq_ok_iff.2 ⟨hforest.perm hactive, rfl⟩
  refine ⟨_, h', ?_⟩
  rw [List.perm_ext_iff_of_nodup (key_complete_nodup h).of_map (key_complete_nodup h').of_map]
  intro relation
  have hsame : parentOf (activeUnits units') = parentOf (activeUnits units) := by
    funext id
    rw [parentOf, parentOf, unitOf_perm hforest.unique hactive]
  rw [mem_complete h, mem_complete h', hsame]
  exact and_congr_left fun _ => ((hactive.map _).mem_iff).symm

theorem overwrite_perm_replaceUnit (hn : (units.map OrganizationUnit.id).Nodup)
    (hunit : contains units unit.id) :
    (KeyedDelta.overwrite OrganizationUnit.id [unit] units).Perm (replaceUnit units unit) := by
  have hone : ([unit].map OrganizationUnit.id).Nodup := List.nodup_singleton _
  have hover : (KeyedDelta.overwrite OrganizationUnit.id [unit] units).Nodup := by
    refine List.Nodup.of_map OrganizationUnit.id ?_
    rw [KeyedDelta.map_key_overwrite]
    exact hn
  have hreplace : (replaceUnit units unit).Nodup := by
    refine List.Nodup.append (hn.of_map.filter _) (List.nodup_singleton unit) fun u hu he => ?_
    rw [List.mem_singleton.1 he, List.mem_filter, decide_eq_true_iff] at hu
    exact hu.2 rfl
  rw [List.perm_ext_iff_of_nodup hover hreplace]
  intro u
  rw [KeyedDelta.mem_overwrite hone, mem_replaceUnit, List.mem_singleton, List.map_singleton,
    List.mem_singleton, or_comm]
  exact or_congr_right (and_iff_left_of_imp fun he => he ▸ hunit)

theorem lift_eq_ok_iff {α : Type} {x : Except Thrown α} {value : α} :
    lift x = .ok value ↔ x = .ok value := by
  cases x with
  | ok a => exact ⟨fun h => congrArg Except.ok (Except.ok.inj h), fun h =>
      congrArg Except.ok (Except.ok.inj h)⟩
  | error thrown =>
      exact iff_of_false (by simp only [lift, reduceCtorEq, not_false_eq_true])
        (by simp only [reduceCtorEq, not_false_eq_true])

theorem synchronizeScope_consistent {groups : List OrganizationUnit} {scope : GroupClosureScope}
    (h : ClosureConsistent tables)
    (hscope : GroupClosurePlanner.forChange tables.organizationGroups unit = .ok scope)
    (hunique : (groups.map OrganizationUnit.id).Nodup)
    (hgroups : groups.Perm (replaceUnit tables.organizationGroups unit))
    (hwork : synchronizeScope tables groups scope = .ok tables') : ClosureConsistent tables' := by
  obtain ⟨rows, hrows, hperm⟩ := h.complete
  obtain ⟨delta, closure, after, hbetween, happly, hafter, hclosure⟩ :=
    applyTo_perm_complete (fun id hid => (hgroups.map _).mem_iff.2 hid) hrows hscope hperm
      (JdbcGroupClosureDao.readFor_perm tables.organizationGroupClosure (nodup_scope hscope))
  rw [synchronizeScope, JdbcGroupClosureDao.synchronize, hbetween] at hwork
  change (delta.applyTo groups tables.organizationGroupClosure >>= fun closure =>
    pure (Tables.mk groups closure)) = _ at hwork
  rw [happly] at hwork
  cases hwork
  obtain ⟨rows', hrows', hperm'⟩ := complete_perm hafter hgroups
  exact ⟨hunique, rows', hrows', hclosure.trans hperm'⟩

theorem insert_eq_ok {groups groups' : List OrganizationUnit}
    (h : JdbcGroupHierarchyDao.insert groups unit = .ok groups') :
    ¬ contains groups unit.id ∧ groups' = groups ++ [unit] := by
  rw [JdbcGroupHierarchyDao.insert] at h
  obtain ⟨-, h⟩ := CheckedSteps.check_bind_eq_ok_iff.1 h
  obtain ⟨hsatisfies, h⟩ := CheckedSteps.check_bind_eq_ok_iff.1 h
  rw [satisfies] at hsatisfies
  by_cases hconstraint : ¬ contains groups unit.id ∧ ParentConstraints groups unit
  · exact ⟨hconstraint.1, (Except.ok.inj h).symm⟩
  · rw [if_neg hconstraint] at hsatisfies
    cases hsatisfies

theorem update_eq_ok {groups groups' : List OrganizationUnit}
    (h : JdbcGroupHierarchyDao.update groups unit = .ok groups') :
    contains groups unit.id ∧ ParentConstraints groups unit ∧
      groups' = KeyedDelta.overwrite OrganizationUnit.id [unit] groups := by
  rw [JdbcGroupHierarchyDao.update] at h
  obtain ⟨-, h⟩ := CheckedSteps.check_bind_eq_ok_iff.1 h
  by_cases hmem : contains groups unit.id
  · rw [if_pos hmem] at h
    obtain ⟨hsatisfies, h⟩ := CheckedSteps.check_bind_eq_ok_iff.1 h
    rw [satisfies] at hsatisfies
    by_cases hconstraint : ParentConstraints groups unit
    · exact ⟨hmem, hconstraint, (Except.ok.inj h).symm⟩
    · rw [if_neg hconstraint] at hsatisfies
      cases hsatisfies
  · rw [if_neg hmem] at h
    cases h

theorem createWork_consistent (h : ClosureConsistent tables)
    (hwork : createWork unit tables = .ok tables') : ClosureConsistent tables' := by
  rw [createWork] at hwork
  obtain ⟨hnew, hwork⟩ := CheckedSteps.ite_error_eq_ok_iff.1 hwork
  obtain ⟨scope, hscope, hwork⟩ := CheckedSteps.bind_eq_ok_iff.1 hwork
  obtain ⟨groups, hinsert, hwork⟩ := CheckedSteps.bind_eq_ok_iff.1 hwork
  obtain ⟨-, rfl⟩ := insert_eq_ok hinsert
  refine synchronizeScope_consistent h (lift_eq_ok_iff.1 hscope) ?_ (List.Perm.of_eq ?_) hwork
  · rw [List.map_append]
    refine List.Nodup.append h.unique (List.nodup_singleton _) fun id hid hnewId => ?_
    exact hnew (List.mem_singleton.1 hnewId ▸ hid)
  · have hother : ∀ u ∈ tables.organizationGroups, u.id ≠ unit.id := by
      intro u hu he
      exact hnew (he ▸ List.mem_map_of_mem hu)
    rw [replaceUnit, List.filter_eq_self.2 fun u hu => decide_eq_true (hother u hu)]

theorem updateWork_consistent (h : ClosureConsistent tables)
    (hwork : updateWork unit tables = .ok tables') : ClosureConsistent tables' := by
  rw [updateWork] at hwork
  obtain ⟨hknown, hwork⟩ := CheckedSteps.ite_error_eq_ok_iff.1 hwork
  obtain ⟨scope, hscope, hwork⟩ := CheckedSteps.bind_eq_ok_iff.1 hwork
  obtain ⟨groups, hupdate, hwork⟩ := CheckedSteps.bind_eq_ok_iff.1 hwork
  obtain ⟨hmem, -, rfl⟩ := update_eq_ok hupdate
  refine synchronizeScope_consistent h (lift_eq_ok_iff.1 hscope) ?_
    (overwrite_perm_replaceUnit h.unique hmem) hwork
  rw [KeyedDelta.map_key_overwrite]
  exact h.unique

theorem seedMissing_unique {seeds groups groups' : List OrganizationUnit}
    (hn : (groups.map OrganizationUnit.id).Nodup)
    (h : JdbcGroupHierarchyDao.seedMissing groups seeds = .ok groups') :
    (groups'.map OrganizationUnit.id).Nodup := by
  rw [JdbcGroupHierarchyDao.seedMissing] at h
  induction seeds generalizing groups with
  | nil => exact Except.ok.inj h ▸ hn
  | cons seed seeds ih =>
      rw [List.foldlM_cons] at h
      obtain ⟨next, hnext, h⟩ := CheckedSteps.bind_eq_ok_iff.1 h
      refine ih ?_ h
      by_cases hmem : contains groups seed.id
      · rw [if_pos hmem] at hnext
        exact Except.ok.inj hnext ▸ hn
      · rw [if_neg hmem] at hnext
        obtain ⟨hnew, rfl⟩ := insert_eq_ok hnext
        rw [List.map_append]
        refine List.Nodup.append hn (List.nodup_singleton _) fun id hid hnewId => ?_
        exact hnew (List.mem_singleton.1 hnewId ▸ hid)

/-- The initialization plans the whole closure, whatever the table held. -/
theorem seedWork_consistent {seeds : List OrganizationUnit} (h : KeysUnique tables)
    (hwork : seedWork seeds tables = .ok tables') : ClosureConsistent tables' := by
  rw [seedWork] at hwork
  obtain ⟨groups, hseed, hwork⟩ := CheckedSteps.bind_eq_ok_iff.1 hwork
  obtain ⟨-, hwork⟩ := CheckedSteps.ite_error_eq_ok_iff.1 hwork
  obtain ⟨desired, hdesired, hwork⟩ := CheckedSteps.bind_eq_ok_iff.1 hwork
  rw [lift_eq_ok_iff] at hdesired
  have hactual : tables.organizationGroupClosure.Perm
      (tables.organizationGroupClosure.filter fun _ => decide True) := by
    simp only [decide_true, List.filter_true, List.Perm.refl]
  obtain ⟨delta, closure, hbetween, happly, hperm⟩ := between_applyTo (P := fun _ => True)
    h.closure (key_complete_nodup hdesired) hactual (fun _ _ => trivial)
    fun relation hr => contains_of_mem_complete hdesired hr
  rw [JdbcGroupClosureDao.synchronize, hbetween] at hwork
  change (delta.applyTo groups tables.organizationGroupClosure >>= fun closure =>
    pure (Tables.mk groups closure)) = _ at hwork
  rw [happly] at hwork
  cases hwork
  refine ⟨seedMissing_unique h.groups hseed, desired, hdesired, ?_⟩
  simpa only [not_true_eq_false, decide_false, List.filter_false, List.nil_append] using hperm

/-! ## Runs -/

/-- What committed work does to the tables, the whole call does, with all its attempts. -/
theorem attempts_spec {work : Tables → Except WorkError Tables} {Before After : Tables → Prop}
    (hwork : ∀ tables tables', Before tables → work tables = .ok tables' →
      Before tables' ∧ After tables') {environment : ℕ → Attempt} {left : ℕ}
    (h : Before tables) : Before (attempts work environment left tables).1 ∧
      ((attempts work environment left tables).2 = .ok () →
        After (attempts work environment left tables).1) := by
  have hthrown : ∀ (tables : Tables) (thrown : Thrown), Before tables → Before tables ∧
      ((.error thrown : Except Thrown Unit) = .ok () → After tables) := by
    intro tables thrown h
    refine ⟨h, fun hok => ?_⟩
    cases hok
  induction left generalizing tables with
  | zero => exact hthrown tables _ h
  | succ left ih =>
      have hretry : ∀ (decision : Option Thrown) (tables : Tables), Before tables →
          Before (orRetry decision (attempts work environment left) tables).1 ∧
            ((orRetry decision (attempts work environment left) tables).2 = .ok () →
              After (orRetry decision (attempts work environment left) tables).1) := by
        intro decision tables h
        cases decision with
        | some thrown => exact hthrown tables thrown h
        | none => exact ih h
      rw [attempts]
      cases (environment (MAX_ATTEMPTS - (left + 1))).outcome with
      | failsBeforeCommit failure => exact hretry _ tables h
      | completes =>
          cases hresult : work tables with
          | ok changed =>
              obtain ⟨hbefore, hafter⟩ := hwork tables changed h hresult
              exact ⟨hbefore, fun _ => hafter⟩
          | error error => cases error with
            | thrown thrown => exact hthrown tables thrown h
            | dataIntegrityViolation => exact hretry _ tables h
      | failsAfterCommit failure =>
          cases hresult : work tables with
          | ok changed => exact hretry _ changed (hwork tables changed h hresult).1
          | error error => cases error with
            | thrown thrown => exact hthrown tables thrown h
            | dataIntegrityViolation => exact hretry _ tables h

theorem execute_consistent {call : GroupHierarchyCall × (ℕ → Attempt)}
    (h : ClosureConsistent tables) : ClosureConsistent (execute tables call).1 := by
  have hwork : ∀ t t', ClosureConsistent t → call.1.work t = .ok t' →
      ClosureConsistent t' ∧ True := by
    intro t t' ht hwork
    refine ⟨?_, trivial⟩
    cases hcall : call.1 with
    | seed seeds =>
        rw [hcall] at hwork
        exact seedWork_consistent ht.keysUnique hwork
    | create unit =>
        rw [hcall] at hwork
        exact createWork_consistent ht hwork
    | update unit =>
        rw [hcall] at hwork
        exact updateWork_consistent ht hwork
  exact (attempts_spec hwork h).1

theorem seed_consistent {seeds : List OrganizationUnit} {environment : ℕ → Attempt}
    (h : KeysUnique tables)
    (hok : (execute tables (.seed seeds, environment)).2 = .ok ()) :
    ClosureConsistent (execute tables (.seed seeds, environment)).1 := by
  have hwork : ∀ t t', KeysUnique t → seedWork seeds t = .ok t' →
      KeysUnique t' ∧ ClosureConsistent t' := by
    intro t t' ht hwork
    have hconsistent := seedWork_consistent ht hwork
    exact ⟨hconsistent.keysUnique, hconsistent⟩
  exact (attempts_spec hwork h).2 hok

theorem final_consistent {calls : List (GroupHierarchyCall × (ℕ → Attempt))}
    (h : ClosureConsistent tables) : ClosureConsistent (Machines.final execute tables calls) := by
  induction calls generalizing tables with
  | nil => exact h
  | cons call calls ih => exact ih (execute_consistent h)

end Tables

/-- `rows` lists each active group with its ancestors and itself, once, at their distances. -/
structure ReflexiveTransitiveClosure (units : List OrganizationUnit)
    (rows : List GroupClosureRelation) : Prop where
  unique : (rows.map GroupClosureRelation.key).Nodup
  related : ∀ ancestor descendant,
    (∃ depth, (⟨ancestor, descendant, depth⟩ : GroupClosureRelation) ∈ rows) ↔
      contains (activeUnits units) descendant ∧
        Relation.ReflTransGen (fun child parent => parentOf (activeUnits units) child = some parent)
          descendant ancestor
  depth : ∀ relation ∈ rows,
    climb (parentOf (activeUnits units)) relation.depth relation.descendant = some relation.ancestor

theorem ClosureConsistent.reflexiveTransitiveClosure {tables : Tables} (h : ClosureConsistent tables) :
    ReflexiveTransitiveClosure tables.organizationGroups tables.organizationGroupClosure := by
  obtain ⟨rows, hrows, hperm⟩ := h.complete
  refine ⟨(hperm.map _).nodup_iff.2 (key_complete_nodup hrows), fun ancestor descendant => ?_,
    fun relation hr => ((mem_complete hrows).1 (hperm.mem_iff.1 hr)).2⟩
  simp only [hperm.mem_iff, mem_complete hrows]
  rw [exists_and_left, exists_climb_iff]

/-- The planned delta turns the closure of a hierarchy into that of the changed hierarchy; once the
repository has started, every run of its calls leaves the closure of the active groups. -/
theorem closure_follows_hierarchy :
    (∀ existing replacement before scope closure,
      GroupClosurePlanner.complete existing = .ok before →
      GroupClosurePlanner.forChange existing replacement = .ok scope → closure.Perm before →
      ∃ delta closure' after,
        GroupClosureDelta.between
          (closure.filter fun relation => relation.descendant ∈ scope.descendants)
          scope.desired = .ok delta ∧
        delta.applyTo (replaceUnit existing replacement) closure = .ok closure' ∧
        GroupClosurePlanner.complete (replaceUnit existing replacement) = .ok after ∧
        closure'.Perm after) ∧
    (∀ tables seeds environment calls, KeysUnique tables →
      (execute tables (.seed seeds, environment)).2 = .ok () →
      let tables' := Machines.final execute (execute tables (.seed seeds, environment)).1 calls
      ReflexiveTransitiveClosure tables'.organizationGroups tables'.organizationGroupClosure) := by
  constructor
  · intro existing replacement before scope closure hbefore hscope hclosure
    exact applyTo_perm_complete (fun id hid => hid) hbefore hscope hclosure (List.Perm.refl _)
  · intro tables seeds environment calls hkeys hok
    exact (final_consistent (seed_consistent hkeys hok)).reflexiveTransitiveClosure

def undisturbed : ℕ → Attempt := fun _ => ⟨.completes, false⟩

theorem closure_follows_hierarchy_sample :
    (∃ delta closure' after,
      GroupClosureDelta.between [] [⟨company.id, company.id, 0⟩, ⟨battalion.id, company.id, 1⟩] =
        .ok delta ∧
      delta.applyTo [battalion, company] [⟨battalion.id, battalion.id, 0⟩] = .ok closure' ∧
      GroupClosurePlanner.complete [battalion, company] = .ok after ∧ closure'.Perm after) ∧
    ReflexiveTransitiveClosure [battalion, company]
      [⟨battalion.id, battalion.id, 0⟩, ⟨battalion.id, company.id, 1⟩,
        ⟨company.id, company.id, 0⟩] := by
  have hscope : GroupClosurePlanner.forChange [battalion] company = .ok ⟨[company.id],
      [⟨company.id, company.id, 0⟩, ⟨battalion.id, company.id, 1⟩]⟩ := by decide
  have hbefore : GroupClosurePlanner.complete [battalion] =
      .ok [⟨battalion.id, battalion.id, 0⟩] := by decide
  have hstart : (execute ⟨[], []⟩ (.seed [battalion], undisturbed)).2 = .ok () := by decide
  have hfinal : Machines.final execute (execute ⟨[], []⟩ (.seed [battalion], undisturbed)).1
      [(.create company, undisturbed)] = ⟨[battalion, company], [⟨battalion.id, battalion.id, 0⟩,
        ⟨battalion.id, company.id, 1⟩, ⟨company.id, company.id, 0⟩]⟩ := by decide
  refine ⟨closure_follows_hierarchy.1 [battalion] company _ _ _ hbefore hscope (List.Perm.refl _), ?_⟩
  have hrun := closure_follows_hierarchy.2 ⟨[], []⟩ [battalion] undisturbed
    [(.create company, undisturbed)] ⟨List.nodup_nil, List.nodup_nil⟩ hstart
  rw [hfinal] at hrun
  exact hrun

end GcsSaker.Groups
