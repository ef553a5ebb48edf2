import GcsSaker.AuthModels
import GcsSaker.ClosureMaintenance

/-!
# Who sees which groups

In memory a group administrator sees the groups below his own, which `isAncestor` finds by climbing;
the queries of the database look for a row of `organization_group_closure`. The closure holds active
groups only, and `current` reads the active groups only, so there the two rules agree.
-/

namespace GcsSaker.Groups
open ParentMap

/-! ## The loop of `isAncestor` -/

/-- The answer of the loop if it comes within so many rounds. -/
def isAncestorWithin (units : List OrganizationUnit) (candidateAncestorId : GroupId) :
    ℕ → Option GroupId → Option Bool
  | _, none => some false
  | 0, some _ => none
  | rounds + 1, some current =>
    if current = candidateAncestorId then some true
    else isAncestorWithin units candidateAncestorId rounds (parentOf units current)

section Loop

variable {units : List OrganizationUnit} {ancestor id : GroupId} {rounds more : ℕ}

theorem isAncestorWithin_of_climb (h : climb (parentOf units) rounds id = none) :
    isAncestorWithin units ancestor rounds (some id) =
      some (isAncestorLoop units ancestor rounds (some id)) := by
  induction rounds generalizing id with
  | zero => cases h
  | succ rounds ih =>
      rw [isAncestorWithin, isAncestorLoop]
      by_cases hid : id = ancestor
      · rw [if_pos hid, if_pos hid]
      · rw [if_neg hid, if_neg hid]
        rw [climb_succ] at h
        cases hparent : parentOf units id with
        | none => rw [isAncestorWithin, isAncestorLoop]
        | some parent =>
            rw [hparent, Option.bind_some] at h
            exact ih h

/-- Rounds after the end of the line find nothing. -/
theorem isAncestorLoop_of_le (h : climb (parentOf units) rounds id = none) (hle : rounds ≤ more) :
    isAncestorLoop units ancestor more (some id) =
      isAncestorLoop units ancestor rounds (some id) := by
  rw [Bool.eq_iff_iff, isAncestorLoop_eq_true_iff, isAncestorLoop_eq_true_iff]
  constructor
  · rintro ⟨n, -, hn⟩
    refine ⟨n, ?_, hn⟩
    by_contra hout
    rw [climb_none_of_le h (Nat.le_of_not_lt hout)] at hn
    cases hn
  · rintro ⟨n, hlt, hn⟩
    exact ⟨n, by omega, hn⟩

end Loop

namespace OrganizationHierarchy

variable {hierarchy : OrganizationHierarchy}

theorem isAncestorWithin_eq {ancestor id : GroupId} {rounds : ℕ}
    (hrounds : hierarchy.units.length ≤ rounds) :
    isAncestorWithin hierarchy.units ancestor rounds (parentOf hierarchy.units id) =
      some (hierarchy.isAncestor ancestor id) := by
  rw [isAncestor]
  cases hparent : parentOf hierarchy.units id with
  | none => rw [isAncestorWithin, isAncestorLoop]
  | some parent =>
      obtain ⟨unit, hmem, -, hp⟩ := parentOf_eq_some hparent
      have hlength := climb_length hierarchy.valid.parents
        (hierarchy.valid.parents unit hmem parent hp) (hierarchy.valid.grounded parent)
      rw [isAncestorWithin_of_climb (climb_none_of_le hlength hrounds),
        isAncestorLoop_of_le hlength hrounds]

theorem isAncestor_irrefl (id : GroupId) : hierarchy.isAncestor id id = false := by
  rw [Bool.eq_false_iff, ne_eq, isAncestor_iff]
  rintro ⟨n, hn⟩
  exact (hierarchy.valid.grounded id).climb_ne (Nat.succ_pos n) hn

theorem isAncestor_trans {upper middle lower : GroupId}
    (hupper : hierarchy.isAncestor upper middle = true)
    (hlower : hierarchy.isAncestor middle lower = true) :
    hierarchy.isAncestor upper lower = true := by
  rw [isAncestor_iff] at hupper hlower ⊢
  obtain ⟨m, hm⟩ := hupper
  obtain ⟨n, hn⟩ := hlower
  refine ⟨n + 1 + m, ?_⟩
  rw [Nat.add_assoc (n + 1), climb_add, hn, Option.bind_some, hm]

end OrganizationHierarchy

/-! ## The active units -/

section Active

variable {units : List OrganizationUnit} {id ancestor : GroupId}

theorem parentOf_activeUnits (hunique : (units.map OrganizationUnit.id).Nodup)
    (hid : contains (activeUnits units) id) :
    parentOf (activeUnits units) id = parentOf units id := by
  obtain ⟨unit, hunit, rfl⟩ := List.mem_map.1 hid
  have hsub : (activeUnits units).Sublist units := List.filter_sublist
  rw [parentOf_of_mem (hunique.sublist (hsub.map _)) hunit,
    parentOf_of_mem hunique (mem_activeUnits.1 hunit).1]

theorem parentOf_of_activeUnits (hunique : (units.map OrganizationUnit.id).Nodup) (y p : GroupId)
    (h : parentOf (activeUnits units) y = some p) : parentOf units y = some p := by
  rw [← h, parentOf_activeUnits hunique (contains_of_parentOf h)]

/-- The active units of a forest are one exactly when no active unit has an inactive parent. -/
theorem Forest.activeUnits_iff (h : Forest units) : Forest (activeUnits units) ↔
    ∀ unit ∈ units, unit.status = .active →
      ∀ parent ∈ units, unit.parentId = some parent.id → parent.status = .active := by
  constructor
  · intro hactive unit hunit hstatus parent hparent hid
    have hkept := hactive.parents unit (mem_activeUnits.2 ⟨hunit, hstatus⟩) parent.id hid
    obtain ⟨unit', hunit', hsame⟩ := List.mem_map.1 hkept
    obtain ⟨hmem, hstatus'⟩ := mem_activeUnits.1 hunit'
    have heq : unit' = parent := List.inj_on_of_nodup_map h.unique hmem hparent hsame
    exact heq ▸ hstatus'
  · intro hparents
    have hsub : (activeUnits units).Sublist units := List.filter_sublist
    refine ⟨h.unique.sublist (hsub.map _), ?_, fun id => ?_⟩
    · intro unit hunit parent hparent
      obtain ⟨hmem, hstatus⟩ := mem_activeUnits.1 hunit
      obtain ⟨above, habove, rfl⟩ := List.mem_map.1 (h.parents unit hmem parent hparent)
      have hactive := hparents unit hmem hstatus above habove hparent
      exact List.mem_map_of_mem (mem_activeUnits.2 ⟨habove, hactive⟩)
    · exact (h.grounded id).anti (parentOf_of_activeUnits h.unique)

theorem climb_activeUnits (hunique : (units.map OrganizationUnit.id).Nodup)
    (hactive : Forest (activeUnits units)) (hid : contains (activeUnits units) id) (n : ℕ) :
    climb (parentOf units) n id = climb (parentOf (activeUnits units)) n id := by
  refine climb_congr (fun m a ha => ?_) n
  exact (parentOf_activeUnits hunique (contains_of_climb hactive.parents hid ha)).symm

theorem activeUnits_eq_self (h : ∀ unit ∈ units, unit.status = .active) :
    activeUnits units = units :=
  List.filter_eq_self.2 fun unit hunit => decide_eq_true (h unit hunit)

theorem activeUnits_activeUnits (units : List OrganizationUnit) :
    activeUnits (activeUnits units) = activeUnits units :=
  activeUnits_eq_self fun _ hunit => (mem_activeUnits.1 hunit).2

end Active

/-! ## Ancestors and rows -/

section Rows

variable {units : List OrganizationUnit} {hierarchy : OrganizationHierarchy}
variable {rows : List GroupClosureRelation} {ancestor descendant : GroupId}

/-- A row above the diagonal is an ancestor of an active group. -/
theorem mem_complete_iff_isAncestor (hof : OrganizationHierarchy.of units = .ok hierarchy)
    (hrows : GroupClosurePlanner.complete units = .ok rows) :
    (∃ depth ≥ 1, (⟨ancestor, descendant, depth⟩ : GroupClosureRelation) ∈ rows) ↔
      contains (activeUnits units) descendant ∧
        hierarchy.isAncestor ancestor descendant = true := by
  obtain rfl := OrganizationHierarchy.of_eq_ok_iff.1 hof
  obtain ⟨hactive, -⟩ := complete_eq_ok_iff.1 hrows
  rw [OrganizationHierarchy.isAncestor_iff]
  simp only [mem_complete hrows]
  constructor
  · rintro ⟨depth, hdepth, hid, hup⟩
    obtain ⟨n, rfl⟩ := Nat.exists_eq_succ_of_ne_zero (Nat.ne_of_gt hdepth)
    exact ⟨hid, n, (climb_activeUnits hierarchy.valid.unique hactive hid _).trans hup⟩
  · rintro ⟨hid, n, hup⟩
    refine ⟨n + 1, Nat.succ_le_succ (Nat.zero_le n), hid, ?_⟩
    exact (climb_activeUnits hierarchy.valid.unique hactive hid _).symm.trans hup

theorem contains_of_isAncestor (h : hierarchy.isAncestor ancestor descendant = true) :
    contains hierarchy.units descendant := by
  rw [OrganizationHierarchy.isAncestor_iff] at h
  obtain ⟨n, hn⟩ := h
  rw [climb_succ, Option.bind_eq_some_iff] at hn
  obtain ⟨parent, hparent, -⟩ := hn
  exact contains_of_parentOf hparent

theorem isAncestor_iff_mem_complete
    (hof : OrganizationHierarchy.of (activeUnits units) = .ok hierarchy)
    (hrows : GroupClosurePlanner.complete units = .ok rows) :
    hierarchy.isAncestor ancestor descendant = true ↔
      ∃ depth ≥ 1, (⟨ancestor, descendant, depth⟩ : GroupClosureRelation) ∈ rows := by
  have hactive : GroupClosurePlanner.complete (activeUnits units) = .ok rows := by
    rw [complete_eq_ok_iff, activeUnits_activeUnits]
    exact complete_eq_ok_iff.1 hrows
  rw [mem_complete_iff_isAncestor hof hactive, activeUnits_activeUnits]
  refine (and_iff_right_of_imp fun h => ?_).symm
  exact OrganizationHierarchy.of_eq_ok_iff.1 hof ▸ contains_of_isAncestor h

end Rows

/-! ## The two rules -/

/-- `hierarchy` is what `current()` gives where there is a repository of groups. -/
def InMemoryOperationalReadRepository.canRead
    (hierarchy : Option (Except Thrown OrganizationHierarchy)) (principal : AuthenticatedPrincipal)
    (groupId : GroupId) : Except Thrown Bool :=
  if principal.role = .admin ∨ principal.groupId = groupId then .ok true
  else if principal.role = .groupAdmin then
    match hierarchy with
    | none => .ok false
    | some current => current.map fun hierarchy => hierarchy.isAncestor principal.groupId groupId
  else .ok false

/-- The condition of the query on a row of the group `groupId`. -/
def OperationalReadSql.selectTelemetryBase (organizationGroupClosure : List GroupClosureRelation)
    (principal : AuthenticatedPrincipal) (groupId : GroupId) : Bool :=
  decide (groupId.value = principal.groupId.value) || decide (principal.role = .admin) ||
    (decide (principal.role = .groupAdmin) && organizationGroupClosure.any fun c =>
      c.ancestor.value = principal.groupId.value && c.descendant.value = groupId.value)

def JdbcOrganizationHierarchyRepository.current (tables : Tables) :
    Except Thrown OrganizationHierarchy :=
  OrganizationHierarchy.of (activeUnits tables.organizationGroups)

section Rules

variable {units : List OrganizationUnit} {hierarchy : OrganizationHierarchy}
variable {rows closure : List GroupClosureRelation} {tables : Tables}

theorem canRead_eq_selectTelemetryBase
    (hof : OrganizationHierarchy.of (activeUnits units) = .ok hierarchy)
    (hrows : GroupClosurePlanner.complete units = .ok rows) (hclosure : closure.Perm rows)
    (principal : AuthenticatedPrincipal) (groupId : GroupId) :
    InMemoryOperationalReadRepository.canRead (some (.ok hierarchy)) principal groupId =
      .ok (OperationalReadSql.selectTelemetryBase closure principal groupId) := by
  rw [InMemoryOperationalReadRepository.canRead, OperationalReadSql.selectTelemetryBase]
  by_cases hall : principal.role = .admin ∨ principal.groupId = groupId
  · rw [if_pos hall]
    rcases hall with hadmin | hown
    · rw [decide_eq_true hadmin, Bool.or_true, Bool.true_or]
    · rw [decide_eq_true (congrArg GroupId.value hown.symm), Bool.true_or, Bool.true_or]
  · rw [if_neg hall]
    obtain ⟨hadmin, hother⟩ := not_or.1 hall
    have hvalue : groupId.value ≠ principal.groupId.value := fun he => hother (GroupId.ext he.symm)
    rw [decide_eq_false hvalue, decide_eq_false hadmin, Bool.false_or, Bool.false_or]
    by_cases hrole : principal.role = .groupAdmin
    · rw [if_pos hrole, decide_eq_true hrole, Bool.true_and]
      refine congrArg Except.ok (Bool.eq_iff_iff.2 ?_)
      rw [isAncestor_iff_mem_complete hof hrows, List.any_eq_true]
      simp only [Bool.and_eq_true, decide_eq_true_eq, hclosure.mem_iff]
      constructor
      · rintro ⟨depth, -, hrow⟩
        exact ⟨_, hrow, rfl, rfl⟩
      · rintro ⟨⟨ancestor, descendant, depth⟩, hrow, hancestor, hdescendant⟩
        obtain rfl := GroupId.ext hancestor
        obtain rfl := GroupId.ext hdescendant
        refine ⟨depth, Nat.one_le_iff_ne_zero.2 fun hzero => ?_, hrow⟩
        subst hzero
        exact hother (Option.some.inj ((mem_complete hrows).1 hrow).2).symm
    · rw [if_neg hrole, decide_eq_false hrole, Bool.false_and]

/-- On the stored hierarchy both rules let a principal read the same groups. -/
theorem ClosureConsistent.canRead_current (h : ClosureConsistent tables)
    (hcurrent : JdbcOrganizationHierarchyRepository.current tables = .ok hierarchy)
    (principal : AuthenticatedPrincipal) (groupId : GroupId) :
    InMemoryOperationalReadRepository.canRead (some (.ok hierarchy)) principal groupId =
      .ok (OperationalReadSql.selectTelemetryBase tables.organizationGroupClosure principal
        groupId) := by
  obtain ⟨rows, hrows, hperm⟩ := h.complete
  exact canRead_eq_selectTelemetryBase hcurrent hrows hperm principal groupId

end Rules

/-! ## The whole -/

/-- `isAncestor` ends and is a strict order on every collection that `of` accepts. `complete` holds
it for the active groups, and it returns where no active group has an inactive parent. On what
`current` reads after any run of the repository both rules grant the same groups. -/
theorem isAncestor_closure :
    (∀ units hierarchy, OrganizationHierarchy.of units = .ok hierarchy →
      (∀ ancestor id, ∃ enough, ∀ rounds ≥ enough,
        isAncestorWithin units ancestor rounds (parentOf units id) =
          some (hierarchy.isAncestor ancestor id)) ∧
      (∀ id, hierarchy.isAncestor id id = false) ∧
      (∀ upper middle lower, hierarchy.isAncestor upper middle = true →
        hierarchy.isAncestor middle lower = true → hierarchy.isAncestor upper lower = true) ∧
      ((∃ rows, GroupClosurePlanner.complete units = .ok rows) ↔
        ∀ unit ∈ units, unit.status = .active →
          ∀ parent ∈ units, unit.parentId = some parent.id → parent.status = .active) ∧
      (∀ rows, GroupClosurePlanner.complete units = .ok rows → ∀ ancestor descendant,
        (∃ depth ≥ 1, (⟨ancestor, descendant, depth⟩ : GroupClosureRelation) ∈ rows) ↔
          contains (activeUnits units) descendant ∧
            hierarchy.isAncestor ancestor descendant = true) ∧
      ((∀ unit ∈ units, unit.status = .active) →
        ∃ rows, GroupClosurePlanner.complete units = .ok rows ∧
          (∀ ancestor descendant, hierarchy.isAncestor ancestor descendant = true ↔
            ∃ depth ≥ 1, (⟨ancestor, descendant, depth⟩ : GroupClosureRelation) ∈ rows) ∧
          ∀ closure, closure.Perm rows → ∀ principal groupId,
            InMemoryOperationalReadRepository.canRead (some (.ok hierarchy)) principal groupId =
              .ok (OperationalReadSql.selectTelemetryBase closure principal groupId))) ∧
    (∀ tables seeds environment calls hierarchy, KeysUnique tables →
      (execute tables (.seed seeds, environment)).2 = .ok () →
      let tables' := Machines.final execute (execute tables (.seed seeds, environment)).1 calls
      JdbcOrganizationHierarchyRepository.current tables' = .ok hierarchy →
      ∀ principal groupId,
        InMemoryOperationalReadRepository.canRead (some (.ok hierarchy)) principal groupId =
          .ok (OperationalReadSql.selectTelemetryBase tables'.organizationGroupClosure principal
            groupId)) := by
  constructor
  · intro units hierarchy hof
    obtain rfl := OrganizationHierarchy.of_eq_ok_iff.1 hof
    refine ⟨fun ancestor id => ⟨_, fun rounds => OrganizationHierarchy.isAncestorWithin_eq⟩,
      OrganizationHierarchy.isAncestor_irrefl,
      fun upper middle lower => OrganizationHierarchy.isAncestor_trans, ?_,
      fun rows hrows ancestor descendant => mem_complete_iff_isAncestor hof hrows, ?_⟩
    · rw [← hierarchy.valid.toForest.activeUnits_iff]
      constructor
      · rintro ⟨rows, hrows⟩
        exact (complete_eq_ok_iff.1 hrows).1
      · intro hforest
        exact ⟨_, complete_eq_ok_iff.2 ⟨hforest, rfl⟩⟩
    · intro hall
      have hself : activeUnits hierarchy.units = hierarchy.units := activeUnits_eq_self hall
      have hrows := complete_eq_ok_iff.2 ⟨hself.symm ▸ hierarchy.valid.toForest, rfl⟩
      have hactive : OrganizationHierarchy.of (activeUnits hierarchy.units) = .ok hierarchy := by
        rw [hself, hof]
      exact ⟨_, hrows, fun ancestor descendant => isAncestor_iff_mem_complete hactive hrows,
        fun closure hclosure => canRead_eq_selectTelemetryBase hactive hrows hclosure⟩
  · intro tables seeds environment calls hierarchy hkeys hok tables' hcurrent
    exact (final_consistent (seed_consistent hkeys hok)).canRead_current hcurrent

theorem isAncestor_closure_sample :
    (∃ hierarchy, OrganizationHierarchy.of [battalion, company] = .ok hierarchy ∧
      hierarchy.isAncestor battalion.id company.id = true ∧
      ∃ rows, GroupClosurePlanner.complete [battalion, company] = .ok rows ∧
        ∃ depth ≥ 1, (⟨battalion.id, company.id, depth⟩ : GroupClosureRelation) ∈ rows) ∧
    ∃ hierarchy, JdbcOrganizationHierarchyRepository.current ⟨[battalion, company],
        [⟨battalion.id, battalion.id, 0⟩, ⟨battalion.id, company.id, 1⟩,
          ⟨company.id, company.id, 0⟩]⟩ = .ok hierarchy ∧
      ∀ principal groupId,
        InMemoryOperationalReadRepository.canRead (some (.ok hierarchy)) principal groupId =
          .ok (OperationalReadSql.selectTelemetryBase [⟨battalion.id, battalion.id, 0⟩,
            ⟨battalion.id, company.id, 1⟩, ⟨company.id, company.id, 0⟩] principal groupId) := by
  have hvalid : validate [battalion, company] = .ok () := by decide
  obtain ⟨hierarchy, hof⟩ :=
    OrganizationHierarchy.exists_of_eq_ok_iff.2 (validate_eq_ok_iff.1 hvalid)
  have hup : hierarchy.isAncestor battalion.id company.id = true := by
    rw [OrganizationHierarchy.isAncestor, OrganizationHierarchy.of_eq_ok_iff.1 hof]
    decide
  have hactive : ∀ unit ∈ [battalion, company], unit.status = .active := by decide
  have hstart : (execute ⟨[], []⟩ (.seed [battalion], undisturbed)).2 = .ok () := by decide
  have hfinal : Machines.final execute (execute ⟨[], []⟩ (.seed [battalion], undisturbed)).1
      [(.create company, undisturbed)] = ⟨[battalion, company], [⟨battalion.id, battalion.id, 0⟩,
        ⟨battalion.id, company.id, 1⟩, ⟨company.id, company.id, 0⟩]⟩ := by decide
  constructor
  · obtain ⟨-, -, -, -, -, hall⟩ := isAncestor_closure.1 _ hierarchy hof
    obtain ⟨rows, hrows, hiff, -⟩ := hall hactive
    exact ⟨hierarchy, hof, hup, rows, hrows, (hiff _ _).1 hup⟩
  · have hrun := isAncestor_closure.2 ⟨[], []⟩ [battalion] undisturbed
      [(.create company, undisturbed)] hierarchy ⟨List.nodup_nil, List.nodup_nil⟩ hstart
    rw [hfinal] at hrun
    have hcurrent : JdbcOrganizationHierarchyRepository.current ⟨[battalion, company],
        [⟨battalion.id, battalion.id, 0⟩, ⟨battalion.id, company.id, 1⟩,
          ⟨company.id, company.id, 0⟩]⟩ = .ok hierarchy := hof
    exact ⟨hierarchy, hcurrent, hrun hcurrent⟩

def inactiveCompany : OrganizationUnit := { company with status := .inactive }

/-- `of` accepts an inactive company and puts it below its battalion; the closure leaves it out. -/
theorem isAncestor_closure_inactive :
    ¬ ∀ units hierarchy, OrganizationHierarchy.of units = .ok hierarchy →
      ∃ rows, GroupClosurePlanner.complete units = .ok rows ∧
        ∀ ancestor descendant, hierarchy.isAncestor ancestor descendant = true ↔
          ∃ depth ≥ 1, (⟨ancestor, descendant, depth⟩ : GroupClosureRelation) ∈ rows := by
  intro h
  have hvalid : validate [battalion, inactiveCompany] = .ok () := by decide
  obtain ⟨hierarchy, hof⟩ :=
    OrganizationHierarchy.exists_of_eq_ok_iff.2 (validate_eq_ok_iff.1 hvalid)
  have hup : hierarchy.isAncestor battalion.id inactiveCompany.id = true := by
    rw [OrganizationHierarchy.isAncestor, OrganizationHierarchy.of_eq_ok_iff.1 hof]
    decide
  have hcomplete : GroupClosurePlanner.complete [battalion, inactiveCompany] =
      .ok [⟨battalion.id, battalion.id, 0⟩] := by decide
  obtain ⟨rows, hrows, hiff⟩ := h _ hierarchy hof
  obtain rfl := Except.ok.inj (hcomplete.symm.trans hrows)
  obtain ⟨depth, hdepth, hrow⟩ := (hiff _ _).1 hup
  rw [List.mem_singleton, GroupClosureRelation.mk.injEq] at hrow
  rw [hrow.2.2] at hdepth
  exact Nat.not_succ_le_zero 0 hdepth

end GcsSaker.Groups
