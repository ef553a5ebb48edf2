import GcsSaker.GroupHierarchy
import Mathlib.Data.List.Sort

/-!
# The plan of a closure change

`organization_group_closure` holds one row for each active group and each of its ancestors, with the
distance between them. For a changed group `GroupClosurePlanner.forChange` plans the rows of the
groups that are or were below it, and `GroupClosureDelta.between` compares them with those stored.
A Kotlin set is a list without repetitions, in the order of insertion.
-/

namespace GcsSaker.Groups
open ParentMap

structure GroupClosureRelation where
  ancestor : GroupId
  descendant : GroupId
  depth : ℕ
  deriving DecidableEq

def GroupClosureRelation.key (relation : GroupClosureRelation) : GroupId × GroupId :=
  (relation.ancestor, relation.descendant)

structure GroupClosureScope where
  descendants : List GroupId
  desired : List GroupClosureRelation
  deriving DecidableEq

structure GroupClosureDelta where
  removed : List GroupClosureRelation
  inserted : List GroupClosureRelation
  updated : List GroupClosureRelation
  deriving DecidableEq

/-- `ordered` compares the ancestors, then the descendants. -/
def ordered (relation relation' : GroupClosureRelation) : Bool :=
  if relation.ancestor = relation'.ancestor then
    JvmText.notAfter relation.descendant.value relation'.descendant.value
  else JvmText.notAfter relation.ancestor.value relation'.ancestor.value

def GroupClosureDelta.between (actual desired : List GroupClosureRelation) :
    Except Thrown GroupClosureDelta :=
  if (actual.map GroupClosureRelation.key).Nodup ∧ (desired.map GroupClosureRelation.key).Nodup then
    .ok {
      removed := (KeyedDelta.removed GroupClosureRelation.key actual desired).insertionSort (ordered · ·)
      inserted := (KeyedDelta.inserted GroupClosureRelation.key actual desired).insertionSort (ordered · ·)
      updated := (KeyedDelta.updated GroupClosureRelation.key actual desired).insertionSort (ordered · ·) }
  else .error (.invalidContract "group_closure_duplicate"
    "group closure contains duplicate identities")

/-! ## The planner -/

def add {α : Type} [DecidableEq α] (set : List α) (x : α) : List α :=
  if x ∈ set then set else set ++ [x]

def activeUnits (units : List OrganizationUnit) : List OrganizationUnit :=
  units.filter fun unit => unit.status = .active

def activeGroups (units : List OrganizationUnit) : Except Thrown (List OrganizationUnit) :=
  if activeUnits units = [] then .ok []
  else match OrganizationHierarchy.of (activeUnits units) with
    | .ok _ => .ok (activeUnits units)
    | .error thrown =>
      if thrown.isIllegalArgument then
        .error (.invalidContract "group_hierarchy_invalid" "active group hierarchy is invalid")
      else .error thrown

def childrenOf (units : List OrganizationUnit) (id : GroupId) : List GroupId :=
  (units.filter fun unit => unit.parentId = some id).map OrganizationUnit.id

/-- Every group enters `pending` at most once as a child, which bounds the rounds. -/
def descendantsLoop (units : List OrganizationUnit) :
    ℕ → List GroupId → List GroupId → List GroupId
  | 0, _, affected => affected
  | _ + 1, [], affected => affected
  | fuel + 1, current :: pending, affected =>
    if current ∈ affected then descendantsLoop units fuel pending affected
    else descendantsLoop units fuel (pending ++ childrenOf units current) (affected ++ [current])

def descendants (units : List OrganizationUnit) (root : GroupId) : List GroupId :=
  if contains units root then descendantsLoop units (units.length + 1) [root] [] else []

def relationsLoop (units : List OrganizationUnit) (descendant : GroupId) :
    ℕ → Option GroupId → ℕ → List GroupClosureRelation → List GroupClosureRelation
  | _, none, _, result => result
  | 0, some _, _, result => result
  | fuel + 1, some ancestor, depth, result =>
    relationsLoop units descendant fuel (parentOf units ancestor) (depth + 1)
      (add result ⟨ancestor, descendant, depth⟩)

def relations (units : List OrganizationUnit) (descendants : List GroupId) :
    List GroupClosureRelation :=
  descendants.foldl (fun result descendant =>
    if contains units descendant then
      relationsLoop units descendant units.length (some descendant) 0 result
    else result) []

def GroupClosurePlanner.complete (units : List OrganizationUnit) :
    Except Thrown (List GroupClosureRelation) := do
  let active ← activeGroups units
  return relations active (active.map OrganizationUnit.id)

/-- The units with one of them replaced, or with a new one. -/
def replaceUnit (existing : List OrganizationUnit) (replacement : OrganizationUnit) :
    List OrganizationUnit :=
  (existing.filter fun unit => unit.id ≠ replacement.id) ++ [replacement]

def GroupClosurePlanner.forChange (existing : List OrganizationUnit)
    (replacement : OrganizationUnit) : Except Thrown GroupClosureScope := do
  let before ← activeGroups existing
  let after ← activeGroups (replaceUnit existing replacement)
  let affected := (descendants after replacement.id).foldl add (descendants before replacement.id)
  return ⟨affected, relations after affected⟩

/-! ## What the planner computes -/

theorem mem_add {α : Type} [DecidableEq α] {set : List α} {x y : α} :
    y ∈ add set x ↔ y ∈ set ∨ y = x := by
  by_cases hx : x ∈ set
  · rw [add, if_pos hx]
    exact ⟨Or.inl, fun h => h.elim id fun he => he ▸ hx⟩
  · rw [add, if_neg hx, List.mem_append, List.mem_singleton]

theorem mem_foldl_add {α : Type} [DecidableEq α] {xs set : List α} {y : α} :
    y ∈ xs.foldl add set ↔ y ∈ set ∨ y ∈ xs := by
  induction xs generalizing set with
  | nil => simp only [List.foldl_nil, List.not_mem_nil, or_false]
  | cons x xs ih => rw [List.foldl_cons, ih, mem_add, List.mem_cons, or_assoc]

theorem mem_activeUnits {units : List OrganizationUnit} {unit : OrganizationUnit} :
    unit ∈ activeUnits units ↔ unit ∈ units ∧ unit.status = .active := by
  rw [activeUnits, List.mem_filter, decide_eq_true_iff]

theorem contains_of_active {units : List OrganizationUnit} {id : GroupId}
    (h : contains (activeUnits units) id) : contains units id := by
  obtain ⟨unit, hunit, rfl⟩ := List.mem_map.1 h
  exact List.mem_map_of_mem (mem_activeUnits.1 hunit).1

theorem Forest.nil : Forest [] where
  unique := List.nodup_nil
  parents := fun _ hu => (List.not_mem_nil hu).elim
  grounded := fun _ => grounded_of_parent_eq_none rfl

theorem activeGroups_eq_ok_iff {units active : List OrganizationUnit} :
    activeGroups units = .ok active ↔ active = activeUnits units ∧ Forest active := by
  rw [activeGroups]
  by_cases hempty : activeUnits units = []
  · rw [if_pos hempty, hempty]
    constructor
    · intro h
      cases h
      exact ⟨rfl, Forest.nil⟩
    · rintro ⟨rfl, -⟩
      rfl
  · rw [if_neg hempty]
    cases hof : OrganizationHierarchy.of (activeUnits units) with
    | ok hierarchy =>
        have hvalid := OrganizationHierarchy.exists_of_eq_ok_iff.1 ⟨hierarchy, hof⟩
        constructor
        · intro h
          cases h
          exact ⟨rfl, hvalid.toForest⟩
        · rintro ⟨rfl, -⟩
          rfl
    | error thrown =>
        refine iff_of_false ?_ ?_
        · by_cases hillegal : thrown.isIllegalArgument = true
          · simp only [hillegal, if_true, reduceCtorEq, not_false_eq_true]
          · simp only [hillegal, Bool.false_eq_true, if_false, reduceCtorEq, not_false_eq_true]
        · rintro ⟨rfl, hforest⟩
          obtain ⟨hierarchy, hok⟩ :=
            OrganizationHierarchy.exists_of_eq_ok_iff.2 ⟨hforest, hempty⟩
          rw [hof] at hok
          cases hok

theorem mem_childrenOf {units : List OrganizationUnit}
    (hn : (units.map OrganizationUnit.id).Nodup) {id child : GroupId} :
    child ∈ childrenOf units id ↔ parentOf units child = some id := by
  rw [childrenOf, List.mem_map]
  constructor
  · rintro ⟨unit, hunit, rfl⟩
    rw [List.mem_filter, decide_eq_true_iff] at hunit
    rw [parentOf_of_mem hn hunit.1, hunit.2]
  · intro h
    obtain ⟨unit, hmem, rfl, hparent⟩ := parentOf_eq_some h
    exact ⟨unit, List.mem_filter.2 ⟨hmem, decide_eq_true hparent⟩, rfl⟩

/-- `id` is a group at or below `root`. -/
def Below (units : List OrganizationUnit) (id root : GroupId) : Prop :=
  contains units id ∧ ∃ n, climb (parentOf units) n id = some root

section Descendants

variable {units : List OrganizationUnit}

theorem contains_of_parentOf {id parent : GroupId} (h : parentOf units id = some parent) :
    contains units id := by
  obtain ⟨unit, hmem, rfl, -⟩ := parentOf_eq_some h
  exact List.mem_map_of_mem hmem

theorem Below.refl {id : GroupId} (h : contains units id) : Below units id id := ⟨h, 0, rfl⟩

/-- A group below `root` is `root`, or it is below a child of `root`. -/
theorem below_iff (hn : (units.map OrganizationUnit.id).Nodup) {id root : GroupId}
    (hroot : contains units root) :
    Below units id root ↔ id = root ∨ ∃ child ∈ childrenOf units root, Below units id child := by
  constructor
  · rintro ⟨hid, n, hup⟩
    cases n with
    | zero => exact Or.inl (Option.some.inj hup)
    | succ n =>
        rw [climb_succ_eq, Option.bind_eq_some_iff] at hup
        obtain ⟨child, hchild, hparent⟩ := hup
        exact Or.inr ⟨child, (mem_childrenOf hn).2 hparent, hid, n, hchild⟩
  · rintro (rfl | ⟨child, hchild, hid, n, hup⟩)
    · exact Below.refl hroot
    · refine ⟨hid, n + 1, ?_⟩
      rw [climb_succ_eq, hup, Option.bind_some, (mem_childrenOf hn).1 hchild]

/-- What is below a group that was taken is taken, or below one that waits. -/
theorem below_of_closed (hn : (units.map OrganizationUnit.id).Nodup)
    {pending affected : List GroupId}
    (hclosed : ∀ id ∈ affected, ∀ child ∈ childrenOf units id, child ∈ affected ∨ child ∈ pending)
    {id root : GroupId} (hroot : root ∈ affected) (h : Below units id root) :
    id ∈ affected ∨ ∃ next ∈ pending, Below units id next := by
  obtain ⟨hid, n, hup⟩ := h
  induction n generalizing root with
  | zero => exact Or.inl (Option.some.inj hup ▸ hroot)
  | succ n ih =>
      rw [climb_succ_eq, Option.bind_eq_some_iff] at hup
      obtain ⟨child, hchild, hparent⟩ := hup
      cases hclosed root hroot child ((mem_childrenOf hn).2 hparent) with
      | inl hold => exact ih hold hchild
      | inr hnext => exact Or.inr ⟨child, hnext, hid, n, hchild⟩

/-- The units that can still enter `pending`. -/
def unexplored (units : List OrganizationUnit) (affected : List GroupId) : ℕ :=
  units.countP fun unit => unit.parentId ∉ affected.map some

theorem unexplored_append (affected : List GroupId) {id : GroupId} (hid : id ∉ affected) :
    unexplored units (affected ++ [id]) + (childrenOf units id).length =
      unexplored units affected := by
  rw [unexplored, unexplored, childrenOf, List.length_map, ← List.countP_eq_length_filter]
  induction units with
  | nil => rfl
  | cons unit units ih =>
      have hnot : some id ∉ affected.map some := by
        rw [List.mem_map]
        rintro ⟨a, ha, he⟩
        exact hid (Option.some.inj he ▸ ha)
      have hsplit : (unit.parentId ∉ (affected ++ [id]).map some) ↔
          unit.parentId ∉ affected.map some ∧ unit.parentId ≠ some id := by
        rw [List.map_append, List.mem_append, not_or, List.map_singleton, List.mem_singleton]
      simp only [List.countP_cons, hsplit, decide_eq_true_eq]
      by_cases hunit : unit.parentId = some id
      · rw [if_neg fun h => h.2 hunit, if_pos hunit, if_pos (hunit ▸ hnot)]
        omega
      · by_cases hold : unit.parentId ∈ affected.map some
        · rw [if_neg fun h => h.1 hold, if_neg hunit, if_neg (not_not.2 hold)]
          omega
        · rw [if_pos ⟨hold, hunit⟩, if_neg hunit, if_pos hold]
          omega

theorem mem_descendantsLoop (hn : (units.map OrganizationUnit.id).Nodup) {fuel : ℕ}
    {pending affected : List GroupId} (hfuel : pending.length + unexplored units affected ≤ fuel)
    (hpending : ∀ id ∈ pending, contains units id)
    (hclosed : ∀ id ∈ affected, ∀ child ∈ childrenOf units id, child ∈ affected ∨ child ∈ pending)
    {id : GroupId} : id ∈ descendantsLoop units fuel pending affected ↔
      id ∈ affected ∨ ∃ next ∈ pending, Below units id next := by
  induction fuel generalizing pending affected with
  | zero =>
      have hempty : pending = [] := List.eq_nil_of_length_eq_zero (by omega)
      subst hempty
      simp only [descendantsLoop, List.not_mem_nil, false_and, exists_false, or_false]
  | succ fuel ih =>
      cases pending with
      | nil => simp only [descendantsLoop, List.not_mem_nil, false_and, exists_false, or_false]
      | cons current pending =>
          rw [List.forall_mem_cons] at hpending
          rw [List.length_cons] at hfuel
          rw [descendantsLoop, List.exists_mem_cons_iff]
          by_cases hcurrent : current ∈ affected
          · have hstill : ∀ id ∈ affected, ∀ child ∈ childrenOf units id,
                child ∈ affected ∨ child ∈ pending := by
              intro id hid child hchild
              rcases hclosed id hid child hchild with h | h
              · exact Or.inl h
              · rcases List.mem_cons.1 h with rfl | h
                · exact Or.inl hcurrent
                · exact Or.inr h
            rw [if_pos hcurrent, ih (by omega) hpending.2 hstill]
            constructor
            · exact Or.imp_right Or.inr
            · rintro (h | h | h)
              · exact Or.inl h
              · exact below_of_closed hn hstill hcurrent h
              · exact Or.inr h
          · have hmeasure : unexplored units (affected ++ [current]) +
                (childrenOf units current).length = unexplored units affected :=
              unexplored_append affected hcurrent
            rw [if_neg hcurrent, ih ?_ ?_ ?_]
            · rw [below_iff hn hpending.1]
              simp only [List.mem_append, List.mem_singleton, or_and_right, exists_or]
              constructor
              · rintro ((h | h) | h | h)
                · exact Or.inl h
                · exact Or.inr (Or.inl (Or.inl h))
                · exact Or.inr (Or.inr h)
                · exact Or.inr (Or.inl (Or.inr h))
              · rintro (h | (h | h) | h)
                · exact Or.inl (Or.inl h)
                · exact Or.inl (Or.inr h)
                · exact Or.inr (Or.inr h)
                · exact Or.inr (Or.inl h)
            · rw [List.length_append]
              omega
            · intro id hid
              rcases List.mem_append.1 hid with hid | hid
              · exact hpending.2 id hid
              · exact contains_of_parentOf ((mem_childrenOf hn).1 hid)
            · intro id hid child hchild
              rcases List.mem_append.1 hid with hid | hid
              · rcases hclosed id hid child hchild with h | h
                · exact Or.inl (List.mem_append_left _ h)
                · rcases List.mem_cons.1 h with rfl | h
                  · exact Or.inl (List.mem_append_right _ List.mem_cons_self)
                  · exact Or.inr (List.mem_append_left _ h)
              · rw [List.mem_singleton.1 hid] at hchild
                exact Or.inr (List.mem_append_right _ hchild)

theorem mem_descendants (hforest : Forest units) {id root : GroupId} :
    id ∈ descendants units root ↔ Below units id root := by
  rw [descendants]
  by_cases hroot : contains units root
  · rw [if_pos hroot, mem_descendantsLoop hforest.unique]
    · simp only [List.not_mem_nil, false_or, List.mem_singleton, exists_eq_left]
    · have hall : unexplored units [] ≤ units.length := List.countP_le_length
      rw [List.length_singleton]
      omega
    · intro id hid
      exact List.mem_singleton.1 hid ▸ hroot
    · intro id hid
      cases hid
  · rw [if_neg hroot]
    refine iff_of_false List.not_mem_nil ?_
    rintro ⟨hid, n, hup⟩
    exact hroot (contains_of_climb hforest.parents hid hup)

end Descendants

section Relations

variable {units : List OrganizationUnit}

theorem nodup_add {α : Type} [DecidableEq α] {set : List α} {x : α} (h : set.Nodup) :
    (add set x).Nodup := by
  by_cases hx : x ∈ set
  · rw [add, if_pos hx]
    exact h
  · rw [add, if_neg hx]
    refine List.Nodup.append h (List.nodup_singleton x) fun y hy hyx => ?_
    exact hx (List.mem_singleton.1 hyx ▸ hy)

theorem relationsLoop_nodup {descendant : GroupId} {fuel : ℕ} {next : Option GroupId} {depth : ℕ}
    {result : List GroupClosureRelation} (h : result.Nodup) :
    (relationsLoop units descendant fuel next depth result).Nodup := by
  induction fuel generalizing next depth result with
  | zero => cases next with
    | none => exact h
    | some ancestor => exact h
  | succ fuel ih => cases next with
    | none => exact h
    | some ancestor => exact ih (nodup_add h)

theorem mem_relationsLoop {descendant id : GroupId} {fuel depth : ℕ}
    {result : List GroupClosureRelation} {relation : GroupClosureRelation} :
    relation ∈ relationsLoop units descendant fuel (some id) depth result ↔
      relation ∈ result ∨ relation.descendant = descendant ∧
        ∃ n < fuel, relation.depth = depth + n ∧
          climb (parentOf units) n id = some relation.ancestor := by
  induction fuel generalizing id depth result with
  | zero =>
      simp only [relationsLoop, Nat.not_lt_zero, false_and, exists_false, and_false, or_false]
  | succ fuel ih =>
      obtain ⟨ancestor, descendant', depth'⟩ := relation
      have hsplit : (∃ n < fuel + 1, depth' = depth + n ∧
          climb (parentOf units) n id = some ancestor) ↔
          (depth' = depth ∧ id = ancestor) ∨ ∃ n < fuel, depth' = depth + 1 + n ∧
            (parentOf units id).bind (climb (parentOf units) n) = some ancestor := by
        rw [Nat.exists_lt_succ_left]
        simp only [climb_zero, climb_succ, Option.some.injEq, Nat.add_zero,
          Nat.add_right_comm depth 1, Nat.add_assoc]
      have hrow : (⟨ancestor, descendant', depth'⟩ : GroupClosureRelation) =
          ⟨id, descendant, depth⟩ ↔ descendant' = descendant ∧ depth' = depth ∧ id = ancestor := by
        rw [GroupClosureRelation.mk.injEq, eq_comm (a := ancestor)]
        exact ⟨fun ⟨ha, hd, hk⟩ => ⟨hd, hk, ha⟩, fun ⟨hd, hk, ha⟩ => ⟨ha, hd, hk⟩⟩
      rw [relationsLoop, hsplit, and_or_left]
      cases hparent : parentOf units id with
      | none =>
          rw [relationsLoop, mem_add, hrow]
          simp only [Option.bind_none, reduceCtorEq, and_false, exists_false, or_false]
      | some parent =>
          rw [ih, mem_add, hrow, or_assoc]
          simp only [Option.bind_some]

theorem relations_nodup {ids : List GroupId} : (relations units ids).Nodup := by
  rw [relations]
  generalize hresult : ([] : List GroupClosureRelation) = result
  have h : result.Nodup := hresult ▸ List.nodup_nil
  clear hresult
  induction ids generalizing result with
  | nil => exact h
  | cons id ids ih =>
      rw [List.foldl_cons]
      refine ih _ ?_
      split
      · exact relationsLoop_nodup h
      · exact h

theorem mem_relations (hforest : Forest units) {ids : List GroupId}
    {relation : GroupClosureRelation} : relation ∈ relations units ids ↔
      relation.descendant ∈ ids ∧ contains units relation.descendant ∧
        climb (parentOf units) relation.depth relation.descendant = some relation.ancestor := by
  have hone : ∀ {id : GroupId} {result : List GroupClosureRelation}, contains units id →
      (relation ∈ relationsLoop units id units.length (some id) 0 result ↔ relation ∈ result ∨
        relation.descendant = id ∧
          climb (parentOf units) relation.depth id = some relation.ancestor) := by
    intro id result hid
    rw [mem_relationsLoop]
    refine or_congr_right (and_congr_right fun _ => ?_)
    constructor
    · rintro ⟨n, -, hdepth, hup⟩
      rwa [hdepth, Nat.zero_add]
    · intro hup
      refine ⟨relation.depth, ?_, (Nat.zero_add _).symm, hup⟩
      by_contra hle
      have hend := climb_length hforest.parents hid (hforest.grounded id)
      rw [climb_none_of_le hend (Nat.le_of_not_lt hle)] at hup
      cases hup
  have hall : ∀ result : List GroupClosureRelation,
      (relation ∈ ids.foldl (fun result descendant =>
        if contains units descendant then
          relationsLoop units descendant units.length (some descendant) 0 result
        else result) result ↔ relation ∈ result ∨ relation.descendant ∈ ids ∧
          contains units relation.descendant ∧
          climb (parentOf units) relation.depth relation.descendant = some relation.ancestor) := by
    induction ids with
    | nil =>
        intro result
        simp only [List.foldl_nil, List.not_mem_nil, false_and, or_false]
    | cons id ids ih =>
        intro result
        rw [List.foldl_cons, ih, List.mem_cons]
        by_cases hid : contains units id
        · rw [if_pos hid, hone hid, or_assoc]
          refine or_congr_right ?_
          constructor
          · rintro (⟨rfl, hup⟩ | ⟨hmem, h⟩)
            · exact ⟨Or.inl rfl, hid, hup⟩
            · exact ⟨Or.inr hmem, h⟩
          · rintro ⟨rfl | hmem, h⟩
            · exact Or.inl ⟨rfl, h.2⟩
            · exact Or.inr ⟨hmem, h⟩
        · rw [if_neg hid]
          refine or_congr_right (and_congr_left fun h => ?_)
          have hne : relation.descendant ≠ id := fun he => hid (he ▸ h.1)
          exact (or_iff_right hne).symm
  rw [relations, hall]
  exact or_iff_right List.not_mem_nil

/-- A group is its descendant's ancestor on one level only. -/
theorem key_relations_nodup (hforest : Forest units) {ids : List GroupId} :
    ((relations units ids).map GroupClosureRelation.key).Nodup := by
  refine relations_nodup.map_on fun relation h relation' h' hkey => ?_
  obtain ⟨-, -, hup⟩ := (mem_relations hforest).1 h
  obtain ⟨-, -, hup'⟩ := (mem_relations hforest).1 h'
  obtain ⟨ancestor, descendant, depth⟩ := relation
  obtain ⟨ancestor', descendant', depth'⟩ := relation'
  obtain ⟨ha, hd⟩ : ancestor = ancestor' ∧ descendant = descendant' := Prod.mk.inj hkey
  subst ha hd
  have hdepth : depth = depth' := (hforest.grounded descendant).level_unique hup hup'
  rw [hdepth]

end Relations

end GcsSaker.Groups
