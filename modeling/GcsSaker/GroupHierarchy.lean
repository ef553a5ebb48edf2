import GcsSaker.CheckedSteps
import GcsSaker.JvmText
import GcsSaker.KeyedDelta
import GcsSaker.ParentMap

/-!
# The organization hierarchy

Groups and the check of `OrganizationHierarchy.of`: distinct ids, at least one group, parents that
exist, and no group that is its own ancestor. The loops over ancestors are given as much fuel as
there are groups, which is enough in a hierarchy.
-/

namespace GcsSaker.Groups
open ParentMap

inductive GroupHierarchyErrorCode where
  | incomplete
  | unavailable
  | contended
  | interrupted
  deriving DecidableEq

/-- What a call throws; the errors that carry a code are contract errors of the policy. -/
inductive Thrown where
  | illegalArgument (message : String)
  | illegalState (message : String)
  | permissionDenied (code message : String)
  | resourceNotFound (code message : String)
  | stateConflict (code message : String)
  | invalidContract (code message : String)
  | groupHierarchyStorage (code : GroupHierarchyErrorCode)
  | runtime (message : String)
  deriving DecidableEq

/-- A contract error is an `IllegalArgumentException`. -/
def Thrown.isIllegalArgument : Thrown → Bool
  | .illegalState _ => false
  | .groupHierarchyStorage _ => false
  | .runtime _ => false
  | _ => true

def require (condition : Prop) [Decidable condition] (message : String) : Except Thrown Unit :=
  if condition then .ok () else .error (.illegalArgument message)

@[simp] theorem require_eq_ok_iff {condition : Prop} [Decidable condition] {message : String} :
    require condition message = .ok () ↔ condition := by
  by_cases h : condition
  · exact iff_of_true (if_pos h) h
  · rw [require, if_neg h]
    exact iff_of_false (by simp only [reduceCtorEq, not_false_eq_true]) h

@[ext] structure GroupId where
  value : String
  notBlank : JvmText.isBlank value = false

instance : DecidableEq GroupId := fun id id' =>
  decidable_of_iff (id.value = id'.value) GroupId.ext_iff.symm

inductive GroupType where
  | battalion
  | company
  | platoon
  | squad
  deriving DecidableEq

inductive GroupStatus where
  | active
  | inactive
  deriving DecidableEq

@[ext] structure OrganizationUnit where
  id : GroupId
  name : String
  type : GroupType
  parentId : Option GroupId
  status : GroupStatus
  nameNotBlank : JvmText.isBlank name = false

instance : DecidableEq OrganizationUnit := fun unit unit' =>
  decidable_of_iff (unit.id = unit'.id ∧ unit.name = unit'.name ∧ unit.type = unit'.type ∧
    unit.parentId = unit'.parentId ∧ unit.status = unit'.status) OrganizationUnit.ext_iff.symm

/-! ## The check -/

def unitOf (units : List OrganizationUnit) (id : GroupId) : Option OrganizationUnit :=
  KeyedDelta.find OrganizationUnit.id id units

def parentOf (units : List OrganizationUnit) (id : GroupId) : Option GroupId :=
  (unitOf units id).bind OrganizationUnit.parentId

def contains (units : List OrganizationUnit) (id : GroupId) : Prop :=
  id ∈ units.map OrganizationUnit.id

instance {units : List OrganizationUnit} {id : GroupId} : Decidable (contains units id) :=
  inferInstanceAs (Decidable (_ ∈ _))

def validateParentReferences (units : List OrganizationUnit) : Except Thrown Unit :=
  units.forM fun unit => do
    require (unit.parentId ≠ some unit.id) "group must not be its own parent"
    match unit.parentId with
    | none => .ok ()
    | some parent => require (contains units parent) "parent group must exist"

/-- The walk up from one group, which stops at the first group that it meets again. -/
def walkUp (units : List OrganizationUnit) :
    ℕ → List GroupId → Option GroupId → Except Thrown Unit
  | _, _, none => .ok ()
  | 0, _, some _ => require False "group hierarchy must not contain a cycle"
  | fuel + 1, seen, some current => do
    require (current ∉ seen) "group hierarchy must not contain a cycle"
    walkUp units fuel (current :: seen) (parentOf units current)

def validateAcyclic (units : List OrganizationUnit) : Except Thrown Unit :=
  (units.map OrganizationUnit.id).forM fun groupId =>
    walkUp units (units.length + 1) [] (some groupId)

def validate (units : List OrganizationUnit) : Except Thrown Unit := do
  require (units.map OrganizationUnit.id).Nodup "group id must be unique"
  require (units ≠ []) "group hierarchy must not be empty"
  validateParentReferences units
  validateAcyclic units

/-! ## What the check accepts -/

/-- Distinct ids, parents among the groups, and no cycle. -/
structure Forest (units : List OrganizationUnit) : Prop where
  unique : (units.map OrganizationUnit.id).Nodup
  parents : ∀ unit ∈ units, ∀ parent, unit.parentId = some parent → contains units parent
  grounded : ∀ id, Grounded (parentOf units) id

structure ValidHierarchy (units : List OrganizationUnit) : Prop extends Forest units where
  nonempty : units ≠ []

theorem parentOf_eq_some {units : List OrganizationUnit} {id parent : GroupId}
    (h : parentOf units id = some parent) :
    ∃ unit ∈ units, unit.id = id ∧ unit.parentId = some parent := by
  rw [parentOf, Option.bind_eq_some_iff] at h
  obtain ⟨unit, hunit, hparent⟩ := h
  obtain ⟨hmem, hid⟩ := KeyedDelta.find_some hunit
  exact ⟨unit, hmem, hid, hparent⟩

theorem parentOf_of_mem {units : List OrganizationUnit}
    (hn : (units.map OrganizationUnit.id).Nodup) {unit : OrganizationUnit} (hu : unit ∈ units) :
    parentOf units unit.id = unit.parentId := by
  rw [parentOf, unitOf, (KeyedDelta.find_eq_some_iff hn).2 ⟨hu, rfl⟩, Option.bind_some]

theorem contains_of_climb {units : List OrganizationUnit}
    (hparents : ∀ unit ∈ units, ∀ parent, unit.parentId = some parent → contains units parent)
    {n : ℕ} {id ancestor : GroupId} (hid : contains units id)
    (h : climb (parentOf units) n id = some ancestor) : contains units ancestor := by
  induction n generalizing id with
  | zero => exact Option.some.inj h ▸ hid
  | succ n ih =>
      rw [climb_succ, Option.bind_eq_some_iff] at h
      obtain ⟨parent, hparent, h⟩ := h
      obtain ⟨unit, hmem, -, hp⟩ := parentOf_eq_some hparent
      exact ih (hparents unit hmem parent hp) h

/-- A line of ancestors in a hierarchy is no longer than the number of groups. -/
theorem climb_length {units : List OrganizationUnit}
    (hparents : ∀ unit ∈ units, ∀ parent, unit.parentId = some parent → contains units parent)
    {id : GroupId} (hid : contains units id) (h : Grounded (parentOf units) id) :
    climb (parentOf units) units.length id = none := by
  have hcard := h.climb_card (S := (units.map OrganizationUnit.id).toFinset) fun n a ha =>
    List.mem_toFinset.2 (contains_of_climb hparents hid ha)
  refine climb_none_of_le hcard ?_
  calc (units.map OrganizationUnit.id).toFinset.card
      ≤ (units.map OrganizationUnit.id).length := List.toFinset_card_le _
    _ = units.length := List.length_map _

theorem validateParentReferences_eq_ok_iff {units : List OrganizationUnit} :
    validateParentReferences units = .ok () ↔ ∀ unit ∈ units, unit.parentId ≠ some unit.id ∧
      ∀ parent, unit.parentId = some parent → contains units parent := by
  refine CheckedSteps.forM_eq_ok_iff fun unit => ?_
  rw [CheckedSteps.check_bind_eq_ok_iff, require_eq_ok_iff]
  refine and_congr_right fun _ => ?_
  cases unit.parentId with
  | none => exact iff_of_true rfl fun parent h => (Option.some_ne_none parent h.symm).elim
  | some parent => simp only [require_eq_ok_iff, Option.some.injEq, forall_eq']

/-- The walk ends well exactly when the line ends within the fuel and avoids the groups seen. -/
theorem walkUp_eq_ok_iff {units : List OrganizationUnit} {fuel : ℕ} {seen : List GroupId}
    {id : GroupId} : walkUp units fuel seen (some id) = .ok () ↔
      climb (parentOf units) fuel id = none ∧
        ∀ n a, climb (parentOf units) n id = some a → a ∉ seen := by
  induction fuel generalizing seen id with
  | zero =>
      rw [walkUp, require_eq_ok_iff, climb_zero]
      exact iff_of_false not_false fun h => Option.some_ne_none id h.1
  | succ fuel ih =>
      rw [walkUp, CheckedSteps.check_bind_eq_ok_iff, require_eq_ok_iff, climb_succ]
      cases hparent : parentOf units id with
      | none =>
          rw [walkUp, Option.bind_none]
          constructor
          · rintro ⟨hid, -⟩
            refine ⟨rfl, fun n a ha => ?_⟩
            cases n with
            | zero => exact Option.some.inj ha ▸ hid
            | succ n =>
                rw [climb_succ, hparent, Option.bind_none] at ha
                cases ha
          · rintro ⟨-, h⟩
            exact ⟨h 0 id rfl, rfl⟩
      | some parent =>
          rw [ih, Option.bind_some]
          constructor
          · rintro ⟨hid, hend, h⟩
            refine ⟨hend, fun n a ha => ?_⟩
            cases n with
            | zero => exact Option.some.inj ha ▸ hid
            | succ n =>
                rw [climb_succ, hparent, Option.bind_some] at ha
                exact fun hseen => h n a ha (List.mem_cons_of_mem id hseen)
          · rintro ⟨hend, h⟩
            refine ⟨h 0 id rfl, hend, fun n a ha hmem => ?_⟩
            have hup : climb (parentOf units) (n + 1) id = some a := by
              rw [climb_succ, hparent, Option.bind_some, ha]
            rcases List.mem_cons.1 hmem with rfl | hseen
            · exact (Grounded.of_parent hparent ⟨fuel, hend⟩).climb_ne (Nat.succ_pos n) hup
            · exact h (n + 1) a hup hseen

theorem grounded_of_not_contains {units : List OrganizationUnit} {id : GroupId}
    (h : ¬ contains units id) : Grounded (parentOf units) id := by
  refine grounded_of_parent_eq_none ?_
  rw [parentOf, unitOf, KeyedDelta.find_eq_none_iff.2 h, Option.bind_none]

theorem validateAcyclic_eq_ok_iff {units : List OrganizationUnit}
    (hparents : ∀ unit ∈ units, ∀ parent, unit.parentId = some parent → contains units parent) :
    validateAcyclic units = .ok () ↔ ∀ id, Grounded (parentOf units) id := by
  rw [validateAcyclic, CheckedSteps.forM_eq_ok_iff fun id => walkUp_eq_ok_iff]
  constructor
  · intro h id
    by_cases hid : contains units id
    · exact ⟨_, (h id hid).1⟩
    · exact grounded_of_not_contains hid
  · intro h id hid
    have hend := climb_none_of_le (climb_length hparents hid (h id)) (Nat.le_succ units.length)
    exact ⟨hend, fun n a _ => List.not_mem_nil⟩

theorem validate_eq_ok_iff {units : List OrganizationUnit} :
    validate units = .ok () ↔ ValidHierarchy units := by
  rw [validate]
  simp only [CheckedSteps.check_bind_eq_ok_iff, require_eq_ok_iff,
    validateParentReferences_eq_ok_iff]
  constructor
  · rintro ⟨hunique, hnonempty, hrefs, hacyclic⟩
    have hparents := fun unit hu => (hrefs unit hu).2
    exact ⟨⟨hunique, hparents, (validateAcyclic_eq_ok_iff hparents).1 hacyclic⟩, hnonempty⟩
  · intro h
    refine ⟨h.unique, h.nonempty, fun unit hu => ⟨fun hself => ?_, h.parents unit hu⟩, ?_⟩
    · have hloop : climb (parentOf units) 1 unit.id = some unit.id := by
        rw [climb_one, parentOf_of_mem h.unique hu, hself]
      exact (h.grounded unit.id).climb_ne Nat.one_pos hloop
    · exact (validateAcyclic_eq_ok_iff h.parents).2 h.grounded

/-! ## A hierarchy -/

structure OrganizationHierarchy where
  units : List OrganizationUnit
  valid : ValidHierarchy units

def OrganizationHierarchy.of (units : List OrganizationUnit) :
    Except Thrown OrganizationHierarchy :=
  match h : validate units with
  | .error thrown => .error thrown
  | .ok () => .ok ⟨units, validate_eq_ok_iff.1 h⟩

theorem OrganizationHierarchy.of_eq_ok_iff {units : List OrganizationUnit}
    {hierarchy : OrganizationHierarchy} :
    OrganizationHierarchy.of units = .ok hierarchy ↔ hierarchy.units = units := by
  rw [OrganizationHierarchy.of]
  split
  next thrown hv =>
    refine iff_of_false (by simp only [reduceCtorEq, not_false_eq_true]) ?_
    rintro rfl
    rw [validate_eq_ok_iff.2 hierarchy.valid] at hv
    cases hv
  next hv =>
    constructor
    · intro h
      exact (congrArg OrganizationHierarchy.units (Except.ok.inj h)).symm
    · rintro rfl
      rfl

theorem OrganizationHierarchy.exists_of_eq_ok_iff {units : List OrganizationUnit} :
    (∃ hierarchy, OrganizationHierarchy.of units = .ok hierarchy) ↔ ValidHierarchy units := by
  constructor
  · rintro ⟨hierarchy, h⟩
    exact OrganizationHierarchy.of_eq_ok_iff.1 h ▸ hierarchy.valid
  · intro hvalid
    exact ⟨⟨units, hvalid⟩, OrganizationHierarchy.of_eq_ok_iff.2 rfl⟩

def isAncestorLoop (units : List OrganizationUnit) (candidateAncestorId : GroupId) :
    ℕ → Option GroupId → Bool
  | _, none => false
  | 0, some _ => false
  | fuel + 1, some current =>
    if current = candidateAncestorId then true
    else isAncestorLoop units candidateAncestorId fuel (parentOf units current)

theorem isAncestorLoop_eq_true_iff {units : List OrganizationUnit} {ancestor id : GroupId}
    {fuel : ℕ} : isAncestorLoop units ancestor fuel (some id) = true ↔
      ∃ n < fuel, climb (parentOf units) n id = some ancestor := by
  induction fuel generalizing id with
  | zero =>
      rw [isAncestorLoop]
      exact iff_of_false Bool.false_ne_true fun ⟨n, hn, _⟩ => Nat.not_lt_zero n hn
  | succ fuel ih =>
      rw [isAncestorLoop]
      by_cases hid : id = ancestor
      · rw [if_pos hid]
        exact iff_of_true rfl ⟨0, Nat.succ_pos fuel, congrArg some hid⟩
      · rw [if_neg hid]
        constructor
        · intro h
          cases hparent : parentOf units id with
          | none =>
              rw [hparent, isAncestorLoop] at h
              cases h
          | some parent =>
              rw [hparent, ih] at h
              obtain ⟨n, hn, hup⟩ := h
              exact ⟨n + 1, by omega, by rw [climb_succ, hparent, Option.bind_some, hup]⟩
        · rintro ⟨n, hn, hup⟩
          cases n with
          | zero => exact absurd (Option.some.inj hup) hid
          | succ n =>
              rw [climb_succ, Option.bind_eq_some_iff] at hup
              obtain ⟨parent, hparent, hup⟩ := hup
              rw [hparent, ih]
              exact ⟨n, by omega, hup⟩

def OrganizationHierarchy.isAncestor (hierarchy : OrganizationHierarchy)
    (candidateAncestorId childId : GroupId) : Bool :=
  isAncestorLoop hierarchy.units candidateAncestorId hierarchy.units.length
    (parentOf hierarchy.units childId)

theorem OrganizationHierarchy.isAncestor_iff {hierarchy : OrganizationHierarchy}
    {ancestor id : GroupId} : hierarchy.isAncestor ancestor id = true ↔
      ∃ n, climb (parentOf hierarchy.units) (n + 1) id = some ancestor := by
  rw [OrganizationHierarchy.isAncestor]
  cases hparent : parentOf hierarchy.units id with
  | none =>
      rw [isAncestorLoop]
      refine iff_of_false Bool.false_ne_true ?_
      rintro ⟨n, hn⟩
      rw [climb_succ, hparent, Option.bind_none] at hn
      cases hn
  | some parent =>
      rw [isAncestorLoop_eq_true_iff]
      simp only [climb_succ, hparent, Option.bind_some]
      constructor
      · rintro ⟨n, -, hn⟩
        exact ⟨n, hn⟩
      · rintro ⟨n, hn⟩
        refine ⟨n, ?_, hn⟩
        obtain ⟨unit, hmem, -, hp⟩ := parentOf_eq_some hparent
        have hlength := climb_length hierarchy.valid.parents
          (hierarchy.valid.parents unit hmem parent hp) (hierarchy.valid.grounded parent)
        by_contra hle
        rw [climb_none_of_le hlength (Nat.le_of_not_lt hle)] at hn
        cases hn

/-! ## A sample hierarchy -/

def battalion : OrganizationUnit where
  id := ⟨"battalion", by decide⟩
  name := "Battalion"
  type := .battalion
  parentId := none
  status := .active
  nameNotBlank := by decide

def company : OrganizationUnit where
  id := ⟨"company", by decide⟩
  name := "Company"
  type := .company
  parentId := some battalion.id
  status := .active
  nameNotBlank := by decide

end GcsSaker.Groups
