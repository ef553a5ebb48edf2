import GcsSaker.GroupClosure
import GcsSaker.Machines

/-!
# The stored hierarchy

`JdbcOrganizationHierarchyRepository` keeps the groups and their closure in two tables and changes
both in one serializable transaction under the advisory lock. The constraints of the tables are the
migration's: primary keys, foreign keys to the groups, and no group that is its own parent.
`ORDER BY` is left out: nothing below depends on the order of the rows.
-/

namespace GcsSaker.Groups

structure Tables where
  organizationGroups : List OrganizationUnit
  organizationGroupClosure : List GroupClosureRelation
  deriving DecidableEq

/-- What ends the work of a transaction: an exception of its own, or a violated constraint. -/
inductive WorkError where
  | thrown (thrown : Thrown)
  | dataIntegrityViolation
  deriving DecidableEq

def lift {α : Type} : Except Thrown α → Except WorkError α
  | .ok value => .ok value
  | .error thrown => .error (.thrown thrown)

def satisfies (constraint : Prop) [Decidable constraint] : Except WorkError Unit :=
  if constraint then .ok () else .error .dataIntegrityViolation

/-! ## The groups -/

def MAX_GROUP_ID_LENGTH : ℕ := 64

def MAX_GROUP_NAME_LENGTH : ℕ := 128

def validateFields (unit : OrganizationUnit) : Except WorkError Unit :=
  if JvmText.length unit.id.value > MAX_GROUP_ID_LENGTH ∨
      JvmText.length unit.name > MAX_GROUP_NAME_LENGTH ∨
      ((unit.parentId.map fun parent => JvmText.length parent.value).getD 0) >
        MAX_GROUP_ID_LENGTH then
    .error (.thrown (.invalidContract "group_fields_invalid"
      "group fields exceed persistence limits"))
  else .ok ()

/-- The foreign key of the parent and the check that it is another group. -/
def ParentConstraints (groups : List OrganizationUnit) (unit : OrganizationUnit) : Prop :=
  unit.parentId ≠ some unit.id ∧ ∀ parent ∈ unit.parentId, contains groups parent

instance {groups : List OrganizationUnit} {unit : OrganizationUnit} :
    Decidable (ParentConstraints groups unit) := inferInstanceAs (Decidable (_ ∧ _))

def JdbcGroupHierarchyDao.insert (groups : List OrganizationUnit) (unit : OrganizationUnit) :
    Except WorkError (List OrganizationUnit) := do
  validateFields unit
  satisfies (¬ contains groups unit.id ∧ ParentConstraints groups unit)
  return groups ++ [unit]

def JdbcGroupHierarchyDao.update (groups : List OrganizationUnit) (unit : OrganizationUnit) :
    Except WorkError (List OrganizationUnit) := do
  validateFields unit
  if contains groups unit.id then
    satisfies (ParentConstraints groups unit)
    return KeyedDelta.overwrite OrganizationUnit.id [unit] groups
  else .error (.thrown (.resourceNotFound "group_not_found" "group not found"))

/-- Seeds that are missing are stored as active groups. -/
def JdbcGroupHierarchyDao.seedMissing (groups seeds : List OrganizationUnit) :
    Except WorkError (List OrganizationUnit) :=
  seeds.foldlM (fun groups seed =>
    if contains groups seed.id then .ok groups
    else JdbcGroupHierarchyDao.insert groups { seed with status := .active }) groups

/-! ## The closure -/

def BATCH_SIZE : ℕ := 256

def chunkedLoop {α : Type} (size : ℕ) : ℕ → List α → List (List α)
  | 0, _ => []
  | _ + 1, [] => []
  | fuel + 1, x :: xs => (x :: xs).take size :: chunkedLoop size fuel ((x :: xs).drop size)

def chunked {α : Type} (xs : List α) (size : ℕ) : List (List α) := chunkedLoop size xs.length xs

def JdbcGroupClosureDao.readFor (closure : List GroupClosureRelation)
    (descendants : List GroupId) : List GroupClosureRelation :=
  (chunked (descendants.insertionSort fun id id' => JvmText.notAfter id.value id'.value)
    BATCH_SIZE).flatMap fun batch => closure.filter fun relation => relation.descendant ∈ batch

def JdbcGroupClosureDao.delete (closure relations : List GroupClosureRelation) :
    List GroupClosureRelation :=
  (chunked relations BATCH_SIZE).foldl (fun closure batch =>
    KeyedDelta.delete GroupClosureRelation.key (batch.map GroupClosureRelation.key) closure) closure

/-- The primary key and the two foreign keys of one `INSERT`. -/
def ClosureConstraints (groups : List OrganizationUnit) (closure batch : List GroupClosureRelation) :
    Prop :=
  ((closure ++ batch).map GroupClosureRelation.key).Nodup ∧
    ∀ relation ∈ batch, contains groups relation.ancestor ∧ contains groups relation.descendant

instance {groups : List OrganizationUnit} {closure batch : List GroupClosureRelation} :
    Decidable (ClosureConstraints groups closure batch) := inferInstanceAs (Decidable (_ ∧ _))

def JdbcGroupClosureDao.insert (groups : List OrganizationUnit)
    (closure relations : List GroupClosureRelation) :
    Except WorkError (List GroupClosureRelation) :=
  (chunked relations BATCH_SIZE).foldlM (fun closure batch => do
    satisfies (ClosureConstraints groups closure batch)
    return closure ++ batch) closure

def JdbcGroupClosureDao.update (closure relations : List GroupClosureRelation) :
    List GroupClosureRelation :=
  (chunked relations BATCH_SIZE).foldl (fun closure batch =>
    batch.foldl (fun closure relation =>
      KeyedDelta.overwrite GroupClosureRelation.key [relation] closure) closure) closure

def GroupClosureDelta.applyTo (groups : List OrganizationUnit)
    (closure : List GroupClosureRelation) (delta : GroupClosureDelta) :
    Except WorkError (List GroupClosureRelation) := do
  let kept := JdbcGroupClosureDao.delete closure delta.removed
  let extended ← JdbcGroupClosureDao.insert groups kept delta.inserted
  return JdbcGroupClosureDao.update extended delta.updated

def JdbcGroupClosureDao.synchronize (groups : List OrganizationUnit)
    (closure actual desired : List GroupClosureRelation) :
    Except WorkError (List GroupClosureRelation) := do
  let delta ← lift (GroupClosureDelta.between actual desired)
  delta.applyTo groups closure

/-! ## Transactions -/

/-- An exception of the database, as `retryOrThrow` sorts them. -/
inductive DatabaseFailure where
  | integrity
  | retryable
  | permanent
  deriving DecidableEq

/-- What befalls an attempt: nothing, or a failure before or after its commit. -/
inductive AttemptOutcome where
  | completes
  | failsBeforeCommit (failure : DatabaseFailure)
  | failsAfterCommit (failure : DatabaseFailure)
  deriving DecidableEq

structure Attempt where
  outcome : AttemptOutcome
  pauseInterrupted : Bool
  deriving DecidableEq

def MAX_ATTEMPTS : ℕ := 3

def conflict : Thrown :=
  .stateConflict "group_hierarchy_conflict" "group hierarchy conflicts with current state"

/-- `none` where the next attempt follows. -/
def retryOrThrow (failure : DatabaseFailure) (attempt : ℕ) (pauseInterrupted : Bool) :
    Option Thrown :=
  match failure with
  | .integrity => some conflict
  | .permanent => some (.groupHierarchyStorage .unavailable)
  | .retryable =>
    if attempt = MAX_ATTEMPTS - 1 then some (.groupHierarchyStorage .contended)
    else if pauseInterrupted then some (.groupHierarchyStorage .interrupted)
    else none

def orRetry (decision : Option Thrown) (again : Tables → Tables × Except Thrown Unit)
    (tables : Tables) : Tables × Except Thrown Unit :=
  match decision with
  | some thrown => (tables, .error thrown)
  | none => again tables

/-- The attempts that are left; work that throws is rolled back. -/
def attempts (work : Tables → Except WorkError Tables) (environment : ℕ → Attempt) :
    ℕ → Tables → Tables × Except Thrown Unit
  | 0, tables => (tables, .error (.groupHierarchyStorage .incomplete))
  | left + 1, tables =>
    let attempt := MAX_ATTEMPTS - (left + 1)
    let failed (failure : DatabaseFailure) :=
      orRetry (retryOrThrow failure attempt (environment attempt).pauseInterrupted)
        (attempts work environment left)
    match (environment attempt).outcome, work tables with
    | .failsBeforeCommit failure, _ => failed failure tables
    | _, .error (.thrown thrown) => (tables, .error thrown)
    | _, .error .dataIntegrityViolation => failed .integrity tables
    | .failsAfterCommit failure, .ok changed => failed failure changed
    | .completes, .ok changed => (changed, .ok ())

/-! ## The repository -/

def seedWork (seeds : List OrganizationUnit) (tables : Tables) : Except WorkError Tables := do
  let units ← JdbcGroupHierarchyDao.seedMissing tables.organizationGroups seeds
  if activeUnits units = [] then
    .error (.thrown (.invalidContract "group_hierarchy_invalid"
      "active group hierarchy must not be empty"))
  else
    let desired ← lift (GroupClosurePlanner.complete units)
    let closure ← JdbcGroupClosureDao.synchronize units tables.organizationGroupClosure
      tables.organizationGroupClosure desired
    return ⟨units, closure⟩

/-- What `create` and `update` do to the closure once the group is written. -/
def synchronizeScope (tables : Tables) (groups : List OrganizationUnit)
    (scope : GroupClosureScope) : Except WorkError Tables := do
  let closure ← JdbcGroupClosureDao.synchronize groups tables.organizationGroupClosure
    (JdbcGroupClosureDao.readFor tables.organizationGroupClosure scope.descendants) scope.desired
  return ⟨groups, closure⟩

def createWork (unit : OrganizationUnit) (tables : Tables) : Except WorkError Tables := do
  let existing := tables.organizationGroups
  if contains existing unit.id then
    .error (.thrown (.stateConflict "group_already_exists" "group already exists"))
  else
    let scope ← lift (GroupClosurePlanner.forChange existing unit)
    let groups ← JdbcGroupHierarchyDao.insert existing unit
    synchronizeScope tables groups scope

def updateWork (unit : OrganizationUnit) (tables : Tables) : Except WorkError Tables := do
  let existing := tables.organizationGroups
  if ¬ contains existing unit.id then
    .error (.thrown (.resourceNotFound "group_not_found" "group not found"))
  else
    let scope ← lift (GroupClosurePlanner.forChange existing unit)
    let groups ← JdbcGroupHierarchyDao.update existing unit
    synchronizeScope tables groups scope

inductive GroupHierarchyCall where
  | seed (seeds : List OrganizationUnit)
  | create (unit : OrganizationUnit)
  | update (unit : OrganizationUnit)

def GroupHierarchyCall.work : GroupHierarchyCall → Tables → Except WorkError Tables
  | .seed seeds => seedWork seeds
  | .create unit => createWork unit
  | .update unit => updateWork unit

/-- One call, with what the database does to its attempts. -/
def execute (tables : Tables) (call : GroupHierarchyCall × (ℕ → Attempt)) :
    Tables × Except Thrown Unit :=
  attempts call.1.work call.2 MAX_ATTEMPTS tables

end GcsSaker.Groups

/-!
# The statements of a synchronization

Each statement takes a batch of rows; the batches together do what one statement over all rows
would do. Where the planned part of the closure is read, deleting, inserting and updating the rows
of the delta meets no constraint and leaves the planned rows there.
-/

namespace GcsSaker.Groups

/-! ## Batches -/

theorem flatten_chunked {α : Type} (xs : List α) {size : ℕ} (hsize : 0 < size) :
    (chunked xs size).flatten = xs := by
  have hloop : ∀ fuel (xs : List α), xs.length ≤ fuel → (chunkedLoop size fuel xs).flatten = xs := by
    intro fuel
    induction fuel with
    | zero =>
        intro xs hxs
        rw [List.eq_nil_of_length_eq_zero (Nat.le_zero.1 hxs)]
        rfl
    | succ fuel ih =>
        intro xs hxs
        cases xs with
        | nil => rfl
        | cons x xs =>
            have hrest : ((x :: xs).drop size).length ≤ fuel := by
              rw [List.length_drop]
              omega
            rw [chunkedLoop, List.flatten_cons, ih _ hrest, List.take_append_drop]
  exact hloop xs.length xs le_rfl

theorem BATCH_SIZE_pos : 0 < BATCH_SIZE := by decide

theorem JdbcGroupClosureDao.delete_eq (closure relations : List GroupClosureRelation) :
    JdbcGroupClosureDao.delete closure relations = KeyedDelta.delete GroupClosureRelation.key
      (relations.map GroupClosureRelation.key) closure := by
  conv_rhs => rw [← flatten_chunked relations BATCH_SIZE_pos]
  rw [JdbcGroupClosureDao.delete]
  induction chunked relations BATCH_SIZE generalizing closure with
  | nil => exact (KeyedDelta.delete_nil closure).symm
  | cons batch batches ih =>
      rw [List.foldl_cons, ih, List.flatten_cons, List.map_append, KeyedDelta.delete_append]

theorem JdbcGroupClosureDao.insert_eq {groups : List OrganizationUnit}
    {closure relations : List GroupClosureRelation}
    (h : ClosureConstraints groups closure relations) :
    JdbcGroupClosureDao.insert groups closure relations = .ok (closure ++ relations) := by
  rw [← flatten_chunked relations BATCH_SIZE_pos] at h
  conv_rhs => rw [← flatten_chunked relations BATCH_SIZE_pos]
  rw [JdbcGroupClosureDao.insert]
  generalize chunked relations BATCH_SIZE = batches at h ⊢
  induction batches generalizing closure with
  | nil =>
      rw [List.flatten_nil, List.append_nil]
      rfl
  | cons batch batches ih =>
      rw [List.flatten_cons] at h
      obtain ⟨hkeys, hgroups⟩ := h
      rw [← List.append_assoc] at hkeys
      have hbatch : ClosureConstraints groups closure batch := by
        refine ⟨?_, fun relation hr => hgroups relation (List.mem_append_left _ hr)⟩
        rw [List.map_append] at hkeys
        exact hkeys.of_append_left
      rw [List.foldlM_cons, satisfies, if_pos hbatch]
      refine (ih ⟨hkeys, fun relation hr => hgroups relation (List.mem_append_right _ hr)⟩).trans ?_
      rw [List.flatten_cons, List.append_assoc]

theorem JdbcGroupClosureDao.update_eq {closure relations : List GroupClosureRelation}
    (h : (relations.map GroupClosureRelation.key).Nodup) :
    JdbcGroupClosureDao.update closure relations =
      KeyedDelta.overwrite GroupClosureRelation.key relations closure := by
  have hone : ∀ (batch : List GroupClosureRelation) (closure : List GroupClosureRelation),
      (batch.map GroupClosureRelation.key).Nodup → batch.foldl (fun closure relation =>
        KeyedDelta.overwrite GroupClosureRelation.key [relation] closure) closure =
      KeyedDelta.overwrite GroupClosureRelation.key batch closure := by
    intro batch
    induction batch with
    | nil => exact fun closure _ => (KeyedDelta.overwrite_nil closure).symm
    | cons relation batch ih =>
        intro closure hn
        rw [List.foldl_cons, ih _ (List.nodup_cons.1 hn).2]
        exact KeyedDelta.overwrite_append hn closure
  rw [← flatten_chunked relations BATCH_SIZE_pos] at h
  conv_rhs => rw [← flatten_chunked relations BATCH_SIZE_pos]
  rw [JdbcGroupClosureDao.update]
  generalize chunked relations BATCH_SIZE = batches at h ⊢
  induction batches generalizing closure with
  | nil => exact (KeyedDelta.overwrite_nil closure).symm
  | cons batch batches ih =>
      rw [List.flatten_cons] at h
      have hsplit := h
      rw [List.map_append, List.nodup_append'] at hsplit
      rw [List.foldl_cons, ih hsplit.2.1, hone batch closure hsplit.1, List.flatten_cons]
      exact KeyedDelta.overwrite_append h closure

theorem JdbcGroupClosureDao.readFor_perm (closure : List GroupClosureRelation) {ids : List GroupId}
    (hids : ids.Nodup) : (JdbcGroupClosureDao.readFor closure ids).Perm
      (closure.filter fun relation => relation.descendant ∈ ids) := by
  have hsorted := List.perm_insertionSort (fun id id' : GroupId => JvmText.notAfter id.value id'.value) ids
  have hmem : (closure.filter fun relation => relation.descendant ∈ ids) =
      closure.filter fun relation => relation.descendant ∈
        ids.insertionSort fun id id' => JvmText.notAfter id.value id'.value := by
    simp only [hsorted.mem_iff]
  rw [JdbcGroupClosureDao.readFor, hmem]
  replace hids := hsorted.nodup_iff.2 hids
  generalize (ids.insertionSort fun id id' => JvmText.notAfter id.value id'.value) = sorted at hids ⊢
  rw [← flatten_chunked sorted BATCH_SIZE_pos] at hids
  conv_rhs => rw [← flatten_chunked sorted BATCH_SIZE_pos]
  generalize chunked sorted BATCH_SIZE = batches at hids ⊢
  induction batches with
  | nil =>
      simp only [List.flatMap_nil, List.flatten_nil, List.not_mem_nil, decide_false,
        List.filter_false, List.Perm.refl]
  | cons batch batches ih =>
      rw [List.flatten_cons, List.nodup_append'] at hids
      obtain ⟨-, hrest, hdisjoint⟩ := hids
      rw [List.flatMap_cons, List.flatten_cons]
      refine ((ih hrest).append_left _).trans ?_
      have hsplit := List.filter_append_perm (fun relation => decide (relation.descendant ∈ batch))
        (closure.filter fun relation => relation.descendant ∈ batch ++ batches.flatten)
      refine List.Perm.trans (List.Perm.of_eq ?_) hsplit
      rw [List.filter_filter, List.filter_filter]
      congr 1
      · refine List.filter_congr fun relation _ => ?_
        by_cases hb : relation.descendant ∈ batch
        · simp only [hb, List.mem_append, true_or, decide_true, Bool.and_self]
        · simp only [hb, decide_false, Bool.false_and]
      · refine List.filter_congr fun relation _ => ?_
        by_cases hb : relation.descendant ∈ batch
        · have hnot : relation.descendant ∉ batches.flatten := fun h => hdisjoint hb h
          simp only [hb, hnot, decide_false, decide_true, Bool.not_true, Bool.false_and]
        · simp only [hb, List.mem_append, false_or, decide_false, Bool.not_false, Bool.true_and]

/-! ## The statements of a synchronization -/

section Synchronize

variable {groups : List OrganizationUnit} {closure actual desired : List GroupClosureRelation}

theorem between_eq_ok (hactual : (actual.map GroupClosureRelation.key).Nodup)
    (hdesired : (desired.map GroupClosureRelation.key).Nodup) :
    ∃ delta, GroupClosureDelta.between actual desired = .ok delta ∧
      delta.removed.Perm (KeyedDelta.removed GroupClosureRelation.key actual desired) ∧
      delta.inserted.Perm (KeyedDelta.inserted GroupClosureRelation.key actual desired) ∧
      delta.updated.Perm (KeyedDelta.updated GroupClosureRelation.key actual desired) :=
  ⟨_, if_pos ⟨hactual, hdesired⟩, List.perm_insertionSort .., List.perm_insertionSort ..,
    List.perm_insertionSort ..⟩

/-- Where the part of the closure that is read is the part to be planned, the statements meet no
constraint, and they leave the planned rows and those of the rest. -/
theorem between_applyTo {P : GroupId → Prop} [DecidablePred P]
    (hclosure : (closure.map GroupClosureRelation.key).Nodup)
    (hdesired : (desired.map GroupClosureRelation.key).Nodup)
    (hactual : actual.Perm (closure.filter fun relation => P relation.descendant))
    (hP : ∀ relation ∈ desired, P relation.descendant)
    (hgroups : ∀ relation ∈ desired,
      contains groups relation.ancestor ∧ contains groups relation.descendant) :
    ∃ delta closure', GroupClosureDelta.between actual desired = .ok delta ∧
      delta.applyTo groups closure = .ok closure' ∧
      closure'.Perm ((closure.filter fun relation => ¬ P relation.descendant) ++ desired) := by
  have hactualKeys : (actual.map GroupClosureRelation.key).Nodup :=
    (hactual.map _).nodup_iff.2 (hclosure.sublist (List.filter_sublist.map _))
  obtain ⟨delta, hbetween, hrem, hins, hupd⟩ := between_eq_ok hactualKeys hdesired
  have hmem : ∀ relation ∈ delta.inserted, relation ∈ desired := fun relation hr =>
    List.mem_of_mem_filter (hins.mem_iff.1 hr)
  have hconstraints : ClosureConstraints groups (KeyedDelta.delete GroupClosureRelation.key
      (delta.removed.map GroupClosureRelation.key) closure) delta.inserted := by
    refine ⟨?_, fun relation hr => hgroups relation (hmem relation hr)⟩
    rw [List.map_append]
    refine List.Nodup.append (hclosure.sublist (List.filter_sublist.map _))
      ((hins.map _).nodup_iff.2 (hdesired.sublist (List.filter_sublist.map _))) ?_
    intro key hkept hinserted
    obtain ⟨relation, hr, rfl⟩ := List.mem_map.1 hinserted
    exact KeyedDelta.key_inserted_notMem (P := fun key => P key.2) hactual hP hins hr hkept
  have hupdKeys : (delta.updated.map GroupClosureRelation.key).Nodup :=
    (hupd.map _).nodup_iff.2 (hdesired.sublist (List.filter_sublist.map _))
  refine ⟨delta, _, hbetween, ?_, KeyedDelta.perm_of_delta (P := fun key => P key.2) hclosure
    hdesired hactual hP hrem hins hupd⟩
  rw [GroupClosureDelta.applyTo, JdbcGroupClosureDao.delete_eq,
    JdbcGroupClosureDao.insert_eq hconstraints]
  exact congrArg Except.ok (JdbcGroupClosureDao.update_eq hupdKeys)

end Synchronize

end GcsSaker.Groups
