import GcsSaker.KeyedWrites
import GcsSaker.KeyedRows
import GcsSaker.Runs
import GcsSaker.UserAdministration

/-!
# Lost updates of users

A call that writes back a row which has changed since it read it undoes the changes in between. As
long as every row written back is still the one that was read, each column has the value last given
to it and the security version rose with every change.
-/

namespace GcsSaker.Groups

/-! ## What a change leaves in a row -/

def changesOf (log : List (String × UserChange)) (username : String) : List UserChange :=
  (KeyedWrites.having Prod.fst username log).map Prod.snd

/-- Every column of the row has the value last given to it. -/
structure UserKept (first row : AuthUser) (changes : List UserChange) : Prop where
  role : RowEdits.ColumnKept AuthUser.role UserChange.role first row changes
  groupId : RowEdits.ColumnKept AuthUser.groupId UserChange.groupId first row changes
  active : RowEdits.ColumnKept AuthUser.active UserChange.active first row changes
  passwordHash : RowEdits.ColumnKept AuthUser.hash UserChange.passwordHash first row changes
  securityVersion : RowEdits.CounterKept AuthUser.securityVersion first row changes

/-- No change of a user in `first` has been undone by another that did not intend it, and each has
raised the stored security version. -/
def NoLostUpdate (first : AuthUsers) (s : UserState) : Prop :=
  ∀ user ∈ first.rows, ∃ row ∈ s.users.rows, row.username = user.username ∧
    UserKept user row (changesOf s.log user.username)

/-- A row that is written back is still the one that its call read. -/
def WritesBackCurrent (s : UserState) (action : UserAction) : Prop :=
  match action with
  | .write call => ∀ next ∈ (s.calls call).bind UserCall.next, next.1 ∈ s.users.rows
  | _ => True

instance (s : UserState) : ∀ action, Decidable (WritesBackCurrent s action)
  | .write call => inferInstanceAs
      (Decidable (∀ next ∈ (s.calls call).bind UserCall.next, next.1 ∈ s.users.rows))
  | .start .. | .find _ | .list .. | .demote _ | .demoteRow .. | .commit _ | .leave _
  | .throws _ => inferInstanceAs (Decidable True)

/-- `new` is `row` with the change. -/
structure Changed (change : UserChange) (row new : AuthUser) : Prop where
  username : new.username = row.username
  role : new.role = change.role.getD row.role
  groupId : new.groupId = change.groupId.getD row.groupId
  active : new.active = change.active.getD row.active
  passwordHash : new.hash = change.passwordHash.getD row.hash
  securityVersion : row.securityVersion < new.securityVersion

theorem changed_copy (row : AuthUser) (change : UserChange) :
    Changed change row (row.copy change) :=
  ⟨rfl, rfl, rfl, rfl, rfl, Nat.lt_succ_self _⟩

theorem changed_updateRow (platform : Platform) (row : AuthUser) (change : UserChange) :
    Changed change row (AuthUsers.updateRow platform (row.copy change)) :=
  ⟨rfl, rfl, rfl, rfl, rfl, Nat.lt_succ_self _⟩

theorem userKept_nil (row : AuthUser) : UserKept row row [] :=
  ⟨rfl, rfl, rfl, rfl, RowEdits.counterKept_nil⟩

theorem UserKept.concat {first row new : AuthUser} {changes : List UserChange} {change : UserChange}
    (h : UserKept first row changes) (hnew : Changed change row new) :
    UserKept first new (changes ++ [change]) where
  role := h.role.concat hnew.role
  groupId := h.groupId.concat hnew.groupId
  active := h.active.concat hnew.active
  passwordHash := h.passwordHash.concat hnew.passwordHash
  securityVersion := h.securityVersion.concat hnew.securityVersion

theorem changesOf_append (log log' : List (String × UserChange)) (username : String) :
    changesOf (log ++ log') username = changesOf log username ++ changesOf log' username := by
  rw [changesOf, KeyedWrites.having_append, List.map_append]
  rfl

/-! ## The invariant -/

/-- The rows of an open transaction are locked, and are changes of the rows that the table has. -/
structure Consistent (first : AuthUsers) (s : UserState) : Prop where
  kept : NoLostUpdate first s
  locked : ∀ call phase, s.calls call = some phase →
    ∀ w ∈ phase.written, s.locks w.row.username = some call
  changed : ∀ call phase, s.calls call = some phase →
    ∀ w ∈ phase.written, ∃ row ∈ s.users.rows, Changed w.change row w.row
  distinct : ∀ call phase, s.calls call = some phase →
    (phase.written.map fun w => w.row.username).Nodup

variable {first : AuthUsers} {s s' : UserState} {call : ℕ}

theorem initial_consistent (users : AuthUsers) : Consistent users (.initial users) where
  kept user huser := ⟨user, huser, rfl, userKept_nil user⟩
  locked _ _ h := by cases h
  changed _ _ h := by cases h
  distinct _ _ h := by cases h

theorem Consistent.setCall (h : Consistent first s) {phase : UserCall}
    (hlocked : ∀ w ∈ phase.written, s.locks w.row.username = some call)
    (hchanged : ∀ w ∈ phase.written, ∃ row ∈ s.users.rows, Changed w.change row w.row)
    (hdistinct : (phase.written.map fun w => w.row.username).Nodup) :
    Consistent first (s.setCall call phase) := by
  have hcalls : ∀ other phase', (s.setCall call phase).calls other = some phase' →
      (other = call ∧ phase' = phase) ∨ s.calls other = some phase' := by
    intro other phase' hother
    by_cases he : other = call
    · subst he
      have hsame : some phase = some phase' := (Function.update_self other _ s.calls).symm.trans hother
      exact Or.inl ⟨rfl, (Option.some.inj hsame).symm⟩
    · exact Or.inr ((Function.update_of_ne he _ s.calls).symm.trans hother)
  constructor
  · exact h.kept
  · intro other phase' hother
    obtain ⟨rfl, rfl⟩ | hold := hcalls other phase' hother
    · exact hlocked
    · exact h.locked other phase' hold
  · intro other phase' hother
    obtain ⟨rfl, rfl⟩ | hold := hcalls other phase' hother
    · exact hchanged
    · exact h.changed other phase' hold
  · intro other phase' hother
    obtain ⟨rfl, rfl⟩ | hold := hcalls other phase' hother
    · exact hdistinct
    · exact h.distinct other phase' hold

/-- A call with no open transaction takes its next step. -/
theorem Consistent.setCall_nil (h : Consistent first s) {phase : UserCall}
    (hphase : phase.written = []) : Consistent first (s.setCall call phase) := by
  apply h.setCall
  · rw [hphase]
    exact fun w hw => absurd hw List.not_mem_nil
  · rw [hphase]
    exact fun w hw => absurd hw List.not_mem_nil
  · rw [hphase]
    exact List.nodup_nil

theorem Consistent.lock (h : Consistent first s) {username : String}
    (hfree : s.locks username = none) : Consistent first (s.lock call username) where
  kept := h.kept
  locked other phase hother w hw := by
    have hlocked := h.locked other phase hother w hw
    have hne : w.row.username ≠ username := by
      intro he
      rw [he, hfree] at hlocked
      cases hlocked
    exact (Function.update_of_ne hne _ s.locks).trans hlocked
  changed := h.changed
  distinct := h.distinct

theorem endCall_calls {other : ℕ} {phase : UserCall}
    (h : (s.endCall call).calls other = some phase) : other ≠ call ∧ s.calls other = some phase := by
  have hne : other ≠ call := by
    rintro rfl
    have hnone : none = some phase := (Function.update_self other _ s.calls).symm.trans h
    cases hnone
  exact ⟨hne, (Function.update_of_ne hne _ s.calls).symm.trans h⟩

theorem Consistent.endCall (h : Consistent first s) : Consistent first (s.endCall call) where
  kept := h.kept
  locked other phase hother w hw := by
    obtain ⟨hne, hold⟩ := endCall_calls hother
    have hlocked := h.locked other phase hold w hw
    have hkeep : s.locks w.row.username ≠ some call := by
      rw [hlocked]
      exact fun he => hne (Option.some.inj he)
    exact (if_neg hkeep).trans hlocked
  changed other phase hother := h.changed other phase (endCall_calls hother).2
  distinct other phase hother := h.distinct other phase (endCall_calls hother).2

/-! ## Writing rows -/

section Store

variable {written : List WrittenUser}
  (hdistinct : (written.map fun w => w.row.username).Nodup)
include hdistinct

theorem mem_store {row : AuthUser} :
    row ∈ (s.store written).users.rows ↔
      (row ∈ written.map WrittenUser.row ∧ row.username ∈ s.users.rows.map AuthUser.username) ∨
        (row ∈ s.users.rows ∧ row.username ∉ (written.map WrittenUser.row).map AuthUser.username) := by
  apply KeyedDelta.mem_overwrite
  rw [List.map_map]
  exact hdistinct

/-- Of a row that the transaction wrote, the change is the last one. -/
theorem changesOf_store {w : WrittenUser} (hw : w ∈ written) :
    changesOf (s.store written).log w.row.username =
      changesOf s.log w.row.username ++ [w.change] := by
  have hsingle : changesOf (written.map fun w => (w.row.username, w.change)) w.row.username =
      [w.change] := by
    have hnodup : ((written.map fun w => (w.row.username, w.change)).map Prod.fst).Nodup := by
      rw [List.map_map]
      exact hdistinct
    have hmem : (w.row.username, w.change) ∈ written.map fun w => (w.row.username, w.change) :=
      List.mem_map_of_mem hw
    rw [changesOf, KeyedWrites.having_eq_singleton Prod.fst hnodup hmem]
    rfl
  calc changesOf (s.store written).log w.row.username
      = changesOf s.log w.row.username ++
          changesOf (written.map fun w => (w.row.username, w.change)) w.row.username :=
        changesOf_append ..
    _ = changesOf s.log w.row.username ++ [w.change] := by rw [hsingle]

omit hdistinct in
theorem changesOf_store_other {username : String}
    (hother : ∀ w ∈ written, w.row.username ≠ username) :
    changesOf (s.store written).log username = changesOf s.log username := by
  have hnone : changesOf (written.map fun w => (w.row.username, w.change)) username = [] := by
    rw [changesOf, KeyedWrites.having_eq_nil, List.map_nil]
    intro entry hentry
    obtain ⟨w, hw, rfl⟩ := List.mem_map.1 hentry
    exact hother w hw
  calc changesOf (s.store written).log username
      = changesOf s.log username ++
          changesOf (written.map fun w => (w.row.username, w.change)) username :=
        changesOf_append ..
    _ = changesOf s.log username := by rw [hnone, List.append_nil]

theorem noLostUpdate_store (hkept : NoLostUpdate first s)
    (hchanged : ∀ w ∈ written, ∃ row ∈ s.users.rows, Changed w.change row w.row) :
    NoLostUpdate first (s.store written) := by
  intro user huser
  obtain ⟨row, hrow, hname, hcolumns⟩ := hkept user huser
  by_cases hwrites : ∃ w ∈ written, w.row.username = user.username
  · obtain ⟨w, hw, hwname⟩ := hwrites
    obtain ⟨old, hold, hchange⟩ := hchanged w hw
    have hsame : old = row := by
      apply List.inj_on_of_nodup_map s.users.unique hold hrow
      rw [hname, ← hwname, hchange.username]
    subst hsame
    refine ⟨w.row, (mem_store hdistinct).2 (Or.inl ⟨List.mem_map_of_mem hw, ?_⟩), hwname, ?_⟩
    · rw [hchange.username]
      exact List.mem_map_of_mem hold
    · rw [← hwname, changesOf_store hdistinct hw, hwname]
      exact hcolumns.concat hchange
  · have hother : ∀ w ∈ written, w.row.username ≠ user.username :=
      fun w hw he => hwrites ⟨w, hw, he⟩
    refine ⟨row, (mem_store hdistinct).2 (Or.inr ⟨hrow, ?_⟩), hname, ?_⟩
    · rw [List.map_map, List.mem_map]
      rintro ⟨w, hw, he⟩
      exact hother w hw (Eq.trans he hname)
    · rw [changesOf_store_other hother]
      exact hcolumns

theorem Consistent.store (h : Consistent first s)
    (hchanged : ∀ w ∈ written, ∃ row ∈ s.users.rows, Changed w.change row w.row)
    (hfree : ∀ w ∈ written, ∀ call phase, s.calls call = some phase →
      ∀ p ∈ phase.written, p.row.username ≠ w.row.username) :
    Consistent first (s.store written) where
  kept := noLostUpdate_store hdistinct h.kept hchanged
  locked := h.locked
  changed call phase hcall p hp := by
    obtain ⟨row, hrow, hchange⟩ := h.changed call phase hcall p hp
    refine ⟨row, (mem_store hdistinct).2 (Or.inr ⟨hrow, ?_⟩), hchange⟩
    rw [List.map_map, List.mem_map]
    rintro ⟨w, hw, he⟩
    exact hfree w hw call phase hcall p hp (hchange.username.trans he.symm)
  distinct := h.distinct

end Store

/-- A single row, which no call has locked, is written. -/
theorem Consistent.store_unlocked (h : Consistent first s) {w : WrittenUser}
    (hchanged : ∃ row ∈ s.users.rows, Changed w.change row w.row)
    (hfree : s.locks w.row.username = none) : Consistent first (s.store [w]) := by
  apply h.store
  · exact List.nodup_singleton _
  · intro w' hw
    rw [List.mem_singleton.1 hw]
    exact hchanged
  · intro w' hw call phase hcall p hp he
    have hlocked := h.locked call phase hcall p hp
    rw [he, List.mem_singleton.1 hw, hfree] at hlocked
    cases hlocked

/-- One more row for an open transaction, which was free. -/
theorem Consistent.lock_write (h : Consistent first s) {old phase : UserCall}
    (hcall : s.calls call = some old) {w : WrittenUser}
    (hwritten : phase.written = old.written ++ [w])
    (hchanged : ∃ row ∈ s.users.rows, Changed w.change row w.row)
    (hfree : s.locks w.row.username = none) :
    Consistent first ((s.lock call w.row.username).setCall call phase) := by
  have hlocked := h.locked call old hcall
  have hne : ∀ p ∈ old.written, p.row.username ≠ w.row.username := by
    intro p hp he
    have hown := hlocked p hp
    rw [he, hfree] at hown
    cases hown
  apply (h.lock hfree).setCall
  · rw [hwritten]
    intro p hp
    rcases List.mem_append.1 hp with hp | hp
    · exact (Function.update_of_ne (hne p hp) _ s.locks).trans (hlocked p hp)
    · rw [List.mem_singleton.1 hp]
      exact Function.update_self _ _ s.locks
  · rw [hwritten]
    intro p hp
    rcases List.mem_append.1 hp with hp | hp
    · exact h.changed call old hcall p hp
    · rw [List.mem_singleton.1 hp]
      exact hchanged
  · rw [hwritten, List.map_append, List.map_singleton]
    apply List.Nodup.append (h.distinct call old hcall) (List.nodup_singleton _)
    intro username hold hnew
    obtain ⟨p, hp, rfl⟩ := List.mem_map.1 hold
    exact hne p hp (List.mem_singleton.1 hnew)

/-! ## The steps -/

theorem start_written {request : UserRequest} {phase : UserCall}
    (h : UserCall.start request = .ok phase) : phase.written = [] := by
  cases request with
  | updateMember principal groupId username command salt =>
      obtain ⟨-, hphase⟩ := CheckedSteps.check_bind_eq_ok_iff.1 h
      cases hphase
      rfl
  | replaceGroupAdmin principal groupId username =>
      obtain ⟨-, hphase⟩ := CheckedSteps.check_bind_eq_ok_iff.1 h
      cases hphase
      rfl
  | changeGroup principal groupId =>
      obtain ⟨-, hphase⟩ := CheckedSteps.check_bind_eq_ok_iff.1 h
      cases hphase
      rfl

theorem start_consistent (h : Consistent first s) {monitor : Option Monitor}
    {request : UserRequest} (hstep : s.start call monitor request = some s') :
    Consistent first s' := by
  unfold UserState.start at hstep
  split at hstep
  next hnone hphase =>
    split_ifs at hstep
    cases hstep
    have hnext : Consistent first (s.setCall call _) := h.setCall_nil (start_written hphase)
    exact ⟨hnext.kept, hnext.locked, hnext.changed, hnext.distinct⟩
  next => cases hstep

variable {platform : Platform}

theorem find_consistent (h : Consistent first s) (hstep : s.find platform call = some s') :
    Consistent first s' := by
  unfold UserState.find at hstep
  split at hstep
  next groupId username command salt hcall =>
    obtain ⟨current, -, hstep⟩ := Option.bind_eq_some_iff.1 hstep
    cases hchange : memberChange platform groupId command salt current with
    | ok change =>
        rw [hchange] at hstep
        cases hstep
        exact h.setCall_nil rfl
    | error thrown =>
        rw [hchange] at hstep
        cases hstep
  next groupId username hcall =>
    obtain ⟨target, -, hstep⟩ := Option.bind_eq_some_iff.1 hstep
    split_ifs at hstep
    cases hstep
    exact h.setCall_nil rfl
  next => cases hstep

theorem list_consistent (h : Consistent first s)
    {hierarchy : Except Thrown OrganizationHierarchy} (hstep : s.list call hierarchy = some s') :
    Consistent first s' := by
  unfold UserState.list at hstep
  split at hstep
  next groupId hcall =>
    cases hstep
    exact h.setCall_nil rfl
  next => cases hstep

theorem demote_consistent (h : Consistent first s) (hstep : s.demote call = some s') :
    Consistent first s' := by
  unfold UserState.demote at hstep
  split at hstep
  next groupId target hcall =>
    cases hstep
    exact h.setCall_nil rfl
  next => cases hstep

theorem demoteRow_consistent (h : Consistent first s) {username : String}
    (hstep : s.demoteRow call username = some s') : Consistent first s' := by
  unfold UserState.demoteRow at hstep
  split at hstep
  next groupId target todo written hcall =>
    split_ifs at hstep with hfree
    obtain ⟨row, hfind, rfl⟩ := Option.map_eq_some_iff.1 hstep
    obtain ⟨hrow, hname⟩ := KeyedDelta.find_some hfind
    split_ifs
    · subst hname
      exact h.lock_write (w := ⟨row.copy .demoted, .demoted⟩) hcall rfl
        ⟨row, hrow, changed_copy row .demoted⟩ hfree.2
    · apply h.setCall
      · exact h.locked call (.demoting groupId target todo written) hcall
      · exact h.changed call (.demoting groupId target todo written) hcall
      · exact h.distinct call (.demoting groupId target todo written) hcall
  next => cases hstep

/-- Only here does it matter that the row has not changed since it was read. -/
theorem write_consistent (h : Consistent first s) (hcurrent : WritesBackCurrent s (.write call))
    (hstep : s.write platform call = some s') : Consistent first s' := by
  unfold UserState.write at hstep
  split at hstep
  next phase hcall =>
    obtain ⟨⟨current, change⟩, hnext, hstep⟩ := Option.bind_eq_some_iff.1 hstep
    have hrow : current ∈ s.users.rows :=
      hcurrent (current, change) (Option.bind_eq_some_iff.2 ⟨phase, hcall, hnext⟩)
    simp only at hstep
    split_ifs at hstep with hwritable
    obtain ⟨w, hw⟩ : ∃ w : WrittenUser,
        w = ⟨AuthUsers.updateRow platform (current.copy change), change⟩ := ⟨_, rfl⟩
    have hchanged : ∃ row ∈ s.users.rows, Changed w.change row w.row := by
      rw [hw]
      exact ⟨current, hrow, changed_updateRow platform current change⟩
    have hfree : s.locks w.row.username = none := by
      rw [hw]
      exact hwritable.2
    have hended : (s.endCall call).locks w.row.username = none := by
      apply (if_neg _).trans hfree
      rw [hfree]
      exact Option.some_ne_none call ∘ Eq.symm
    rw [← hw] at hstep
    cases phase with
    | updating current' change' =>
        cases hstep
        exact h.endCall.store_unlocked hchanged hended
    | demoting groupId target todo written =>
        cases hstep
        have hname : (current.copy change).username = w.row.username := by
          rw [hw]
          rfl
        rw [hname]
        exact h.lock_write hcall rfl hchanged hfree
    | invalidating users =>
        cases users with
        | nil => cases hnext
        | cons user rest =>
            cases hstep
            have hnext : Consistent first (s.setCall call (.invalidating rest)) := h.setCall_nil rfl
            exact hnext.store_unlocked hchanged hfree
    | finding groupId username command salt => cases hnext
    | replacing groupId username => cases hnext
    | found groupId target => cases hnext
    | committing written => cases hnext
    | listing groupId => cases hnext
  next => cases hstep

theorem commit_consistent (h : Consistent first s) (hstep : s.commit call = some s') :
    Consistent first s' := by
  unfold UserState.commit at hstep
  split at hstep
  next written hcall =>
    cases hstep
    have hended : Consistent first (s.endCall call) := h.endCall
    apply hended.store
    · exact h.distinct call _ hcall
    · exact h.changed call _ hcall
    · -- the rows of other transactions are locked by these
      intro w hw other phase hother p hp he
      obtain ⟨hne, hold⟩ := endCall_calls hother
      have hlocked := h.locked other phase hold p hp
      rw [he, h.locked call _ hcall w hw] at hlocked
      exact hne (Option.some.inj hlocked).symm
  next => cases hstep

theorem leave_consistent (h : Consistent first s) (hstep : s.leave call = some s') :
    Consistent first s' := by
  unfold UserState.leave at hstep
  split at hstep
  next hcall =>
    cases hstep
    exact h.endCall
  next => cases hstep

theorem step_consistent (h : Consistent first s) {action : UserAction}
    (hcurrent : WritesBackCurrent s action) (hstep : s.step platform action = some s') :
    Consistent first s' := by
  cases action with
  | start call monitor request => exact start_consistent h hstep
  | find call => exact find_consistent h hstep
  | list call hierarchy => exact list_consistent h hstep
  | demote call => exact demote_consistent h hstep
  | demoteRow call username => exact demoteRow_consistent h hstep
  | write call => exact write_consistent h hcurrent hstep
  | commit call => exact commit_consistent h hstep
  | leave call => exact leave_consistent h hstep
  | throws call =>
      obtain ⟨phase, -, rfl⟩ := Option.map_eq_some_iff.1 hstep
      exact h.endCall

/-- As long as every row that is written back is still the one that was read, no change of a user is
lost, in any interleaving of the calls. -/
theorem no_lost_user_update {platform : Platform} {users : AuthUsers} {actions : List UserAction}
    {s : UserState} (hrun : Runs.run (UserState.step platform) (.initial users) actions = some s)
    (hcurrent : Runs.Along (UserState.step platform) WritesBackCurrent (.initial users) actions) :
    NoLostUpdate users s := by
  have hconsistent : Consistent users s :=
    Runs.run_invariant (fun t action t' ht hC hstep => step_consistent ht hC hstep)
      (initial_consistent users) hcurrent hrun
  exact hconsistent.kept

/-! ## A change that is lost -/

def samplePlatform : Platform where
  deriveKey _ salt _ _ := .ok salt
  lowercase text := text
  lowercase_notBlank _ h := h

def sampleGroup : GroupId := ⟨"alpha", rfl⟩

def sampleAdmin : AuthenticatedPrincipal :=
  ⟨"admin", .admin, sampleGroup, 1, rfl, Nat.one_pos⟩

def sampleUsers : AuthUsers where
  rows := [⟨2, "viewer", "viewer@example.test", "hash", 1, .viewer, sampleGroup, true, 1,
    .refl false, .refl false, .refl false, Nat.one_pos⟩]
  unique := List.nodup_singleton _

def deactivateViewer : UserRequest :=
  .updateMember sampleAdmin sampleGroup "viewer" ⟨none, some false, none⟩ []

/-- The group changes; the viewer is deactivated after the users were listed. -/
def overlappingCalls : List UserAction :=
  [.start 0 (some (.groups 0)) (.changeGroup sampleAdmin sampleGroup),
    .list 0 (.error (.runtime "unavailable")),
    .start 1 (some (.members 0)) deactivateViewer, .find 1, .write 1, .write 0, .leave 0]

/-- The same calls, one after the other. -/
def separateCalls : List UserAction :=
  [.start 0 (some (.groups 0)) (.changeGroup sampleAdmin sampleGroup),
    .list 0 (.error (.runtime "unavailable")), .write 0, .leave 0,
    .start 1 (some (.members 0)) deactivateViewer, .find 1, .write 1]

theorem no_lost_user_update_counterexample :
    ¬ ∀ (platform : Platform) (users : AuthUsers) (actions : List UserAction) (s : UserState),
      Runs.run (UserState.step platform) (.initial users) actions = some s →
      (∀ call, s.calls call = none) → NoLostUpdate users s := by
  intro hclaim
  obtain ⟨s, hrun, hcalls, hlost⟩ : ∃ s,
      Runs.run (UserState.step samplePlatform) (.initial sampleUsers) overlappingCalls = some s ∧
        (∀ call, s.calls call = none) ∧ ¬ NoLostUpdate sampleUsers s := by
    refine ⟨_, rfl, ?_, ?_⟩
    · intro call
      match call with
      | 0 => rfl
      | 1 => rfl
      | _ + 2 => rfl
    · intro hkept
      obtain ⟨row, hrow, -, hcolumns⟩ := hkept _ List.mem_cons_self
      cases List.mem_singleton.1 hrow
      exact absurd hcolumns.active (by decide)
  exact hlost (hclaim samplePlatform sampleUsers overlappingCalls s hrun hcalls)

theorem no_lost_user_update_separate :
    ∃ s, Runs.run (UserState.step samplePlatform) (.initial sampleUsers) separateCalls = some s ∧
      NoLostUpdate sampleUsers s := by
  obtain ⟨s, hrun⟩ : ∃ s,
      Runs.run (UserState.step samplePlatform) (.initial sampleUsers) separateCalls = some s :=
    ⟨_, rfl⟩
  exact ⟨s, hrun, no_lost_user_update hrun (by decide +kernel)⟩

end GcsSaker.Groups
