import GcsSaker.UserPreferences
import Mathlib.Data.List.Induction

/-!
# The writer of dashboard preferences

Preferences are saved after a delay, and preferences that are scheduled before that take the place
of those that wait, also where they are of another key.
-/

namespace GcsSaker.PreferenceWriter

open UserPreferences (DashboardUserPreferences createDefaultDashboardUserPreferences)

structure PendingPreferenceSave where
  key : String
  preferences : DashboardUserPreferences
  /-- How many calls of `schedulePreferenceSave` came before this one. -/
  number : ℕ
  deriving DecidableEq

/-- A mounted hook, with every call of `schedulePreferenceSave` and of
`saveDashboardUserPreferences` so far. -/
structure Writer where
  pendingSave : Option PendingPreferenceSave
  timer : Bool
  scheduled : List PendingPreferenceSave
  saved : List PendingPreferenceSave
  deriving DecidableEq

def useDebouncedPreferenceWriter : Writer where
  pendingSave := none
  timer := false
  scheduled := []
  saved := []

def Writer.flushPendingSave (w : Writer) : Writer :=
  match w.pendingSave with
  | none => w
  | some save => { w with pendingSave := none, saved := w.saved ++ [save] }

def Writer.schedulePreferenceSave (w : Writer) (key : String)
    (preferences : DashboardUserPreferences) : Writer :=
  let save := { key, preferences, number := w.scheduled.length }
  { w with pendingSave := some save, timer := true, scheduled := w.scheduled ++ [save] }

/-- The timer fires; one that was cleared does not. -/
def Writer.fire (w : Writer) : Writer :=
  if w.timer then { w with timer := false }.flushPendingSave else w

/-- The cleanup of the effect. -/
def Writer.unmount (w : Writer) : Writer :=
  { w with timer := false }.flushPendingSave

inductive Action where
  | schedulePreferenceSave (key : String) (preferences : DashboardUserPreferences)
  | fire
  | flushPendingSave

def Writer.step (w : Writer) : Action → Writer
  | .schedulePreferenceSave key preferences => w.schedulePreferenceSave key preferences
  | .fire => w.fire
  | .flushPendingSave => w.flushPendingSave

/-- The hook after what has happened since it was mounted. -/
def run (acts : List Action) : Writer :=
  acts.foldl Writer.step useDebouncedPreferenceWriter

theorem run_concat (acts : List Action) (a : Action) : run (acts ++ [a]) = (run acts).step a :=
  List.foldl_concat ..

/-- The last preferences scheduled for a key. -/
def Writer.latest (w : Writer) (key : String) : Option PendingPreferenceSave :=
  (w.scheduled.filter (·.key = key)).getLast?

/-- For each key the last preferences were saved, and none were saved after newer ones. -/
structure NoWriteLost (w : Writer) : Prop where
  latest : ∀ key, ∀ save ∈ w.latest key, save ∈ w.saved
  order : w.saved.Pairwise fun earlier later =>
    earlier.key = later.key → ¬later.number < earlier.number

instance (w : Writer) (key : String) : Decidable (∀ save ∈ w.latest key, save ∈ w.saved) :=
  match w.latest key with
  | none => isTrue fun save h => absurd h (Option.not_mem_none save)
  | some save => decidable_of_iff (save ∈ w.saved) (by simp only [Option.mem_some_iff, forall_eq'])

/-- Whenever preferences of another key are scheduled while some of this key wait, preferences of
this key are scheduled again. -/
def Rescheduled (key : String) (acts : List Action) : Prop :=
  ∀ before other preferences after,
    acts = before ++ .schedulePreferenceSave other preferences :: after → other ≠ key →
    ∀ save ∈ (run before).pendingSave, save.key = key →
      ∃ newer, .schedulePreferenceSave key newer ∈ after

/-! ## The order of saves -/

/-- What waits is what was scheduled last, and it is newer than everything that was saved. -/
structure Ordered (w : Writer) : Prop where
  pending : ∀ save ∈ w.pendingSave, w.scheduled.getLast? = some save ∧
    save.number < w.scheduled.length ∧ ∀ old ∈ w.saved, old.number < save.number
  saved : ∀ save ∈ w.saved, save.number < w.scheduled.length
  increasing : w.saved.Pairwise fun earlier later => earlier.number < later.number

theorem ordered_initial : Ordered useDebouncedPreferenceWriter where
  pending := fun save h => absurd h (Option.not_mem_none save)
  saved := List.forall_mem_nil _
  increasing := .nil

theorem Ordered.flushPendingSave {w : Writer} (h : Ordered w) : Ordered w.flushPendingSave := by
  unfold Writer.flushPendingSave
  cases hpending : w.pendingSave with
  | none => exact h
  | some save =>
      obtain ⟨_, hnumber, hnewer⟩ := h.pending save hpending
      refine ⟨fun new h => absurd h (Option.not_mem_none new), fun old hold => ?_, ?_⟩
      · obtain hold | hold := List.mem_append.1 hold
        · exact h.saved old hold
        · exact List.mem_singleton.1 hold ▸ hnumber
      · refine List.pairwise_append.2 ⟨h.increasing, List.pairwise_singleton _ _, ?_⟩
        intro old hold new hnew
        exact List.mem_singleton.1 hnew ▸ hnewer old hold

theorem Ordered.clearTimer {w : Writer} (h : Ordered w) : Ordered { w with timer := false } :=
  ⟨h.pending, h.saved, h.increasing⟩

theorem Ordered.schedulePreferenceSave {w : Writer} (h : Ordered w) (key : String)
    (preferences : DashboardUserPreferences) :
    Ordered (w.schedulePreferenceSave key preferences) where
  pending := by
    rintro save hsave
    have heq := Option.some.inj hsave
    subst heq
    refine ⟨List.getLast?_concat, ?_, h.saved⟩
    simp only [Writer.schedulePreferenceSave, List.length_append, List.length_singleton]
    omega
  saved := fun save hsave => by
    have hlt := h.saved save hsave
    simp only [Writer.schedulePreferenceSave, List.length_append, List.length_singleton]
    omega
  increasing := h.increasing

theorem Ordered.step {w : Writer} (h : Ordered w) (a : Action) : Ordered (w.step a) := by
  cases a with
  | schedulePreferenceSave key preferences => exact h.schedulePreferenceSave key preferences
  | flushPendingSave => exact h.flushPendingSave
  | fire =>
      rw [Writer.step, Writer.fire]
      split
      next => exact h.clearTimer.flushPendingSave
      next => exact h

theorem run_ordered (acts : List Action) : Ordered (run acts) := by
  induction acts using List.reverseRecOn with
  | nil => exact ordered_initial
  | append_singleton acts a ih => exact run_concat acts a ▸ ih.step a

theorem flushPendingSave_pendingSave (w : Writer) : w.flushPendingSave.pendingSave = none := by
  unfold Writer.flushPendingSave
  split
  next hpending => exact hpending
  next => rfl

/-! ## What is kept of a key -/

/-- The last preferences of a key are saved, or they wait. -/
def Kept (key : String) (w : Writer) : Prop :=
  ∀ save ∈ w.latest key, save ∈ w.saved ∨ w.pendingSave = some save

theorem getLast?_filter_concat (saves : List PendingPreferenceSave) (save : PendingPreferenceSave)
    (key : String) : ((saves ++ [save]).filter (·.key = key)).getLast? =
      if save.key = key then some save else (saves.filter (·.key = key)).getLast? := by
  rw [List.filter_append, List.filter_singleton]
  by_cases hkey : save.key = key
  · rw [decide_eq_true hkey, if_pos hkey]
    exact List.getLast?_concat
  · rw [decide_eq_false hkey, if_neg hkey]
    exact congrArg _ (List.append_nil _)

theorem latest_schedule (key other : String) (preferences : DashboardUserPreferences) (w : Writer) :
    (w.schedulePreferenceSave other preferences).latest key =
      if other = key then (w.schedulePreferenceSave other preferences).pendingSave
      else w.latest key :=
  getLast?_filter_concat ..

theorem kept_flushPendingSave {key : String} {w : Writer} :
    Kept key w.flushPendingSave ↔ Kept key w := by
  unfold Writer.flushPendingSave
  cases hpending : w.pendingSave with
  | none => exact Iff.rfl
  | some waiting =>
      refine forall₂_congr fun save _ => ?_
      rw [List.mem_append, List.mem_singleton, hpending, Option.some.injEq, eq_comm (a := waiting)]
      exact or_iff_left fun h => absurd h (Option.not_mem_none save)

theorem kept_fire {key : String} {w : Writer} : Kept key w.fire ↔ Kept key w := by
  unfold Writer.fire
  split
  next => exact kept_flushPendingSave
  next => exact Iff.rfl

theorem kept_schedule_same (key : String) (preferences : DashboardUserPreferences) (w : Writer) :
    Kept key (w.schedulePreferenceSave key preferences) := by
  intro save hsave
  rw [latest_schedule, if_pos rfl] at hsave
  exact .inr hsave

/-- What waits of a key is lost to preferences of another key. -/
theorem kept_schedule_other {key other : String} (hne : other ≠ key)
    (preferences : DashboardUserPreferences) {w : Writer} (h : Ordered w) :
    Kept key (w.schedulePreferenceSave other preferences) ↔
      Kept key w ∧ ∀ save ∈ w.pendingSave, save.key ≠ key := by
  have hsaved : Kept key (w.schedulePreferenceSave other preferences) ↔
      ∀ save ∈ w.latest key, save ∈ w.saved := by
    rw [Kept, latest_schedule, if_neg hne]
    refine forall₂_congr fun save hsave => or_iff_left fun hpending => ?_
    have hkey := (List.mem_filter.1 (List.mem_of_getLast? hsave)).2
    rw [← Option.some.inj hpending] at hkey
    exact hne (of_decide_eq_true hkey)
  rw [hsaved]
  constructor
  · refine fun hall => ⟨fun save hsave => .inl (hall save hsave), fun save hsave hkey => ?_⟩
    -- What waits was scheduled last of all, so also last of its key.
    obtain ⟨hlast, _, hnewer⟩ := h.pending save hsave
    have hmem : save ∈ w.latest key := by
      obtain ⟨old, hold⟩ := List.getLast?_eq_some_iff.1 hlast
      rw [Writer.latest, hold, getLast?_filter_concat, if_pos hkey]
      rfl
    exact (hnewer save (hall save hmem)).false
  · rintro ⟨hkept, hpending⟩ save hsave
    refine (hkept save hsave).resolve_right fun hwaits => ?_
    have hkey := (List.mem_filter.1 (List.mem_of_getLast? hsave)).2
    exact hpending save hwaits (of_decide_eq_true hkey)

/-! ## Whole lives of the hook -/

theorem eq_append_concat {acts before after : List Action} {a x : Action} :
    acts ++ [a] = before ++ x :: after ↔ (after = [] ∧ acts = before ∧ a = x) ∨
      ∃ after', after = after' ++ [a] ∧ acts = before ++ x :: after' := by
  obtain rfl | ⟨after', b, rfl⟩ := List.eq_nil_or_concat after
  · rw [List.append_singleton_inj]
    constructor
    · exact fun h => .inl ⟨rfl, h⟩
    · rintro (⟨-, h⟩ | ⟨after', h, -⟩)
      · exact h
      · exact absurd h.symm (List.append_ne_nil_of_right_ne_nil after' (List.cons_ne_nil a []))
  · rw [List.concat_eq_append, ← List.cons_append, ← List.append_assoc, List.append_singleton_inj]
    constructor
    · rintro ⟨h, rfl⟩
      exact .inr ⟨after', rfl, h⟩
    · rintro (⟨h, -, -⟩ | ⟨after'', h, hacts⟩)
      · exact absurd h (List.append_ne_nil_of_right_ne_nil after' (List.cons_ne_nil b []))
      · obtain ⟨rfl, rfl⟩ := List.append_singleton_inj.1 h
        exact ⟨hacts, rfl⟩

theorem rescheduled_nil (key : String) : Rescheduled key [] := by
  intro before other preferences after hacts
  cases before <;> cases hacts

theorem rescheduled_concat_same (key : String) (preferences : DashboardUserPreferences)
    (acts : List Action) : Rescheduled key (acts ++ [.schedulePreferenceSave key preferences]) := by
  intro before other preferences' after hacts hother save _ _
  obtain ⟨-, -, ha⟩ | ⟨after', rfl, -⟩ := eq_append_concat.1 hacts
  · injection ha with hkey
    exact absurd hkey.symm hother
  · exact ⟨preferences, List.mem_append_right _ (List.mem_singleton.2 rfl)⟩

theorem rescheduled_concat {key : String} {a : Action}
    (ha : ∀ newer, a ≠ .schedulePreferenceSave key newer) (acts : List Action) :
    Rescheduled key (acts ++ [a]) ↔ Rescheduled key acts ∧
      ∀ other preferences, a = .schedulePreferenceSave other preferences →
        ∀ save ∈ (run acts).pendingSave, save.key ≠ key := by
  constructor
  · refine fun h => ⟨fun before other preferences after hacts hother save hsave hkey => ?_,
      fun other preferences heq save hsave hkey => ?_⟩
    · obtain ⟨newer, hmem⟩ := h before other preferences (after ++ [a])
        (eq_append_concat.2 (.inr ⟨after, rfl, hacts⟩)) hother save hsave hkey
      obtain hmem | hmem := List.mem_append.1 hmem
      · exact ⟨newer, hmem⟩
      · exact absurd (List.mem_singleton.1 hmem).symm (ha newer)
    · have hother : other ≠ key := fun hsame => ha preferences (hsame ▸ heq)
      obtain ⟨newer, hmem⟩ := h acts other preferences [] (by rw [heq]) hother save hsave hkey
      cases hmem
  · rintro ⟨h, hlast⟩ before other preferences after hacts hother save hsave hkey
    obtain ⟨-, rfl, heq⟩ | ⟨after', rfl, hbefore⟩ := eq_append_concat.1 hacts
    · exact absurd hkey (hlast other preferences heq save hsave)
    · obtain ⟨newer, hmem⟩ := h before other preferences after' hbefore hother save hsave hkey
      exact ⟨newer, List.mem_append_left _ hmem⟩

theorem run_kept_iff (key : String) (acts : List Action) :
    Kept key (run acts) ↔ Rescheduled key acts := by
  induction acts using List.reverseRecOn with
  | nil =>
      have hnone : Kept key (run []) := fun save h => absurd h (Option.not_mem_none save)
      exact iff_of_true hnone (rescheduled_nil key)
  | append_singleton acts a ih =>
      rw [run_concat]
      cases a with
      | schedulePreferenceSave other preferences =>
          by_cases hother : other = key
          · subst hother
            exact iff_of_true (kept_schedule_same other preferences (run acts))
              (rescheduled_concat_same other preferences acts)
          · rw [Writer.step, kept_schedule_other hother preferences (run_ordered acts), ih,
              rescheduled_concat fun newer heq => hother (by injection heq)]
            exact and_congr_right' ⟨fun h _ _ _ => h, fun h => h other preferences rfl⟩
      | fire =>
          rw [Writer.step, kept_fire, ih, rescheduled_concat (a := .fire) fun _ heq => nomatch heq]
          exact (and_iff_left fun _ _ heq => nomatch heq).symm
      | flushPendingSave =>
          rw [Writer.step, kept_flushPendingSave, ih,
            rescheduled_concat (a := .flushPendingSave) fun _ heq => nomatch heq]
          exact (and_iff_left fun _ _ heq => nomatch heq).symm

/-- No preferences are lost in a life of the hook if and only if no key takes the place of another
one that is not scheduled again. -/
theorem noWriteLost_iff (acts : List Action) :
    NoWriteLost (run acts).unmount ↔ ∀ key, Rescheduled key acts := by
  have hlatest : (∀ key, Kept key (run acts).unmount) ↔
      ∀ key, ∀ save ∈ (run acts).unmount.latest key, save ∈ (run acts).unmount.saved := by
    refine forall_congr' fun key => forall₂_congr fun save _ => or_iff_left fun hpending => ?_
    rw [Writer.unmount, flushPendingSave_pendingSave] at hpending
    cases hpending
  have hkept : (∀ key, Kept key (run acts).unmount) ↔ ∀ key, Rescheduled key acts :=
    forall_congr' fun key => kept_flushPendingSave.trans (run_kept_iff key acts)
  rw [← hkept, hlatest]
  refine ⟨fun h => h.latest, fun h => ⟨h, ?_⟩⟩
  exact (run_ordered acts).clearTimer.flushPendingSave.increasing.imp fun hlt _ => hlt.asymm

/-- Preferences of one user are lost when another user changes theirs within the delay. -/
theorem preferences_lost : ¬NoWriteLost (run
    [.schedulePreferenceSave "dashboard:operator01" (createDefaultDashboardUserPreferences .full),
      .schedulePreferenceSave "dashboard:operator02"
        (createDefaultDashboardUserPreferences .full)]).unmount := by
  intro h
  exact absurd (h.latest "dashboard:operator01") (by decide)

end GcsSaker.PreferenceWriter
