import GcsSaker.Runs
import Mathlib.Data.List.Induction
import Mathlib.Data.List.Nodup
import Mathlib.Tactic.Ring

/-!
# The dead-man control of the remote control pad

Keys and pad buttons press and release directions. The hook keeps the pressed ones and sends a
motion or a stop for every change. The specification is `Held`, which reads off the events alone
which keys are down.
-/

namespace GcsSaker.DeadManControl

open GcsSaker.Runs

inductive Axis where
  | forward
  | right
  | up
  | yaw
deriving DecidableEq

structure MotionAxes where
  forward : ℤ
  right : ℤ
  up : ℤ
  yaw : ℤ
deriving DecidableEq

inductive ControlIntent where
  | motion (axes : MotionAxes)
  | stop
deriving DecidableEq

/-- The table of directions. The two last names are members that every object inherits. -/
def KEY_AXES (key : String) : Option (List (Axis × ℤ)) :=
  if key = "w" then some [(.forward, 1)]
  else if key = "s" then some [(.forward, -1)]
  else if key = "a" then some [(.right, -1)]
  else if key = "d" then some [(.right, 1)]
  else if key = "constructor" ∨ key = "__proto__" then some []
  else none

def MotionAxes.plus (axes : MotionAxes) : Axis × ℤ → MotionAxes
  | (.forward, value) => { axes with forward := axes.forward + value }
  | (.right, value) => { axes with right := axes.right + value }
  | (.up, value) => { axes with up := axes.up + value }
  | (.yaw, value) => { axes with yaw := axes.yaw + value }

def keyAxes (axes : MotionAxes) (key : String) : MotionAxes :=
  ((KEY_AXES key).getD []).foldl MotionAxes.plus axes

def axesFor (keys : List String) : MotionAxes := keys.foldl keyAxes ⟨0, 0, 0, 0⟩

def isStopped (axes : MotionAxes) : Bool :=
  axes.forward == 0 && axes.right == 0 && axes.up == 0 && axes.yaw == 0

structure DeadMan where
  enabled : Bool
  pressedRef : List String
  sent : List ControlIntent
  mounted : Bool
deriving DecidableEq

def mount (enabled : Bool) : DeadMan := ⟨enabled, [], [], true⟩

inductive Event where
  | keydown (key : String) (editable : Bool)
  | keyup (key : String)
  | blur
  | visibilitychange (hidden : Bool)
  | pointerDown (key : String)
  | pointerUp (key : String)
  | stop
  | render (enabled : Bool)
  | unmount
deriving DecidableEq

section Source

variable (toLowerCase : String → String)

def releaseAll (s : DeadMan) : DeadMan :=
  if s.pressedRef = [] then s else { s with pressedRef := [], sent := s.sent ++ [.stop] }

def press (s : DeadMan) (key : String) : DeadMan :=
  let normalized := toLowerCase key
  if s.enabled = false ∨ KEY_AXES normalized = none ∨ normalized ∈ s.pressedRef then s
  else
    let pressed := s.pressedRef ++ [normalized]
    { s with pressedRef := pressed, sent := s.sent ++ [.motion (axesFor pressed)] }

def release (s : DeadMan) (key : String) : DeadMan :=
  let normalized := toLowerCase key
  if normalized ∈ s.pressedRef then
    let pressed := s.pressedRef.erase normalized
    let axes := axesFor pressed
    let intent := if isStopped axes then .stop else .motion axes
    { s with pressedRef := pressed, sent := s.sent ++ [intent] }
  else s

/-- One event on a mounted pad. The cleanup of the effect runs where `enabled` has changed. -/
def handle (s : DeadMan) : Event → DeadMan
  | .keydown key editable => if editable then s else press toLowerCase s key
  | .keyup key => release toLowerCase s key
  | .blur => releaseAll s
  | .visibilitychange hidden => if hidden then releaseAll s else s
  | .pointerDown key => press toLowerCase s key
  | .pointerUp key => release toLowerCase s key
  | .stop => releaseAll s
  | .render enabled =>
      if enabled = s.enabled then s else { releaseAll s with enabled := enabled }
  | .unmount => { releaseAll s with mounted := false }

def step (s : DeadMan) (e : Event) : Option DeadMan :=
  if s.mounted then some (handle toLowerCase s e) else none

end Source

section Specification

variable (toLowerCase : String → String)

def Event.Presses (key : String) : Event → Prop
  | .keydown pressed editable => editable = false ∧ toLowerCase pressed = key
  | .pointerDown pressed => toLowerCase pressed = key
  | _ => False

def Event.Releases (key : String) : Event → Prop
  | .keyup released => toLowerCase released = key
  | .pointerUp released => toLowerCase released = key
  | .blur | .stop | .unmount => True
  | .visibilitychange hidden => hidden = true
  | .render enabled => enabled = false
  | _ => False

/-- Whether the pad is enabled after some events. -/
def enabledAfter (enabled : Bool) (events : List Event) : Bool :=
  events.foldl (fun enabled e => match e with | .render now => now | _ => enabled) enabled

/-- A direction is held: it was pressed on an enabled pad and nothing has released it since. -/
def Held (enabled : Bool) (events : List Event) (key : String) : Prop :=
  ∃ before e after, events = before ++ e :: after ∧ enabledAfter enabled before = true ∧
    KEY_AXES key ≠ none ∧ e.Presses toLowerCase key ∧
    ∀ e' ∈ after, ¬e'.Releases toLowerCase key

open scoped Classical in
/-- The axes that a set of held directions asks for. -/
noncomputable def heldAxes (held : String → Prop) : MotionAxes where
  forward := (if held "w" then 1 else 0) - (if held "s" then 1 else 0)
  right := (if held "d" then 1 else 0) - (if held "a" then 1 else 0)
  up := 0
  yaw := 0

def ControlIntent.axes : ControlIntent → MotionAxes
  | .motion axes => axes
  | .stop => ⟨0, 0, 0, 0⟩

/-- What the vehicle was asked for last. -/
def lastAxes (sent : List ControlIntent) : MotionAxes :=
  (sent.getLast?.map ControlIntent.axes).getD ⟨0, 0, 0, 0⟩

end Specification

section Axes

theorem keyAxes_eq (axes : MotionAxes) (key : String) :
    keyAxes axes key = ⟨axes.forward + ((if key = "w" then 1 else 0) - if key = "s" then 1 else 0),
      axes.right + ((if key = "d" then 1 else 0) - if key = "a" then 1 else 0), axes.up,
      axes.yaw⟩ := by
  unfold keyAxes KEY_AXES
  by_cases hw : key = "w"
  · subst hw
    simp [MotionAxes.plus]
  by_cases hs : key = "s"
  · subst hs
    simp [MotionAxes.plus]
  by_cases ha : key = "a"
  · subst ha
    simp [MotionAxes.plus]
  by_cases hd : key = "d"
  · subst hd
    simp [MotionAxes.plus]
  by_cases hi : key = "constructor" ∨ key = "__proto__"
  · simp [hw, hs, ha, hd, hi]
  · simp [hw, hs, ha, hd, hi]

theorem foldl_keyAxes (keys : List String) (axes : MotionAxes) :
    keys.foldl keyAxes axes = ⟨axes.forward + (keys.count "w" - keys.count "s"),
      axes.right + (keys.count "d" - keys.count "a"), axes.up, axes.yaw⟩ := by
  induction keys generalizing axes with
  | nil => simp
  | cons key keys ih =>
      rw [List.foldl_cons, ih, keyAxes_eq]
      simp only [List.count_cons, beq_iff_eq, MotionAxes.mk.injEq, and_self, and_true]
      push_cast
      constructor <;> ring

theorem axesFor_eq (keys : List String) :
    axesFor keys = ⟨keys.count "w" - keys.count "s", keys.count "d" - keys.count "a", 0, 0⟩ := by
  rw [axesFor, foldl_keyAxes]
  simp

/-- Directions that are pressed once each ask for the axes of the set that they form. -/
theorem axesFor_heldAxes {keys : List String} (hkeys : keys.Nodup) {held : String → Prop}
    (hheld : ∀ key, key ∈ keys ↔ held key) : axesFor keys = heldAxes held := by
  obtain rfl : held = fun key => key ∈ keys := funext fun key => propext (hheld key).symm
  rw [axesFor_eq, heldAxes]
  simp only [List.Nodup.count hkeys, Nat.cast_ite, Nat.cast_one, Nat.cast_zero]
  congr

theorem isStopped_iff (axes : MotionAxes) : isStopped axes = true ↔ axes = ⟨0, 0, 0, 0⟩ := by
  cases axes
  simp [isStopped, and_assoc]

theorem axes_stop_or_motion (axes : MotionAxes) :
    (if isStopped axes then ControlIntent.stop else .motion axes).axes = axes := by
  by_cases h : isStopped axes = true
  · rw [if_pos h]
    exact ((isStopped_iff axes).1 h).symm
  · rw [if_neg h]
    rfl

@[simp] theorem lastAxes_snoc (sent : List ControlIntent) (intent : ControlIntent) :
    lastAxes (sent ++ [intent]) = intent.axes := by
  simp [lastAxes]

end Axes

section Held

variable {toLowerCase : String → String} {enabled : Bool} {events : List Event} {e : Event}
  {key : String}

@[simp] theorem enabledAfter_snoc : enabledAfter enabled (events ++ [e]) =
    match e with | .render now => now | _ => enabledAfter enabled events := by
  simp [enabledAfter]

theorem not_held_nil : ¬Held toLowerCase enabled [] key := by
  rintro ⟨before, e, after, h, -⟩
  simp at h

/-- A direction is held after one more event: it is pressed now, or it was and is not released. -/
theorem held_snoc : Held toLowerCase enabled (events ++ [e]) key ↔
    (enabledAfter enabled events = true ∧ KEY_AXES key ≠ none ∧ e.Presses toLowerCase key) ∨
      (Held toLowerCase enabled events key ∧ ¬e.Releases toLowerCase key) := by
  constructor
  · rintro ⟨before, p, after, h, hen, hkey, hp, hafter⟩
    induction after using List.reverseRecOn with
    | nil =>
        obtain ⟨rfl, hpe⟩ := List.append_inj' h rfl
        rw [List.singleton_inj] at hpe
        exact .inl ⟨hen, hkey, hpe ▸ hp⟩
    | append_singleton after last _ =>
        rw [← List.cons_append, ← List.append_assoc] at h
        obtain ⟨rfl, hlast⟩ := List.append_inj' h rfl
        rw [List.singleton_inj] at hlast
        refine .inr ⟨⟨before, p, after, rfl, hen, hkey, hp, fun e' he' => ?_⟩, ?_⟩
        · exact hafter e' (List.mem_append_left _ he')
        · exact hlast ▸ hafter last (List.mem_append_right _ List.mem_cons_self)
  · rintro (⟨hen, hkey, hp⟩ | ⟨⟨before, p, after, rfl, hen, hkey, hp, hafter⟩, he⟩)
    · exact ⟨events, e, [], rfl, hen, hkey, hp, fun _ h => absurd h List.not_mem_nil⟩
    · refine ⟨before, p, after ++ [e], by simp, hen, hkey, hp, fun e' he' => ?_⟩
      rcases List.mem_append.1 he' with he' | he'
      · exact hafter e' he'
      · exact List.mem_singleton.1 he' ▸ he

/-- On a pad that is disabled no direction is held. -/
theorem enabled_of_held (h : Held toLowerCase enabled events key) :
    enabledAfter enabled events = true := by
  induction events using List.reverseRecOn with
  | nil => exact absurd h not_held_nil
  | append_singleton events e ih =>
      rw [enabledAfter_snoc]
      rcases held_snoc.1 h with ⟨hen, -, hp⟩ | ⟨hheld, hr⟩
      · cases e <;> simp_all [Event.Presses]
      · cases e <;> simp_all [Event.Releases]

end Held

/-! ## The state that follows the events -/

section Safety

variable {toLowerCase : String → String} {enabled : Bool} {events : List Event} {s : DeadMan}
  {held : String → Prop} {key : String}

/-- The pad keeps the held directions, and the vehicle was asked for their axes last. -/
structure Follows (enabled : Bool) (held : String → Prop) (s : DeadMan) : Prop where
  enabled : s.enabled = enabled
  nodup : s.pressedRef.Nodup
  pressed : ∀ key, key ∈ s.pressedRef ↔ held key
  axes : lastAxes s.sent = axesFor s.pressedRef
  rest : s.pressedRef = [] → s.sent = [] ∨ s.sent.getLast? = some .stop
  intents : ∀ axes, .motion axes ∈ s.sent →
    (-1 ≤ axes.forward ∧ axes.forward ≤ 1) ∧ (-1 ≤ axes.right ∧ axes.right ≤ 1) ∧
      axes.up = 0 ∧ axes.yaw = 0

theorem axesFor_bounds {keys : List String} (hkeys : keys.Nodup) :
    (-1 ≤ (axesFor keys).forward ∧ (axesFor keys).forward ≤ 1) ∧
      (-1 ≤ (axesFor keys).right ∧ (axesFor keys).right ≤ 1) ∧
        (axesFor keys).up = 0 ∧ (axesFor keys).yaw = 0 := by
  have hcount := List.nodup_iff_count_le_one.1 hkeys
  have hw := hcount "w"
  have hs := hcount "s"
  have ha := hcount "a"
  have hd := hcount "d"
  rw [axesFor_eq]
  simp only [and_self, and_true]
  omega

theorem Follows.congr {held' : String → Prop} (h : Follows enabled held s)
    (heq : ∀ key, held key ↔ held' key) : Follows enabled held' s :=
  { h with pressed := fun key => (h.pressed key).trans (heq key) }

theorem follows_releaseAll (h : Follows enabled held s) :
    Follows enabled (fun _ => False) (releaseAll s) := by
  unfold releaseAll
  by_cases he : s.pressedRef = []
  · rw [if_pos he]
    refine { h with pressed := fun key => ?_ }
    simp [he]
  · rw [if_neg he]
    refine ⟨h.enabled, List.nodup_nil, by simp, ?_, fun _ => .inr (by simp), fun axes haxes => ?_⟩
    · rw [lastAxes_snoc]
      rfl
    · exact h.intents axes (by simpa using haxes)

theorem follows_press (h : Follows enabled held s) (key : String) :
    Follows enabled (fun k => (enabled = true ∧ KEY_AXES k ≠ none ∧ toLowerCase key = k) ∨ held k)
      (press toLowerCase s key) := by
  unfold press
  by_cases hskip : s.enabled = false ∨ KEY_AXES (toLowerCase key) = none ∨
      toLowerCase key ∈ s.pressedRef
  · rw [if_pos hskip]
    refine h.congr fun k => ⟨.inr, ?_⟩
    rintro (⟨rfl, hkey, rfl⟩ | hk)
    · rcases hskip with hdis | hnone | hmem
      · exact Bool.noConfusion (h.enabled.symm.trans hdis)
      · exact absurd hnone hkey
      · exact (h.pressed _).1 hmem
    · exact hk
  · rw [if_neg hskip]
    obtain ⟨hen, hkey, hmem⟩ : s.enabled = true ∧ KEY_AXES (toLowerCase key) ≠ none ∧
        toLowerCase key ∉ s.pressedRef := by simpa [not_or] using hskip
    have hnodup : (s.pressedRef ++ [toLowerCase key]).Nodup :=
      List.nodup_append'.2 ⟨h.nodup, List.nodup_singleton _, by simpa using hmem⟩
    refine ⟨h.enabled, hnodup, fun k => ?_, lastAxes_snoc _ _, fun hnil => ?_, fun axes haxes => ?_⟩
    · rw [List.mem_append, List.mem_singleton, h.pressed k, or_comm]
      exact or_congr_left ⟨fun hk => ⟨h.enabled.symm.trans hen, hk ▸ hkey, hk.symm⟩,
        fun hk => hk.2.2.symm⟩
    · exact absurd hnil (by simp)
    · rcases List.mem_append.1 haxes with hsent | hnew
      · exact h.intents axes hsent
      · rw [List.mem_singleton, ControlIntent.motion.injEq] at hnew
        exact hnew ▸ axesFor_bounds hnodup

theorem follows_release (h : Follows enabled held s) (key : String) :
    Follows enabled (fun k => held k ∧ toLowerCase key ≠ k) (release toLowerCase s key) := by
  unfold release
  by_cases hmem : toLowerCase key ∈ s.pressedRef
  · rw [if_pos hmem]
    have hnodup := h.nodup.erase (toLowerCase key)
    refine ⟨h.enabled, hnodup, fun k => ?_, ?_, fun hnil => ?_, fun axes haxes => ?_⟩
    · rw [h.nodup.mem_erase_iff, h.pressed k]
      exact ⟨fun hk => ⟨hk.2, hk.1.symm⟩, fun hk => ⟨hk.2.symm, hk.1⟩⟩
    · rw [lastAxes_snoc, axes_stop_or_motion]
    · refine .inr ?_
      change s.pressedRef.erase (toLowerCase key) = [] at hnil
      simp [hnil, axesFor, isStopped]
    · rcases List.mem_append.1 haxes with hsent | hnew
      · exact h.intents axes hsent
      · rw [List.mem_singleton] at hnew
        split_ifs at hnew
        rw [ControlIntent.motion.injEq] at hnew
        exact hnew ▸ axesFor_bounds hnodup
  · rw [if_neg hmem]
    refine h.congr fun k => ⟨fun hk => ⟨hk, ?_⟩, fun hk => hk.1⟩
    rintro rfl
    exact hmem ((h.pressed _).2 hk)

/-- What one event leaves held, on a pad that holds directions only while it is enabled. -/
theorem follows_handle (h : Follows enabled held s) (hen : ∀ key, held key → enabled = true)
    (e : Event) : Follows (match e with | .render now => now | _ => enabled)
      (fun k => (enabled = true ∧ KEY_AXES k ≠ none ∧ e.Presses toLowerCase k) ∨
        (held k ∧ ¬e.Releases toLowerCase k)) (handle toLowerCase s e) := by
  have hall : Follows enabled (fun _ => False) (releaseAll s) := follows_releaseAll h
  cases e with
  | keydown key editable =>
      cases editable with
      | true => exact h.congr fun k => by simp [Event.Presses, Event.Releases]
      | false =>
          exact (follows_press h key).congr fun k => by simp [Event.Presses, Event.Releases]
  | pointerDown key =>
      exact (follows_press h key).congr fun k => by simp [Event.Presses, Event.Releases]
  | keyup key | pointerUp key =>
      exact (follows_release h key).congr fun k => by simp [Event.Presses, Event.Releases]
  | visibilitychange hidden =>
      cases hidden with
      | true => exact hall.congr fun k => by simp [Event.Presses, Event.Releases]
      | false => exact h.congr fun k => by simp [Event.Presses, Event.Releases]
  | blur | stop | unmount =>
      refine Follows.congr { hall with } fun k => ?_
      simp [Event.Presses, Event.Releases]
  | render now =>
      rw [handle]
      by_cases heq : now = s.enabled
      · rw [if_pos heq, heq, h.enabled]
        refine h.congr fun k => ?_
        simp only [Event.Presses, Event.Releases, and_false, false_or]
        refine ⟨fun hk => ⟨hk, ?_⟩, fun hk => hk.1⟩
        rw [hen k hk]
        exact Bool.noConfusion
      · rw [if_neg heq]
        refine Follows.congr { hall with enabled := rfl } fun k => ?_
        simp only [Event.Presses, Event.Releases, and_false, false_or, false_iff, not_and, not_not]
        intro hk
        rw [h.enabled, hen k hk] at heq
        exact Bool.eq_false_of_not_eq_true heq

theorem run_follows (hrun : run (step toLowerCase) (mount enabled) events = some s) :
    Follows (enabledAfter enabled events) (Held toLowerCase enabled events) s := by
  induction events using List.reverseRecOn generalizing s with
  | nil =>
      rw [run_nil, Option.some.injEq] at hrun
      subst hrun
      refine ⟨rfl, List.nodup_nil, fun key => ?_, rfl, fun _ => .inl rfl, fun axes haxes => ?_⟩
      · exact iff_of_false List.not_mem_nil not_held_nil
      · exact absurd haxes List.not_mem_nil
  | append_singleton events e ih =>
      rw [run_append, Option.bind_eq_some_iff] at hrun
      obtain ⟨t, ht, hstep⟩ := hrun
      rw [run_cons, Option.bind_eq_some_iff] at hstep
      obtain ⟨u, hu, hs⟩ := hstep
      rw [run_nil, Option.some.injEq] at hs
      subst hs
      rw [step, Option.ite_none_right_eq_some, Option.some.injEq] at hu
      obtain ⟨-, rfl⟩ := hu
      rw [enabledAfter_snoc]
      exact (follows_handle (ih ht) (fun _ => enabled_of_held) e).congr fun key => held_snoc.symm

/-- After any events the last intent asks for the axes of the directions that are held, each axis
is at rest or at full deflection in every motion, and once nothing is held the vehicle was told to
stop, if it was told anything. -/
theorem last_intent_follows_held
    (hrun : run (step toLowerCase) (mount enabled) events = some s) :
    lastAxes s.sent = heldAxes (Held toLowerCase enabled events) ∧
      (∀ axes, .motion axes ∈ s.sent → (-1 ≤ axes.forward ∧ axes.forward ≤ 1) ∧
        (-1 ≤ axes.right ∧ axes.right ≤ 1) ∧ axes.up = 0 ∧ axes.yaw = 0) ∧
      ((∀ key, ¬Held toLowerCase enabled events key) →
        s.sent = [] ∨ s.sent.getLast? = some .stop) ∧
      ((∃ key, Held toLowerCase enabled events key) → s.enabled = true) := by
  have h := run_follows hrun
  refine ⟨?_, h.intents, fun hnone => h.rest ?_, fun ⟨key, hkey⟩ => ?_⟩
  · rw [h.axes, axesFor_heldAxes h.nodup h.pressed]
  · exact List.eq_nil_iff_forall_not_mem.2 fun key hkey => hnone key ((h.pressed key).1 hkey)
  · exact h.enabled.trans (enabled_of_held hkey)

/-- Two keys pressed, one in an input field, and the window left: a stop is the last intent. -/
theorem last_intent_follows_held_blur :
    let events := [.keydown "w" false, .keydown "d" true, .pointerDown "a", .keyup "w", .blur]
    ∃ s, run (step id) (mount true) events = some s ∧ s.sent.length = 4 ∧
      lastAxes s.sent = heldAxes (Held id true events) := by
  intro events
  obtain ⟨s, hrun, hlength⟩ : ∃ s, run (step id) (mount true) events = some s ∧
      s.sent.length = 4 := ⟨_, rfl, by decide⟩
  exact ⟨s, hrun, hlength, (last_intent_follows_held hrun).1⟩

end Safety

end GcsSaker.DeadManControl
