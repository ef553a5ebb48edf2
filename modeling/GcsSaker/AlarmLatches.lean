import GcsSaker.EventLog
import Mathlib.Data.List.Nodup
import Mathlib.Data.Set.Function

/-!
# Latched alarms

A pass checks some alarms, one after the other. An alarm that is found bad sets its latch and sounds,
unless the latch stands already, and one that is found good clears it. An alarm that cannot sound
ends the pass, with the latch set. If every alarm sounds that has to, then an alarm that was bad when
it was last looked at has sounded since it was last good.
-/

namespace GcsSaker.AlarmLatches

open EventLog (since)

variable {α κ : Type*}

structure Check (α : Type*) where
  alarm : α
  bad : Bool
  deriving DecidableEq

structure Outcome (α κ : Type*) where
  standing : κ → Bool
  sounded : List α
  completed : Bool

/-- The checks of a pass that has sounded `count` alarms; `sounds` says whether the next one can. -/
def pass [DecidableEq κ] (cell : α → κ) (sounds : ℕ → Bool) :
    List (Check α) → (κ → Bool) → ℕ → Outcome α κ
  | [], standing, _ => ⟨standing, [], true⟩
  | check :: checks, standing, count =>
    if check.bad = true ∧ standing (cell check.alarm) = false then
      let latched := Function.update standing (cell check.alarm) true
      if sounds count then
        let rest := pass cell sounds checks latched (count + 1)
        { rest with sounded := check.alarm :: rest.sounded }
      else ⟨latched, [], false⟩
    else pass cell sounds checks (Function.update standing (cell check.alarm) check.bad) count

/-- The alarms that a pass has to sound. -/
def due (cell : α → κ) (checks : List (Check α)) (standing : κ → Bool) : List α :=
  (checks.filter fun check => check.bad && !standing (cell check.alarm)).map Check.alarm

/-- What a pass saw of the alarms, and which of them it sounded. -/
structure Record (α : Type*) where
  view : α → Option Bool
  sounded : List α

/-- The alarm was bad when it was last looked at; the latest record is the first. -/
def InBreach (alarm : α) (log : List (Record α)) : Prop :=
  log.findSome? (fun record => record.view alarm) = some true

/-- The alarm has sounded since it was last good. -/
def Alerted [DecidableEq α] (alarm : α) (log : List (Record α)) : Prop :=
  (since (fun record => decide (record.view alarm = some false)) log).any
    (fun record => decide (alarm ∈ record.sounded)) = true

instance {alarm : α} {log : List (Record α)} : Decidable (InBreach alarm log) :=
  inferInstanceAs (Decidable (_ = _))

instance [DecidableEq α] {alarm : α} {log : List (Record α)} : Decidable (Alerted alarm log) :=
  inferInstanceAs (Decidable (_ = _))

/-! ## A pass in which every alarm sounds -/

section Pass

variable [DecidableEq κ] {cell : α → κ} {sounds : ℕ → Bool} {check : Check α} {checks : List (Check α)}
  {standing : κ → Bool}

theorem due_update (hfresh : cell check.alarm ∉ checks.map fun c => cell c.alarm) (flag : Bool) :
    due cell checks (Function.update standing (cell check.alarm) flag) =
      due cell checks standing := by
  unfold due
  congr 1
  refine List.filter_congr fun c hc => ?_
  have hne : cell c.alarm ≠ cell check.alarm :=
    fun heq => hfresh (List.mem_map.2 ⟨c, hc, heq⟩)
  rw [Function.update_of_ne hne]

/-- The pass sounds what is due, and leaves each latch as it found the alarm. -/
theorem pass_eq (hcells : (checks.map fun c => cell c.alarm).Nodup) (count : ℕ)
    (hsounds : ∀ n < (due cell checks standing).length, sounds (count + n) = true) :
    ∃ latches : κ → Bool,
      pass cell sounds checks standing count = ⟨latches, due cell checks standing, true⟩ ∧
      (∀ c ∈ checks, latches (cell c.alarm) = c.bad) ∧
      ∀ k, k ∉ checks.map (fun c => cell c.alarm) → latches k = standing k := by
  induction checks generalizing standing count with
  | nil => exact ⟨standing, rfl, fun c hc => absurd hc List.not_mem_nil, fun k _ => rfl⟩
  | cons check checks ih =>
      rw [List.map_cons, List.nodup_cons] at hcells
      obtain ⟨hfresh, hcells⟩ := hcells
      have hdue : ∀ flag, due cell checks (Function.update standing (cell check.alarm) flag) =
          due cell checks standing := fun flag => due_update hfresh flag
      -- what the rest of the pass leaves is what the whole pass leaves
      have hlatches : ∀ latches : κ → Bool, (∀ c ∈ checks, latches (cell c.alarm) = c.bad) →
          (∀ k, k ∉ checks.map (fun c => cell c.alarm) →
            latches k = Function.update standing (cell check.alarm) check.bad k) →
          (∀ c ∈ check :: checks, latches (cell c.alarm) = c.bad) ∧
            ∀ k, k ∉ (check :: checks).map (fun c => cell c.alarm) → latches k = standing k := by
        intro latches hset hkept
        constructor
        · intro c hc
          rcases List.mem_cons.1 hc with rfl | hc
          · rw [hkept _ hfresh, Function.update_self]
          · exact hset c hc
        · intro k hk
          rw [List.map_cons, List.mem_cons, not_or] at hk
          rw [hkept k hk.2, Function.update_of_ne hk.1]
      by_cases hnew : check.bad = true ∧ standing (cell check.alarm) = false
      · have hcons : due cell (check :: checks) standing =
            check.alarm :: due cell checks standing := by
          unfold due
          rw [List.filter_cons_of_pos (by rw [hnew.1, hnew.2]; rfl), List.map_cons]
        rw [hcons, List.length_cons] at hsounds
        have hfirst : sounds count = true := hsounds 0 (Nat.succ_pos _)
        have hlater : ∀ n < (due cell checks
            (Function.update standing (cell check.alarm) true)).length,
              sounds (count + 1 + n) = true := by
          intro n hn
          rw [hdue] at hn
          rw [Nat.add_assoc, Nat.add_comm 1 n]
          exact hsounds (n + 1) (Nat.succ_lt_succ hn)
        obtain ⟨latches, hrest, hset, hkept⟩ := ih hcells (count + 1) hlater
        refine ⟨latches, ?_, hlatches latches hset ?_⟩
        · rw [pass, if_pos hnew]
          dsimp only
          rw [if_pos hfirst, hrest, hdue, hcons]
        · rw [hnew.1]
          exact hkept
      · have hskip : due cell (check :: checks) standing = due cell checks standing := by
          unfold due
          rw [List.filter_cons_of_neg]
          intro hboth
          rw [Bool.and_eq_true, Bool.not_eq_true'] at hboth
          exact hnew hboth
        rw [hskip] at hsounds
        have hlater : ∀ n < (due cell checks
            (Function.update standing (cell check.alarm) check.bad)).length,
              sounds (count + n) = true := by
          intro n hn
          rw [hdue] at hn
          exact hsounds n hn
        obtain ⟨latches, hrest, hset, hkept⟩ := ih hcells count hlater
        refine ⟨latches, ?_, hlatches latches hset hkept⟩
        rw [pass, if_neg hnew, hrest, hdue, hskip]

end Pass

/-! ## No alarm is lost -/

section Kept

variable {cell : α → κ} {A : Set α} {standing : κ → Bool}
  {log : List (Record α)}

/-- A latch stands only for an alarm that has sounded, and no alarm is missing. -/
structure Kept [DecidableEq α] (cell : α → κ) (A : Set α) (standing : κ → Bool) (log : List (Record α)) :
    Prop where
  standing : ∀ alarm ∈ A, standing (cell alarm) = true → Alerted alarm log
  alerted : ∀ alarm ∈ A, InBreach alarm log → Alerted alarm log

theorem kept_nil [DecidableEq α] : Kept cell A (fun _ => false) [] where
  standing _ _ h := absurd h Bool.false_ne_true
  alerted _ _ h := nomatch h

theorem inBreach_cons (alarm : α) (record : Record α) :
    InBreach alarm (record :: log) ↔
      record.view alarm = some true ∨ record.view alarm = none ∧ InBreach alarm log := by
  unfold InBreach
  cases hview : record.view alarm with
  | none => simp [hview]
  | some bad => simp [hview]

theorem alerted_cons [DecidableEq α] (alarm : α) (record : Record α) :
    Alerted alarm (record :: log) ↔
      record.view alarm ≠ some false ∧ (alarm ∈ record.sounded ∨ Alerted alarm log) := by
  unfold Alerted
  rw [EventLog.any_since_cons]
  simp only [Bool.and_eq_true, Bool.not_eq_true', decide_eq_false_iff_not, Bool.or_eq_true,
    decide_eq_true_eq, ne_eq]

/-- A pass that ends before it looks at any alarm. -/
theorem Kept.unseen [DecidableEq α] (h : Kept cell A standing log) {record : Record α}
    (hview : ∀ alarm, record.view alarm = none) : Kept cell A standing (record :: log) where
  standing alarm halarm hlatch := by
    rw [alerted_cons, hview]
    exact ⟨fun heq => (nomatch heq), .inr (h.standing alarm halarm hlatch)⟩
  alerted alarm halarm hbreach := by
    rw [inBreach_cons, hview] at hbreach
    rw [alerted_cons, hview]
    rcases hbreach with hseen | ⟨-, hbreach⟩
    · exact nomatch hseen
    · exact ⟨fun heq => (nomatch heq), .inr (h.alerted alarm halarm hbreach)⟩

/-- One pass, if every alarm sounds that has to. -/
theorem Kept.pass [DecidableEq α] [DecidableEq κ] (h : Kept cell A standing log) (hcell : Set.InjOn cell A)
    {checks : List (Check α)} {view : α → Option Bool} {sounds : ℕ → Bool}
    (hchecks : ∀ check ∈ checks, check.alarm ∈ A)
    (hnodup : (checks.map Check.alarm).Nodup)
    (hview : ∀ alarm ∈ A, ∀ bad, view alarm = some bad ↔ ⟨alarm, bad⟩ ∈ checks)
    (hsounds : ∀ n < (due cell checks standing).length, sounds n = true) :
    Kept cell A (pass cell sounds checks standing 0).standing
      (⟨view, (pass cell sounds checks standing 0).sounded⟩ :: log) := by
  have hcells : (checks.map fun check => cell check.alarm).Nodup := by
    have hmap : (checks.map fun check => cell check.alarm) = (checks.map Check.alarm).map cell := by
      rw [List.map_map]
      rfl
    rw [hmap]
    refine List.Nodup.map_on (fun alarm halarm alarm' halarm' heq => ?_) hnodup
    obtain ⟨check, hcheck, rfl⟩ := List.mem_map.1 halarm
    obtain ⟨check', hcheck', rfl⟩ := List.mem_map.1 halarm'
    exact hcell (hchecks check hcheck) (hchecks check' hcheck') heq
  have hfirst : ∀ n < (due cell checks standing).length, sounds (0 + n) = true := by
    intro n hn
    rw [Nat.zero_add]
    exact hsounds n hn
  obtain ⟨latches, hpass, hset, hkept⟩ := pass_eq hcells 0 hfirst
  rw [hpass]
  -- an alarm that is found bad sounds now or has sounded before
  have hbad : ∀ alarm ∈ A, view alarm = some true →
      alarm ∈ due cell checks standing ∨ Alerted alarm log := by
    intro alarm halarm hseen
    have hcheck := (hview alarm halarm true).1 hseen
    cases hlatch : standing (cell alarm) with
    | true => exact .inr (h.standing alarm halarm hlatch)
    | false =>
        refine .inl (List.mem_map.2 ⟨⟨alarm, true⟩, List.mem_filter.2 ⟨hcheck, ?_⟩, rfl⟩)
        rw [hlatch]
        rfl
  constructor
  · intro alarm halarm hlatch
    rw [alerted_cons]
    dsimp only at hlatch ⊢
    cases hseen : view alarm with
    | none =>
        have hfree : cell alarm ∉ checks.map fun check => cell check.alarm := by
          intro hmem
          obtain ⟨check, hcheck, heq⟩ := List.mem_map.1 hmem
          have hsame := hcell (hchecks check hcheck) halarm heq
          have hsome := (hview alarm halarm check.bad).2 (by rw [← hsame]; exact hcheck)
          exact nomatch hseen.symm.trans hsome
        rw [hkept _ hfree] at hlatch
        exact ⟨fun heq => (nomatch heq), .inr (h.standing alarm halarm hlatch)⟩
    | some bad =>
        have hstate := hset _ ((hview alarm halarm bad).1 hseen)
        dsimp only at hstate
        rw [hlatch] at hstate
        rw [← hstate] at hseen ⊢
        exact ⟨by decide, hbad alarm halarm hseen⟩
  · intro alarm halarm hbreach
    rw [inBreach_cons] at hbreach
    rw [alerted_cons]
    dsimp only at hbreach ⊢
    rcases hbreach with hseen | ⟨hseen, hbreach⟩
    · rw [hseen]
      exact ⟨by decide, hbad alarm halarm hseen⟩
    · rw [hseen]
      exact ⟨fun heq => (nomatch heq), .inr (h.alerted alarm halarm hbreach)⟩

end Kept

end GcsSaker.AlarmLatches
