import Mathlib.Order.Monotone.Basic
import Mathlib.Data.List.Basic

/-!
# Runs of a partial step function

`run step s acts` takes the actions of `acts` one after the other and is `none` as soon as one of
them is not enabled. `Along step C s acts` asks `C` of every state and action that the run passes.
The rules below turn what one step preserves into what a whole run preserves.
-/

namespace GcsSaker.Runs

variable {σ α : Type*}

def run (step : σ → α → Option σ) : σ → List α → Option σ
  | s, [] => some s
  | s, a :: acts => (step s a).bind fun s' => run step s' acts

@[simp] theorem run_nil (step : σ → α → Option σ) (s : σ) : run step s [] = some s := rfl

theorem run_cons (step : σ → α → Option σ) (s : σ) (a : α) (acts : List α) :
    run step s (a :: acts) = (step s a).bind fun s' => run step s' acts := rfl

theorem run_append (step : σ → α → Option σ) (s : σ) (acts acts' : List α) :
    run step s (acts ++ acts') = (run step s acts).bind fun s' => run step s' acts' := by
  induction acts generalizing s with
  | nil => rfl
  | cons a acts ih =>
      rw [List.cons_append, run_cons, run_cons, Option.bind_assoc]
      simp only [ih]

/-- Every step of the run is taken from a state and with an action that `C` allows. -/
def Along (step : σ → α → Option σ) (C : σ → α → Prop) : σ → List α → Prop
  | _, [] => True
  | s, a :: acts => C s a ∧ ∀ s', step s a = some s' → Along step C s' acts

instance alongDecidable {step : σ → α → Option σ} {C : σ → α → Prop} [∀ s a, Decidable (C s a)] :
    ∀ s acts, Decidable (Along step C s acts)
  | _, [] => inferInstanceAs (Decidable True)
  | s, a :: acts => match h : step s a with
    | none => decidable_of_iff (C s a) (by simp only [Along, h, reduceCtorEq, false_implies,
        implies_true, and_true])
    | some s' =>
      have : Decidable (Along step C s' acts) := alongDecidable s' acts
      decidable_of_iff (C s a ∧ Along step C s' acts) (by simp only [Along, h, Option.some.injEq,
        forall_eq'])

theorem along_cons {step : σ → α → Option σ} {C : σ → α → Prop} {s s' : σ} {a : α} {acts : List α}
    (hstep : step s a = some s') (ha : C s a) (hacts : Along step C s' acts) :
    Along step C s (a :: acts) := by
  refine ⟨ha, fun t ht => ?_⟩
  rw [hstep, Option.some.injEq] at ht
  exact ht ▸ hacts

theorem along_append {step : σ → α → Option σ} {C : σ → α → Prop} {s s' : σ} {acts acts' : List α}
    (hrun : run step s acts = some s') (h : Along step C s acts) (h' : Along step C s' acts') :
    Along step C s (acts ++ acts') := by
  induction acts generalizing s with
  | nil =>
      rw [run_nil, Option.some.injEq] at hrun
      exact hrun ▸ h'
  | cons a acts ih =>
      rw [run_cons, Option.bind_eq_some_iff] at hrun
      obtain ⟨t, ht, hrun⟩ := hrun
      exact along_cons ht h.1 (ih hrun (h.2 t ht))

theorem Along.at {step : σ → α → Option σ} {C : σ → α → Prop} {s s' : σ} {a : α}
    {acts rest : List α} (h : Along step C s (acts ++ a :: rest))
    (hrun : run step s acts = some s') : C s' a := by
  induction acts generalizing s with
  | nil =>
      rw [run_nil, Option.some.injEq] at hrun
      exact hrun ▸ h.1
  | cons b acts ih =>
      rw [run_cons, Option.bind_eq_some_iff] at hrun
      obtain ⟨t, ht, hrun⟩ := hrun
      exact ih (h.2 t ht) hrun

theorem along_of_forall {step : σ → α → Option σ} {C : σ → α → Prop} (hC : ∀ s a, C s a)
    (s : σ) (acts : List α) : Along step C s acts := by
  induction acts generalizing s with
  | nil => trivial
  | cons a acts ih => exact ⟨hC s a, fun s' _ => ih s'⟩

theorem along_and {step : σ → α → Option σ} {C D : σ → α → Prop} {s : σ} {acts : List α}
    (hC : Along step C s acts) (hD : Along step D s acts) :
    Along step (fun s a => C s a ∧ D s a) s acts := by
  induction acts generalizing s with
  | nil => trivial
  | cons a acts ih => exact ⟨⟨hC.1, hD.1⟩, fun s' hs' => ih (hC.2 s' hs') (hD.2 s' hs')⟩

theorem along_of_mem {step : σ → α → Option σ} {C : α → Prop} {acts : List α}
    (hC : ∀ a ∈ acts, C a) (s : σ) : Along step (fun _ a => C a) s acts := by
  induction acts generalizing s with
  | nil => trivial
  | cons a acts ih =>
      refine ⟨hC a List.mem_cons_self, fun s' _ => ih (fun b hb => ?_) s'⟩
      exact hC b (List.mem_cons_of_mem a hb)

/-- Two conditions that say the same wherever an invariant holds say the same along a run. -/
theorem along_congr {step : σ → α → Option σ} {C D : σ → α → Prop} {Inv : σ → Prop}
    (hiff : ∀ s a, Inv s → (C s a ↔ D s a))
    (hstep : ∀ s a s', Inv s → D s a → step s a = some s' → Inv s') {s : σ} {acts : List α}
    (hs : Inv s) : Along step C s acts ↔ Along step D s acts := by
  induction acts generalizing s with
  | nil => exact Iff.rfl
  | cons a acts ih =>
      rw [Along, Along, hiff s a hs]
      exact and_congr_right fun hD => forall_congr' fun s' =>
        forall_congr' fun hs' => ih (hstep s a s' hs hD hs')

/-- The run rule: a property kept by every allowed step is kept by every run of allowed steps. -/
theorem run_invariant {step : σ → α → Option σ} {C : σ → α → Prop} {Inv : σ → Prop}
    (hstep : ∀ s a s', Inv s → C s a → step s a = some s' → Inv s') {s s' : σ} {acts : List α}
    (hs : Inv s) (hC : Along step C s acts) (hr : run step s acts = some s') : Inv s' := by
  induction acts generalizing s with
  | nil =>
      have he : s = s' := by simpa only [run_nil, Option.some.injEq] using hr
      exact he ▸ hs
  | cons a acts ih =>
      rw [run_cons, Option.bind_eq_some_iff] at hr
      obtain ⟨t, ht, hr⟩ := hr
      exact ih (hstep s a t hs hC.1 ht) (hC.2 t ht) hr

/-- What an invariant gives every allowed step, a run of allowed steps has all along. -/
theorem along_of_invariant {step : σ → α → Option σ} {C D : σ → α → Prop} {Inv : σ → Prop}
    (hstep : ∀ s a s', Inv s → C s a → step s a = some s' → Inv s')
    (hD : ∀ s a, Inv s → C s a → D s a) {s : σ} {acts : List α} (hs : Inv s)
    (hC : Along step C s acts) : Along step D s acts := by
  induction acts generalizing s with
  | nil => trivial
  | cons a acts ih =>
      exact ⟨hD s a hs hC.1, fun s' hs' => ih (hstep s a s' hs hC.1 hs') (hC.2 s' hs')⟩

/-- Where the allowed steps are those that keep an invariant, it holds all along a run if and only
if every step of the run is allowed. -/
theorem forall_before_iff_along {step : σ → α → Option σ} {C : σ → α → Prop} {Inv : σ → Prop}
    (hstep : ∀ s a s', Inv s → step s a = some s' → (Inv s' ↔ C s a))
    (hnone : ∀ s a, step s a = none → C s a) {s : σ} {acts : List α} (hs : Inv s) :
    (∀ before, before <+: acts → ∀ s', run step s before = some s' → Inv s') ↔
      Along step C s acts := by
  induction acts generalizing s with
  | nil =>
      refine iff_of_true (fun before hbefore s' hrun => ?_) trivial
      rw [List.prefix_nil.1 hbefore, run_nil, Option.some.injEq] at hrun
      exact hrun ▸ hs
  | cons a acts ih =>
      constructor
      · intro h
        have hkept : ∀ t, step s a = some t → Inv t := by
          intro t ht
          refine h [a] (List.cons_prefix_cons.2 ⟨rfl, List.nil_prefix⟩) t ?_
          rw [run_cons, ht, Option.bind_some, run_nil]
        refine ⟨?_, fun t ht => (ih (hkept t ht)).1 fun before hbefore s' hrun => ?_⟩
        · cases ht : step s a with
          | none => exact hnone s a ht
          | some t => exact (hstep s a t hs ht).1 (hkept t ht)
        · refine h (a :: before) (List.cons_prefix_cons.2 ⟨rfl, hbefore⟩) s' ?_
          rw [run_cons, ht, Option.bind_some, hrun]
      · rintro ⟨ha, hacts⟩ before hbefore s' hrun
        cases before with
        | nil =>
            rw [run_nil, Option.some.injEq] at hrun
            exact hrun ▸ hs
        | cons b before =>
            obtain ⟨rfl, htail⟩ := List.cons_prefix_cons.1 hbefore
            rw [run_cons, Option.bind_eq_some_iff] at hrun
            obtain ⟨t, ht, hrun⟩ := hrun
            exact (ih ((hstep s b t hs ht).2 ha)).2 (hacts t ht) before htail s' hrun

/-- The run rule for steps that need no side condition. -/
theorem run_invariant_of_step {step : σ → α → Option σ} {Inv : σ → Prop}
    (hstep : ∀ s a s', Inv s → step s a = some s' → Inv s') {s s' : σ} {acts : List α}
    (hs : Inv s) (hr : run step s acts = some s') : Inv s' :=
  run_invariant (C := fun _ _ => True) (fun s a s' h _ => hstep s a s' h) hs
    (along_of_forall (fun _ _ => trivial) s acts) hr

end GcsSaker.Runs

/-!
# Progress of an unending sequence of calls

`after step s m i` is the state after the first `i` calls, of which the `i`-th has the argument
`m i`. A bounded measure that never falls cannot rise for ever.
-/

namespace GcsSaker.Progress

variable {σ α : Type*}

def after (step : σ → α → σ) (s : σ) (m : ℕ → α) : ℕ → σ
  | 0 => s
  | i + 1 => step (after step s m i) (m i)

variable (step : σ → α → σ) {s : σ} {m : ℕ → α}

end GcsSaker.Progress
