import Mathlib.Data.List.Basic

/-!
# Machines that answer every action

`final` is the state after a list of actions and `trace` lists the actions with their answers. A
property kept by every step holds at the end, what a step promises holds of the whole trace, and two
machines whose related states give the same answers have the same trace.
-/

namespace GcsSaker.Machines

variable {σ τ α β : Type*}

def final (step : σ → α → σ × β) : σ → List α → σ
  | s, [] => s
  | s, a :: acts => final step (step s a).1 acts

def trace (step : σ → α → σ × β) : σ → List α → List (α × β)
  | _, [] => []
  | s, a :: acts => (a, (step s a).2) :: trace step (step s a).1 acts

/-- Every action is taken in a state that `C` allows for it. -/
def Along (step : σ → α → σ × β) (C : σ → α → Prop) : σ → List α → Prop
  | _, [] => True
  | s, a :: acts => C s a ∧ Along step C (step s a).1 acts

instance alongDecidable {step : σ → α → σ × β} {C : σ → α → Prop} [∀ s a, Decidable (C s a)] :
    ∀ s acts, Decidable (Along step C s acts)
  | _, [] => inferInstanceAs (Decidable True)
  | s, a :: acts =>
    have : Decidable (Along step C (step s a).1 acts) := alongDecidable (step s a).1 acts
    inferInstanceAs (Decidable (C s a ∧ Along step C (step s a).1 acts))

theorem along_and {step : σ → α → σ × β} {C D : σ → α → Prop} {s : σ} {acts : List α}
    (hC : Along step C s acts) (hD : Along step D s acts) :
    Along step (fun s a => C s a ∧ D s a) s acts := by
  induction acts generalizing s with
  | nil => trivial
  | cons a acts ih => exact ⟨⟨hC.1, hD.1⟩, ih hC.2 hD.2⟩

theorem along_of_forall {step : σ → α → σ × β} {C : σ → α → Prop} {acts : List α}
    (hC : ∀ s, ∀ a ∈ acts, C s a) (s : σ) : Along step C s acts := by
  induction acts generalizing s with
  | nil => trivial
  | cons a acts ih =>
      exact ⟨hC s a (List.mem_cons_self ..), ih (fun s' b hb => hC s' b (List.mem_cons_of_mem a hb)) _⟩

/-- Two conditions that say the same wherever an invariant holds say the same along a run. -/
theorem along_congr {step : σ → α → σ × β} {C D : σ → α → Prop} {Inv : σ → Prop}
    (hiff : ∀ s a, Inv s → (C s a ↔ D s a)) (hstep : ∀ s a, Inv s → D s a → Inv (step s a).1)
    {s : σ} {acts : List α} (hs : Inv s) : Along step C s acts ↔ Along step D s acts := by
  induction acts generalizing s with
  | nil => exact Iff.rfl
  | cons a acts ih =>
      rw [Along, Along, hiff s a hs]
      exact and_congr_right fun hD => ih (hstep s a hs hD)

/-- Two machines side by side, given the same actions. -/
def pair {γ : Type*} (step : σ → α → σ × β) (step' : τ → α → τ × γ) (s : σ × τ) (a : α) :
    (σ × τ) × (β × γ) :=
  (((step s.1 a).1, (step' s.2 a).1), ((step s.1 a).2, (step' s.2 a).2))

theorem final_append (step : σ → α → σ × β) (s : σ) (acts acts' : List α) :
    final step s (acts ++ acts') = final step (final step s acts) acts' := by
  induction acts generalizing s with
  | nil => rfl
  | cons a acts ih => exact ih (step s a).1

theorem along_append {step : σ → α → σ × β} {C : σ → α → Prop} {s : σ} {acts acts' : List α} :
    Along step C s (acts ++ acts') ↔ Along step C s acts ∧ Along step C (final step s acts) acts' := by
  induction acts generalizing s with
  | nil => exact (and_iff_right trivial).symm
  | cons a acts ih =>
      rw [List.cons_append, Along, Along, ih, and_assoc]
      rfl

/-- A property kept by every allowed step is kept by every allowed list of actions. -/
theorem final_invariant {step : σ → α → σ × β} {C : σ → α → Prop} {Inv : σ → Prop}
    (hstep : ∀ s a, Inv s → C s a → Inv (step s a).1) {s : σ} {acts : List α} (hs : Inv s)
    (hC : Along step C s acts) : Inv (final step s acts) := by
  induction acts generalizing s with
  | nil => exact hs
  | cons a acts ih => exact ih (hstep s a hs hC.1) hC.2

/-- What every step from an invariant promises of its answer holds of the whole trace. -/
theorem trace_forall (step : σ → α → σ × β) {Inv : σ → Prop} {P : α → β → Prop}
    (hstep : ∀ s a, Inv s → Inv (step s a).1 ∧ P a (step s a).2) {s : σ} {acts : List α}
    (hs : Inv s) : ∀ e ∈ trace step s acts, P e.1 e.2 := by
  induction acts generalizing s with
  | nil =>
      intro e he
      cases he
  | cons a acts ih =>
      obtain ⟨hnext, hanswer⟩ := hstep s a hs
      intro e he
      rcases List.mem_cons.mp he with rfl | he
      · exact hanswer
      · exact ih hnext e he

/-- The simulation rule: related states give the same answer and stay related. -/
theorem trace_eq_of_simulation {step : σ → α → σ × β} {step' : τ → α → τ × β}
    {C : σ × τ → α → Prop} {R : σ → τ → Prop}
    (hstep : ∀ s t a, R s t → C (s, t) a →
      R (step s a).1 (step' t a).1 ∧ (step s a).2 = (step' t a).2) {s : σ} {t : τ} {acts : List α}
    (hR : R s t) (hC : Along (pair step step') C (s, t) acts) :
    trace step s acts = trace step' t acts := by
  induction acts generalizing s t with
  | nil => rfl
  | cons a acts ih =>
      obtain ⟨hnext, hanswer⟩ := hstep s t a hR hC.1
      rw [trace, trace, hanswer, ih hnext hC.2]

end GcsSaker.Machines
