import Mathlib.Data.List.Forall2

/-!
# Passes over a list that stop at the first error

A step that succeeds on `x` exactly under `P x`, with a known result, gives a pass that succeeds
exactly when every element has `P`, with the results of the steps put together. A step that undoes
`g` gives a pass that undoes `List.map g`.
-/

namespace GcsSaker.CheckedSteps

universe u

variable {ε : Type*}

theorem bind_eq_ok_iff {α β : Type u} {x : Except ε α} {f : α → Except ε β} {y : β} :
    (x >>= f) = .ok y ↔ ∃ a, x = .ok a ∧ f a = .ok y := by
  cases x with
  | error e =>
      constructor
      · intro h
        cases h
      · rintro ⟨a, ha, -⟩
        cases ha
  | ok a =>
      constructor
      · intro h
        exact ⟨a, rfl, h⟩
      · rintro ⟨b, hb, h⟩
        cases hb
        exact h

theorem check_bind_eq_ok_iff {β : Type u} {x : Except ε PUnit.{u + 1}} {f : PUnit → Except ε β}
    {y : β} : (x >>= f) = .ok y ↔ x = .ok ⟨⟩ ∧ f ⟨⟩ = .ok y := by
  rw [bind_eq_ok_iff]
  exact ⟨fun ⟨⟨⟩, hx, hf⟩ => ⟨hx, hf⟩, fun ⟨hx, hf⟩ => ⟨⟨⟩, hx, hf⟩⟩

theorem not_of_eq_error {α : Type*} {x : Except ε α} {e : ε} {P : Prop} (hx : x = .error e)
    (h : P → ∃ y, x = .ok y) : ¬ P := by
  intro hP
  obtain ⟨y, hy⟩ := h hP
  rw [hx] at hy
  cases hy

theorem ite_error_eq_ok_iff {α : Type*} {c : Prop} [Decidable c] {e : ε} {x : Except ε α} {y : α} :
    (if c then .error e else x) = .ok y ↔ ¬ c ∧ x = .ok y := by
  by_cases hc : c
  · rw [if_pos hc]
    exact iff_of_false (by simp only [reduceCtorEq, not_false_eq_true]) fun h => h.1 hc
  · rw [if_neg hc, and_iff_right hc]

theorem mapM_eq_ok_iff_of_mem {α : Type*} {β : Type u} {f : α → Except ε β} {P : α → Prop}
    {g : α → β} {xs : List α} {ys : List β} (hf : ∀ x ∈ xs, ∀ y, f x = .ok y ↔ P x ∧ y = g x) :
    xs.mapM f = .ok ys ↔ (∀ x ∈ xs, P x) ∧ ys = xs.map g := by
  induction xs generalizing ys with
  | nil =>
      rw [List.mapM_nil]
      exact ⟨fun h => ⟨fun x hx => (List.not_mem_nil hx).elim, (Except.ok.inj h).symm⟩,
        fun h => h.2 ▸ rfl⟩
  | cons x xs ih =>
      obtain ⟨hx, hxs⟩ := List.forall_mem_cons.1 hf
      rw [List.mapM_cons, List.forall_mem_cons, bind_eq_ok_iff]
      constructor
      · rintro ⟨y, hy, h⟩
        obtain ⟨hP, rfl⟩ := (hx y).1 hy
        obtain ⟨rest, hrest, hys⟩ := bind_eq_ok_iff.1 h
        obtain ⟨hPs, rfl⟩ := (ih hxs).1 hrest
        exact ⟨⟨hP, hPs⟩, (Except.ok.inj hys).symm⟩
      · rintro ⟨⟨hP, hPs⟩, rfl⟩
        exact ⟨g x, (hx (g x)).2 ⟨hP, rfl⟩,
          bind_eq_ok_iff.2 ⟨xs.map g, (ih hxs).2 ⟨hPs, rfl⟩, rfl⟩⟩

theorem mapM_eq_ok_iff {α : Type*} {β : Type u} {f : α → Except ε β} {P : α → Prop} {g : α → β}
    (hf : ∀ x y, f x = .ok y ↔ P x ∧ y = g x) {xs : List α} {ys : List β} :
    xs.mapM f = .ok ys ↔ (∀ x ∈ xs, P x) ∧ ys = xs.map g :=
  mapM_eq_ok_iff_of_mem fun x _ => hf x

theorem mapM_eq_ok_iff_forall₂ {α : Type*} {β : Type u} {f : α → Except ε β} {xs : List α}
    {ys : List β} : xs.mapM f = .ok ys ↔ List.Forall₂ (fun x y => f x = .ok y) xs ys := by
  induction xs generalizing ys with
  | nil =>
      rw [List.mapM_nil, List.forall₂_nil_left_iff]
      exact ⟨fun h => (Except.ok.inj h).symm, fun h => h ▸ rfl⟩
  | cons x xs ih =>
      rw [List.mapM_cons, bind_eq_ok_iff, List.forall₂_cons_left_iff]
      constructor
      · rintro ⟨y, hx, h⟩
        obtain ⟨rest, hxs, hys⟩ := bind_eq_ok_iff.1 h
        exact ⟨y, rest, hx, ih.1 hxs, (Except.ok.inj hys).symm⟩
      · rintro ⟨y, rest, hx, hxs, rfl⟩
        exact ⟨y, hx, bind_eq_ok_iff.2 ⟨rest, ih.2 hxs, rfl⟩⟩

theorem exists_mapM_eq_ok_iff {α : Type*} {β : Type u} {f : α → Except ε β} {xs : List α} :
    (∃ ys, xs.mapM f = .ok ys) ↔ ∀ x ∈ xs, ∃ y, f x = .ok y := by
  induction xs with
  | nil => exact iff_of_true ⟨[], rfl⟩ fun x hx => (List.not_mem_nil hx).elim
  | cons x xs ih =>
      rw [List.forall_mem_cons, ← ih]
      constructor
      · rintro ⟨ys, h⟩
        obtain ⟨y, rest, hx, hxs, -⟩ := List.forall₂_cons_left_iff.1 (mapM_eq_ok_iff_forall₂.1 h)
        exact ⟨⟨y, hx⟩, rest, mapM_eq_ok_iff_forall₂.2 hxs⟩
      · rintro ⟨⟨y, hx⟩, rest, hxs⟩
        exact ⟨y :: rest, mapM_eq_ok_iff_forall₂.2 (.cons hx (mapM_eq_ok_iff_forall₂.1 hxs))⟩

/-- What the steps keep of an element, the pass keeps of the list. -/
theorem map_of_mapM_eq_ok {α γ : Type*} {β : Type u} {f : α → Except ε β} {g : β → γ} {k : α → γ}
    (hf : ∀ x y, f x = .ok y → g y = k x) {xs : List α} {ys : List β} (h : xs.mapM f = .ok ys) :
    ys.map g = xs.map k := by
  induction mapM_eq_ok_iff_forall₂.1 h with
  | nil => rfl
  | cons hx hxs ih =>
      rw [List.map_cons, List.map_cons, hf _ _ hx, ih (mapM_eq_ok_iff_forall₂.2 hxs)]

theorem mem_of_mapM_eq_ok {α : Type*} {β : Type u} {f : α → Except ε β} {xs : List α} {ys : List β}
    (h : xs.mapM f = .ok ys) {y : β} : y ∈ ys ↔ ∃ x ∈ xs, f x = .ok y := by
  have hmap := map_of_mapM_eq_ok (fun x y hx => hx.symm) h
  rw [← List.mem_map_of_injective (f := (Except.ok : β → Except ε β)) fun _ _ => Except.ok.inj,
    hmap, List.mem_map]

theorem forM_eq_ok_iff {α : Type u} {f : α → Except ε PUnit.{u + 1}} {P : α → Prop}
    (hf : ∀ x, f x = .ok ⟨⟩ ↔ P x) {xs : List α} : xs.forM f = .ok ⟨⟩ ↔ ∀ x ∈ xs, P x := by
  induction xs with
  | nil =>
      rw [List.forM_eq_forM, List.forM_nil]
      exact ⟨fun _ x hx => (List.not_mem_nil hx).elim, fun _ => rfl⟩
  | cons x xs ih =>
      rw [List.forM_eq_forM, List.forM_cons, List.forall_mem_cons, check_bind_eq_ok_iff, ← hf x,
        ← ih, List.forM_eq_forM]

/-- A pass over encoded values that decodes each of them gives the values back. -/
theorem mapM_map_pure {α : Type*} {β : Type u} {m : Type u → Type*} [Monad m] [LawfulMonad m]
    {f : α → m β} {g : β → α} {ys : List β} (h : ∀ y ∈ ys, f (g y) = pure y) :
    (ys.map g).mapM f = pure ys := by
  induction ys with
  | nil => exact List.mapM_nil
  | cons y ys ih =>
      rw [List.forall_mem_cons] at h
      rw [List.map_cons, List.mapM_cons, h.1, pure_bind, ih h.2, pure_bind]

theorem foldlM_eq_ok_iff {α : Type*} {σ : Type u} {f : σ → α → Except ε σ} {P : α → Prop}
    {g : σ → α → σ}
    (hf : ∀ s x s', f s x = .ok s' ↔ P x ∧ s' = g s x) {xs : List α} {s s' : σ} :
    xs.foldlM f s = .ok s' ↔ (∀ x ∈ xs, P x) ∧ s' = xs.foldl g s := by
  induction xs generalizing s with
  | nil =>
      rw [List.foldlM_nil]
      exact ⟨fun h => ⟨fun x hx => (List.not_mem_nil hx).elim, (Except.ok.inj h).symm⟩,
        fun h => h.2 ▸ rfl⟩
  | cons x xs ih =>
      rw [List.foldlM_cons, List.forall_mem_cons, bind_eq_ok_iff]
      constructor
      · rintro ⟨t, hx, h⟩
        obtain ⟨hP, rfl⟩ := (hf s x t).1 hx
        obtain ⟨hPs, hs'⟩ := ih.1 h
        exact ⟨⟨hP, hPs⟩, hs'⟩
      · rintro ⟨⟨hP, hPs⟩, hs'⟩
        exact ⟨g s x, (hf s x (g s x)).2 ⟨hP, rfl⟩, ih.2 ⟨hPs, hs'⟩⟩

end GcsSaker.CheckedSteps

/-!
# Passes that throw and keep what they have done

A pass works on one element after another and ends with the first error; nothing is undone. What
each work does is told by a relation that is indexed by the elements worked on and composes.
-/

namespace GcsSaker.StoppedPasses

variable {σ α ε : Type*}

def run (work : σ → α → σ × Except ε Unit) : List α → σ → σ × Except ε Unit
  | [], s => (s, .ok ())
  | x :: xs, s =>
    match work s x with
    | (s, .error e) => (s, .error e)
    | (s, .ok ()) => run work xs s

variable {work : σ → α → σ × Except ε Unit}

theorem run_cons_of_ok {x : α} {xs : List α} {s t : σ} (h : work s x = (t, .ok ())) :
    run work (x :: xs) s = run work xs t := by
  rw [run, h]

theorem run_cons_of_error {x : α} {xs : List α} {s t : σ} {e : ε} (h : work s x = (t, .error e)) :
    run work (x :: xs) s = (t, .error e) := by
  rw [run, h]

/-- Work that throws counts as done or as not begun. The pass has done a first part of the list,
and all of it unless it throws. -/
theorem run_relates (work : σ → α → σ × Except ε Unit) {R : List α → σ → σ → Prop}
    (hrefl : ∀ s, R [] s s)
    (htrans : ∀ {xs ys s t u}, R xs s t → R ys t u → R (xs ++ ys) s u)
    (hwork : ∀ s x, R [x] s (work s x).1 ∨ ((work s x).2 ≠ .ok () ∧ R [] s (work s x).1))
    (xs : List α) (s : σ) :
    ∃ done, done <+: xs ∧ R done s (run work xs s).1 ∧
      ((run work xs s).2 = .ok () → done = xs) := by
  induction xs generalizing s with
  | nil => exact ⟨[], List.prefix_rfl, hrefl s, fun _ => rfl⟩
  | cons x xs ih =>
      have hx := hwork s x
      rcases hresult : work s x with ⟨t, e | ⟨⟩⟩
      · rw [run_cons_of_error hresult]
        rw [hresult] at hx
        rcases hx with hdone | ⟨-, hnone⟩
        · exact ⟨[x], List.prefix_append [x] xs, hdone, fun hok => nomatch hok⟩
        · exact ⟨[], List.nil_prefix, hnone, fun hok => nomatch hok⟩
      · rw [run_cons_of_ok hresult]
        rw [hresult] at hx
        have hdone : R [x] s t := hx.resolve_right fun h => h.1 rfl
        obtain ⟨done, hpart, hrest, hall⟩ := ih t
        refine ⟨x :: done, (List.prefix_cons_inj x).2 hpart, htrans hdone hrest, fun hok => ?_⟩
        rw [hall hok]

end GcsSaker.StoppedPasses
