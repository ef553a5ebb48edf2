import Mathlib.Data.List.Sort

/-!
# Slices of a list

A reader of a list asks for a slice of it at a time, and the slices determine the list. To sort each
slice is not to cut slices from the sorted list, unless the list was sorted before. The first
elements of a growing set are kept by merging what comes with those that were kept.
-/

namespace GcsSaker.Slices

variable {α : Type*} {xs ys : List α}

def slice (limit offset : ℕ) (xs : List α) : List α := (xs.drop offset).take limit

theorem slice_sublist (limit offset : ℕ) (xs : List α) : (slice limit offset xs).Sublist xs :=
  (List.take_sublist limit _).trans (List.drop_sublist offset xs)

theorem slice_one (offset : ℕ) (xs : List α) : slice 1 offset xs = xs[offset]?.toList := by
  rw [slice, List.take_one, List.head?_drop]

theorem eq_of_slices (h : ∀ offset, slice 1 offset xs = slice 1 offset ys) : xs = ys := by
  refine List.ext_getElem? fun offset => ?_
  have hat := h offset
  rw [slice_one, slice_one] at hat
  cases hx : xs[offset]? <;> cases hy : ys[offset]? <;> simp_all

variable {r R : α → α → Prop} [DecidableRel r]

theorem exists_slices_sorted_iff {read : ℕ → ℕ → List α}
    (hread : ∀ limit offset, read limit offset = slice limit offset xs) (hperm : xs.Perm ys) :
    (∃ rows : List α, rows.Perm ys ∧ rows.Pairwise R ∧
      ∀ limit offset, read limit offset = slice limit offset rows) ↔ xs.Pairwise R := by
  constructor
  · rintro ⟨rows, -, hrows, hslices⟩
    obtain rfl := eq_of_slices fun offset => (hread 1 offset).symm.trans (hslices 1 offset)
    exact hrows
  · intro h
    exact ⟨xs, hperm, h, hread⟩

/-- Slices that are sorted one by one are those of a sorted list only if nothing was to be
sorted. -/
theorem exists_sorted_slices_iff {read : ℕ → ℕ → List α}
    (hread : ∀ limit offset, read limit offset = (slice limit offset xs).insertionSort r) :
    (∃ rows : List α, rows.Perm xs ∧ rows.Pairwise r ∧
      ∀ limit offset, read limit offset = slice limit offset rows) ↔ xs.Pairwise r := by
  constructor
  · rintro ⟨rows, -, hrows, hslices⟩
    have hsame : xs = rows := by
      refine eq_of_slices fun offset => ?_
      rw [← hslices, hread, slice_one]
      cases xs[offset]? <;> rfl
    exact hsame ▸ hrows
  · intro h
    refine ⟨xs, .refl xs, h, fun limit offset => ?_⟩
    rw [hread, (h.sublist (slice_sublist limit offset xs)).insertionSort_eq]

/-! ## What a stable sort orders besides its key -/

theorem pairwise_orderedInsert_iff [Std.Total r] [IsTrans α r] {x : α} (hsorted : xs.Pairwise r) :
    (xs.orderedInsert r x).Pairwise R ↔
      (∀ y ∈ xs, if r x y then R x y else R y x) ∧ xs.Pairwise R := by
  induction xs with
  | nil => simp
  | cons y ys ih =>
      obtain ⟨hy, hys⟩ := List.pairwise_cons.1 hsorted
      rw [List.orderedInsert_cons]
      split_ifs with h
      · have hall : ∀ z ∈ y :: ys, r x z := by
          intro z hz
          rcases List.mem_cons.1 hz with rfl | hz
          · exact h
          · exact IsTrans.trans x y z h (hy z hz)
        rw [List.pairwise_cons]
        refine and_congr_left fun _ => forall₂_congr fun z hz => ?_
        rw [if_pos (hall z hz)]
      · rw [List.pairwise_cons, ih hys, List.pairwise_cons, List.forall_mem_cons, if_neg h]
        simp only [List.mem_orderedInsert, forall_eq_or_imp]
        tauto

/-- Elements come out of a stable sort in the order `R` exactly if each two of them do. -/
theorem pairwise_insertionSort_iff [Std.Total r] [IsTrans α r] :
    (xs.insertionSort r).Pairwise R ↔ xs.Pairwise fun x y => if r x y then R x y else R y x := by
  induction xs with
  | nil => exact iff_of_true .nil .nil
  | cons x xs ih =>
      rw [List.insertionSort_cons, pairwise_orderedInsert_iff (List.pairwise_insertionSort r xs),
        ih, List.pairwise_cons]
      simp only [List.mem_insertionSort]

/-! ## The first of a growing set -/

/-- The `n` elements of a set with the greatest keys, the greatest first; all of a smaller set. -/
structure Newest {κ : Type*} [LinearOrder κ] (key : α → κ) (n : ℕ) (s : Set α) (xs : List α) :
    Prop where
  subset : ∀ x ∈ xs, x ∈ s
  sorted : xs.Pairwise fun x y => key y < key x
  length_le : xs.length ≤ n
  rest : ∀ x ∈ s, x ∉ xs → xs.length = n ∧ ∀ y ∈ xs, key x < key y

namespace Newest

variable {κ : Type*} [LinearOrder κ] {key : α → κ} {n : ℕ} {s t : Set α}

theorem nodup_of_sorted (h : xs.Pairwise fun x y => key y < key x) : xs.Nodup :=
  h.imp fun hlt heq => absurd (congrArg key heq) hlt.ne'

theorem mem_of_mem (hx : Newest key n s xs) (hy : Newest key n s ys) {x : α} (h : x ∈ xs) :
    x ∈ ys := by
  by_contra hnot
  obtain ⟨hlength, holder⟩ := hy.rest x (hx.subset x h) hnot
  have hsub : ∀ y ∈ ys, y ∈ xs := by
    intro y hmem
    by_contra hout
    exact lt_asymm (holder y hmem) ((hx.rest y (hy.subset y hmem) hout).2 x h)
  -- `x` and all of `ys` are too many for `xs`
  have hnodup : (x :: ys).Nodup := List.nodup_cons.2 ⟨hnot, nodup_of_sorted hy.sorted⟩
  have hle := (List.subperm_of_subset hnodup (List.cons_subset.2 ⟨h, hsub⟩)).length_le
  have hbound := hx.length_le
  rw [List.length_cons] at hle
  omega

theorem unique (hx : Newest key n s xs) (hy : Newest key n s ys) : xs = ys := by
  have hperm : xs.Perm ys := (List.perm_ext_iff_of_nodup (nodup_of_sorted hx.sorted)
    (nodup_of_sorted hy.sorted)).2 fun x => ⟨hx.mem_of_mem hy, hy.mem_of_mem hx⟩
  exact hperm.eq_of_pairwise (fun x y _ _ hlt hgt => absurd hgt (lt_asymm hlt)) hx.sorted hy.sorted

theorem nil : Newest key n ∅ ([] : List α) :=
  ⟨fun _ h => (nomatch h), List.Pairwise.nil, Nat.zero_le n, fun _ h => h.elim⟩

/-- What was cut off earlier is not missed: there are enough newer elements. -/
theorem merge (h : Newest key n s xs) {merged : List α}
    (hmem : ∀ x, x ∈ merged ↔ x ∈ xs ∨ x ∈ t)
    (hsorted : merged.Pairwise fun x y => key y < key x) :
    Newest key n (s ∪ t) (merged.take n) := by
  have hparts : ∀ x ∈ merged, x ∈ merged.take n ∨ x ∈ merged.drop n := by
    intro x hx
    rwa [← List.mem_append, List.take_append_drop]
  have hlater : ∀ x ∈ merged.drop n, ∀ y ∈ merged.take n, key x < key y := by
    intro x hx y hy
    rw [← List.take_append_drop n merged] at hsorted
    exact (List.pairwise_append.1 hsorted).2.2 y hy x hx
  refine ⟨fun x hx => ?_, hsorted.sublist (List.take_sublist n merged),
    List.length_take_le n merged, fun x hx hcut => ?_⟩
  · exact ((hmem x).1 (List.mem_of_mem_take hx)).imp_left (h.subset x)
  · by_cases hmerged : x ∈ merged
    · have hdrop := (hparts x hmerged).resolve_left hcut
      refine ⟨?_, hlater x hdrop⟩
      have hlength := List.length_pos_of_mem hdrop
      rw [List.length_drop] at hlength
      rw [List.length_take]
      omega
    · -- it was cut off before, and everything that was kept then is newer
      have hout : x ∉ xs ∧ x ∉ t := not_or.1 fun hor => hmerged ((hmem x).2 hor)
      obtain ⟨hlength, holder⟩ := h.rest x (hx.resolve_right hout.2) hout.1
      have hnodup := nodup_of_sorted h.sorted
      have hle := (List.subperm_of_subset hnodup fun y hy => (hmem y).2 (.inl hy)).length_le
      refine ⟨by rw [List.length_take]; omega, fun y hy => ?_⟩
      by_cases hold : y ∈ xs
      · exact holder y hold
      · obtain ⟨z, hz, hzcut⟩ : ∃ z ∈ xs, z ∉ merged.take n := by
          by_contra hnone
          push Not at hnone
          have hmore := (List.subperm_of_subset (List.nodup_cons.2 ⟨hold, hnodup⟩)
            (List.cons_subset.2 ⟨hy, hnone⟩)).length_le
          rw [List.length_cons, List.length_take] at hmore
          omega
        exact (holder z hz).trans
          (hlater z ((hparts z ((hmem z).2 (.inl hz))).resolve_left hzcut) y hy)

end Newest

end GcsSaker.Slices
