import GcsSaker.PlanarNearness
import Mathlib.Data.Nat.ModEq
import Mathlib.Order.CompletePartialOrder

/-!
# Simple closed lines

The sides of a closed line run from each corner to the next. Starting at another corner or running
the other way gives the same sides, in another order or turned around. The line is simple if sides
that do not follow one another have no point in common and those that do only their corner; where
the first holds so does the second, unless the line is a triangle without area.
-/

namespace GcsSaker.Planar

section Sides

variable {α : Type*} {l : List α} {i j k n : ℕ}

theorem length_cyclicPairs (l : List α) : (cyclicPairs l).length = l.length := by
  rw [cyclicPairs, List.length_zip, List.length_rotate, Nat.min_self]

theorem getElem?_cyclicPairs {e : α × α} (hi : i < l.length) :
    (cyclicPairs l)[i]? = some e ↔ l[i]? = some e.1 ∧ l[(i + 1) % l.length]? = some e.2 := by
  have hnext : (l.rotate 1)[i]? = l[(i + 1) % l.length]? := List.getElem?_rotate hi
  rw [cyclicPairs, List.getElem?_zip_eq_some, hnext]

theorem side_next {e e' : α × α} (hi : (cyclicPairs l)[i]? = some e)
    (hnext : (cyclicPairs l)[(i + 1) % l.length]? = some e') : e'.1 = e.2 := by
  have hlt := (List.getElem?_eq_some_iff.1 hi).1
  have hlt' := (List.getElem?_eq_some_iff.1 hnext).1
  rw [length_cyclicPairs] at hlt hlt'
  have hend := ((getElem?_cyclicPairs hlt).1 hi).2
  have hstart := ((getElem?_cyclicPairs hlt').1 hnext).1
  rw [hend, Option.some.injEq] at hstart
  exact hstart.symm

theorem exists_side (hi : i < l.length) : ∃ e, (cyclicPairs l)[i]? = some e :=
  ⟨_, List.getElem?_eq_getElem (by rwa [length_cyclicPairs])⟩

theorem cyclicPairs_rotate (l : List α) (k : ℕ) :
    cyclicPairs (l.rotate k) = (cyclicPairs l).rotate k := by
  have hlength : l.length = (l.rotate 1).length := (List.length_rotate l 1).symm
  rw [cyclicPairs, cyclicPairs, List.rotate_rotate, Nat.add_comm, ← List.rotate_rotate]
  exact (List.zipWith_rotate_distrib Prod.mk l (l.rotate 1) k hlength).symm

theorem getElem?_cyclicPairs_rotate (hi : i < l.length) (k : ℕ) :
    (cyclicPairs (l.rotate k))[i]? = (cyclicPairs l)[(i + k) % l.length]? := by
  rw [cyclicPairs_rotate, List.getElem?_rotate (by rwa [length_cyclicPairs]), length_cyclicPairs]

/-- The side of a line that is the `i`th one the other way. -/
def reversedIndex (n i : ℕ) : ℕ := if i + 1 < n then n - 2 - i else n - 1

theorem reversedIndex_lt (hi : i < n) : reversedIndex n i < n := by
  unfold reversedIndex
  split_ifs <;> omega

theorem getElem?_cyclicPairs_reverse {e : α × α} (hi : i < l.length) :
    (cyclicPairs l.reverse)[i]? = some e ↔
      (cyclicPairs l)[reversedIndex l.length i]? = some e.swap := by
  have hpos : 0 < l.length := Nat.zero_lt_of_lt hi
  have hlength : l.reverse.length = l.length := List.length_reverse
  rw [getElem?_cyclicPairs (by rwa [hlength]), getElem?_cyclicPairs (reversedIndex_lt hi), hlength,
    List.getElem?_reverse hi, List.getElem?_reverse (Nat.mod_lt _ hpos), and_comm]
  unfold reversedIndex
  split_ifs with hlast
  · rw [Nat.mod_eq_of_lt hlast, Nat.mod_eq_of_lt (by omega)]
    have hfirst : l.length - 1 - (i + 1) = l.length - 2 - i := by omega
    have hsecond : l.length - 1 - i = l.length - 2 - i + 1 := by omega
    rw [hfirst, hsecond]
    exact Iff.rfl
  · have hi' : i + 1 = l.length := by omega
    have hlast' : l.length - 1 + 1 = l.length := by omega
    have hzero : l.length - 1 - i = 0 := by omega
    rw [hi', hlast', Nat.mod_self, hzero, Nat.sub_zero]
    exact Iff.rfl

theorem cyclicPairs_reverse_perm (l : List α) :
    (cyclicPairs l.reverse).Perm ((cyclicPairs l).map Prod.swap) := by
  have hlength : l.length = (l.rotate (l.length - 1 % l.length)).length :=
    (List.length_rotate ..).symm
  have hswap : (l.rotate 1).zip l = (cyclicPairs l).map Prod.swap := (List.zip_swap ..).symm
  -- the sides before the corners are those after them, from the last corner on
  have hrotate : l.zip (l.rotate (l.length - 1 % l.length)) =
      ((l.rotate 1).zip l).rotate (l.length - 1 % l.length) := by
    have hback : (l.rotate 1).rotate (l.length - 1 % l.length) = l := by
      have hself := List.rotate_eq_iff.1 (rfl : l.rotate 1 = l.rotate 1)
      rw [List.length_rotate] at hself
      exact hself.symm
    have hzip := List.zipWith_rotate_distrib Prod.mk (l.rotate 1) l (l.length - 1 % l.length)
      (List.length_rotate ..)
    rw [hback] at hzip
    exact hzip.symm
  have hreverse : cyclicPairs l.reverse =
      (l.zip (l.rotate (l.length - 1 % l.length))).reverse := by
    rw [cyclicPairs, List.rotate_reverse]
    exact (List.reverse_zipWith hlength).symm
  rw [hreverse, hrotate, hswap]
  exact (List.reverse_perm _).trans (List.rotate_perm ..)

/-! ## Sides that do not follow one another -/

def Separate (n i j : ℕ) : Prop := i ≠ j ∧ (i + 1) % n ≠ j ∧ (j + 1) % n ≠ i

theorem Separate.symm (h : Separate n i j) : Separate n j i := ⟨h.1.symm, h.2.2, h.2.1⟩

theorem separate_iff (hij : i < j) (hj : j < n) :
    Separate n i j ↔ j ≠ i + 1 ∧ ¬(i = 0 ∧ j = n - 1) := by
  have hnext : (i + 1) % n = i + 1 := Nat.mod_eq_of_lt (by omega)
  unfold Separate
  rw [hnext]
  by_cases hlast : j + 1 = n
  · rw [hlast, Nat.mod_self]
    omega
  · rw [Nat.mod_eq_of_lt (by omega)]
    omega

/-- What holds of every two sides that do not follow one another. -/
def SeparateSides (l : List α) (R : α × α → α × α → Prop) : Prop :=
  ∀ i j e e', (cyclicPairs l)[i]? = some e → (cyclicPairs l)[j]? = some e' →
    Separate l.length i j → R e e'

variable {R R' : α × α → α × α → Prop}

theorem SeparateSides.mono (h : SeparateSides l R) (himp : ∀ e e', R e e' → R' e e') :
    SeparateSides l R' :=
  fun i j e e' he he' hij => himp e e' (h i j e e' he he' hij)

theorem SeparateSides.and_swap (h : SeparateSides l R) :
    SeparateSides l fun e e' => R e e' ∧ R e' e :=
  fun i j e e' he he' hij => ⟨h i j e e' he he' hij, h j i e' e he' he hij.symm⟩

/-- A relation that the order of two sides does not matter to is asked for once. -/
theorem separateSides_iff_of_comm (hcomm : SeparateSides l fun e e' => R e e' ↔ R e' e) :
    SeparateSides l R ↔ ∀ i j e e', (cyclicPairs l)[i]? = some e →
      (cyclicPairs l)[j]? = some e' → i < j → j ≠ i + 1 ∧ ¬(i = 0 ∧ j = l.length - 1) →
        R e e' := by
  have hlt : ∀ {i e}, (cyclicPairs l)[i]? = some e → i < l.length := by
    intro i e he
    rw [← length_cyclicPairs]
    exact (List.getElem?_eq_some_iff.1 he).1
  constructor
  · intro h i j e e' he he' hij hseparate
    exact h i j e e' he he' ((separate_iff hij (hlt he')).2 hseparate)
  · intro h i j e e' he he' hseparate
    rcases Nat.lt_or_gt_of_ne hseparate.1 with hij | hji
    · exact h i j e e' he he' hij ((separate_iff hij (hlt he')).1 hseparate)
    · exact (hcomm i j e e' he he' hseparate).2
        (h j i e' e he' he hji ((separate_iff hji (hlt he)).1 hseparate.symm))

theorem add_mod_eq_iff (hi : i < n) (hj : j < n) (k : ℕ) :
    (i + k) % n = (j + k) % n ↔ i = j := by
  constructor
  · intro h
    have hmod : Nat.ModEq n i j := Nat.ModEq.add_right_cancel' k h
    exact Nat.ModEq.eq_of_lt_of_lt hmod hi hj
  · exact fun h => by rw [h]

theorem Separate.rotate (hi : i < n) (hj : j < n) (k : ℕ) :
    Separate n ((i + k) % n) ((j + k) % n) ↔ Separate n i j := by
  have hpos : 0 < n := Nat.zero_lt_of_lt hi
  have hnext : ∀ a, ((a + k) % n + 1) % n = ((a + 1) % n + k) % n := by
    intro a
    rw [Nat.mod_add_mod, Nat.mod_add_mod, Nat.add_right_comm]
  unfold Separate
  rw [hnext, hnext, Ne, Ne, Ne, add_mod_eq_iff hi hj, add_mod_eq_iff (Nat.mod_lt _ hpos) hj,
    add_mod_eq_iff (Nat.mod_lt _ hpos) hi]

theorem Separate.of_reversedIndex (hi : i < n) (hj : j < n) :
    Separate n (reversedIndex n i) (reversedIndex n j) ↔ Separate n i j := by
  have hnext : ∀ a < n, (a + 1) % n = if a + 1 < n then a + 1 else 0 := by
    intro a ha
    split_ifs with hlast
    · exact Nat.mod_eq_of_lt hlast
    · have heq : a + 1 = n := by omega
      rw [heq, Nat.mod_self]
  unfold Separate
  rw [hnext _ (reversedIndex_lt hi), hnext _ (reversedIndex_lt hj), hnext i hi, hnext j hj]
  unfold reversedIndex
  split_ifs <;> omega

theorem SeparateSides.rotate (h : SeparateSides l R) (k : ℕ) : SeparateSides (l.rotate k) R := by
  intro i j e e' he he' hseparate
  have hi := (List.getElem?_eq_some_iff.1 he).1
  have hj := (List.getElem?_eq_some_iff.1 he').1
  rw [length_cyclicPairs, List.length_rotate] at hi hj
  rw [getElem?_cyclicPairs_rotate hi] at he
  rw [getElem?_cyclicPairs_rotate hj] at he'
  rw [List.length_rotate] at hseparate
  exact h _ _ e e' he he' ((Separate.rotate hi hj k).2 hseparate)

/-- Where the line starts does not matter. -/
theorem separateSides_rotate (k : ℕ) : SeparateSides (l.rotate k) R ↔ SeparateSides l R := by
  refine ⟨fun h => ?_, fun h => h.rotate k⟩
  have hback := h.rotate ((l.rotate k).length - k % (l.rotate k).length)
  rwa [← List.rotate_eq_iff.1 rfl] at hback

theorem SeparateSides.reverse (h : SeparateSides l fun e e' => R e.swap e'.swap) :
    SeparateSides l.reverse R := by
  intro i j e e' he he' hseparate
  have hi := (List.getElem?_eq_some_iff.1 he).1
  have hj := (List.getElem?_eq_some_iff.1 he').1
  rw [length_cyclicPairs, List.length_reverse] at hi hj
  rw [getElem?_cyclicPairs_reverse hi] at he
  rw [getElem?_cyclicPairs_reverse hj] at he'
  rw [List.length_reverse] at hseparate
  exact h _ _ e.swap e'.swap he he' ((Separate.of_reversedIndex hi hj).2 hseparate)

/-- The other way the sides are turned around. -/
theorem separateSides_reverse :
    SeparateSides l.reverse R ↔ SeparateSides l fun e e' => R e.swap e'.swap := by
  refine ⟨fun h => ?_, fun h => h.reverse⟩
  have hback : SeparateSides l.reverse.reverse fun e e' => R e.swap e'.swap :=
    SeparateSides.reverse h
  rwa [List.reverse_reverse] at hback

end Sides

/-! ## Simple lines -/

variable {K : Type*} [Field K]

/-- Twice the area that the line bounds. -/
def doubleArea (l : List (K × K)) : K := ((cyclicPairs l).map fun e => wedge e.1 e.2).sum

theorem doubleArea_rotate (l : List (K × K)) (k : ℕ) : doubleArea (l.rotate k) = doubleArea l := by
  rw [doubleArea, cyclicPairs_rotate]
  exact ((List.rotate_perm (cyclicPairs l) k).map _).sum_eq

theorem doubleArea_reverse (l : List (K × K)) : doubleArea l.reverse = -doubleArea l := by
  rw [doubleArea, ((cyclicPairs_reverse_perm l).map _).sum_eq, doubleArea, List.sum_neg,
    List.map_map, List.map_map]
  congr 1
  refine List.map_congr_left fun e _ => ?_
  simp only [Function.comp_apply, Prod.fst_swap, Prod.snd_swap, wedge]
  ring

/-- In a triangle with an area the sides meet in its corners only. -/
theorem wedge_ne_zero_of_triangle {l : List (K × K)} (hlength : l.length = 3) (harea : doubleArea l ≠ 0)
    {i : ℕ} {e e' : (K × K) × (K × K)} (he : (cyclicPairs l)[i]? = some e)
    (he' : (cyclicPairs l)[(i + 1) % l.length]? = some e') :
    wedge (e.1 - e.2) (e'.2 - e.2) ≠ 0 := by
  obtain ⟨p, q, r, rfl⟩ := List.length_eq_three.1 hlength
  have hi := (List.getElem?_eq_some_iff.1 he).1
  have hwedge : wedge (e.1 - e.2) (e'.2 - e.2) = -doubleArea [p, q, r] := by
    have hpairs : cyclicPairs [p, q, r] = [(p, q), (q, r), (r, p)] := rfl
    rw [hpairs] at he he' hi
    simp only [doubleArea, hpairs, List.map_cons, List.map_nil, List.sum_cons, List.sum_nil]
    rcases i with _ | _ | _ | i
    · obtain rfl : (p, q) = e := Option.some.inj he
      obtain rfl : (q, r) = e' := Option.some.inj he'
      simp only [wedge, Prod.fst_sub, Prod.snd_sub]
      ring
    · obtain rfl : (q, r) = e := Option.some.inj he
      obtain rfl : (r, p) = e' := Option.some.inj he'
      simp only [wedge, Prod.fst_sub, Prod.snd_sub]
      ring
    · have hfirst : (0 + 1 + 1 + 1) % [p, q, r].length = 0 := Nat.mod_self 3
      rw [hfirst] at he'
      obtain rfl : (r, p) = e := Option.some.inj he
      obtain rfl : (p, q) = e' := Option.some.inj he'
      simp only [wedge, Prod.fst_sub, Prod.snd_sub]
      ring
    · exact absurd hi (by simp)
  rw [hwedge]
  exact neg_ne_zero.2 harea

variable [LinearOrder K] [IsStrictOrderedRing K]

structure SimpleLine (l : List (K × K)) : Prop where
  apart : SeparateSides l fun e e' => Disjoint (segment K e.1 e.2) (segment K e'.1 e'.2)
  joined : ∀ i e e', (cyclicPairs l)[i]? = some e →
    (cyclicPairs l)[(i + 1) % l.length]? = some e' →
      segment K e.1 e.2 ∩ segment K e'.1 e'.2 = {e.2}

/-- Two segments from a point that meet elsewhere are parallel, and one is part of the other. -/
theorem overlap_of_common {a b c x : K × K} (hx : x ∈ segment K a b) (hx' : x ∈ segment K b c)
    (hne : x ≠ b) : wedge (a - b) (c - b) = 0 ∧ (c ∈ segment K a b ∨ a ∈ segment K b c) := by
  rw [segment_symm] at hx ⊢
  obtain ⟨s, hs0, hs1, hs⟩ := mem_segment_iff_along.1 hx
  obtain ⟨t, ht0, ht1, ht⟩ := mem_segment_iff_along.1 hx'
  have hzero : ∀ {d : K × K} {u : K}, x = along b d u → u ≠ 0 := by
    rintro d u hd rfl
    refine hne (hd.trans ?_)
    simp only [along, mul_zero, add_zero]
  have hspos : 0 < s := lt_of_le_of_ne hs0 (hzero hs).symm
  have htpos : 0 < t := lt_of_le_of_ne ht0 (hzero ht).symm
  obtain ⟨h1, h2⟩ := Prod.ext_iff.1 (hs.symm.trans ht)
  simp only [along] at h1 h2
  refine ⟨?_, ?_⟩
  · have hscaled : s * t * wedge (a - b) (c - b) = 0 := by
      simp only [wedge, Prod.fst_sub, Prod.snd_sub]
      linear_combination t * (c.2 - b.2) * h1 - t * (c.1 - b.1) * h2
    exact (mul_eq_zero.1 hscaled).resolve_left (mul_pos hspos htpos).ne'
  · rcases le_total s t with hle | hle
    · refine .inl (mem_segment_iff_along.2 ⟨s / t, (div_pos hspos htpos).le,
        (div_le_one htpos).2 hle, Prod.ext ?_ ?_⟩)
      · simp only [along]
        field_simp
        linear_combination -h1
      · simp only [along]
        field_simp
        linear_combination -h2
    · refine .inr (mem_segment_iff_along.2 ⟨t / s, (div_pos htpos hspos).le,
        (div_le_one hspos).2 hle, Prod.ext ?_ ?_⟩)
      · simp only [along]
        field_simp
        linear_combination h1
      · simp only [along]
        field_simp
        linear_combination h2

theorem corner_mem_inter {l : List (K × K)} {i : ℕ} {e e' : (K × K) × (K × K)}
    (he : (cyclicPairs l)[i]? = some e)
    (he' : (cyclicPairs l)[(i + 1) % l.length]? = some e') :
    e.2 ∈ segment K e.1 e.2 ∩ segment K e'.1 e'.2 := by
  refine ⟨right_mem_segment K e.1 e.2, ?_⟩
  rw [← side_next he he']
  exact left_mem_segment K e'.1 e'.2

theorem separate_next {n i : ℕ} (hn : 4 ≤ n) (hi : i < n) :
    Separate n i ((i + 2) % n) := by
  have hmod : ∀ m < 2 * n, m % n = if m < n then m else m - n := by
    intro m hm
    split_ifs with hlt
    · exact Nat.mod_eq_of_lt hlt
    · rw [Nat.mod_eq_sub_mod (Nat.not_lt.1 hlt), Nat.mod_eq_of_lt (by omega)]
  unfold Separate
  rw [hmod (i + 1) (by omega), hmod (i + 2) (by omega)]
  split_ifs
  all_goals
    rw [hmod _ (by omega)]
    split_ifs <;> omega

/-- An overlap of two sides that follow one another has a corner on a side further on. -/
theorem corners_notMem_of_apart {l : List (K × K)} (hlength : 4 ≤ l.length)
    (h : SeparateSides l fun e e' => Disjoint (segment K e.1 e.2) (segment K e'.1 e'.2))
    {i : ℕ} {e e' : (K × K) × (K × K)} (he : (cyclicPairs l)[i]? = some e)
    (he' : (cyclicPairs l)[(i + 1) % l.length]? = some e') :
    e'.2 ∉ segment K e.1 e.2 ∧ e.1 ∉ segment K e'.1 e'.2 := by
  have hi := (List.getElem?_eq_some_iff.1 he).1
  rw [length_cyclicPairs] at hi
  have hpos : 0 < l.length := by omega
  constructor
  · intro hmem
    obtain ⟨e'', he''⟩ := exists_side (Nat.mod_lt (i + 2) hpos)
    have hnext : (cyclicPairs l)[((i + 1) % l.length + 1) % l.length]? = some e'' := by
      rw [Nat.mod_add_mod]
      exact he''
    have hcorner : e'.2 ∈ segment K e''.1 e''.2 := by
      rw [← side_next he' hnext]
      exact left_mem_segment K e''.1 e''.2
    exact Set.disjoint_left.1 (h _ _ e e'' he he'' (separate_next hlength hi)) hmem hcorner
  · intro hmem
    obtain ⟨e'', he''⟩ := exists_side (Nat.mod_lt (i + (l.length - 1)) hpos)
    have hprevious : ((i + (l.length - 1)) % l.length + 1) % l.length = i := by
      rw [Nat.mod_add_mod, Nat.add_assoc, Nat.sub_add_cancel hpos, Nat.add_mod_right,
        Nat.mod_eq_of_lt hi]
    have htwo : ((i + (l.length - 1)) % l.length + 2) % l.length = (i + 1) % l.length := by
      rw [Nat.mod_add_mod]
      have hshift : i + (l.length - 1) + 2 = i + 1 + l.length := by omega
      rw [hshift, Nat.add_mod_right]
    have hseparate := separate_next hlength (Nat.mod_lt (i + (l.length - 1)) hpos)
    rw [htwo] at hseparate
    have hnext : (cyclicPairs l)[((i + (l.length - 1)) % l.length + 1) % l.length]? = some e := by
      rw [hprevious]
      exact he
    have hcorner : e.1 ∈ segment K e''.1 e''.2 := by
      rw [side_next he'' hnext]
      exact right_mem_segment K e''.1 e''.2
    exact Set.disjoint_left.1 (h _ _ e'' e' he'' he' hseparate) hcorner hmem

/-- A line with at least three corners that bounds an area is simple if its separate sides are
disjoint. -/
theorem simpleLine_iff {l : List (K × K)} (hlength : 3 ≤ l.length) (harea : doubleArea l ≠ 0) :
    SimpleLine l ↔
      SeparateSides l fun e e' => Disjoint (segment K e.1 e.2) (segment K e'.1 e'.2) := by
  refine ⟨SimpleLine.apart, fun h => ⟨h, fun i e e' he he' => ?_⟩⟩
  refine Set.Subset.antisymm (fun x hx => ?_)
    (Set.singleton_subset_iff.2 (corner_mem_inter he he'))
  by_contra hne
  have hx' := hx.2
  rw [side_next he he'] at hx'
  obtain ⟨hwedge, hoverlap⟩ := overlap_of_common hx.1 hx' hne
  rcases Nat.lt_or_ge 3 l.length with hfour | hthree
  · obtain ⟨hfirst, hsecond⟩ := corners_notMem_of_apart hfour h he he'
    rw [side_next he he'] at hsecond
    exact hoverlap.elim hfirst hsecond
  · exact wedge_ne_zero_of_triangle (Nat.le_antisymm hthree hlength) harea he he' hwedge

end GcsSaker.Planar

/-!
# Walks that count crossings

A test whether a point is inside a closed line walks along the line, from each corner to the next
and first from the last to the first. It accepts at once where the point is on a side, and else
where it has crossed an odd number of sides. The answer is a property of the sides: it does not
depend on where the walk begins or which way it goes.
-/

namespace GcsSaker.Planar

variable {α : Type*} {on on' crosses : α × α → Bool} {l l' : List α}

/-- The walk over the corners that are left, with the corner before them and the parity so far. -/
def evenOddFrom (on crosses : α × α → Bool) : α → Bool → List α → Bool
  | _, inside, [] => inside
  | previous, inside, current :: rest =>
    if on (previous, current) = true then true
    else evenOddFrom on crosses current
      (if crosses (previous, current) = true then !inside else inside) rest

/-- The whole walk; a line without corners has no inside. -/
def evenOdd (on crosses : α × α → Bool) (l : List α) : Bool :=
  match l.getLast? with
  | none => false
  | some last => evenOddFrom on crosses last false l

theorem evenOddFrom_eq (previous : α) (inside : Bool) (l : List α) :
    evenOddFrom on crosses previous inside l =
      (((previous :: l).zip l).any on || (inside ^^ oddly crosses ((previous :: l).zip l))) := by
  induction l generalizing previous inside with
  | nil => simp only [evenOddFrom, List.zip_nil_right, List.any_nil, Bool.false_or, oddly,
      List.foldr_nil, Bool.xor_false]
  | cons current rest ih =>
      rw [evenOddFrom, ih, List.zip_cons_cons, List.any_cons, oddly_cons]
      cases on (previous, current) with
      | true => rfl
      | false =>
          cases crosses (previous, current) with
          | true => cases inside <;> simp
          | false => simp

theorem oddly_perm {f : α → Bool} (h : l.Perm l') : oddly f l = oddly f l' := by
  induction h with
  | nil => rfl
  | cons x _ ih => rw [oddly_cons, oddly_cons, ih]
  | swap x y l =>
      rw [oddly_cons, oddly_cons, oddly_cons, oddly_cons, ← Bool.xor_assoc, ← Bool.xor_assoc,
        Bool.xor_comm (f x)]
  | trans _ _ ih ih' => rw [ih, ih']

theorem oddly_singleton (f : α → Bool) (x : α) : oddly f [x] = f x := by
  rw [oddly_cons, oddly, List.foldr_nil, Bool.xor_false]

/-- The walk tells of the sides only, whatever their order. -/
theorem evenOdd_eq (on crosses : α × α → Bool) (l : List α) : evenOdd on crosses l =
    ((cyclicPairs l).any on || oddly crosses (cyclicPairs l)) := by
  cases l with
  | nil => rfl
  | cons a l =>
      have hperm : ((a :: l).zip l ++ [((a :: l).getLast (List.cons_ne_nil a l), a)]).Perm
          (((a :: l).getLast (List.cons_ne_nil a l), a) :: (a :: l).zip l) :=
        List.perm_append_singleton _ _
      rw [evenOdd, List.getLast?_eq_some_getLast (List.cons_ne_nil a l)]
      simp only
      rw [evenOddFrom_eq, Bool.false_xor, cyclicPairs_cons, List.zip_cons_cons, hperm.any_eq,
        oddly_perm hperm]

theorem evenOdd_eq_true_iff : evenOdd on crosses l = true ↔
    (∃ e ∈ cyclicPairs l, on e = true) ∨ oddly crosses (cyclicPairs l) = true := by
  rw [evenOdd_eq, Bool.or_eq_true, List.any_eq_true]

/-! ## The line drawn otherwise -/

theorem evenOdd_rotate (on crosses : α × α → Bool) (l : List α) (k : ℕ) :
    evenOdd on crosses (l.rotate k) = evenOdd on crosses l := by
  have hperm : (cyclicPairs (l.rotate k)).Perm (cyclicPairs l) := by
    rw [cyclicPairs_rotate]
    exact List.rotate_perm ..
  rw [evenOdd_eq, evenOdd_eq, hperm.any_eq, oddly_perm hperm]

/-- The other way round, for tests that do not tell the ends of a side apart. -/
theorem evenOdd_reverse (hon : ∀ e, on e.swap = on e) (hcrosses : ∀ e, crosses e.swap = crosses e)
    (l : List α) : evenOdd on crosses l.reverse = evenOdd on crosses l := by
  have hperm := cyclicPairs_reverse_perm l
  have hany : ((cyclicPairs l).map Prod.swap).any on = (cyclicPairs l).any on := by
    rw [List.any_map]
    exact congrArg (cyclicPairs l).any (funext hon)
  have hodd : oddly crosses ((cyclicPairs l).map Prod.swap) = oddly crosses (cyclicPairs l) := by
    rw [oddly_map]
    exact oddly_congr fun e _ => hcrosses e
  rw [evenOdd_eq, evenOdd_eq, hperm.any_eq, oddly_perm hperm, hany, hodd]

theorem zip_concat_tail (a b : α) (l : List α) :
    (a :: (l ++ [b])).zip (l ++ [b]) = (a :: l).zip (l ++ [b]) := by
  induction l generalizing a with
  | nil => rfl
  | cons c l ih => rw [List.cons_append, List.zip_cons_cons, ih, List.zip_cons_cons]

/-- The line that comes back to its first corner has one more side, from that corner to itself. -/
theorem cyclicPairs_concat (a : α) (l : List α) :
    cyclicPairs (a :: l ++ [a]) = cyclicPairs (a :: l) ++ [(a, a)] := by
  have hlast : (a :: (l ++ [a])).getLast (List.cons_ne_nil a (l ++ [a])) = a := by
    change (a :: l ++ [a]).getLast _ = a
    exact List.getLast_concat
  rw [List.cons_append, cyclicPairs_cons, zip_concat_tail, zip_append_singleton, hlast,
    cyclicPairs_cons]

/-- The first corner may be repeated if the side that this adds is not crossed, and a point on it
is on the sides at that corner anyway. -/
theorem evenOdd_concat (hon : ∀ a b, on (a, a) = true → on (a, b) = true)
    (hcrosses : ∀ a, crosses (a, a) = false) (a : α) (l : List α) :
    evenOdd on crosses (a :: l ++ [a]) = evenOdd on crosses (a :: l) := by
  have hfirst : ∃ b, (a, b) ∈ cyclicPairs (a :: l) := by
    rw [cyclicPairs_cons]
    cases l with
    | nil => exact ⟨a, List.mem_append_right _ (List.mem_singleton_self _)⟩
    | cons b l => exact ⟨b, List.mem_append_left _ List.mem_cons_self⟩
  obtain ⟨b, hb⟩ := hfirst
  have hadd : ((cyclicPairs (a :: l)).any on || on (a, a)) = (cyclicPairs (a :: l)).any on := by
    cases haa : on (a, a) with
    | false => rw [Bool.or_false]
    | true =>
        rw [Bool.or_true, eq_comm, List.any_eq_true]
        exact ⟨(a, b), hb, hon a b haa⟩
  rw [evenOdd_eq, evenOdd_eq, cyclicPairs_concat, List.any_append, oddly_append, List.any_cons,
    List.any_nil, Bool.or_false, hadd, oddly_singleton, hcrosses, Bool.xor_false]

/-! ## Another test of the sides -/

/-- A wider test of the sides accepts more points, all of them on a side by that test. -/
theorem evenOdd_mono (h : ∀ e, on e = true → on' e = true) (hl : evenOdd on crosses l = true) :
    evenOdd on' crosses l = true := by
  rw [evenOdd_eq_true_iff] at hl ⊢
  rcases hl with ⟨e, he, hone⟩ | hodd
  · exact Or.inl ⟨e, he, h e hone⟩
  · exact Or.inr hodd

theorem exists_on_of_evenOdd (hl' : evenOdd on' crosses l = true)
    (hl : evenOdd on crosses l = false) : ∃ e ∈ cyclicPairs l, on' e = true := by
  rcases evenOdd_eq_true_iff.1 hl' with hon | hodd
  · exact hon
  · have hboth := evenOdd_eq_true_iff.2 (Or.inr hodd : (∃ e ∈ cyclicPairs l, on e = true) ∨ _)
    rw [hl] at hboth
    cases hboth

/-! ## Crossings to the right -/

/-- A side and the same side the other way are crossed alike. -/
theorem crossesRight_swap {K : Type*} [Field K] [LinearOrder K] (p a b : K × K) :
    crossesRight p b a = crossesRight p a b := by
  by_cases h : p.2 < b.2 ↔ p.2 < a.2
  · rw [crossesRight_eq_false h, crossesRight_eq_false h.symm]
  · have hne : a.2 - b.2 ≠ 0 := by
      intro hzero
      rw [sub_eq_zero] at hzero
      exact h (by rw [hzero])
    have hne' : b.2 - a.2 ≠ 0 := by
      rw [← neg_sub]
      exact neg_ne_zero.2 hne
    have hsame : (atHeight b a p.2).1 = (atHeight a b p.2).1 := by
      simp only [atHeight]
      field_simp
      ring
    rw [crossesRight_eq h, crossesRight_eq fun h' => h h'.symm, hsame]

theorem crossesRight_self {K : Type*} [Field K] [LinearOrder K] (p a : K × K) :
    crossesRight p a a = false :=
  crossesRight_eq_false Iff.rfl

end GcsSaker.Planar
