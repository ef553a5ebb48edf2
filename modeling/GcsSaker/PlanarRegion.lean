import Mathlib.Analysis.Convex.Basic
import Mathlib.Tactic.Linarith

/-!
# The region of a closed polygonal line

A point belongs to the region that a closed line bounds if no path of straight pieces that avoid
the line leads arbitrarily far away from it; points of the line are such points. Rays to the right
decide membership: along a piece that avoids the line the number of edges to the right does not
change its parity, and far away it is even. So a point with an odd number of edges to its right is
in the region. Coordinates are taken in any ordered field.
-/

namespace GcsSaker.Planar

/-! ## Closed lists -/

section Cyclic

variable {α : Type*}

/-- The consecutive pairs of a closed list. -/
def cyclicPairs (l : List α) : List (α × α) := l.zip (l.rotate 1)

/-- Whether `f` holds of an odd number of entries. -/
def oddly (f : α → Bool) (l : List α) : Bool := l.foldr (fun x odd => f x ^^ odd) false

theorem oddly_cons (f : α → Bool) (x : α) (l : List α) : oddly f (x :: l) = (f x ^^ oddly f l) :=
  rfl

theorem oddly_append (f : α → Bool) (l l' : List α) :
    oddly f (l ++ l') = (oddly f l ^^ oddly f l') := by
  induction l with
  | nil => simp only [List.nil_append, oddly, List.foldr_nil, Bool.false_xor]
  | cons x l ih => simp only [List.cons_append, oddly_cons, ih, Bool.xor_assoc]

theorem oddly_xor (f g : α → Bool) (l : List α) :
    oddly (fun x => f x ^^ g x) l = (oddly f l ^^ oddly g l) := by
  induction l with
  | nil => rfl
  | cons x l ih =>
      simp only [oddly_cons, ih]
      cases f x <;> cases g x <;> cases oddly f l <;> cases oddly g l <;> rfl

theorem oddly_congr {f g : α → Bool} {l : List α} (h : ∀ x ∈ l, f x = g x) :
    oddly f l = oddly g l := by
  induction l with
  | nil => rfl
  | cons x l ih =>
      rw [oddly_cons, oddly_cons, h x List.mem_cons_self,
        ih fun y hy => h y (List.mem_cons_of_mem x hy)]

theorem oddly_map {β : Type*} (f : β → Bool) (g : α → β) (l : List α) :
    oddly f (l.map g) = oddly (fun x => f (g x)) l := by
  simp only [oddly, List.foldr_map]

theorem exists_of_oddly {f : α → Bool} {l : List α} (h : oddly f l = true) :
    ∃ x ∈ l, f x = true := by
  by_contra! hf
  have hfalse : oddly f l = oddly (fun _ => false) l :=
    oddly_congr fun x hx => Bool.eq_false_iff.mpr (hf x hx)
  have hzero : oddly (fun _ => false) l = false := by
    induction l with
    | nil => rfl
    | cons x l ih => simp [oddly]
  rw [hfalse, hzero] at h
  cases h

theorem zip_append_singleton (a b : α) (l : List α) :
    (a :: l).zip (l ++ [b]) = (a :: l).zip l ++ [((a :: l).getLast (List.cons_ne_nil a l), b)] := by
  induction l generalizing a with
  | nil => rfl
  | cons c l ih =>
      rw [List.cons_append, List.zip_cons_cons, ih, List.zip_cons_cons, List.cons_append,
        List.getLast_cons_cons]

theorem cyclicPairs_cons (a : α) (l : List α) : cyclicPairs (a :: l) =
    (a :: l).zip l ++ [((a :: l).getLast (List.cons_ne_nil a l), a)] := by
  rw [cyclicPairs, List.rotate_cons_succ, List.rotate_zero, zip_append_singleton]

theorem cyclicPairs_map {β : Type*} (f : α → β) (l : List α) :
    cyclicPairs (l.map f) = (cyclicPairs l).map fun e => (f e.1, f e.2) := by
  rw [cyclicPairs, cyclicPairs, ← List.map_rotate, List.zip_map]
  rfl

theorem oddly_path (g : α → Bool) (a : α) (l : List α) :
    oddly (fun e : α × α => g e.1 ^^ g e.2) ((a :: l).zip l) =
      (g a ^^ g ((a :: l).getLast (List.cons_ne_nil a l))) := by
  induction l generalizing a with
  | nil => simp only [List.zip_nil_right, oddly, List.foldr_nil, List.getLast_singleton,
      Bool.xor_self]
  | cons b l ih =>
      rw [List.zip_cons_cons, oddly_cons, ih, List.getLast_cons_cons]
      cases g a <;> cases g b <;> simp

/-- Around a closed list a property changes an even number of times. -/
theorem oddly_cyclicPairs (g : α → Bool) (l : List α) :
    oddly (fun e : α × α => g e.1 ^^ g e.2) (cyclicPairs l) = false := by
  cases l with
  | nil => rfl
  | cons a l =>
      rw [cyclicPairs_cons, oddly_append, oddly_path, oddly_cons]
      simp only [oddly, List.foldr_nil, Bool.xor_false]
      cases g a <;> cases g ((a :: l).getLast (List.cons_ne_nil a l)) <;> rfl

end Cyclic

variable {K : Type*} [Field K] [LinearOrder K]

/-! ## Lines, paths and regions -/

def boundary (l : List (K × K)) : Set (K × K) :=
  {x | ∃ e ∈ cyclicPairs l, x ∈ segment K e.1 e.2}

/-- The straight piece from `p` to `q` avoids the line. -/
def Clear (l : List (K × K)) (p q : K × K) : Prop := ∀ x ∈ segment K p q, x ∉ boundary l

/-- The points from which no path that avoids the line leads arbitrarily far away. -/
def closedRegion (l : List (K × K)) : Set (K × K) :=
  {p | ∃ R, ∀ q, Relation.ReflTransGen (Clear l) p q → |q.1| ≤ R ∧ |q.2| ≤ R}

theorem Clear.symm {l : List (K × K)} {p q : K × K} (h : Clear l p q) : Clear l q p := by
  intro x hx
  rw [segment_symm] at hx
  exact h x hx

theorem mem_closedRegion_of_clear {l : List (K × K)} {p q : K × K} (hp : p ∈ closedRegion l)
    (h : Clear l p q) : q ∈ closedRegion l := by
  obtain ⟨R, hR⟩ := hp
  exact ⟨R, fun r hr => hR r (Relation.ReflTransGen.head h hr)⟩

/-- The edge from `a` to `b` passes to the right of `p`; its lower end counts, its upper end does
not. -/
def crossesRight (p a b : K × K) : Bool :=
  (decide (p.2 < b.2) != decide (p.2 < a.2)) &&
    decide (p.1 < (a.1 - b.1) * (p.2 - b.2) / (a.2 - b.2) + b.1)

/-- An odd number of edges passes to the right of `p`. -/
def oddRight (l : List (K × K)) (p : K × K) : Bool :=
  oddly (fun e => crossesRight p e.1 e.2) (cyclicPairs l)

/-- The point of the line through `a` and `b` at height `y`. -/
def atHeight (a b : K × K) (y : K) : K × K := ((a.1 - b.1) * (y - b.2) / (a.2 - b.2) + b.1, y)

/-- Positive to the right of the line from `p` up to `q`. -/
def side (p q v : K × K) : K := (v.1 - p.1) * (q.2 - p.2) - (v.2 - p.2) * (q.1 - p.1)

theorem crossesRight_eq_false {p a b : K × K} (h : p.2 < b.2 ↔ p.2 < a.2) :
    crossesRight p a b = false := by
  simp only [crossesRight, h, bne_self_eq_false, Bool.false_and]

theorem crossesRight_eq {p a b : K × K} (h : ¬ (p.2 < b.2 ↔ p.2 < a.2)) :
    crossesRight p a b = decide (p.1 < (atHeight a b p.2).1) := by
  have hne : (decide (p.2 < b.2) != decide (p.2 < a.2)) = true := by
    simpa only [bne_iff_ne, ne_eq, decide_eq_decide] using h
  simp only [crossesRight, hne, Bool.true_and]
  rfl

/-- The vertex `v` is in the strip to the right of the piece from `p` up to `q`. -/
def inStrip (p q v : K × K) : Bool :=
  decide (p.2 < v.2) && decide (v.2 ≤ q.2) && decide (0 < side p q v)

theorem inStrip_of_le {p q v : K × K} (h : v.2 ≤ p.2) : inStrip p q v = false := by
  simp only [inStrip, not_lt.mpr h, decide_false, Bool.false_and]

theorem inStrip_of_lt {p q v : K × K} (h : q.2 < v.2) : inStrip p q v = false := by
  simp only [inStrip, not_le.mpr h, decide_false, Bool.and_false, Bool.false_and]

theorem inStrip_of_between {p q v : K × K} (hlow : p.2 < v.2) (hhigh : v.2 ≤ q.2) :
    inStrip p q v = decide (0 < side p q v) := by
  simp only [inStrip, hlow, hhigh, decide_true, Bool.true_and]

theorem exists_bound (l : List (K × K)) : ∃ R : K, ∀ v ∈ l, |v.1| ≤ R ∧ |v.2| ≤ R := by
  induction l with
  | nil => exact ⟨0, fun v hv => absurd hv List.not_mem_nil⟩
  | cons a l ih =>
      obtain ⟨R, hR⟩ := ih
      refine ⟨max R (max |a.1| |a.2|), fun v hv => ?_⟩
      rcases List.mem_cons.mp hv with rfl | hv
      · exact ⟨le_max_of_le_right (le_max_left _ _), le_max_of_le_right (le_max_right _ _)⟩
      · exact ⟨le_max_of_le_left (hR v hv).1, le_max_of_le_left (hR v hv).2⟩

variable [IsStrictOrderedRing K]

theorem mem_segment_iff {a b x : K × K} : x ∈ segment K a b ↔
    ∃ θ, 0 ≤ θ ∧ θ ≤ 1 ∧ x.1 = a.1 + θ * (b.1 - a.1) ∧ x.2 = a.2 + θ * (b.2 - a.2) := by
  rw [segment_eq_image']
  constructor
  · rintro ⟨θ, ⟨h0, h1⟩, rfl⟩
    exact ⟨θ, h0, h1, by simp, by simp⟩
  · rintro ⟨θ, h0, h1, hx, hy⟩
    refine ⟨θ, ⟨h0, h1⟩, Prod.ext ?_ ?_⟩
    · simp [hx]
    · simp [hy]

theorem atHeight_mem_segment {a b : K × K} {y : K}
    (h : (a.2 ≤ y ∧ y < b.2) ∨ (b.2 ≤ y ∧ y < a.2)) : atHeight a b y ∈ segment K a b := by
  have hne : a.2 - b.2 ≠ 0 := by
    rcases h with h | h
    · exact (sub_neg.mpr (h.1.trans_lt h.2)).ne
    · exact (sub_pos.mpr (h.1.trans_lt h.2)).ne'
  refine mem_segment_iff.mpr ⟨(a.2 - y) / (a.2 - b.2), ?_, ?_, ?_, ?_⟩
  · rcases h with h | h
    · exact div_nonneg_of_nonpos (by linarith) (by linarith)
    · exact div_nonneg (by linarith) (by linarith)
  · rcases h with h | h
    · rw [div_le_one_of_neg (by linarith)]
      linarith
    · rw [div_le_one (by linarith)]
      linarith
  · simp only [atHeight]
    field_simp
    ring
  · simp only [atHeight]
    field_simp
    ring

theorem mem_segment_of_side_eq_zero {p q v : K × K} (hpq : p.2 < q.2) (hv : side p q v = 0)
    (hlow : p.2 ≤ v.2) (hhigh : v.2 ≤ q.2) : v ∈ segment K p q := by
  have hpos : 0 < q.2 - p.2 := sub_pos.mpr hpq
  refine mem_segment_iff.mpr ⟨(v.2 - p.2) / (q.2 - p.2), ?_, ?_, ?_, ?_⟩
  · exact div_nonneg (by linarith) hpos.le
  · rw [div_le_one hpos]
    linarith
  · unfold side at hv
    field_simp
    linarith
  · field_simp
    ring

/-- Two points of an edge at heights between those of `p` and `q` are on the same side, if the
edge avoids the piece from `p` to `q`. -/
theorem side_pos_of_side_pos {p q a b c d : K × K} (hpq : p.2 < q.2)
    (hclear : ∀ x ∈ segment K p q, x ∉ segment K a b) (hc : c ∈ segment K a b)
    (hd : d ∈ segment K a b) (hcl : p.2 ≤ c.2) (hch : c.2 ≤ q.2) (hdl : p.2 ≤ d.2)
    (hdh : d.2 ≤ q.2) (h : 0 < side p q c) : 0 < side p q d := by
  by_contra! hneg
  have hpos : 0 < side p q c - side p q d := by linarith
  let θ := side p q c / (side p q c - side p q d)
  have h0 : 0 ≤ θ := div_nonneg h.le hpos.le
  have h1 : θ ≤ 1 := by
    rw [div_le_one hpos]
    linarith
  let x : K × K := (c.1 + θ * (d.1 - c.1), c.2 + θ * (d.2 - c.2))
  have hx : x ∈ segment K c d := mem_segment_iff.mpr ⟨θ, h0, h1, rfl, rfl⟩
  have hside : side p q x = 0 := by
    have hexpand : side p q x = side p q c - θ * (side p q c - side p q d) := by
      simp only [side, x]
      ring
    rw [hexpand, div_mul_cancel₀ _ hpos.ne', sub_self]
  have hlow : p.2 ≤ x.2 := by
    have : x.2 = (1 - θ) * c.2 + θ * d.2 := by
      simp only [x]
      ring
    nlinarith
  have hhigh : x.2 ≤ q.2 := by
    have : x.2 = (1 - θ) * c.2 + θ * d.2 := by
      simp only [x]
      ring
    nlinarith
  exact hclear x (mem_segment_of_side_eq_zero hpq hside hlow hhigh)
    ((convex_segment a b).segment_subset hc hd hx)

theorem side_pos_iff {p q a b c d : K × K} (hpq : p.2 < q.2)
    (hclear : ∀ x ∈ segment K p q, x ∉ segment K a b) (hc : c ∈ segment K a b)
    (hd : d ∈ segment K a b) (hcl : p.2 ≤ c.2) (hch : c.2 ≤ q.2) (hdl : p.2 ≤ d.2)
    (hdh : d.2 ≤ q.2) : 0 < side p q c ↔ 0 < side p q d :=
  ⟨side_pos_of_side_pos hpq hclear hc hd hcl hch hdl hdh,
    side_pos_of_side_pos hpq hclear hd hc hdl hdh hcl hch⟩

theorem lt_atHeight_low_iff {p q : K × K} (hpq : p.2 < q.2) (a b : K × K) :
    p.1 < (atHeight a b p.2).1 ↔ 0 < side p q (atHeight a b p.2) := by
  have hside : side p q (atHeight a b p.2) = ((atHeight a b p.2).1 - p.1) * (q.2 - p.2) := by
    simp only [side, atHeight]
    ring
  rw [hside, mul_pos_iff_of_pos_right (sub_pos.mpr hpq), sub_pos]

theorem lt_atHeight_high_iff {p q : K × K} (hpq : p.2 < q.2) (a b : K × K) :
    q.1 < (atHeight a b q.2).1 ↔ 0 < side p q (atHeight a b q.2) := by
  have hside : side p q (atHeight a b q.2) = ((atHeight a b q.2).1 - q.1) * (q.2 - p.2) := by
    simp only [side, atHeight]
    ring
  rw [hside, mul_pos_iff_of_pos_right (sub_pos.mpr hpq), sub_pos]

/-! ## The parity is kept along clear pieces -/

/-- An edge that avoids the piece from `p` up to `q` passes one of the two ends on the right exactly
when one of its own ends is in the strip. -/
theorem crossesRight_xor_of_lt {p q a b : K × K} (hpq : p.2 < q.2)
    (hclear : ∀ x ∈ segment K p q, x ∉ segment K a b) :
    (crossesRight p a b ^^ crossesRight q a b) = (inStrip p q a ^^ inStrip p q b) := by
  have ha := left_mem_segment K a b
  have hb := right_mem_segment K a b
  rcases le_or_gt a.2 p.2 with hap | hap
  · have haq := hap.trans_lt hpq
    rw [inStrip_of_le hap]
    rcases le_or_gt b.2 p.2 with hbp | hbp
    · rw [inStrip_of_le hbp,
        crossesRight_eq_false (iff_of_false (not_lt.mpr hbp) (not_lt.mpr hap)),
        crossesRight_eq_false
          (iff_of_false (not_lt.mpr (hbp.trans hpq.le)) (not_lt.mpr haq.le))]
    · have hc := atHeight_mem_segment (Or.inl ⟨hap, hbp⟩)
      rw [crossesRight_eq fun h => not_lt.mpr hap (h.mp hbp)]
      rcases le_or_gt b.2 q.2 with hbq | hbq
      · rw [inStrip_of_between hbp hbq,
          crossesRight_eq_false (iff_of_false (not_lt.mpr hbq) (not_lt.mpr haq.le)),
          Bool.xor_false, Bool.false_xor, decide_eq_decide, lt_atHeight_low_iff hpq]
        exact side_pos_iff hpq hclear hc hb le_rfl hpq.le hbp.le hbq
      · have hd := atHeight_mem_segment (Or.inl ⟨haq.le, hbq⟩)
        have heq : decide (p.1 < (atHeight a b p.2).1) = decide (q.1 < (atHeight a b q.2).1) := by
          rw [decide_eq_decide, lt_atHeight_low_iff hpq, lt_atHeight_high_iff hpq]
          exact side_pos_iff hpq hclear hc hd le_rfl hpq.le hpq.le le_rfl
        rw [inStrip_of_lt hbq, crossesRight_eq fun h => not_lt.mpr haq.le (h.mp hbq), heq,
          Bool.xor_self, Bool.xor_false]
  · rcases le_or_gt a.2 q.2 with haq | haq
    · rw [inStrip_of_between hap haq]
      rcases le_or_gt b.2 p.2 with hbp | hbp
      · have hc := atHeight_mem_segment (Or.inr ⟨hbp, hap⟩)
        rw [inStrip_of_le hbp, crossesRight_eq fun h => not_lt.mpr hbp (h.mpr hap),
          crossesRight_eq_false
            (iff_of_false (not_lt.mpr (hbp.trans hpq.le)) (not_lt.mpr haq)),
          Bool.xor_false, Bool.xor_false, decide_eq_decide, lt_atHeight_low_iff hpq]
        exact side_pos_iff hpq hclear hc ha le_rfl hpq.le hap.le haq
      · rw [crossesRight_eq_false (iff_of_true hbp hap), Bool.false_xor]
        rcases le_or_gt b.2 q.2 with hbq | hbq
        · rw [inStrip_of_between hbp hbq,
            crossesRight_eq_false (iff_of_false (not_lt.mpr hbq) (not_lt.mpr haq)), eq_comm,
            bne_eq_false_iff_eq, decide_eq_decide]
          exact side_pos_iff hpq hclear ha hb hap.le haq hbp.le hbq
        · have hd := atHeight_mem_segment (Or.inl ⟨haq, hbq⟩)
          rw [inStrip_of_lt hbq, Bool.xor_false,
            crossesRight_eq fun h => not_lt.mpr haq (h.mp hbq), decide_eq_decide,
            lt_atHeight_high_iff hpq]
          exact side_pos_iff hpq hclear hd ha hpq.le le_rfl hap.le haq
    · rw [inStrip_of_lt haq, Bool.false_xor]
      rcases le_or_gt b.2 p.2 with hbp | hbp
      · have hbq := hbp.trans hpq.le
        have hc := atHeight_mem_segment (Or.inr ⟨hbp, hap⟩)
        have hd := atHeight_mem_segment (Or.inr ⟨hbq, haq⟩)
        have heq : decide (p.1 < (atHeight a b p.2).1) = decide (q.1 < (atHeight a b q.2).1) := by
          rw [decide_eq_decide, lt_atHeight_low_iff hpq, lt_atHeight_high_iff hpq]
          exact side_pos_iff hpq hclear hc hd le_rfl hpq.le hpq.le le_rfl
        rw [inStrip_of_le hbp, crossesRight_eq fun h => not_lt.mpr hbp (h.mpr hap),
          crossesRight_eq fun h => not_lt.mpr hbq (h.mpr haq), heq, Bool.xor_self]
      · rw [crossesRight_eq_false (iff_of_true hbp hap), Bool.false_xor]
        rcases le_or_gt b.2 q.2 with hbq | hbq
        · have hd := atHeight_mem_segment (Or.inr ⟨hbq, haq⟩)
          rw [inStrip_of_between hbp hbq,
            crossesRight_eq fun h => not_lt.mpr hbq (h.mpr haq), decide_eq_decide,
            lt_atHeight_high_iff hpq]
          exact side_pos_iff hpq hclear hd hb hpq.le le_rfl hbp.le hbq
        · rw [inStrip_of_lt hbq, crossesRight_eq_false (iff_of_true hbq haq)]

theorem atHeight_mem_segment_of_crosses {p a b : K × K} (h : ¬ (p.2 < b.2 ↔ p.2 < a.2)) :
    atHeight a b p.2 ∈ segment K a b := by
  refine atHeight_mem_segment ?_
  rcases le_or_gt a.2 p.2 with hap | hap
  · refine Or.inl ⟨hap, ?_⟩
    by_contra! hbp
    exact h (iff_of_false (not_lt.mpr hbp) (not_lt.mpr hap))
  · refine Or.inr ⟨?_, hap⟩
    by_contra! hbp
    exact h (iff_of_true hbp hap)

/-- On a level piece that an edge avoids, the edge passes both ends on the same side. -/
theorem crossesRight_eq_of_level {p q a b : K × K} (hpq : p.2 = q.2)
    (hclear : ∀ x ∈ segment K p q, x ∉ segment K a b) :
    crossesRight p a b = crossesRight q a b := by
  by_cases h : p.2 < b.2 ↔ p.2 < a.2
  · rw [crossesRight_eq_false h, crossesRight_eq_false (hpq ▸ h)]
  · rw [crossesRight_eq h, crossesRight_eq (hpq ▸ h), decide_eq_decide, ← hpq]
    have hc := atHeight_mem_segment_of_crosses h
    have hlevel : ∀ x : K × K, x.2 = p.2 → (p.1 < x.1 ∧ x.1 ≤ q.1 ∨ q.1 < x.1 ∧ x.1 ≤ p.1) →
        x ∈ segment K p q := by
      intro x hx hbetween
      have hne : q.1 - p.1 ≠ 0 := by
        rcases hbetween with hb | hb
        · exact (sub_pos.mpr (hb.1.trans_le hb.2)).ne'
        · exact (sub_neg.mpr (hb.1.trans_le hb.2)).ne
      refine mem_segment_iff.mpr ⟨(x.1 - p.1) / (q.1 - p.1), ?_, ?_, ?_, ?_⟩
      · rcases hbetween with hb | hb
        · exact div_nonneg (by linarith) (by linarith)
        · exact div_nonneg_of_nonpos (by linarith) (by linarith)
      · rcases hbetween with hb | hb
        · rw [div_le_one (by linarith)]
          linarith
        · rw [div_le_one_of_neg (by linarith)]
          linarith
      · field_simp
        ring
      · rw [hx, hpq, sub_self, mul_zero, add_zero]
    constructor
    · intro hlt
      by_contra! hle
      exact hclear _ (hlevel (atHeight a b p.2) rfl (Or.inl ⟨hlt, hle⟩)) hc
    · intro hlt
      by_contra! hle
      exact hclear _ (hlevel (atHeight a b p.2) rfl (Or.inr ⟨hlt, hle⟩)) hc

theorem oddRight_eq_of_lt {l : List (K × K)} {p q : K × K} (hpq : p.2 < q.2) (h : Clear l p q) :
    oddRight l p = oddRight l q := by
  have hstrip : oddly (fun e => crossesRight p e.1 e.2 ^^ crossesRight q e.1 e.2)
      (cyclicPairs l) = false := by
    rw [oddly_congr (g := fun e => inStrip p q e.1 ^^ inStrip p q e.2) fun e he =>
      crossesRight_xor_of_lt hpq fun x hx hxe => h x hx ⟨e, he, hxe⟩]
    exact oddly_cyclicPairs (inStrip p q) l
  rw [oddly_xor, bne_eq_false_iff_eq] at hstrip
  exact hstrip

theorem oddRight_eq_of_clear {l : List (K × K)} {p q : K × K} (h : Clear l p q) :
    oddRight l p = oddRight l q := by
  rcases lt_trichotomy p.2 q.2 with hpq | hpq | hpq
  · exact oddRight_eq_of_lt hpq h
  · exact oddly_congr fun e he =>
      crossesRight_eq_of_level hpq fun x hx hxe => h x hx ⟨e, he, hxe⟩
  · exact (oddRight_eq_of_lt hpq h.symm).symm

/-! ## Far away the parity is even -/

theorem mem_of_mem_cyclicPairs {α : Type*} {l : List α} {e : α × α} (he : e ∈ cyclicPairs l) :
    e.1 ∈ l ∧ e.2 ∈ l := by
  obtain ⟨h1, h2⟩ := List.of_mem_zip he
  exact ⟨h1, List.mem_rotate.mp h2⟩

theorem abs_le_of_mem_segment {a b x : K × K} {R : K} (ha : |a.1| ≤ R ∧ |a.2| ≤ R)
    (hb : |b.1| ≤ R ∧ |b.2| ≤ R) (hx : x ∈ segment K a b) : |x.1| ≤ R ∧ |x.2| ≤ R := by
  obtain ⟨θ, h0, h1, hx1, hx2⟩ := mem_segment_iff.mp hx
  simp only [abs_le] at ha hb ⊢
  rw [hx1, hx2]
  refine ⟨⟨?_, ?_⟩, ?_, ?_⟩ <;> nlinarith

/-- With an odd number of edges to its right a point lies in the box of the vertices. -/
theorem abs_le_of_oddRight {l : List (K × K)} {R : K} (hR : ∀ v ∈ l, |v.1| ≤ R ∧ |v.2| ≤ R)
    {p : K × K} (h : oddRight l p = true) : |p.1| ≤ R ∧ |p.2| ≤ R := by
  have hbox : ∀ e ∈ cyclicPairs l, ¬ (p.2 < e.2.2 ↔ p.2 < e.1.2) →
      |(atHeight e.1 e.2 p.2).1| ≤ R ∧ |p.2| ≤ R := by
    intro e he hcross
    obtain ⟨ha, hb⟩ := mem_of_mem_cyclicPairs he
    exact abs_le_of_mem_segment (hR _ ha) (hR _ hb) (atHeight_mem_segment_of_crosses hcross)
  obtain ⟨e, he, hcross⟩ := exists_of_oddly h
  have hne : ¬ (p.2 < e.2.2 ↔ p.2 < e.1.2) := by
    intro hiff
    rw [crossesRight_eq_false hiff] at hcross
    cases hcross
  rw [crossesRight_eq hne, decide_eq_true_eq] at hcross
  obtain ⟨hfirst, hsecond⟩ := hbox e he hne
  refine ⟨abs_le.mpr ⟨?_, hcross.le.trans (abs_le.mp hfirst).2⟩, hsecond⟩
  -- left of the box every edge that reaches this height passes on the right
  by_contra! hleft
  have heven : oddRight l p = false := by
    rw [← oddly_cyclicPairs (fun v : K × K => decide (p.2 < v.2)) l]
    refine oddly_congr fun e he => ?_
    by_cases hiff : p.2 < e.2.2 ↔ p.2 < e.1.2
    · rw [crossesRight_eq_false hiff, eq_comm, bne_eq_false_iff_eq, decide_eq_decide]
      exact hiff.symm
    · have hlt : p.1 < (atHeight e.1 e.2 p.2).1 :=
        hleft.trans_le (abs_le.mp (hbox e he hiff).1).1
      rw [crossesRight_eq hiff, decide_eq_true hlt, eq_comm, ← Bool.not_eq_false,
        bne_eq_false_iff_eq, decide_eq_decide]
      exact fun heq => hiff heq.symm
  rw [heven] at h
  cases h

/-- A point with an odd number of edges to its right is in the region. -/
theorem mem_closedRegion_of_oddRight {l : List (K × K)} {p : K × K} (h : oddRight l p = true) :
    p ∈ closedRegion l := by
  obtain ⟨R, hR⟩ := exists_bound l
  refine ⟨R, fun q hq => abs_le_of_oddRight hR ?_⟩
  induction hq with
  | refl => exact h
  | tail _ hclear ih => rw [← oddRight_eq_of_clear hclear, ih]

theorem mem_closedRegion_of_mem_boundary {l : List (K × K)} {p : K × K} (hp : p ∈ boundary l) :
    p ∈ closedRegion l := by
  refine ⟨max |p.1| |p.2|, fun q hq => ?_⟩
  cases Relation.ReflTransGen.cases_head hq with
  | inl heq => exact heq ▸ ⟨le_max_left _ _, le_max_right _ _⟩
  | inr hstep =>
      obtain ⟨r, hclear, -⟩ := hstep
      exact (hclear p (left_mem_segment K p r) hp).elim

/-- A point above which there is no more line is outside. -/
theorem notMem_closedRegion_of_above {l : List (K × K)} {p : K × K}
    (h : ∀ y, p.2 ≤ y → (p.1, y) ∉ boundary l) : p ∉ closedRegion l := by
  rintro ⟨R, hR⟩
  have hp := (hR p Relation.ReflTransGen.refl).2
  have hle : p.2 ≤ R + 1 := (le_abs_self p.2).trans (hp.trans (by linarith))
  have hclear : Clear l p (p.1, R + 1) := by
    intro x hx hxl
    obtain ⟨θ, h0, -, hx1, hx2⟩ := mem_segment_iff.mp hx
    refine h x.2 ?_ ?_
    · rw [hx2]
      exact le_add_of_nonneg_right (mul_nonneg h0 (sub_nonneg.mpr hle))
    · have he : (p.1, x.2) = x := Prod.ext (by rw [hx1, sub_self, mul_zero, add_zero]) rfl
      rwa [he]
  have habs := (le_abs_self (R + 1)).trans (hR _ (Relation.ReflTransGen.single hclear)).2
  linarith

end GcsSaker.Planar
