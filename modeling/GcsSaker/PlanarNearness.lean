import GcsSaker.PlanarRegion

/-!
# Nearness in the plane

`Near α p q` bounds both coordinates of the difference of two points; unlike a bound on the
Euclidean distance it needs no square roots. The lemmas say how near a point is to a segment whose
line it almost meets, and how near the points of a leg are to a segment that is almost parallel.
-/

namespace GcsSaker.Planar

variable {K : Type*} [Field K]

/-- The Euclidean distance of two points, squared. -/
def distSq (p q : K × K) : K := (p.1 - q.1) ^ 2 + (p.2 - q.2) ^ 2

/-- The point at parameter `t` of the leg from `s` to `e`. -/
def along (s e : K × K) (t : K) : K × K := (s.1 + (e.1 - s.1) * t, s.2 + (e.2 - s.2) * t)

def wedge (v w : K × K) : K := v.1 * w.2 - v.2 * w.1

def scalarProduct (v w : K × K) : K := v.1 * w.1 + v.2 * w.2

/-- Where a leg meets the line of an edge, both parameters follow from the cross products. -/
theorem wedge_eq_of_along_eq {s e a b : K × K} {t u : K} (h : along s e t = along a b u) :
    wedge (a - s) (b - a) = t * wedge (e - s) (b - a) ∧
      wedge (a - s) (e - s) = u * wedge (e - s) (b - a) := by
  obtain ⟨h1, h2⟩ := Prod.ext_iff.mp h
  simp only [along] at h1 h2
  simp only [wedge, Prod.fst_sub, Prod.snd_sub]
  constructor
  · linear_combination (b.1 - a.1) * h2 - (b.2 - a.2) * h1
  · linear_combination (e.1 - s.1) * h2 - (e.2 - s.2) * h1

theorem along_eq_of_wedge {s e a b : K × K} (hne : wedge (e - s) (b - a) ≠ 0) :
    along s e (wedge (a - s) (b - a) / wedge (e - s) (b - a)) =
      along a b (wedge (a - s) (e - s) / wedge (e - s) (b - a)) := by
  refine Prod.ext ?_ ?_
  · simp only [along]
    field_simp
    simp only [wedge, Prod.fst_sub, Prod.snd_sub]
    ring
  · simp only [along]
    field_simp
    simp only [wedge, Prod.fst_sub, Prod.snd_sub]
    ring

variable [LinearOrder K]

def Near (α : K) (p q : K × K) : Prop := |p.1 - q.1| ≤ α ∧ |p.2 - q.2| ≤ α

/-- Within the distance `ρ` of some point of the set. -/
def Within (ρ : K) (p : K × K) (A : Set (K × K)) : Prop := ∃ q ∈ A, distSq p q ≤ ρ ^ 2

theorem Near.mono {α β : K} {p q : K × K} (h : Near α p q) (hle : α ≤ β) : Near β p q :=
  ⟨h.1.trans hle, h.2.trans hle⟩

theorem Within.mono {ρ : K} {p : K × K} {A B : Set (K × K)} (h : Within ρ p A) (hAB : A ⊆ B) :
    Within ρ p B := by
  obtain ⟨q, hq, hdist⟩ := h
  exact ⟨q, hAB hq, hdist⟩

variable [IsStrictOrderedRing K]

theorem Near.trans {α β : K} {p q r : K × K} (h : Near α p q) (h' : Near β q r) :
    Near (α + β) p r :=
  ⟨(abs_sub_le p.1 q.1 r.1).trans (add_le_add h.1 h'.1),
    (abs_sub_le p.2 q.2 r.2).trans (add_le_add h.2 h'.2)⟩

theorem Near.distSq_le {α : K} {p q : K × K} (h : Near α p q) : distSq p q ≤ 2 * α ^ 2 := by
  have h1 := sq_le_sq' (abs_le.mp h.1).1 (abs_le.mp h.1).2
  have h2 := sq_le_sq' (abs_le.mp h.2).1 (abs_le.mp h.2).2
  unfold distSq
  linarith

theorem near_of_distSq_le {α : K} (hα : 0 ≤ α) {p q : K × K} (h : distSq p q ≤ α ^ 2) :
    Near α p q := by
  unfold distSq at h
  exact ⟨abs_le_of_sq_le_sq (by nlinarith [sq_nonneg (p.2 - q.2)]) hα,
    abs_le_of_sq_le_sq (by nlinarith [sq_nonneg (p.1 - q.1)]) hα⟩

theorem near_self {α : K} (hα : 0 ≤ α) (p : K × K) : Near α p p := by
  simp only [Near, sub_self, abs_zero]
  exact ⟨hα, hα⟩

/-- Points of a leg at close parameters are near each other. -/
theorem near_along {s e : K × K} {M η t t' : K} (h1 : |e.1 - s.1| ≤ M) (h2 : |e.2 - s.2| ≤ M)
    (ht : |t - t'| ≤ η) : Near (M * η) (along s e t) (along s e t') := by
  have hM : 0 ≤ M := (abs_nonneg _).trans h1
  constructor
  · have he : (along s e t).1 - (along s e t').1 = (e.1 - s.1) * (t - t') := by
      simp only [along]
      ring
    rw [he, abs_mul]
    exact mul_le_mul h1 ht (abs_nonneg _) hM
  · have he : (along s e t).2 - (along s e t').2 = (e.2 - s.2) * (t - t') := by
      simp only [along]
      ring
    rw [he, abs_mul]
    exact mul_le_mul h2 ht (abs_nonneg _) hM

theorem along_mem_segment {s e : K × K} {t : K} (h0 : 0 ≤ t) (h1 : t ≤ 1) :
    along s e t ∈ segment K s e :=
  mem_segment_iff.mpr ⟨t, h0, h1, by simp only [along, mul_comm], by simp only [along, mul_comm]⟩

theorem mem_segment_iff_along {a b x : K × K} :
    x ∈ segment K a b ↔ ∃ u, 0 ≤ u ∧ u ≤ 1 ∧ x = along a b u := by
  constructor
  · intro h
    obtain ⟨θ, h0, h1, hx, hy⟩ := mem_segment_iff.mp h
    exact ⟨θ, h0, h1, Prod.ext (by rw [hx, mul_comm]; rfl) (by rw [hy, mul_comm]; rfl)⟩
  · rintro ⟨u, h0, h1, rfl⟩
    exact along_mem_segment h0 h1

/-- The piece of a leg between two parameters. -/
theorem segment_along {s e x : K × K} {t t' : K} (h : x ∈ segment K (along s e t) (along s e t')) :
    ∃ u, (t ≤ u ∧ u ≤ t' ∨ t' ≤ u ∧ u ≤ t) ∧ x = along s e u := by
  obtain ⟨θ, h0, h1, hx, hy⟩ := mem_segment_iff.mp h
  refine ⟨t + θ * (t' - t), ?_, Prod.ext ?_ ?_⟩
  · rcases le_total t t' with hle | hle
    · exact Or.inl ⟨by nlinarith, by nlinarith⟩
    · exact Or.inr ⟨by nlinarith, by nlinarith⟩
  · rw [hx]
    simp only [along]
    ring
  · rw [hy]
    simp only [along]
    ring

theorem exists_combination {x y τ : K} (hlow : min x y ≤ τ) (hhigh : τ ≤ max x y) :
    ∃ θ, 0 ≤ θ ∧ θ ≤ 1 ∧ τ = x + θ * (y - x) := by
  have hmem : τ ∈ segment K x y := by
    rw [segment_eq_uIcc]
    exact ⟨hlow, hhigh⟩
  rw [segment_eq_image'] at hmem
  obtain ⟨θ, ⟨h0, h1⟩, hτ⟩ := hmem
  exact ⟨θ, h0, h1, hτ.symm⟩

/-- A point over a side, up to `ε`, is that close to a point of the side. -/
theorem exists_parameter_of_box {p a b ε : K} (hε : 0 ≤ ε) (hlow : min a b - ε ≤ p)
    (hhigh : p ≤ max a b + ε) : ∃ θ, 0 ≤ θ ∧ θ ≤ 1 ∧ |(p - a) - θ * (b - a)| ≤ ε := by
  rcases lt_or_ge p (min a b) with hbelow | hover
  · rcases min_choice a b with hmin | hmin
    · rw [hmin] at hbelow hlow
      refine ⟨0, le_rfl, zero_le_one, ?_⟩
      rw [zero_mul, sub_zero, abs_le]
      exact ⟨by linarith, by linarith⟩
    · rw [hmin] at hbelow hlow
      refine ⟨1, zero_le_one, le_rfl, ?_⟩
      rw [one_mul, sub_sub_sub_cancel_right, abs_le]
      exact ⟨by linarith, by linarith⟩
  · rcases lt_or_ge (max a b) p with habove | hunder
    · rcases max_choice a b with hmax | hmax
      · rw [hmax] at habove hhigh
        refine ⟨0, le_rfl, zero_le_one, ?_⟩
        rw [zero_mul, sub_zero, abs_le]
        exact ⟨by linarith, by linarith⟩
      · rw [hmax] at habove hhigh
        refine ⟨1, zero_le_one, le_rfl, ?_⟩
        rw [one_mul, sub_sub_sub_cancel_right, abs_le]
        exact ⟨by linarith, by linarith⟩
    · obtain ⟨θ, h0, h1, hp⟩ := exists_combination hover hunder
      refine ⟨θ, h0, h1, ?_⟩
      rw [hp, add_sub_cancel_left, sub_self, abs_zero]
      exact hε

/-- One coordinate of the distance to a long segment: along the longer axis the point lies over the
segment up to `ε`, and across it the line passes within `δ`. -/
theorem exists_near_of_long {p₁ p₂ a₁ a₂ b₁ b₂ ε δ : K} (hδ : 0 < δ) (hεδ : ε ≤ δ * δ)
    (hlong : δ < |b₁ - a₁|) (hslope : |b₂ - a₂| ≤ |b₁ - a₁|)
    (hcross : |(p₁ - a₁) * (b₂ - a₂) - (p₂ - a₂) * (b₁ - a₁)| ≤ ε)
    (hlow : min a₁ b₁ - ε ≤ p₁) (hhigh : p₁ ≤ max a₁ b₁ + ε) :
    ∃ θ, 0 ≤ θ ∧ θ ≤ 1 ∧ |p₁ - (a₁ + θ * (b₁ - a₁))| ≤ ε ∧
      |p₂ - (a₂ + θ * (b₂ - a₂))| ≤ δ + ε := by
  have hε : 0 ≤ ε := (abs_nonneg _).trans hcross
  obtain ⟨θ, h0, h1, hover⟩ := exists_parameter_of_box hε hlow hhigh
  refine ⟨θ, h0, h1, by rwa [← sub_sub], ?_⟩
  have he : (p₂ - (a₂ + θ * (b₂ - a₂))) * (b₁ - a₁) =
      ((p₁ - a₁) - θ * (b₁ - a₁)) * (b₂ - a₂) -
        ((p₁ - a₁) * (b₂ - a₂) - (p₂ - a₂) * (b₁ - a₁)) := by
    ring
  have hscaled : |p₂ - (a₂ + θ * (b₂ - a₂))| * |b₁ - a₁| ≤ (δ + ε) * |b₁ - a₁| := by
    calc |p₂ - (a₂ + θ * (b₂ - a₂))| * |b₁ - a₁|
        ≤ |(p₁ - a₁) - θ * (b₁ - a₁)| * |b₂ - a₂| + ε := by
          rw [← abs_mul, he, ← abs_mul]
          exact (abs_sub _ _).trans (add_le_add_right hcross _)
      _ ≤ ε * |b₁ - a₁| + δ * |b₁ - a₁| :=
          add_le_add (mul_le_mul hover hslope (abs_nonneg _) hε)
            (hεδ.trans (mul_le_mul_of_nonneg_left hlong.le hδ.le))
      _ = (δ + ε) * |b₁ - a₁| := by ring
  exact le_of_mul_le_mul_right hscaled (hδ.trans hlong)

/-- The end of a short side is near every point of the inflated side. -/
theorem abs_sub_le_of_box {p a b ε δ : K} (hshort : |b - a| ≤ δ) (hlow : min a b - ε ≤ p)
    (hhigh : p ≤ max a b + ε) : |p - a| ≤ δ + ε := by
  obtain ⟨hl, hh⟩ := abs_le.mp hshort
  have hmin : a - δ ≤ min a b := le_min (by linarith [abs_nonneg (b - a)]) (by linarith)
  have hmax : max a b ≤ a + δ := max_le (by linarith [abs_nonneg (b - a)]) (by linarith)
  exact abs_le.mpr ⟨by linarith, by linarith⟩

/-- A point that the tolerance `ε` puts on a segment, by the cross product and the inflated box, is
near a point of the segment. -/
theorem exists_near_of_wedge_le {p a b : K × K} {ε δ : K} (hδ : 0 < δ) (hεδ : ε ≤ δ * δ)
    (hcross : |wedge (p - a) (b - a)| ≤ ε)
    (hlow1 : min a.1 b.1 - ε ≤ p.1) (hhigh1 : p.1 ≤ max a.1 b.1 + ε)
    (hlow2 : min a.2 b.2 - ε ≤ p.2) (hhigh2 : p.2 ≤ max a.2 b.2 + ε) :
    ∃ x ∈ segment K a b, Near (δ + ε) p x := by
  have hε : 0 ≤ ε := (abs_nonneg _).trans hcross
  have hcross' : |(p.1 - a.1) * (b.2 - a.2) - (p.2 - a.2) * (b.1 - a.1)| ≤ ε := hcross
  rcases le_total |b.2 - a.2| |b.1 - a.1| with hslope | hslope
  · rcases lt_or_ge δ |b.1 - a.1| with hlong | hshort
    · obtain ⟨θ, h0, h1, hx, hy⟩ :=
        exists_near_of_long hδ hεδ hlong hslope hcross' hlow1 hhigh1
      exact ⟨(a.1 + θ * (b.1 - a.1), a.2 + θ * (b.2 - a.2)),
        mem_segment_iff.mpr ⟨θ, h0, h1, rfl, rfl⟩, hx.trans (by linarith), hy⟩
    · exact ⟨a, left_mem_segment K a b, abs_sub_le_of_box hshort hlow1 hhigh1,
        abs_sub_le_of_box (hslope.trans hshort) hlow2 hhigh2⟩
  · rcases lt_or_ge δ |b.2 - a.2| with hlong | hshort
    · rw [abs_sub_comm] at hcross'
      obtain ⟨θ, h0, h1, hy, hx⟩ :=
        exists_near_of_long hδ hεδ hlong hslope hcross' hlow2 hhigh2
      exact ⟨(a.1 + θ * (b.1 - a.1), a.2 + θ * (b.2 - a.2)),
        mem_segment_iff.mpr ⟨θ, h0, h1, rfl, rfl⟩, hx, hy.trans (by linarith)⟩
    · exact ⟨a, left_mem_segment K a b, abs_sub_le_of_box (hslope.trans hshort) hlow1 hhigh1,
        abs_sub_le_of_box hshort hlow2 hhigh2⟩

/-- A point is near its projection to the line of a leg if the cross product is small. -/
theorem near_of_projection {s e y : K × K} {t δ : K} (hδ : 0 ≤ δ) (hpos : 0 < distSq e s)
    (hdot : scalarProduct (y - s) (e - s) = t * distSq e s)
    (hcross : wedge (y - s) (e - s) ^ 2 ≤ δ ^ 2 * distSq e s) : Near δ (along s e t) y := by
  refine near_of_distSq_le hδ (le_of_mul_le_mul_right ?_ hpos)
  refine le_trans (le_of_eq ?_) hcross
  simp only [distSq, scalarProduct, along, wedge, Prod.fst_sub, Prod.snd_sub] at hdot ⊢
  linear_combination ((y.1 - s.1) * (e.1 - s.1) + (y.2 - s.2) * (e.2 - s.2) -
    t * ((e.1 - s.1) ^ 2 + (e.2 - s.2) ^ 2)) * hdot

/-! ## A leg and an edge -/

/-- The points of a leg over an almost parallel edge of almost the same line are near the edge. -/
theorem exists_near_of_parallel {s e a b : K × K} {δ τ : K} (hδ : 0 ≤ δ)
    (hlong : δ ^ 2 < distSq e s) (hdenominator : |wedge (e - s) (b - a)| ≤ δ ^ 2)
    (hoffset : |wedge (a - s) (e - s)| ≤ δ ^ 2)
    (hlow : min (scalarProduct (a - s) (e - s) / distSq e s)
      (scalarProduct (b - s) (e - s) / distSq e s) ≤ τ)
    (hhigh : τ ≤ max (scalarProduct (a - s) (e - s) / distSq e s)
      (scalarProduct (b - s) (e - s) / distSq e s)) :
    ∃ x ∈ segment K a b, Near (2 * δ) (along s e τ) x := by
  have hpos : 0 < distSq e s := (sq_nonneg δ).trans_lt hlong
  obtain ⟨θ, h0, h1, hτ⟩ := exists_combination hlow hhigh
  refine ⟨along a b θ, along_mem_segment h0 h1,
    near_of_projection (mul_nonneg zero_le_two hδ) hpos ?_ ?_⟩
  · rw [hτ]
    field_simp
    simp only [scalarProduct, along, Prod.fst_sub, Prod.snd_sub]
    ring
  · have he : wedge (along a b θ - s) (e - s) =
        wedge (a - s) (e - s) - θ * wedge (e - s) (b - a) := by
      simp only [wedge, along, Prod.fst_sub, Prod.snd_sub]
      ring
    have habs : |wedge (along a b θ - s) (e - s)| ≤ 2 * δ ^ 2 := by
      calc |wedge (along a b θ - s) (e - s)|
          ≤ |wedge (a - s) (e - s)| + |θ * wedge (e - s) (b - a)| := by
            rw [he]
            exact abs_sub _ _
        _ ≤ δ ^ 2 + 1 * δ ^ 2 := by
            rw [abs_mul, abs_of_nonneg h0]
            exact add_le_add hoffset (mul_le_mul h1 hdenominator (abs_nonneg _) zero_le_one)
        _ = 2 * δ ^ 2 := by ring
    calc wedge (along a b θ - s) (e - s) ^ 2
        ≤ (2 * δ ^ 2) ^ 2 := sq_le_sq' (abs_le.mp habs).1 (abs_le.mp habs).2
      _ = (2 * δ) ^ 2 * δ ^ 2 := by ring
      _ ≤ (2 * δ) ^ 2 * distSq e s := mul_le_mul_of_nonneg_left hlong.le (sq_nonneg _)

theorem near_along_of_short {s e : K × K} {δ t t' : K} (hδ : 0 ≤ δ) (hshort : distSq e s ≤ δ ^ 2)
    (ht : |t - t'| ≤ 1) : Near δ (along s e t) (along s e t') := by
  obtain ⟨h1, h2⟩ := near_of_distSq_le hδ hshort
  exact (near_along h1 h2 ht).mono (mul_one δ).le

/-! ## Distance to a set -/

theorem Near.within {α ρ : K} {p q : K × K} {A : Set (K × K)} (h : Near α p q) (hq : q ∈ A)
    (hle : 2 * α ^ 2 ≤ ρ ^ 2) : Within ρ p A :=
  ⟨q, hq, h.distSq_le.trans hle⟩

theorem within_of_mem {ρ : K} {p : K × K} {A : Set (K × K)} (hp : p ∈ A) : Within ρ p A := by
  refine ⟨p, hp, ?_⟩
  simp only [distSq, sub_self]
  nlinarith [sq_nonneg ρ]

theorem distSq_le_of_mem_segment {p q x : K × K} (hx : x ∈ segment K p q) :
    distSq p x ≤ distSq p q := by
  obtain ⟨θ, h0, h1, hx1, hx2⟩ := mem_segment_iff.mp hx
  have he : distSq p x = θ ^ 2 * distSq p q := by
    simp only [distSq, hx1, hx2]
    ring
  have hnonneg : 0 ≤ distSq p q := add_nonneg (sq_nonneg _) (sq_nonneg _)
  rw [he]
  exact mul_le_of_le_one_left hnonneg (pow_le_one₀ h0 h1)

/-- From outside the region the way to it leads over the line. -/
theorem Within.boundary {ρ : K} {p : K × K} {l : List (K × K)} (h : Within ρ p (closedRegion l))
    (hp : p ∉ closedRegion l) : Within ρ p (boundary l) := by
  obtain ⟨q, hq, hdist⟩ := h
  by_contra hfar
  refine hp (mem_closedRegion_of_clear hq fun x hx hxl => hfar ⟨x, hxl, ?_⟩)
  rw [segment_symm] at hx
  exact (distSq_le_of_mem_segment hx).trans hdist

end GcsSaker.Planar
