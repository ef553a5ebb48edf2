import GcsSaker.PlanarNearness
import GcsSaker.RouteGeofence

/-!
# What the geofence tolerances allow

The route geofence uses one tolerance for cross products, coordinates and parameters. A point that
it puts on an edge is near the edge, and so is every point where it cuts a leg, except for the ends
of the leg. Conversely it cuts a leg wherever the leg meets an edge, unless the two are almost
parallel; then the points of the leg around the crossing stay near the edge.
-/

namespace GcsSaker

open Planar

def GeoPoint.plane (point : GeoPoint) : ℚ × ℚ := (point.longitude, point.latitude)

/-- How near the points of an edge's line are that the tolerance puts on it. -/
def edgeTolerance : ℚ := 1 / 10 ^ 5

theorem edgeTolerance_pos : 0 < edgeTolerance := by norm_num [edgeTolerance]

theorem geometryEpsilon_eq : geometryEpsilon = edgeTolerance ^ 2 := by
  norm_num [geometryEpsilon, edgeTolerance]

theorem geometryEpsilon_pos : 0 < geometryEpsilon := by norm_num [geometryEpsilon]

/-! ## The plane -/

theorem plane_interpolate (start stop : GeoPoint) (t : ℚ) :
    (interpolate start stop t).plane = along start.plane stop.plane t := rfl

theorem interpolate_zero (start stop : GeoPoint) : interpolate start stop 0 = start := by
  simp only [interpolate, mul_zero, add_zero]

theorem interpolate_one (start stop : GeoPoint) : interpolate start stop 1 = stop := by
  simp only [interpolate, mul_one, add_sub_cancel]

theorem cross_subtract (p q r s : GeoPoint) : cross (subtract p q) (subtract r s) =
    wedge (p.plane - q.plane) (r.plane - s.plane) := rfl

theorem dot_subtract (p q r s : GeoPoint) : dot (subtract p q) (subtract r s) =
    scalarProduct (p.plane - q.plane) (r.plane - s.plane) := by
  rw [dot, scalarProduct, add_comm]
  rfl

theorem scalarProduct_self_sub (p q : ℚ × ℚ) : scalarProduct (p - q) (p - q) = distSq p q := by
  simp only [scalarProduct, distSq, Prod.fst_sub, Prod.snd_sub, pow_two]

theorem exists_near_of_pointOnSegment {point start stop : GeoPoint}
    (h : pointOnSegment point start stop = true) : ∃ x ∈ segment ℚ start.plane stop.plane,
      Near (edgeTolerance + geometryEpsilon) point.plane x := by
  unfold pointOnSegment at h
  split at h
  · cases h
  · rename_i hcross
    simp only [Bool.and_eq_true, decide_eq_true_eq] at h
    obtain ⟨⟨⟨hlat, hlat'⟩, hlon⟩, hlon'⟩ := h
    exact exists_near_of_wedge_le edgeTolerance_pos (by rw [geometryEpsilon_eq, pow_two])
      (not_lt.mp hcross) hlon hlon' hlat hlat'

/-! ## Parameters in range -/

theorem clampUnit_mem (value : ℚ) : 0 ≤ clampUnit value ∧ clampUnit value ≤ 1 :=
  ⟨le_max_left _ _, max_le zero_le_one (min_le_left _ _)⟩

theorem clampUnit_of_nonpos {value : ℚ} (h : value ≤ 0) : clampUnit value = 0 :=
  max_eq_left ((min_le_right _ _).trans h)

theorem clampUnit_of_one_le {value : ℚ} (h : 1 ≤ value) : clampUnit value = 1 := by
  rw [clampUnit, min_eq_left h, max_eq_right zero_le_one]

theorem clampUnit_of_mem {value : ℚ} (h0 : 0 ≤ value) (h1 : value ≤ 1) :
    clampUnit value = value := by
  rw [clampUnit, min_eq_right h1, max_eq_right h0]

theorem abs_clampUnit_sub_le {value : ℚ} (h0 : -geometryEpsilon ≤ value)
    (h1 : value ≤ 1 + geometryEpsilon) : |clampUnit value - value| ≤ geometryEpsilon := by
  have hε := geometryEpsilon_pos
  rcases le_total value 0 with hneg | hnonneg
  · rw [clampUnit_of_nonpos hneg, abs_le]
    exact ⟨by linarith, by linarith⟩
  · rcases le_total value 1 with hle | hge
    · rw [clampUnit_of_mem hnonneg hle, sub_self, abs_zero]
      exact hε.le
    · rw [clampUnit_of_one_le hge, abs_le]
      exact ⟨by linarith, by linarith⟩

/-! ## Where a leg is cut -/

section Cut

variable {start stop edgeStart edgeEnd : GeoPoint}

/-- The parameter of the projection of a point to the line of a leg. -/
def footParameter (start stop point : GeoPoint) : ℚ :=
  dot (subtract point start) (subtract stop start) /
    dot (subtract stop start) (subtract stop start)

def footLow (start stop edgeStart edgeEnd : GeoPoint) : ℚ :=
  max 0 (min (footParameter start stop edgeStart) (footParameter start stop edgeEnd))

def footHigh (start stop edgeStart edgeEnd : GeoPoint) : ℚ :=
  min 1 (max (footParameter start stop edgeStart) (footParameter start stop edgeEnd))

theorem footLow_nonneg : 0 ≤ footLow start stop edgeStart edgeEnd := le_max_left _ _

theorem footHigh_le_one : footHigh start stop edgeStart edgeEnd ≤ 1 := min_le_left _ _

theorem footParameter_eq (start stop point : GeoPoint) : footParameter start stop point =
    scalarProduct (point.plane - start.plane) (stop.plane - start.plane) /
      distSq stop.plane start.plane := by
  rw [footParameter, dot_subtract, dot_subtract, scalarProduct_self_sub]

theorem collinearParameters_eq : collinearParameters start stop edgeStart edgeEnd =
    if dot (subtract stop start) (subtract stop start) ≤ geometryEpsilon then []
    else if footLow start stop edgeStart edgeEnd >
        footHigh start stop edgeStart edgeEnd + geometryEpsilon then []
    else [clampUnit (footLow start stop edgeStart edgeEnd),
      clampUnit (footHigh start stop edgeStart edgeEnd)] := rfl

theorem intersectionParameters_of_parallel
    (hdenominator : |cross (subtract stop start) (subtract edgeEnd edgeStart)| ≤ geometryEpsilon)
    (hoffset : |cross (subtract edgeStart start) (subtract stop start)| ≤ geometryEpsilon) :
    intersectionParameters start stop edgeStart edgeEnd =
      collinearParameters start stop edgeStart edgeEnd := by
  simp only [intersectionParameters, if_pos hdenominator, if_neg (not_lt.mpr hoffset)]

/-- Where a leg meets an edge it is cut, unless the edge is almost parallel to it. -/
theorem mem_intersectionParameters {t u : ℚ} (ht0 : 0 ≤ t) (ht1 : t ≤ 1) (hu0 : 0 ≤ u)
    (hu1 : u ≤ 1) (hmeet : along start.plane stop.plane t = along edgeStart.plane edgeEnd.plane u)
    (hdenominator : geometryEpsilon < |cross (subtract stop start) (subtract edgeEnd edgeStart)|) :
    t ∈ intersectionParameters start stop edgeStart edgeEnd := by
  have hε := geometryEpsilon_pos
  have hne := abs_pos.mp (hε.trans hdenominator)
  have ht : cross (subtract edgeStart start) (subtract edgeEnd edgeStart) =
      t * cross (subtract stop start) (subtract edgeEnd edgeStart) :=
    (wedge_eq_of_along_eq hmeet).1
  have hu : cross (subtract edgeStart start) (subtract stop start) =
      u * cross (subtract stop start) (subtract edgeEnd edgeStart) :=
    (wedge_eq_of_along_eq hmeet).2
  have hrange : ¬ (t < -geometryEpsilon ∨ t > 1 + geometryEpsilon ∨ u < -geometryEpsilon ∨
      u > 1 + geometryEpsilon) := by
    rintro (h | h | h | h) <;> linarith
  simp only [intersectionParameters, if_neg (not_le.mpr hdenominator), ht, hu,
    mul_div_assoc, div_self hne, mul_one, if_neg hrange, clampUnit_of_mem ht0 ht1]
  exact List.mem_singleton_self t

theorem near_edge_of_between_feet {τ : ℚ}
    (hlong : geometryEpsilon < dot (subtract stop start) (subtract stop start))
    (hdenominator : |cross (subtract stop start) (subtract edgeEnd edgeStart)| ≤ geometryEpsilon)
    (hoffset : |cross (subtract edgeStart start) (subtract stop start)| ≤ geometryEpsilon)
    (hlow : footLow start stop edgeStart edgeEnd ≤ τ)
    (hhigh : τ ≤ footHigh start stop edgeStart edgeEnd) :
    ∃ x ∈ segment ℚ edgeStart.plane edgeEnd.plane,
      Near (2 * edgeTolerance) (along start.plane stop.plane τ) x := by
  rw [dot_subtract, scalarProduct_self_sub, geometryEpsilon_eq] at hlong
  rw [cross_subtract, geometryEpsilon_eq] at hdenominator hoffset
  have hlow' := (le_max_right _ _).trans hlow
  have hhigh' := hhigh.trans (min_le_right _ _)
  rw [footParameter_eq, footParameter_eq] at hlow' hhigh'
  exact exists_near_of_parallel edgeTolerance_pos.le hlong hdenominator hoffset hlow' hhigh'

/-- Around a crossing with an almost parallel edge a leg is cut where it leaves the edge. -/
theorem exists_cut_of_parallel {t u : ℚ} (ht0 : 0 ≤ t) (ht1 : t ≤ 1) (hu0 : 0 ≤ u)
    (hu1 : u ≤ 1) (hmeet : along start.plane stop.plane t = along edgeStart.plane edgeEnd.plane u)
    (hdenominator : |cross (subtract stop start) (subtract edgeEnd edgeStart)| ≤ geometryEpsilon)
    (hlong : geometryEpsilon < dot (subtract stop start) (subtract stop start)) :
    ∃ low high, low ≤ t ∧ t ≤ high ∧
      low ∈ intersectionParameters start stop edgeStart edgeEnd ∧
      high ∈ intersectionParameters start stop edgeStart edgeEnd ∧
      ∀ τ, low ≤ τ → τ ≤ high → ∃ x ∈ segment ℚ edgeStart.plane edgeEnd.plane,
        Near (2 * edgeTolerance) (along start.plane stop.plane τ) x := by
  have hε := geometryEpsilon_pos
  have hpos : 0 < distSq stop.plane start.plane := by
    rw [← scalarProduct_self_sub, ← dot_subtract]
    exact hε.trans hlong
  have hoffset : |cross (subtract edgeStart start) (subtract stop start)| ≤ geometryEpsilon := by
    rw [cross_subtract, (wedge_eq_of_along_eq hmeet).2, abs_mul, abs_of_nonneg hu0]
    exact (mul_le_of_le_one_left (abs_nonneg _) hu1).trans hdenominator
  -- the crossing is its own foot
  have hfoot : t = footParameter start stop edgeStart +
      u * (footParameter start stop edgeEnd - footParameter start stop edgeStart) := by
    obtain ⟨h1, h2⟩ := Prod.ext_iff.mp hmeet
    simp only [along] at h1 h2
    rw [footParameter_eq, footParameter_eq]
    field_simp
    simp only [scalarProduct, distSq, Prod.fst_sub, Prod.snd_sub]
    linear_combination (stop.plane.1 - start.plane.1) * h1 +
      (stop.plane.2 - start.plane.2) * h2
  have hlow : footLow start stop edgeStart edgeEnd ≤ t := by
    refine max_le ht0 ?_
    rcases le_total (footParameter start stop edgeStart) (footParameter start stop edgeEnd)
      with hle | hle
    · rw [min_eq_left hle]
      nlinarith
    · rw [min_eq_right hle]
      nlinarith
  have hhigh : t ≤ footHigh start stop edgeStart edgeEnd := by
    refine le_min ht1 ?_
    rcases le_total (footParameter start stop edgeStart) (footParameter start stop edgeEnd)
      with hle | hle
    · rw [max_eq_right hle]
      nlinarith
    · rw [max_eq_left hle]
      nlinarith
  have hparameters : intersectionParameters start stop edgeStart edgeEnd =
      [footLow start stop edgeStart edgeEnd, footHigh start stop edgeStart edgeEnd] := by
    rw [intersectionParameters_of_parallel hdenominator hoffset, collinearParameters_eq,
      if_neg (not_le.mpr hlong), if_neg (by linarith),
      clampUnit_of_mem footLow_nonneg (hlow.trans ht1),
      clampUnit_of_mem (ht0.trans hhigh) footHigh_le_one]
  refine ⟨_, _, hlow, hhigh, ?_, ?_, fun τ => near_edge_of_between_feet hlong hdenominator hoffset⟩
  · rw [hparameters]
    exact List.mem_cons_self
  · rw [hparameters]
    exact List.mem_cons_of_mem _ (List.mem_singleton_self _)

theorem unit_of_mem_intersectionParameters {τ : ℚ}
    (hτ : τ ∈ intersectionParameters start stop edgeStart edgeEnd) : 0 ≤ τ ∧ τ ≤ 1 := by
  have hclamp : ∃ value, τ = clampUnit value := by
    simp only [intersectionParameters, collinearParameters_eq] at hτ
    split_ifs at hτ
    all_goals simp only [List.mem_cons, List.not_mem_nil, or_false] at hτ
    · rcases hτ with rfl | rfl
      · exact ⟨_, rfl⟩
      · exact ⟨_, rfl⟩
    · exact ⟨_, hτ⟩
  obtain ⟨value, rfl⟩ := hclamp
  exact clampUnit_mem value

theorem near_edge_of_mem_collinearParameters {τ : ℚ}
    (hdenominator : |cross (subtract stop start) (subtract edgeEnd edgeStart)| ≤ geometryEpsilon)
    (hoffset : |cross (subtract edgeStart start) (subtract stop start)| ≤ geometryEpsilon)
    (hτ : τ ∈ collinearParameters start stop edgeStart edgeEnd) :
    τ = 0 ∨ τ = 1 ∨ ∃ x ∈ segment ℚ edgeStart.plane edgeEnd.plane,
      Near (2 * edgeTolerance) (along start.plane stop.plane τ) x := by
  rw [collinearParameters_eq] at hτ
  split at hτ
  · cases hτ
  · rename_i hlong
    split at hτ
    · cases hτ
    · have hmem : τ = clampUnit (footLow start stop edgeStart edgeEnd) ∨
          τ = clampUnit (footHigh start stop edgeStart edgeEnd) := by
        simpa only [List.mem_cons, List.not_mem_nil, or_false] using hτ
      rcases le_or_gt (footLow start stop edgeStart edgeEnd)
        (footHigh start stop edgeStart edgeEnd) with hle | hgt
      · rw [clampUnit_of_mem footLow_nonneg (hle.trans footHigh_le_one),
          clampUnit_of_mem (footLow_nonneg.trans hle) footHigh_le_one] at hmem
        rcases hmem with rfl | rfl
        · exact Or.inr (Or.inr (near_edge_of_between_feet (not_le.mp hlong) hdenominator hoffset
            le_rfl hle))
        · exact Or.inr (Or.inr (near_edge_of_between_feet (not_le.mp hlong) hdenominator hoffset
            hle le_rfl))
      · -- the edge lies before the start of the leg or behind its end
        have hlow : footLow start stop edgeStart edgeEnd = 0 ∨
            footLow start stop edgeStart edgeEnd =
              min (footParameter start stop edgeStart) (footParameter start stop edgeEnd) :=
          max_choice _ _
        have hhigh : footHigh start stop edgeStart edgeEnd = 1 ∨
            footHigh start stop edgeStart edgeEnd =
              max (footParameter start stop edgeStart) (footParameter start stop edgeEnd) :=
          min_choice _ _
        rcases hlow with hlow | hlow
        · rw [clampUnit_of_nonpos hlow.le, clampUnit_of_nonpos (hgt.trans_eq hlow).le,
            or_self] at hmem
          exact Or.inl hmem
        · rcases hhigh with hhigh | hhigh
          · rw [clampUnit_of_one_le hhigh.ge, clampUnit_of_one_le (hhigh.symm.trans_lt hgt).le,
              or_self] at hmem
            exact Or.inr (Or.inl hmem)
          · rw [hlow, hhigh] at hgt
            exact absurd min_le_max (not_le.mpr hgt)

/-- A point where a leg is cut is an end of the leg or near the edge. -/
theorem near_edge_of_mem_intersectionParameters {τ M : ℚ}
    (hleg1 : |stop.plane.1 - start.plane.1| ≤ M) (hleg2 : |stop.plane.2 - start.plane.2| ≤ M)
    (hedge1 : |edgeEnd.plane.1 - edgeStart.plane.1| ≤ M)
    (hedge2 : |edgeEnd.plane.2 - edgeStart.plane.2| ≤ M)
    (hM : M * geometryEpsilon ≤ edgeTolerance)
    (hτ : τ ∈ intersectionParameters start stop edgeStart edgeEnd) :
    τ = 0 ∨ τ = 1 ∨ ∃ x ∈ segment ℚ edgeStart.plane edgeEnd.plane,
      Near (2 * edgeTolerance) (along start.plane stop.plane τ) x := by
  simp only [intersectionParameters] at hτ
  split at hτ
  · rename_i hdenominator
    split at hτ
    · cases hτ
    · rename_i hoffset
      exact near_edge_of_mem_collinearParameters hdenominator (not_lt.mp hoffset) hτ
  · rename_i hdenominator
    have hne := abs_pos.mp (geometryEpsilon_pos.trans (not_le.mp hdenominator))
    split at hτ
    · cases hτ
    · rename_i hrange
      simp only [not_or, not_lt] at hrange
      obtain ⟨ht0, ht1, hu0, hu1⟩ := hrange
      have hmeet := along_eq_of_wedge (s := start.plane) (e := stop.plane)
        (a := edgeStart.plane) (b := edgeEnd.plane) hne
      have hcut := near_along hleg1 hleg2 (abs_clampUnit_sub_le ht0 ht1)
      have hedge := near_along hedge1 hedge2
        ((abs_sub_comm _ _).trans_le (abs_clampUnit_sub_le hu0 hu1))
      obtain ⟨hclamp0, hclamp1⟩ := clampUnit_mem
        (cross (subtract edgeStart start) (subtract stop start) /
          cross (subtract stop start) (subtract edgeEnd edgeStart))
      rw [List.mem_singleton.mp hτ]
      refine Or.inr (Or.inr ⟨_, along_mem_segment hclamp0 hclamp1, ?_⟩)
      exact ((hcut.trans (hmeet ▸ hedge)).mono (by linarith))

end Cut

end GcsSaker
