import GcsSaker.ClosedLines
import GcsSaker.RouteCrossings

/-!
# What an accepted route may do

The geofence cuts each leg where it meets the edges of the polygon and tests the midpoint of every
piece. A piece with its midpoint in the region stays there, or follows an edge. But a midpoint may
also be accepted because the tolerance puts it on an edge that it only passes closely, where the
leg is not cut; then the piece may lead far outside on both sides.
-/

namespace GcsSaker

open Planar

/-! ## The region of a polygon -/

def Polygon.plane (polygon : Polygon) : List (ℚ × ℚ) := polygon.vertices.map GeoPoint.plane

def Polygon.region (polygon : Polygon) : Set (ℚ × ℚ) := closedRegion polygon.plane

theorem mem_boundary_iff {polygon : Polygon} {x : ℚ × ℚ} : x ∈ boundary polygon.plane ↔
    ∃ e ∈ cyclicPairs polygon.vertices, x ∈ segment ℚ e.1.plane e.2.plane := by
  simp only [boundary, Polygon.plane, cyclicPairs_map, Set.mem_ofPred_eq, List.mem_map,
    exists_exists_and_eq_and]

theorem mem_region_of_mem_segment {polygon : Polygon} {e : GeoPoint × GeoPoint}
    (he : e ∈ cyclicPairs polygon.vertices) {x : ℚ × ℚ}
    (hx : x ∈ segment ℚ e.1.plane e.2.plane) : x ∈ polygon.region :=
  mem_closedRegion_of_mem_boundary (mem_boundary_iff.mpr ⟨e, he, hx⟩)

theorem abs_plane_le {polygon : Polygon} {v : GeoPoint} (hv : v ∈ polygon.vertices) :
    |v.plane.1| ≤ 180 ∧ |v.plane.2| ≤ 180 := by
  have hvalid := polygon.coordinates
  simp only [validCoordinates, Bool.and_eq_true, List.all_eq_true] at hvalid
  have hrange := hvalid.1 v hv
  simp only [Bool.not_eq_true', Bool.or_eq_false_iff, decide_eq_false_iff_not, not_lt,
    gt_iff_lt] at hrange
  obtain ⟨⟨⟨h1, h2⟩, h3⟩, h4⟩ := hrange
  exact ⟨abs_le.mpr ⟨h3, h4⟩, abs_le.mpr ⟨by simp only [GeoPoint.plane]; linarith,
    by simp only [GeoPoint.plane]; linarith⟩⟩

/-! ## The test of one point -/

def crossesRightOf (point : GeoPoint) (e : GeoPoint × GeoPoint) : Bool :=
  crossesRight point.plane e.1.plane e.2.plane

theorem insideFrom_eq_evenOddFrom (point previous : GeoPoint) (inside : Bool) (l : List GeoPoint) :
    insideFrom point previous inside l =
      evenOddFrom (fun e => pointOnSegment point e.1 e.2) (crossesRightOf point) previous inside
        l := by
  induction l generalizing previous inside with
  | nil => rfl
  | cons current rest ih =>
      rw [insideFrom, evenOddFrom, ih]
      rfl

/-- An accepted point has an odd number of edges to its right, or the tolerance puts it on one. -/
theorem of_pointInsideOrBoundary {point : GeoPoint} {polygon : Polygon}
    (h : pointInsideOrBoundary point polygon = true) :
    (∃ e ∈ cyclicPairs polygon.vertices, pointOnSegment point e.1 e.2 = true) ∨
      oddRight polygon.plane point.plane = true := by
  have hwalk : evenOdd (fun e => pointOnSegment point e.1 e.2) (crossesRightOf point)
      polygon.vertices = true := by
    rw [evenOdd, List.getLast?_eq_some_getLast polygon.vertices_ne_nil]
    exact (insideFrom_eq_evenOddFrom ..).symm.trans h
  have hright : oddRight polygon.plane point.plane =
      oddly (crossesRightOf point) (cyclicPairs polygon.vertices) := by
    rw [oddRight, Polygon.plane, cyclicPairs_map, oddly_map]
    rfl
  rw [hright]
  exact evenOdd_eq_true_iff.1 hwalk

theorem near_region_of_pointInsideOrBoundary {point : GeoPoint} {polygon : Polygon}
    (h : pointInsideOrBoundary point polygon = true) :
    ∃ q ∈ polygon.region, Near (2 * edgeTolerance) point.plane q := by
  rcases of_pointInsideOrBoundary h with ⟨e, he, hon⟩ | hodd
  · obtain ⟨x, hx, hnear⟩ := exists_near_of_pointOnSegment hon
    exact ⟨x, mem_region_of_mem_segment he hx,
      hnear.mono (by norm_num [edgeTolerance, geometryEpsilon])⟩
  · exact ⟨_, mem_closedRegion_of_oddRight hodd, near_self (by norm_num [edgeTolerance]) _⟩

theorem abs_le_of_pointInsideOrBoundary {point : GeoPoint} {polygon : Polygon}
    (h : pointInsideOrBoundary point polygon = true) :
    |point.plane.1| ≤ 181 ∧ |point.plane.2| ≤ 181 := by
  rcases of_pointInsideOrBoundary h with ⟨e, he, hon⟩ | hodd
  · obtain ⟨x, hx, hnear⟩ := exists_near_of_pointOnSegment hon
    obtain ⟨hstart, hstop⟩ := mem_of_mem_cyclicPairs he
    obtain ⟨hx1, hx2⟩ := abs_le_of_mem_segment (abs_plane_le hstart) (abs_plane_le hstop) hx
    have hle : edgeTolerance + geometryEpsilon ≤ 1 := by
      norm_num [edgeTolerance, geometryEpsilon]
    have habs := fun a b : ℚ => abs_sub_abs_le_abs_sub a b
    exact ⟨by linarith [hnear.1, habs point.plane.1 x.1],
      by linarith [hnear.2, habs point.plane.2 x.2]⟩
  · have hbox : ∀ v ∈ polygon.plane, |v.1| ≤ 180 ∧ |v.2| ≤ 180 := by
      intro v hv
      obtain ⟨w, hw, rfl⟩ := List.mem_map.mp hv
      exact abs_plane_le hw
    obtain ⟨h1, h2⟩ := abs_le_of_oddRight hbox hodd
    exact ⟨h1.trans (by norm_num), h2.trans (by norm_num)⟩

/-! ## The cuts of a leg -/

theorem mem_segmentParameters {start stop : GeoPoint} {polygon : Polygon} {τ : ℚ} :
    τ ∈ segmentParameters start stop polygon ↔ τ = 0 ∨ τ = 1 ∨
      ∃ e ∈ cyclicPairs polygon.vertices, τ ∈ intersectionParameters start stop e.1 e.2 := by
  simp only [segmentParameters, List.mem_insertionSort, List.mem_cons, List.mem_flatMap]

theorem segmentParameters_sorted (start stop : GeoPoint) (polygon : Polygon) :
    (segmentParameters start stop polygon).Pairwise (· ≤ ·) :=
  List.pairwise_insertionSort _ _

theorem unit_of_mem_segmentParameters {start stop : GeoPoint} {polygon : Polygon} {τ : ℚ}
    (hτ : τ ∈ segmentParameters start stop polygon) : 0 ≤ τ ∧ τ ≤ 1 := by
  rcases mem_segmentParameters.mp hτ with rfl | rfl | ⟨e, -, he⟩
  · exact ⟨le_rfl, zero_le_one⟩
  · exact ⟨zero_le_one, le_rfl⟩
  · exact unit_of_mem_intersectionParameters he

/-- Where a leg crosses an edge inside a piece, the whole piece follows the edge. -/
theorem near_edge_of_crossing {start stop : GeoPoint} {polygon : Polygon} {i : ℚ × ℚ}
    (hi : i ∈ intervals (segmentParameters start stop polygon)) {t : ℚ} (hit : i.1 < t)
    (hti : t < i.2) (hmem : (interpolate start stop t).plane ∈ boundary polygon.plane) {τ : ℚ}
    (hiτ : i.1 ≤ τ) (hτi : τ ≤ i.2) : ∃ e ∈ cyclicPairs polygon.vertices,
      ∃ x ∈ segment ℚ e.1.plane e.2.plane,
        Near (2 * edgeTolerance) (interpolate start stop τ).plane x := by
  obtain ⟨e, he, hseg⟩ := mem_boundary_iff.mp hmem
  obtain ⟨u, hu0, hu1, hmeet⟩ := mem_segment_iff_along.mp hseg
  obtain ⟨hmem1, hmem2⟩ := mem_of_mem_intervals hi
  have hi0 := (unit_of_mem_segmentParameters hmem1).1
  have hi1 := (unit_of_mem_segmentParameters hmem2).2
  have ht0 : 0 ≤ t := hi0.trans hit.le
  have ht1 : t ≤ 1 := hti.le.trans hi1
  have hnotCut : ∀ c ∈ intersectionParameters start stop e.1 e.2, c ≤ i.1 ∨ i.2 ≤ c :=
    fun c hc => le_or_le_of_mem_intervals (segmentParameters_sorted start stop polygon) hi
      (mem_segmentParameters.mpr (Or.inr (Or.inr ⟨e, he, hc⟩)))
  have hdenominator : |cross (subtract stop start) (subtract e.2 e.1)| ≤ geometryEpsilon := by
    by_contra! hgt
    rcases hnotCut t (mem_intersectionParameters ht0 ht1 hu0 hu1 hmeet hgt) with h | h
    · exact absurd hit (not_lt.mpr h)
    · exact absurd hti (not_lt.mpr h)
  refine ⟨e, he, ?_⟩
  rcases le_or_gt (dot (subtract stop start) (subtract stop start)) geometryEpsilon
    with hshort | hlong
  · rw [dot_subtract, scalarProduct_self_sub, geometryEpsilon_eq] at hshort
    refine ⟨_, hseg, (near_along_of_short edgeTolerance_pos.le hshort ?_).mono ?_⟩
    · exact abs_le.mpr ⟨by linarith, by linarith⟩
    · linarith [edgeTolerance_pos]
  · obtain ⟨low, high, hlow, hhigh, hlowCut, hhighCut, hnear⟩ :=
      exists_cut_of_parallel ht0 ht1 hu0 hu1 hmeet hdenominator hlong
    refine hnear τ ?_ ?_
    · rcases hnotCut low hlowCut with h | h
      · exact h.trans hiτ
      · exact absurd (hti.trans_le h) (not_lt.mpr hlow)
    · rcases hnotCut high hhighCut with h | h
      · exact absurd (h.trans_lt hit) (not_lt.mpr hhigh)
      · exact hτi.trans h

theorem abs_sub_le_of_abs_le {x y : ℚ} (hx : |x| ≤ 181) (hy : |y| ≤ 181) : |x - y| ≤ 362 :=
  (abs_sub x y).trans (by linarith)

theorem near_region_of_cut {start stop : GeoPoint} {polygon : Polygon}
    (hstart : pointInsideOrBoundary start polygon = true)
    (hstop : pointInsideOrBoundary stop polygon = true) {τ : ℚ}
    (hτ : τ ∈ segmentParameters start stop polygon) :
    ∃ q ∈ polygon.region, Near (2 * edgeTolerance) (interpolate start stop τ).plane q := by
  rcases mem_segmentParameters.mp hτ with rfl | rfl | ⟨e, he, hcut⟩
  · rw [interpolate_zero]
    exact near_region_of_pointInsideOrBoundary hstart
  · rw [interpolate_one]
    exact near_region_of_pointInsideOrBoundary hstop
  · obtain ⟨hv, hw⟩ := mem_of_mem_cyclicPairs he
    have hbox : ∀ v ∈ polygon.vertices, |v.plane.1| ≤ 181 ∧ |v.plane.2| ≤ 181 := fun v hv =>
      ⟨(abs_plane_le hv).1.trans (by norm_num), (abs_plane_le hv).2.trans (by norm_num)⟩
    have hs := abs_le_of_pointInsideOrBoundary hstart
    have ht := abs_le_of_pointInsideOrBoundary hstop
    rcases near_edge_of_mem_intersectionParameters (abs_sub_le_of_abs_le ht.1 hs.1)
      (abs_sub_le_of_abs_le ht.2 hs.2) (abs_sub_le_of_abs_le (hbox _ hw).1 (hbox _ hv).1)
      (abs_sub_le_of_abs_le (hbox _ hw).2 (hbox _ hv).2)
      (by norm_num [edgeTolerance, geometryEpsilon]) hcut with rfl | rfl | ⟨x, hx, hnear⟩
    · rw [interpolate_zero]
      exact near_region_of_pointInsideOrBoundary hstart
    · rw [interpolate_one]
      exact near_region_of_pointInsideOrBoundary hstop
    · exact ⟨x, mem_region_of_mem_segment he hx, hnear⟩

/-! ## The pieces of a leg -/

section Piece

variable {start stop : GeoPoint} {polygon : Polygon} {i : ℚ × ℚ} {τ : ℚ}

theorem clear_or_near_edge (hi : i ∈ intervals (segmentParameters start stop polygon))
    (hlt : i.1 < i.2) (hiτ : i.1 ≤ τ) (hτi : τ ≤ i.2) :
    Clear polygon.plane (midpoint start stop i).plane (interpolate start stop τ).plane ∨
      ∃ e ∈ cyclicPairs polygon.vertices, ∃ x ∈ segment ℚ e.1.plane e.2.plane,
        Near (2 * edgeTolerance) (interpolate start stop τ).plane x := by
  by_cases hon : (interpolate start stop τ).plane ∈ boundary polygon.plane
  · obtain ⟨e, he, hx⟩ := mem_boundary_iff.mp hon
    exact Or.inr ⟨e, he, _, hx, near_self (by norm_num [edgeTolerance]) _⟩
  · refine or_iff_not_imp_right.mpr fun hfar x hx hxl => hfar ?_
    rw [midpoint, plane_interpolate, plane_interpolate] at hx
    obtain ⟨u, hu, rfl⟩ := segment_along hx
    -- the crossing is strictly inside, as the point itself is not on the line
    have hne : u ≠ τ := by
      rintro rfl
      exact hon hxl
    refine near_edge_of_crossing hi ?_ ?_ hxl hiτ hτi
    · rcases hu with ⟨h1, -⟩ | ⟨h1, -⟩
      · linarith
      · exact hiτ.trans_lt (lt_of_le_of_ne h1 hne.symm)
    · rcases hu with ⟨-, h2⟩ | ⟨-, h2⟩
      · exact (lt_of_le_of_ne h2 hne).trans_le hτi
      · linarith

theorem within_edge_of_near {x : ℚ × ℚ} {e : GeoPoint × GeoPoint}
    (hx : x ∈ segment ℚ e.1.plane e.2.plane)
    (h : Near (2 * edgeTolerance) (interpolate start stop τ).plane x) :
    Within (1 / 10 ^ 4) (interpolate start stop τ).plane (segment ℚ e.1.plane e.2.plane) :=
  h.within hx (by norm_num [edgeTolerance])

/-- A piece with its midpoint in the region stays there or follows an edge. -/
theorem within_region_of_midpoint (hi : i ∈ intervals (segmentParameters start stop polygon))
    (hlt : i.1 < i.2) (hmid : (midpoint start stop i).plane ∈ polygon.region) (hiτ : i.1 ≤ τ)
    (hτi : τ ≤ i.2) : Within (1 / 10 ^ 4) (interpolate start stop τ).plane polygon.region := by
  rcases clear_or_near_edge hi hlt hiτ hτi with hclear | ⟨e, he, x, hx, hnear⟩
  · exact within_of_mem (mem_closedRegion_of_clear hmid hclear)
  · exact (within_edge_of_near hx hnear).mono fun y hy => mem_region_of_mem_segment he hy

/-- A piece with its midpoint outside is near the region only where it follows the edges. -/
theorem within_edge_of_midpoint (hi : i ∈ intervals (segmentParameters start stop polygon))
    (hlt : i.1 < i.2) (hmid : (midpoint start stop i).plane ∉ polygon.region) (hiτ : i.1 ≤ τ)
    (hτi : τ ≤ i.2)
    (hwithin : Within (1 / 10 ^ 4) (interpolate start stop τ).plane polygon.region) :
    ∃ e ∈ cyclicPairs polygon.vertices,
      Within (1 / 10 ^ 4) (interpolate start stop τ).plane (segment ℚ e.1.plane e.2.plane) := by
  rcases clear_or_near_edge hi hlt hiτ hτi with hclear | ⟨e, he, x, hx, hnear⟩
  · have hout : (interpolate start stop τ).plane ∉ polygon.region :=
      fun hin => hmid (mem_closedRegion_of_clear hin hclear.symm)
    obtain ⟨x, hx, hdist⟩ := hwithin.boundary hout
    obtain ⟨e, he, hseg⟩ := mem_boundary_iff.mp hx
    exact ⟨e, he, x, hseg, hdist⟩
  · exact ⟨e, he, within_edge_of_near hx hnear⟩

end Piece

/-! ## Routes -/

/-- Outside the region, but the tolerance puts the point on an edge. -/
def OnEdgeOutside (polygon : Polygon) (point : GeoPoint) : Prop :=
  (∃ e ∈ cyclicPairs polygon.vertices, pointOnSegment point e.1 e.2 = true) ∧
    point.plane ∉ polygon.region

theorem mem_testedIntervals {start stop : GeoPoint} {polygon : Polygon} {i : ℚ × ℚ} :
    i ∈ testedIntervals start stop polygon ↔
      i ∈ intervals (segmentParameters start stop polygon) ∧ geometryEpsilon < i.2 - i.1 := by
  simp only [testedIntervals, List.mem_filter, Bool.not_eq_true', decide_eq_false_iff_not, not_le]

theorem accepted_of_mem_legs {waypoints : List Waypoint} {polygon : Polygon}
    (h : routeInsidePolygon waypoints polygon = true) {leg : GeoPoint × GeoPoint}
    (hleg : leg ∈ legs waypoints) : pointInsideOrBoundary leg.1 polygon = true ∧
      pointInsideOrBoundary leg.2 polygon = true ∧
      segmentInsidePolygon leg.1 leg.2 polygon = true := by
  simp only [routeInsidePolygon, Bool.and_eq_true, List.all_eq_true] at h
  obtain ⟨hstart, hstop⟩ := mem_of_mem_intervals hleg
  exact ⟨h.1 _ hstart, h.1 _ hstop, h.2 leg hleg⟩

/-- Every point of a leg lies in a piece; a piece that is too short to be tested has its ends near
the region. -/
theorem within_region_of_leg {start stop : GeoPoint} {polygon : Polygon}
    (hstart : pointInsideOrBoundary start polygon = true)
    (hstop : pointInsideOrBoundary stop polygon = true)
    (hpieces : ∀ i ∈ testedIntervals start stop polygon, ∀ t, i.1 ≤ t → t ≤ i.2 →
      Within (1 / 10 ^ 4) (interpolate start stop t).plane polygon.region)
    {t : ℚ} (ht0 : 0 ≤ t) (ht1 : t ≤ 1) :
    Within (1 / 10 ^ 4) (interpolate start stop t).plane polygon.region := by
  obtain ⟨i, hi, hit, hti⟩ := exists_interval (segmentParameters_sorted start stop polygon)
    (mem_segmentParameters.mpr (Or.inl rfl)) (mem_segmentParameters.mpr (Or.inr (Or.inl rfl)))
    zero_lt_one ht0 ht1
  rcases lt_or_ge geometryEpsilon (i.2 - i.1) with hwide | hshort
  · exact hpieces i (mem_testedIntervals.mpr ⟨hi, hwide⟩) t hit hti
  · obtain ⟨q, hq, hnear⟩ := near_region_of_cut hstart hstop (mem_of_mem_intervals hi).1
    have hs := abs_le_of_pointInsideOrBoundary hstart
    have ht := abs_le_of_pointInsideOrBoundary hstop
    have hclose : |t - i.1| ≤ geometryEpsilon := abs_le.mpr ⟨by linarith, by linarith⟩
    have halong := near_along (abs_sub_le_of_abs_le ht.1 hs.1) (abs_sub_le_of_abs_le ht.2 hs.2)
      hclose
    exact (halong.trans hnear).within hq (by norm_num [edgeTolerance, geometryEpsilon])

/-- Every point of every leg is within 1e-4 degrees of the region. -/
def RouteWithinRegion (waypoints : List Waypoint) (polygon : Polygon) : Prop :=
  ∀ leg ∈ legs waypoints, ∀ t, 0 ≤ t → t ≤ 1 →
    Within (1 / 10 ^ 4) (interpolate leg.1 leg.2 t).plane polygon.region

/-- A tested piece whose midpoint lies outside the region, put on an edge by the tolerance, keeps
within 1e-4 degrees of the edges. -/
def PiecesOutsideFollowEdges (waypoints : List Waypoint) (polygon : Polygon) : Prop :=
  ∀ leg ∈ legs waypoints, ∀ i ∈ testedIntervals leg.1 leg.2 polygon,
    OnEdgeOutside polygon (midpoint leg.1 leg.2 i) → ∀ t, i.1 ≤ t → t ≤ i.2 →
      ∃ e ∈ cyclicPairs polygon.vertices, Within (1 / 10 ^ 4)
        (interpolate leg.1 leg.2 t).plane (segment ℚ e.1.plane e.2.plane)

/-- An accepted route keeps to the region exactly if the pieces do whose midpoint was accepted
outside the region, for the tolerance of an edge. -/
theorem routeWithinRegion_iff {waypoints : List Waypoint} {polygon : Polygon}
    (h : routeInsidePolygon waypoints polygon = true) :
    RouteWithinRegion waypoints polygon ↔ PiecesOutsideFollowEdges waypoints polygon := by
  constructor
  · intro hwithin leg hleg i hi hmid t hit hti
    obtain ⟨hi, hwide⟩ := mem_testedIntervals.mp hi
    obtain ⟨hmem1, hmem2⟩ := mem_of_mem_intervals hi
    have ht0 : 0 ≤ t := (unit_of_mem_segmentParameters hmem1).1.trans hit
    have ht1 : t ≤ 1 := hti.trans (unit_of_mem_segmentParameters hmem2).2
    exact within_edge_of_midpoint hi (sub_pos.mp (geometryEpsilon_pos.trans hwide)) hmid.2 hit hti
      (hwithin leg hleg t ht0 ht1)
  · intro hedges leg hleg t ht0 ht1
    obtain ⟨hstart, hstop, hsegment⟩ := accepted_of_mem_legs h hleg
    refine within_region_of_leg hstart hstop (fun i hi t hit hti => ?_) ht0 ht1
    have hlt := sub_pos.mp (geometryEpsilon_pos.trans (mem_testedIntervals.mp hi).2)
    by_cases hmid : (midpoint leg.1 leg.2 i).plane ∈ polygon.region
    · exact within_region_of_midpoint (mem_testedIntervals.mp hi).1 hlt hmid hit hti
    · have haccepted := List.all_eq_true.mp hsegment i hi
      rcases of_pointInsideOrBoundary haccepted with hon | hodd
      · obtain ⟨e, he, hwithin⟩ := hedges leg hleg i hi ⟨hon, hmid⟩ t hit hti
        exact hwithin.mono fun y hy => mem_region_of_mem_segment he hy
      · exact absurd (mem_closedRegion_of_oddRight hodd) hmid

/-- A square area. -/
def squarePolygon : Polygon where
  vertices := [⟨0, 0⟩, ⟨0, 10⟩, ⟨10, 10⟩, ⟨10, 0⟩]
  three_le := by decide
  coordinates := by decide +kernel
  edges := by decide +kernel
  area := by decide +kernel
  simple := by decide +kernel

theorem routeWithinRegion_diagonal :
    RouteWithinRegion [⟨2, 2⟩, ⟨8, 8⟩] squarePolygon := by
  refine (routeWithinRegion_iff (by decide +kernel)).mpr fun leg hleg i hi hon => ?_
  have hnone : ∀ leg ∈ legs [⟨2, 2⟩, ⟨8, 8⟩], ∀ i ∈ testedIntervals leg.1 leg.2 squarePolygon,
      ∀ e ∈ cyclicPairs squarePolygon.vertices,
        pointOnSegment (midpoint leg.1 leg.2 i) e.1 e.2 = false := by
    decide +kernel
  obtain ⟨⟨e, he, hedge⟩, -⟩ := hon
  rw [hnone leg hleg i hi e he] at hedge
  cases hedge

/-- An area with two notches at its upper side; the vertex between them is just below the line
through the ends of the side. -/
def notchedPolygon : Polygon where
  vertices := [⟨0, 0⟩, ⟨-1 / 10, 1 / 2⟩, ⟨-5 / 10 ^ 11, 1⟩, ⟨-1 / 10, 3 / 2⟩, ⟨0, 2⟩, ⟨-1, 2⟩,
    ⟨-1, 0⟩]
  three_le := by decide
  coordinates := by decide +kernel
  edges := by decide +kernel
  area := by decide +kernel
  simple := by decide +kernel

theorem le_of_mem_notched_boundary {x : ℚ × ℚ} (hx : x ∈ boundary notchedPolygon.plane)
    (hlow : 1 / 2 - 1 / 10 ^ 4 ≤ x.1) (hhigh : x.1 ≤ 1 / 2 + 1 / 10 ^ 4) : x.2 ≤ -1 / 20 := by
  have hedges : cyclicPairs notchedPolygon.vertices =
      [(⟨0, 0⟩, ⟨-1 / 10, 1 / 2⟩), (⟨-1 / 10, 1 / 2⟩, ⟨-5 / 10 ^ 11, 1⟩),
        (⟨-5 / 10 ^ 11, 1⟩, ⟨-1 / 10, 3 / 2⟩), (⟨-1 / 10, 3 / 2⟩, ⟨0, 2⟩), (⟨0, 2⟩, ⟨-1, 2⟩),
        (⟨-1, 2⟩, ⟨-1, 0⟩), (⟨-1, 0⟩, ⟨0, 0⟩)] := rfl
  obtain ⟨e, he, hseg⟩ := mem_boundary_iff.mp hx
  obtain ⟨θ, h0, h1, hx1, hx2⟩ := mem_segment_iff.mp hseg
  rw [hx1] at hlow hhigh
  rw [hx2]
  rw [hedges] at he
  simp only [List.mem_cons, List.not_mem_nil, or_false] at he
  rcases he with rfl | rfl | rfl | rfl | rfl | rfl | rfl
  all_goals
    simp only [GeoPoint.plane] at hlow hhigh ⊢
    linarith

/-- The route along the upper side is accepted and crosses both notches. -/
theorem notchedRoute_not_withinRegion :
    validatedPolygon notchedPolygon.vertices = .ok notchedPolygon ∧
      routeInsidePolygon [⟨0, 0⟩, ⟨0, 2⟩] notchedPolygon = true ∧
      ¬ RouteWithinRegion [⟨0, 0⟩, ⟨0, 2⟩] notchedPolygon := by
  refine ⟨by decide +kernel, by decide +kernel, fun hwithin => ?_⟩
  obtain ⟨q, hq, hdist⟩ := hwithin (⟨0, 0⟩, ⟨0, 2⟩) (by decide +kernel) (1 / 4) (by norm_num)
    (by norm_num)
  obtain ⟨h1, h2⟩ := near_of_distSq_le (by norm_num) hdist
  have hpoint : (interpolate ⟨0, 0⟩ ⟨0, 2⟩ (1 / 4)).plane = (1 / 2, 0) := by decide +kernel
  rw [hpoint, abs_le] at h1 h2
  refine notMem_closedRegion_of_above (fun y hy hmem => ?_) hq
  have hle := le_of_mem_notched_boundary hmem (by linarith [h1.2]) (by linarith [h1.1])
  linarith [h2.2]

end GcsSaker
