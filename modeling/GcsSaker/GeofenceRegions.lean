import GcsSaker.RouteGeofenceSoundness

/-!
# The region of a geofence

`Geofence.contains` over exact rational coordinates, as the mission check is modelled in
`RouteGeofence`. Both walk around the same sides and count the same crossings. They differ in when
a point is on a side: the geofence asks that it lies in the box of the side, the mission check that
it lies in the box widened by the tolerance.
-/

namespace GcsSaker.GeofenceRegions

open Planar

/-! ## The geofence -/

def onSegment (point start stop : GeoPoint) : Bool :=
  let cross := (point.latitude - start.latitude) * (stop.longitude - start.longitude) -
    (point.longitude - start.longitude) * (stop.latitude - start.latitude)
  if 1 / 10 ^ 10 < |cross| then false
  else
    decide (min start.latitude stop.latitude ≤ point.latitude ∧
      point.latitude ≤ max start.latitude stop.latitude) &&
    decide (min start.longitude stop.longitude ≤ point.longitude ∧
      point.longitude ≤ max start.longitude stop.longitude)

/-- The loop over the vertices, from the vertex `previous` and with `inside` so far. -/
def containsFrom (point : GeoPoint) : GeoPoint → Bool → List GeoPoint → Bool
  | _, inside, [] => inside
  | previous, inside, current :: rest =>
    if onSegment point previous current = true then true
    else
      let crosses := decide (point.latitude < current.latitude) !=
        decide (point.latitude < previous.latitude)
      let intersectionLongitude := (previous.longitude - current.longitude) *
        (point.latitude - current.latitude) / (previous.latitude - current.latitude) +
        current.longitude
      containsFrom point current
        (if crosses && decide (point.longitude < intersectionLongitude) then !inside else inside)
        rest

structure Geofence where
  polygon : List GeoPoint
  threePoints : 3 ≤ polygon.length

namespace Geofence

variable (geofence : Geofence) (point : GeoPoint)

theorem polygon_ne_nil : geofence.polygon ≠ [] :=
  List.ne_nil_of_length_pos (Nat.lt_of_lt_of_le (by decide) geofence.threePoints)

def contains : Bool :=
  containsFrom point (geofence.polygon.getLast geofence.polygon_ne_nil) false geofence.polygon

def rotated (k : ℕ) : Geofence where
  polygon := geofence.polygon.rotate k
  threePoints := by
    rw [List.length_rotate]
    exact geofence.threePoints

def reversed : Geofence where
  polygon := geofence.polygon.reverse
  threePoints := by
    rw [List.length_reverse]
    exact geofence.threePoints

/-- With the first vertex repeated at the end. -/
def closed : Geofence where
  polygon := geofence.polygon ++ geofence.polygon.head?.toList
  threePoints := by
    rw [List.length_append]
    exact Nat.le_add_right_of_le geofence.threePoints

end Geofence

/-- `pointInsideOrBoundary`, for any vertices. -/
def insideOrBoundary (point : GeoPoint) (vertices : List GeoPoint) (h : vertices ≠ []) : Bool :=
  insideFrom point (vertices.getLast h) false vertices

/-! ## Both as walks -/

section Walks

variable (point : GeoPoint)

def onSide (e : GeoPoint × GeoPoint) : Bool := onSegment point e.1 e.2

def nearSide (e : GeoPoint × GeoPoint) : Bool := pointOnSegment point e.1 e.2

def crossesSide (e : GeoPoint × GeoPoint) : Bool := crossesRight point.plane e.1.plane e.2.plane

theorem containsFrom_eq (previous : GeoPoint) (inside : Bool) (l : List GeoPoint) :
    containsFrom point previous inside l =
      evenOddFrom (onSide point) (crossesSide point) previous inside l := by
  induction l generalizing previous inside with
  | nil => rfl
  | cons current rest ih =>
      rw [containsFrom, evenOddFrom, ih]
      rfl

theorem insideFrom_eq (previous : GeoPoint) (inside : Bool) (l : List GeoPoint) :
    insideFrom point previous inside l =
      evenOddFrom (nearSide point) (crossesSide point) previous inside l :=
  insideFrom_eq_evenOddFrom point previous inside l

theorem contains_eq (geofence : Geofence) : geofence.contains point =
    evenOdd (onSide point) (crossesSide point) geofence.polygon := by
  rw [Geofence.contains, containsFrom_eq, evenOdd,
    List.getLast?_eq_some_getLast geofence.polygon_ne_nil]

theorem insideOrBoundary_eq (vertices : List GeoPoint) (h : vertices ≠ []) :
    insideOrBoundary point vertices h =
      evenOdd (nearSide point) (crossesSide point) vertices := by
  rw [insideOrBoundary, insideFrom_eq, evenOdd, List.getLast?_eq_some_getLast h]

end Walks

/-! ## One region for every way to draw it -/

theorem onSegment_eq_true_iff {point start stop : GeoPoint} : onSegment point start stop = true ↔
    |(point.latitude - start.latitude) * (stop.longitude - start.longitude) -
        (point.longitude - start.longitude) * (stop.latitude - start.latitude)| ≤ 1 / 10 ^ 10 ∧
      (min start.latitude stop.latitude ≤ point.latitude ∧
        point.latitude ≤ max start.latitude stop.latitude) ∧
      min start.longitude stop.longitude ≤ point.longitude ∧
        point.longitude ≤ max start.longitude stop.longitude := by
  simp only [onSegment]
  split_ifs with hcross
  · exact iff_of_false id fun h => not_le.2 hcross h.1
  · rw [Bool.and_eq_true, decide_eq_true_iff, decide_eq_true_iff]
    exact (and_iff_right (not_lt.1 hcross)).symm

theorem onSegment_swap (point start stop : GeoPoint) :
    onSegment point stop start = onSegment point start stop := by
  have hcross : (point.latitude - stop.latitude) * (start.longitude - stop.longitude) -
      (point.longitude - stop.longitude) * (start.latitude - stop.latitude) =
        -((point.latitude - start.latitude) * (stop.longitude - start.longitude) -
          (point.longitude - start.longitude) * (stop.latitude - start.latitude)) := by ring
  simp only [onSegment, hcross, abs_neg, min_comm stop.latitude, max_comm stop.latitude,
    min_comm stop.longitude, max_comm stop.longitude]

/-- Only the vertex itself is on the side from a vertex to itself, and it is on every side that
begins there. -/
theorem onSegment_of_self {point start stop : GeoPoint} (h : onSegment point start start = true) :
    onSegment point start stop = true := by
  obtain ⟨-, ⟨hsouth, hnorth⟩, hwest, heast⟩ := onSegment_eq_true_iff.1 h
  rw [min_self] at hsouth hwest
  rw [max_self] at hnorth heast
  have hlatitude : point.latitude = start.latitude := le_antisymm hnorth hsouth
  have hlongitude : point.longitude = start.longitude := le_antisymm heast hwest
  rw [onSegment_eq_true_iff, hlatitude, hlongitude, sub_self, sub_self, zero_mul, zero_mul,
    sub_self, abs_zero]
  exact ⟨by norm_num, ⟨min_le_left _ _, le_max_left _ _⟩, min_le_left _ _, le_max_left _ _⟩

/-- The answer for a point is the same wherever the polygon begins, whichever way it runs, and
whether or not it ends where it began. -/
theorem contains_region (geofence : Geofence) (point : GeoPoint) :
    (∀ k, (geofence.rotated k).contains point = geofence.contains point) ∧
      geofence.reversed.contains point = geofence.contains point ∧
      geofence.closed.contains point = geofence.contains point := by
  simp only [contains_eq]
  refine ⟨fun k => evenOdd_rotate _ _ _ k, ?_, ?_⟩
  · apply evenOdd_reverse
    · intro e
      exact onSegment_swap point e.1 e.2
    · intro e
      exact crossesRight_swap point.plane e.1.plane e.2.plane
  · obtain ⟨first, rest, hpolygon⟩ := List.exists_cons_of_ne_nil geofence.polygon_ne_nil
    simp only [Geofence.closed, hpolygon, List.head?_cons, Option.toList_some]
    apply evenOdd_concat
    · intro a b
      exact onSegment_of_self
    · intro a
      exact crossesRight_self point.plane a.plane

/-! ## Two checks of one polygon -/

theorem pointOnSegment_eq_true_iff {point start stop : GeoPoint} :
    pointOnSegment point start stop = true ↔
      |cross (subtract point start) (subtract stop start)| ≤ geometryEpsilon ∧
        (min start.latitude stop.latitude - geometryEpsilon ≤ point.latitude ∧
          point.latitude ≤ max start.latitude stop.latitude + geometryEpsilon) ∧
        min start.longitude stop.longitude - geometryEpsilon ≤ point.longitude ∧
          point.longitude ≤ max start.longitude stop.longitude + geometryEpsilon := by
  rw [pointOnSegment]
  split_ifs with hcross
  · exact iff_of_false id fun h => not_le.2 hcross h.1
  · simp only [Bool.and_eq_true, decide_eq_true_iff, ge_iff_le, and_assoc]
    exact (and_iff_right (not_lt.1 hcross)).symm

/-- A point on a side of the geofence is on that side for the mission check. -/
theorem pointOnSegment_of_onSegment {point start stop : GeoPoint}
    (h : onSegment point start stop = true) : pointOnSegment point start stop = true := by
  obtain ⟨hcross, ⟨hsouth, hnorth⟩, hwest, heast⟩ := onSegment_eq_true_iff.1 h
  have hepsilon := geometryEpsilon_pos
  have hsame : cross (subtract point start) (subtract stop start) =
      -((point.latitude - start.latitude) * (stop.longitude - start.longitude) -
        (point.longitude - start.longitude) * (stop.latitude - start.latitude)) := by
    simp only [cross, subtract]
    ring
  rw [pointOnSegment_eq_true_iff, hsame, abs_neg]
  exact ⟨hcross, ⟨by linarith, by linarith⟩, by linarith, by linarith⟩

/-- What is in the geofence is inside for the mission check, and what only the mission check puts
inside is on a side within the tolerance. -/
theorem contains_agree (geofence : Geofence) (point : GeoPoint) :
    (geofence.contains point = true →
      insideOrBoundary point geofence.polygon geofence.polygon_ne_nil = true) ∧
    (insideOrBoundary point geofence.polygon geofence.polygon_ne_nil = true →
      geofence.contains point = false →
        ∃ e ∈ cyclicPairs geofence.polygon,
          |cross (subtract point e.1) (subtract e.2 e.1)| ≤ 1 / 10 ^ 10 ∧
            (min e.1.latitude e.2.latitude - 1 / 10 ^ 10 ≤ point.latitude ∧
              point.latitude ≤ max e.1.latitude e.2.latitude + 1 / 10 ^ 10) ∧
            min e.1.longitude e.2.longitude - 1 / 10 ^ 10 ≤ point.longitude ∧
              point.longitude ≤ max e.1.longitude e.2.longitude + 1 / 10 ^ 10) := by
  rw [insideOrBoundary_eq, contains_eq]
  refine ⟨evenOdd_mono fun e => pointOnSegment_of_onSegment, fun hmission hfence => ?_⟩
  obtain ⟨e, he, hnear⟩ := exists_on_of_evenOdd hmission hfence
  exact ⟨e, he, pointOnSegment_eq_true_iff.1 hnear⟩

end GcsSaker.GeofenceRegions
