import GcsSaker.PlanarRegion
import GcsSaker.SortedIntervals

/-!
# The route geofence

The check that a mission's route stays inside an allowed area, over exact rational coordinates; the
tests for infinities and for values that are not numbers say nothing there. Points are given by
latitude and longitude. The edges of a polygon run from each vertex to the next and from the last
to the first.
-/

namespace GcsSaker

open Planar (cyclicPairs)

def geometryEpsilon : ℚ := 1 / 10 ^ 10

structure GeoPoint where
  latitude : ℚ
  longitude : ℚ
  deriving DecidableEq

structure Waypoint where
  latitude : ℚ
  longitude : ℚ

inductive GeofenceError where
  | invalid
  deriving DecidableEq

def GeofenceError.text : GeofenceError → String
  | .invalid => "mission_geofence_invalid"

/-! ## Plane geometry -/

def subtract (left right : GeoPoint) : GeoPoint :=
  ⟨left.latitude - right.latitude, left.longitude - right.longitude⟩

def cross (left right : GeoPoint) : ℚ :=
  left.longitude * right.latitude - left.latitude * right.longitude

def dot (left right : GeoPoint) : ℚ :=
  left.latitude * right.latitude + left.longitude * right.longitude

def interpolate (start stop : GeoPoint) (parameter : ℚ) : GeoPoint :=
  ⟨start.latitude + (stop.latitude - start.latitude) * parameter,
    start.longitude + (stop.longitude - start.longitude) * parameter⟩

def samePoint (left right : GeoPoint) : Bool :=
  decide (|left.latitude - right.latitude| ≤ geometryEpsilon) &&
    decide (|left.longitude - right.longitude| ≤ geometryEpsilon)

def clampUnit (value : ℚ) : ℚ := max 0 (min 1 value)

def pointOnSegment (point start stop : GeoPoint) : Bool :=
  if |cross (subtract point start) (subtract stop start)| > geometryEpsilon then false
  else decide (point.latitude ≥ min start.latitude stop.latitude - geometryEpsilon) &&
    decide (point.latitude ≤ max start.latitude stop.latitude + geometryEpsilon) &&
    decide (point.longitude ≥ min start.longitude stop.longitude - geometryEpsilon) &&
    decide (point.longitude ≤ max start.longitude stop.longitude + geometryEpsilon)

def collinearParameters (start stop edgeStart edgeEnd : GeoPoint) : List ℚ :=
  let direction := subtract stop start
  let lengthSquared := dot direction direction
  if lengthSquared ≤ geometryEpsilon then []
  else
    let first := dot (subtract edgeStart start) direction / lengthSquared
    let second := dot (subtract edgeEnd start) direction / lengthSquared
    let low := max 0 (min first second)
    let high := min 1 (max first second)
    if low > high + geometryEpsilon then [] else [clampUnit low, clampUnit high]

/-- The parameters of the points where a leg meets an edge. -/
def intersectionParameters (start stop edgeStart edgeEnd : GeoPoint) : List ℚ :=
  let direction := subtract stop start
  let edgeDirection := subtract edgeEnd edgeStart
  let denominator := cross direction edgeDirection
  let offset := subtract edgeStart start
  if |denominator| ≤ geometryEpsilon then
    if |cross offset direction| > geometryEpsilon then []
    else collinearParameters start stop edgeStart edgeEnd
  else
    let t := cross offset edgeDirection / denominator
    let u := cross offset direction / denominator
    if t < -geometryEpsilon ∨ t > 1 + geometryEpsilon ∨ u < -geometryEpsilon ∨
        u > 1 + geometryEpsilon then []
    else [clampUnit t]

def segmentsIntersect (firstStart firstEnd secondStart secondEnd : GeoPoint) : Bool :=
  decide ((intersectionParameters firstStart firstEnd secondStart secondEnd).length > 0)

/-! ## Polygons -/

def signedArea (polygon : List GeoPoint) : ℚ :=
  ((cyclicPairs polygon).map fun e =>
    e.1.longitude * e.2.latitude - e.2.longitude * e.1.latitude).sum / 2

def longitudeSpan : List GeoPoint → ℚ
  | [] => 0  -- asked of polygons with vertices only
  | point :: rest =>
      rest.foldl (fun maximum q => max maximum q.longitude) point.longitude -
        rest.foldl (fun minimum q => min minimum q.longitude) point.longitude

def validCoordinates (points : List GeoPoint) : Bool :=
  points.all (fun point =>
    !(decide (point.latitude < -90) || decide (point.latitude > 90) ||
      decide (point.longitude < -180) || decide (point.longitude > 180))) &&
    decide (longitudeSpan points ≤ 180)

def hasDegenerateEdge (polygon : List GeoPoint) : Bool :=
  (cyclicPairs polygon).any fun e => samePoint e.1 e.2

def adjacentEdges (first second size : ℕ) : Bool :=
  second == first + 1 || (first == 0 && second == size - 1)

def selfIntersects (polygon : List GeoPoint) : Bool :=
  let edges := (cyclicPairs polygon).zipIdx
  edges.any fun first => edges.any fun second =>
    decide (first.2 < second.2) && !adjacentEdges first.2 second.2 polygon.length &&
      segmentsIntersect first.1.1 first.1.2 second.1.1 second.1.2

/-- A polygon that has passed the checks. -/
structure Polygon where
  vertices : List GeoPoint
  three_le : 3 ≤ vertices.length
  coordinates : validCoordinates vertices = true
  edges : hasDegenerateEdge vertices = false
  area : geometryEpsilon < |signedArea vertices|
  simple : selfIntersects vertices = false
  deriving DecidableEq

/-- Without the closing vertex that repeats the first one. -/
def openVertices (points : List GeoPoint) : List GeoPoint :=
  match points.head?, points.getLast? with
  | some first, some last =>
      if points.length > 1 ∧ samePoint first last = true then points.dropLast else points
  | _, _ => points

def validatedPolygon (points : List GeoPoint) : Except GeofenceError Polygon :=
  let polygon := openVertices points
  if h : polygon.length < 3 ∨ ¬ validCoordinates polygon = true ∨
      hasDegenerateEdge polygon = true ∨ |signedArea polygon| ≤ geometryEpsilon ∨
      selfIntersects polygon = true then .error .invalid
  else .ok {
    vertices := polygon
    three_le := by simp only [not_or, not_lt] at h; exact h.1
    coordinates := by simp only [not_or, not_not] at h; exact h.2.1
    edges := by simp only [not_or, Bool.not_eq_true] at h; exact h.2.2.1
    area := by simp only [not_or, not_le] at h; exact h.2.2.2.1
    simple := by simp only [not_or, Bool.not_eq_true] at h; exact h.2.2.2.2 }

theorem Polygon.vertices_ne_nil (polygon : Polygon) : polygon.vertices ≠ [] := by
  intro h
  have hlen := polygon.three_le
  rw [h] at hlen
  exact absurd hlen (by decide)

theorem samePoint_comm (left right : GeoPoint) : samePoint left right = samePoint right left := by
  simp only [samePoint, abs_sub_comm]

theorem openVertices_of_edges {points : List GeoPoint} (h : hasDegenerateEdge points = false) :
    openVertices points = points := by
  have hdegenerate : ∀ e ∈ cyclicPairs points, samePoint e.1 e.2 = false := by
    simpa only [hasDegenerateEdge, List.any_eq_false, Bool.not_eq_true] using h
  cases points with
  | nil => rfl
  | cons first rest =>
      have hclosing : ((first :: rest).getLast (List.cons_ne_nil first rest), first) ∈
          cyclicPairs (first :: rest) := by
        rw [Planar.cyclicPairs_cons]
        exact List.mem_append_right _ (List.mem_singleton_self _)
      have hdifferent : samePoint first
          ((first :: rest).getLast (List.cons_ne_nil first rest)) = false := by
        rw [samePoint_comm]
        exact hdegenerate ((first :: rest).getLast (List.cons_ne_nil first rest), first) hclosing
      have hlast := List.getLast?_eq_getLast_of_ne_nil (List.cons_ne_nil first rest)
      rw [openVertices, List.head?_cons, hlast]
      exact if_neg fun hclosed => Bool.false_ne_true (hdifferent.symm.trans hclosed.2)

/-- The accepted polygons are the values of `Polygon`. -/
theorem validatedPolygon_vertices (polygon : Polygon) :
    validatedPolygon polygon.vertices = .ok polygon := by
  have hopen := openVertices_of_edges polygon.edges
  have hchecks : ¬ (polygon.vertices.length < 3 ∨ ¬ validCoordinates polygon.vertices = true ∨
      hasDegenerateEdge polygon.vertices = true ∨
      |signedArea polygon.vertices| ≤ geometryEpsilon ∨
      selfIntersects polygon.vertices = true) := by
    simp only [polygon.coordinates, polygon.edges, polygon.simple, not_true, Bool.false_eq_true,
      or_false, false_or, not_or, not_lt, not_le]
    exact ⟨polygon.three_le, polygon.area⟩
  simp only [validatedPolygon, hopen, dif_neg hchecks]

/-! ## Routes -/

/-- The loop over the vertices with the one before, counting the edges to the right. -/
def insideFrom (point : GeoPoint) : GeoPoint → Bool → List GeoPoint → Bool
  | _, inside, [] => inside
  | previous, inside, current :: rest =>
      if pointOnSegment point previous current = true then true
      else
        let crosses := decide (current.latitude > point.latitude) !=
          decide (previous.latitude > point.latitude)
        let longitude := (previous.longitude - current.longitude) *
          (point.latitude - current.latitude) / (previous.latitude - current.latitude) +
          current.longitude
        insideFrom point current
          (if crosses && decide (point.longitude < longitude) then !inside else inside) rest

def pointInsideOrBoundary (point : GeoPoint) (polygon : Polygon) : Bool :=
  insideFrom point (polygon.vertices.getLast polygon.vertices_ne_nil) false polygon.vertices

/-- The parameters at which a leg is cut, in order. -/
def segmentParameters (start stop : GeoPoint) (polygon : Polygon) : List ℚ :=
  (0 :: 1 :: (cyclicPairs polygon.vertices).flatMap fun e =>
    intersectionParameters start stop e.1 e.2).insertionSort (· ≤ ·)

/-- The pieces of a leg whose midpoint is tested. -/
def testedIntervals (start stop : GeoPoint) (polygon : Polygon) : List (ℚ × ℚ) :=
  (intervals (segmentParameters start stop polygon)).filter fun i =>
    !decide (i.2 - i.1 ≤ geometryEpsilon)

def midpoint (start stop : GeoPoint) (i : ℚ × ℚ) : GeoPoint :=
  interpolate start stop ((i.1 + i.2) / 2)

def segmentInsidePolygon (start stop : GeoPoint) (polygon : Polygon) : Bool :=
  (testedIntervals start stop polygon).all fun i =>
    pointInsideOrBoundary (midpoint start stop i) polygon

def Waypoint.point (waypoint : Waypoint) : GeoPoint := ⟨waypoint.latitude, waypoint.longitude⟩

/-- The pairs of consecutive waypoints of a route. -/
def legs (waypoints : List Waypoint) : List (GeoPoint × GeoPoint) :=
  intervals (waypoints.map Waypoint.point)

def routeInsidePolygon (waypoints : List Waypoint) (polygon : Polygon) : Bool :=
  (waypoints.map Waypoint.point).all (fun point => pointInsideOrBoundary point polygon) &&
    (legs waypoints).all fun leg => segmentInsidePolygon leg.1 leg.2 polygon

end GcsSaker
