import GcsSaker.RouteGeofenceSoundness

/-!
# Accepted rings are simple

A polygon that is accepted is a simple line, but for edges that share a point although they do not
follow one another: the check passes over such a pair if the edges are almost parallel and the first
of them is short, as no parameters are computed on a short edge.
-/

namespace GcsSaker

open Planar

def edgesIntersect (first second : GeoPoint × GeoPoint) : Bool :=
  segmentsIntersect first.1 first.2 second.1 second.2

def planeEdge (e : GeoPoint × GeoPoint) : (ℚ × ℚ) × (ℚ × ℚ) := (e.1.plane, e.2.plane)

/-- The points of an edge. -/
def edgePoints (e : GeoPoint × GeoPoint) : Set (ℚ × ℚ) := segment ℚ e.1.plane e.2.plane

/-- The cross product of the directions of the edges is within the tolerance. -/
def AlmostParallel (first second : GeoPoint × GeoPoint) : Prop :=
  |cross (subtract first.2 first.1) (subtract second.2 second.1)| ≤ geometryEpsilon

/-- The edge is not longer than the root of the tolerance. -/
def Short (e : GeoPoint × GeoPoint) : Prop :=
  dot (subtract e.2 e.1) (subtract e.2 e.1) ≤ geometryEpsilon

instance {first second : GeoPoint × GeoPoint} : Decidable (AlmostParallel first second) :=
  inferInstanceAs (Decidable (_ ≤ _))

instance : DecidablePred Short := fun _ => inferInstanceAs (Decidable (_ ≤ _))

/-- The edges share a point that the check passes over. -/
structure HiddenContact (first second : GeoPoint × GeoPoint) : Prop where
  parallel : AlmostParallel first second
  short : Short first
  contact : ¬Disjoint (edgePoints first) (edgePoints second)

theorem edgesIntersect_iff {first second : GeoPoint × GeoPoint} :
    edgesIntersect first second = true ↔
      intersectionParameters first.1 first.2 second.1 second.2 ≠ [] := by
  rw [edgesIntersect, segmentsIntersect, decide_eq_true_iff, gt_iff_lt, List.length_pos_iff]

/-- Edges with a common point are found to intersect, unless the contact is hidden. -/
theorem hiddenContact_of_contact {first second : GeoPoint × GeoPoint}
    (hfree : edgesIntersect first second = false)
    (hcontact : ¬Disjoint (edgePoints first) (edgePoints second)) :
    HiddenContact first second := by
  obtain ⟨x, hx, hx'⟩ := Set.not_disjoint_iff.1 hcontact
  obtain ⟨t, ht0, ht1, ht⟩ := mem_segment_iff_along.1 hx
  obtain ⟨u, hu0, hu1, hu⟩ := mem_segment_iff_along.1 hx'
  have hmeet := ht.symm.trans hu
  have hnone : ∀ τ, τ ∉ intersectionParameters first.1 first.2 second.1 second.2 := by
    intro τ hτ
    have htrue := edgesIntersect_iff.2 (List.ne_nil_of_mem hτ)
    exact Bool.false_ne_true (hfree.symm.trans htrue)
  have hparallel : AlmostParallel first second := by
    by_contra hcrossing
    exact hnone t (mem_intersectionParameters ht0 ht1 hu0 hu1 hmeet (not_le.1 hcrossing))
  refine ⟨hparallel, ?_, hcontact⟩
  by_contra hlong
  obtain ⟨low, high, -, -, hlow, -⟩ :=
    exists_cut_of_parallel ht0 ht1 hu0 hu1 hmeet hparallel (not_le.1 hlong)
  exact hnone low hlow

theorem adjacentEdges_eq_false_iff {first second size : ℕ} :
    adjacentEdges first second size = false ↔
      second ≠ first + 1 ∧ ¬(first = 0 ∧ second = size - 1) := by
  rw [adjacentEdges, Bool.or_eq_false_iff, Bool.and_eq_false_iff, beq_eq_false_iff_ne,
    beq_eq_false_iff_ne, beq_eq_false_iff_ne, not_and_or]

/-- No two edges intersect that do not follow one another, each pair taken in order. -/
theorem selfIntersects_eq_false_iff {vertices : List GeoPoint} :
    selfIntersects vertices = false ↔ ∀ i j e e', (cyclicPairs vertices)[i]? = some e →
      (cyclicPairs vertices)[j]? = some e' → i < j →
        j ≠ i + 1 ∧ ¬(i = 0 ∧ j = vertices.length - 1) → edgesIntersect e e' = false := by
  simp only [selfIntersects, List.any_eq_false, Bool.not_eq_true, Bool.and_eq_false_iff,
    decide_eq_false_iff_not, Bool.not_eq_false']
  constructor
  · intro h i j e e' he he' hij hseparate
    rcases h (e, i) (List.mem_zipIdx_iff_getElem?.2 he) (e', j)
      (List.mem_zipIdx_iff_getElem?.2 he') with (hge | hadjacent) | hfree
    · exact absurd hij hge
    · have hapart := adjacentEdges_eq_false_iff.2 hseparate
      exact absurd (hapart.symm.trans hadjacent) Bool.false_ne_true
    · exact hfree
  · intro h first hfirst second hsecond
    by_cases hij : first.2 < second.2
    · cases hadjacent : adjacentEdges first.2 second.2 vertices.length with
      | true => exact .inl (.inr rfl)
      | false =>
          exact .inr (h first.2 second.2 first.1 second.1 (List.mem_zipIdx_iff_getElem?.1 hfirst)
            (List.mem_zipIdx_iff_getElem?.1 hsecond) hij (adjacentEdges_eq_false_iff.1 hadjacent))
    · exact .inl (.inl hij)

theorem getElem?_cyclicPairs_plane {polygon : Polygon} {i : ℕ} {e : (ℚ × ℚ) × (ℚ × ℚ)} :
    (cyclicPairs polygon.plane)[i]? = some e ↔
      ∃ edge, (cyclicPairs polygon.vertices)[i]? = some edge ∧ planeEdge edge = e := by
  rw [Polygon.plane, cyclicPairs_map, List.getElem?_map, Option.map_eq_some_iff]
  exact Iff.rfl

theorem signedArea_eq (vertices : List GeoPoint) :
    signedArea vertices = doubleArea (vertices.map GeoPoint.plane) / 2 := by
  rw [signedArea, doubleArea, cyclicPairs_map, List.map_map]
  congr 2
  refine List.map_congr_left fun e _ => ?_
  simp only [Function.comp_apply, wedge, GeoPoint.plane]
  ring

theorem vertices_of_validatedPolygon {points : List GeoPoint} {polygon : Polygon}
    (h : validatedPolygon points = .ok polygon) : polygon.vertices = openVertices points := by
  unfold validatedPolygon at h
  simp only at h
  split at h
  · cases h
  · rw [← Except.ok.inj h]

/-- No two edges of the ring that do not follow one another have a contact that the check passes
over. -/
def ContactsSeen (vertices : List GeoPoint) : Prop :=
  ∀ first second e e', (cyclicPairs vertices)[first]? = some e →
    (cyclicPairs vertices)[second]? = some e' → first < second →
      adjacentEdges first second vertices.length = false → ¬HiddenContact e e'

theorem simpleLine_plane_iff (polygon : Polygon) :
    SimpleLine polygon.plane ↔ ContactsSeen polygon.vertices := by
  have hlength : polygon.plane.length = polygon.vertices.length := List.length_map ..
  have harea : doubleArea polygon.plane ≠ 0 := by
    have hpos := abs_pos.1 (geometryEpsilon_pos.trans polygon.area)
    rw [signedArea_eq] at hpos
    exact (div_ne_zero_iff.1 hpos).1
  rw [simpleLine_iff (by rw [hlength]; exact polygon.three_le) harea,
    separateSides_iff_of_comm fun _ _ _ _ _ _ _ => disjoint_comm, hlength]
  constructor
  · intro hapart first second e e' he he' hlt hseparate hhidden
    exact hhidden.contact (hapart first second _ _ (getElem?_cyclicPairs_plane.2 ⟨e, he, rfl⟩)
      (getElem?_cyclicPairs_plane.2 ⟨e', he', rfl⟩) hlt (adjacentEdges_eq_false_iff.1 hseparate))
  · intro hseen first second e e' he he' hlt hseparate
    obtain ⟨edge, hedge, rfl⟩ := getElem?_cyclicPairs_plane.1 he
    obtain ⟨edge', hedge', rfl⟩ := getElem?_cyclicPairs_plane.1 he'
    have hfree := selfIntersects_eq_false_iff.1 polygon.simple first second edge edge' hedge hedge'
      hlt hseparate
    by_contra hcontact
    exact hseen first second edge edge' hedge hedge' hlt
      (adjacentEdges_eq_false_iff.2 hseparate) (hiddenContact_of_contact hfree hcontact)

/-- The accepted polygons that are simple lines. -/
theorem validatedPolygon_simple_iff (points : List GeoPoint) (polygon : Polygon)
    (h : validatedPolygon points = .ok polygon) :
    SimpleLine polygon.plane ↔ ContactsSeen (openVertices points) := by
  rw [← vertices_of_validatedPolygon h]
  exact simpleLine_plane_iff polygon

theorem validatedPolygon_simple_square : SimpleLine squarePolygon.plane := by
  refine (validatedPolygon_simple_iff squarePolygon.vertices squarePolygon
    (validatedPolygon_vertices squarePolygon)).2 ?_
  have hlong : ∀ e ∈ cyclicPairs (openVertices squarePolygon.vertices), ¬Short e := by
    decide +kernel
  intro first second e e' he _ _ _ hhidden
  exact hlong e (List.mem_of_getElem? he) hhidden.short

/-- An area with an edge of less than a millionth of a degree that another edge crosses. -/
def crossedPolygon : Polygon where
  vertices := [⟨0, -4 / 10 ^ 6⟩, ⟨0, 4 / 10 ^ 6⟩, ⟨-1 / 10, 1 / 20⟩, ⟨5 / 10 ^ 6, 1 / 20⟩,
    ⟨-5 / 10 ^ 6, -1 / 20⟩, ⟨3 / 10, -1 / 20⟩]
  three_le := by decide
  coordinates := by decide +kernel
  edges := by decide +kernel
  area := by decide +kernel
  simple := by decide +kernel

theorem crossedPolygon_not_simple :
    validatedPolygon crossedPolygon.vertices = .ok crossedPolygon ∧
      ¬SimpleLine crossedPolygon.plane := by
  refine ⟨validatedPolygon_vertices crossedPolygon, fun hsimple => ?_⟩
  have hshort : (cyclicPairs crossedPolygon.plane)[0]? =
      some (planeEdge (⟨0, -4 / 10 ^ 6⟩, ⟨0, 4 / 10 ^ 6⟩)) := by decide +kernel
  have hlong : (cyclicPairs crossedPolygon.plane)[3]? =
      some (planeEdge (⟨5 / 10 ^ 6, 1 / 20⟩, ⟨-5 / 10 ^ 6, -1 / 20⟩)) := by decide +kernel
  have hdisjoint := hsimple.apart 0 3 _ _ hshort hlong ⟨by decide, by decide, by decide⟩
  -- both have their middle at the origin
  have hmem : ((0 : ℚ), (0 : ℚ)) ∈ edgePoints (⟨0, -4 / 10 ^ 6⟩, ⟨0, 4 / 10 ^ 6⟩) :=
    mem_segment_iff_along.2 ⟨1 / 2, by norm_num, by norm_num, by decide +kernel⟩
  have hmem' : ((0 : ℚ), (0 : ℚ)) ∈ edgePoints (⟨5 / 10 ^ 6, 1 / 20⟩, ⟨-5 / 10 ^ 6, -1 / 20⟩) :=
    mem_segment_iff_along.2 ⟨1 / 2, by norm_num, by norm_num, by decide +kernel⟩
  exact Set.disjoint_left.1 hdisjoint hmem hmem'

end GcsSaker

/-!
# The verdict on a ring drawn in another way

A ring keeps its verdict if it is started at another vertex or drawn the other way, as long as no
two vertices that follow one another coincide and the intersection test finds the same of two edges
that are almost parallel in either order and direction. For other edges it always does.
-/

namespace GcsSaker

open Planar

/-! ## Two edges in either order and direction -/

/-- The parameter on the first edge of its common point with the line of the second. -/
def meetingParameter (first second : GeoPoint × GeoPoint) : ℚ :=
  cross (subtract second.1 first.1) (subtract second.2 second.1) /
    cross (subtract first.2 first.1) (subtract second.2 second.1)

/-- A parameter of an edge, up to the tolerance. -/
def OnEdge (t : ℚ) : Prop := -geometryEpsilon ≤ t ∧ t ≤ 1 + geometryEpsilon

theorem onEdge_one_sub {t : ℚ} : OnEdge (1 - t) ↔ OnEdge t := by
  constructor
  · rintro ⟨hlow, hhigh⟩
    exact ⟨by linarith, by linarith⟩
  · rintro ⟨hlow, hhigh⟩
    exact ⟨by linarith, by linarith⟩

theorem cross_comm (p q : GeoPoint) : cross p q = -cross q p := by
  simp only [cross]
  ring

theorem almostParallel_comm {first second : GeoPoint × GeoPoint} :
    AlmostParallel first second ↔ AlmostParallel second first := by
  rw [AlmostParallel, AlmostParallel, cross_comm, abs_neg]

theorem cross_swap (first second : GeoPoint × GeoPoint) :
    cross (subtract first.swap.2 first.swap.1) (subtract second.swap.2 second.swap.1) =
      cross (subtract first.2 first.1) (subtract second.2 second.1) := by
  simp only [cross, subtract, Prod.fst_swap, Prod.snd_swap]
  ring

theorem almostParallel_swap {first second : GeoPoint × GeoPoint} :
    AlmostParallel first.swap second.swap ↔ AlmostParallel first second := by
  rw [AlmostParallel, AlmostParallel, cross_swap]

theorem meetingParameter_swap {first second : GeoPoint × GeoPoint}
    (h : ¬AlmostParallel first second) :
    meetingParameter first.swap second.swap = 1 - meetingParameter first second := by
  have hne : cross (subtract first.2 first.1) (subtract second.2 second.1) ≠ 0 :=
    abs_pos.1 (geometryEpsilon_pos.trans (not_le.1 h))
  rw [meetingParameter, meetingParameter, cross_swap, eq_sub_iff_add_eq, ← add_div,
    div_eq_one_iff_eq hne]
  simp only [cross, subtract, Prod.fst_swap, Prod.snd_swap]
  ring

/-- Edges that are not almost parallel intersect if their lines meet on both of them. -/
theorem edgesIntersect_iff_of_crossing {first second : GeoPoint × GeoPoint}
    (h : ¬AlmostParallel first second) : edgesIntersect first second = true ↔
      OnEdge (meetingParameter first second) ∧ OnEdge (meetingParameter second first) := by
  have hother : cross (subtract second.1 first.1) (subtract first.2 first.1) /
      cross (subtract first.2 first.1) (subtract second.2 second.1) =
        meetingParameter second first := by
    rw [meetingParameter, cross_comm (subtract second.2 second.1), div_neg, ← neg_div]
    congr 1
    simp only [cross, subtract]
    ring
  have hfirst : cross (subtract second.1 first.1) (subtract second.2 second.1) /
      cross (subtract first.2 first.1) (subtract second.2 second.1) =
        meetingParameter first second := rfl
  have hrange : OnEdge (meetingParameter first second) ∧ OnEdge (meetingParameter second first) ↔
      ¬(meetingParameter first second < -geometryEpsilon ∨
        meetingParameter first second > 1 + geometryEpsilon ∨
        meetingParameter second first < -geometryEpsilon ∨
        meetingParameter second first > 1 + geometryEpsilon) := by
    simp only [OnEdge, not_or, not_lt, gt_iff_lt, and_assoc]
  have hcrossing : ¬|cross (subtract first.2 first.1) (subtract second.2 second.1)| ≤
      geometryEpsilon := h
  simp only [edgesIntersect_iff, intersectionParameters, if_neg hcrossing, hfirst, hother, hrange,
    ne_eq, ite_eq_left_iff, List.cons_ne_nil, imp_false, not_not]

theorem edgesIntersect_comm {first second : GeoPoint × GeoPoint}
    (h : ¬AlmostParallel first second) :
    edgesIntersect first second = edgesIntersect second first := by
  rw [Bool.eq_iff_iff, edgesIntersect_iff_of_crossing h,
    edgesIntersect_iff_of_crossing (mt almostParallel_comm.1 h), and_comm]

theorem edgesIntersect_swap {first second : GeoPoint × GeoPoint}
    (h : ¬AlmostParallel first second) :
    edgesIntersect first.swap second.swap = edgesIntersect first second := by
  have hother : ¬AlmostParallel second first := mt almostParallel_comm.1 h
  rw [Bool.eq_iff_iff, edgesIntersect_iff_of_crossing (mt almostParallel_swap.1 h),
    edgesIntersect_iff_of_crossing h, meetingParameter_swap h, meetingParameter_swap hother,
    onEdge_one_sub, onEdge_one_sub]

/-- If the edges are almost parallel, the test finds the same of them in either order and
direction. -/
def JudgedAlike (first second : GeoPoint × GeoPoint) : Prop :=
  AlmostParallel first second →
    edgesIntersect first second = edgesIntersect second first ∧
      edgesIntersect first.swap second.swap = edgesIntersect first second

/-- The test finds the edges to intersect in either order and direction. -/
structure FoundAnyway (first second : GeoPoint × GeoPoint) : Prop where
  inOrder : edgesIntersect first second = true
  turned : edgesIntersect second first = true
  reversed : edgesIntersect first.swap second.swap = true
  reversedTurned : edgesIntersect second.swap first.swap = true

theorem JudgedAlike.eq {first second : GeoPoint × GeoPoint} (h : JudgedAlike first second) :
    edgesIntersect first second = edgesIntersect second first ∧
      edgesIntersect first.swap second.swap = edgesIntersect first second := by
  by_cases hparallel : AlmostParallel first second
  · exact h hparallel
  · exact ⟨edgesIntersect_comm hparallel, edgesIntersect_swap hparallel⟩

/-! ## The edges of a ring -/

section Edges

variable {ring : List GeoPoint}

/-- The verdict on the edges does not depend on how the ring is drawn: they are all judged alike,
or two of them are found anyway. -/
def EdgesSettled (ring : List GeoPoint) : Prop :=
  SeparateSides ring JudgedAlike ∨ ∃ i j e e', (cyclicPairs ring)[i]? = some e ∧
    (cyclicPairs ring)[j]? = some e' ∧ Separate ring.length i j ∧ FoundAnyway e e'

theorem selfIntersects_eq_false_iff_of_comm
    (h : SeparateSides ring fun e e' => edgesIntersect e e' = edgesIntersect e' e) :
    selfIntersects ring = false ↔ SeparateSides ring fun e e' => edgesIntersect e e' = false := by
  rw [selfIntersects_eq_false_iff, separateSides_iff_of_comm]
  intro i j e e' he he' hij
  rw [h i j e e' he he' hij]

theorem selfIntersects_rotate_of_alike (h : SeparateSides ring JudgedAlike) (k : ℕ) :
    selfIntersects (ring.rotate k) = selfIntersects ring := by
  have hcomm : SeparateSides ring fun e e' => edgesIntersect e e' = edgesIntersect e' e :=
    h.mono fun _ _ halike => halike.eq.1
  rw [Bool.eq_iff_iff, ← not_iff_not, Bool.not_eq_true, Bool.not_eq_true,
    selfIntersects_eq_false_iff_of_comm hcomm, selfIntersects_eq_false_iff_of_comm (hcomm.rotate k),
    separateSides_rotate]

theorem selfIntersects_reverse_of_alike (h : SeparateSides ring JudgedAlike) :
    selfIntersects ring.reverse = selfIntersects ring := by
  have hcomm : SeparateSides ring fun e e' => edgesIntersect e e' = edgesIntersect e' e :=
    h.mono fun _ _ halike => halike.eq.1
  have hturned : SeparateSides ring.reverse fun e e' =>
      edgesIntersect e e' = edgesIntersect e' e := by
    rw [separateSides_reverse]
    refine h.and_swap.mono fun e e' halike => ?_
    rw [halike.1.eq.2, halike.2.eq.2]
    exact halike.1.eq.1
  rw [Bool.eq_iff_iff, ← not_iff_not, Bool.not_eq_true, Bool.not_eq_true,
    selfIntersects_eq_false_iff_of_comm hcomm, selfIntersects_eq_false_iff_of_comm hturned,
    separateSides_reverse]
  constructor
  · intro hfree i j e e' he he' hij
    rw [← (h i j e e' he he' hij).eq.2]
    exact hfree i j e e' he he' hij
  · intro hfree i j e e' he he' hij
    rw [(h i j e e' he he' hij).eq.2]
    exact hfree i j e e' he he' hij

/-- In a ring without an intersection two edges are not found in one order. -/
theorem unfound_of_selfIntersects (h : selfIntersects ring = false) :
    SeparateSides ring fun e e' => edgesIntersect e e' = false ∨ edgesIntersect e' e = false := by
  rw [separateSides_iff_of_comm fun _ _ _ _ _ _ _ => or_comm]
  intro i j e e' he he' hij hseparate
  exact .inl (selfIntersects_eq_false_iff.1 h i j e e' he he' hij hseparate)

theorem selfIntersects_redrawn_of_found {i j : ℕ} {e e' : GeoPoint × GeoPoint}
    (he : (cyclicPairs ring)[i]? = some e) (he' : (cyclicPairs ring)[j]? = some e')
    (hij : Separate ring.length i j) (hfound : FoundAnyway e e') :
    (∀ k, selfIntersects (ring.rotate k) = true) ∧ selfIntersects ring.reverse = true := by
  constructor
  · intro k
    by_contra hfree
    have hunfound := unfound_of_selfIntersects (Bool.not_eq_true _ ▸ hfree)
    rcases (separateSides_rotate k).1 hunfound i j e e' he he' hij with hfirst | hsecond
    · exact Bool.false_ne_true (hfirst.symm.trans hfound.inOrder)
    · exact Bool.false_ne_true (hsecond.symm.trans hfound.turned)
  · by_contra hfree
    have hunfound := unfound_of_selfIntersects (Bool.not_eq_true _ ▸ hfree)
    rcases separateSides_reverse.1 hunfound i j e e' he he' hij with hfirst | hsecond
    · exact Bool.false_ne_true (hfirst.symm.trans hfound.reversed)
    · exact Bool.false_ne_true (hsecond.symm.trans hfound.reversedTurned)

theorem selfIntersects_redrawn (h : EdgesSettled ring) :
    (∀ k, selfIntersects (ring.rotate k) = selfIntersects ring) ∧
      selfIntersects ring.reverse = selfIntersects ring := by
  rcases h with halike | ⟨i, j, e, e', he, he', hij, hfound⟩
  · exact ⟨selfIntersects_rotate_of_alike halike, selfIntersects_reverse_of_alike halike⟩
  · obtain ⟨hrotate, hreverse⟩ := selfIntersects_redrawn_of_found he he' hij hfound
    have hself : selfIntersects ring = true := by
      rw [← List.rotate_zero ring]
      exact hrotate 0
    rw [hself]
    exact ⟨hrotate, hreverse⟩

end Edges

/-! ## The other checks -/

theorem foldl_max_le_iff {point : GeoPoint} {rest : List GeoPoint} {c : ℚ} :
    rest.foldl (fun maximum q => max maximum q.longitude) point.longitude ≤ c ↔
      ∀ q ∈ point :: rest, q.longitude ≤ c := by
  rw [List.forall_mem_cons]
  generalize point.longitude = maximum
  induction rest generalizing maximum with
  | nil => simp only [List.foldl_nil, List.not_mem_nil, false_imp_iff, implies_true, and_true]
  | cons q rest ih => rw [List.foldl_cons, ih, max_le_iff, List.forall_mem_cons, and_assoc]

theorem le_foldl_min_iff {point : GeoPoint} {rest : List GeoPoint} {c : ℚ} :
    c ≤ rest.foldl (fun minimum q => min minimum q.longitude) point.longitude ↔
      ∀ q ∈ point :: rest, c ≤ q.longitude := by
  rw [List.forall_mem_cons]
  generalize point.longitude = minimum
  induction rest generalizing minimum with
  | nil => simp only [List.foldl_nil, List.not_mem_nil, false_imp_iff, implies_true, and_true]
  | cons q rest ih => rw [List.foldl_cons, ih, le_min_iff, List.forall_mem_cons, and_assoc]

theorem longitudeSpan_le_iff {points : List GeoPoint} {c : ℚ} (hc : 0 ≤ c) :
    longitudeSpan points ≤ c ↔
      ∀ p ∈ points, ∀ q ∈ points, p.longitude - q.longitude ≤ c := by
  cases points with
  | nil => simpa only [longitudeSpan, List.not_mem_nil, false_imp_iff, implies_true, iff_true]
  | cons point rest =>
      rw [longitudeSpan, sub_le_iff_le_add, foldl_max_le_iff]
      refine forall₂_congr fun p _ => ?_
      rw [← sub_le_iff_le_add', le_foldl_min_iff]
      exact forall₂_congr fun q _ => sub_le_comm

theorem validCoordinates_perm {points points' : List GeoPoint} (h : points.Perm points') :
    validCoordinates points = validCoordinates points' := by
  have hspan : longitudeSpan points ≤ 180 ↔ longitudeSpan points' ≤ 180 := by
    rw [longitudeSpan_le_iff (by norm_num), longitudeSpan_le_iff (by norm_num)]
    simp only [h.mem_iff]
  rw [validCoordinates, validCoordinates, h.all_eq, decide_eq_decide.2 hspan]

theorem hasDegenerateEdge_rotate (ring : List GeoPoint) (k : ℕ) :
    hasDegenerateEdge (ring.rotate k) = hasDegenerateEdge ring := by
  rw [hasDegenerateEdge, cyclicPairs_rotate]
  exact (List.rotate_perm (cyclicPairs ring) k).any_eq

theorem hasDegenerateEdge_reverse (ring : List GeoPoint) :
    hasDegenerateEdge ring.reverse = hasDegenerateEdge ring := by
  rw [hasDegenerateEdge, (cyclicPairs_reverse_perm ring).any_eq, List.any_map]
  congr 1
  funext e
  exact samePoint_comm e.2 e.1

theorem abs_signedArea_rotate (ring : List GeoPoint) (k : ℕ) :
    |signedArea (ring.rotate k)| = |signedArea ring| := by
  rw [signedArea_eq, List.map_rotate, doubleArea_rotate, ← signedArea_eq]

theorem abs_signedArea_reverse (ring : List GeoPoint) :
    |signedArea ring.reverse| = |signedArea ring| := by
  rw [signedArea_eq, List.map_reverse, doubleArea_reverse, neg_div, abs_neg, ← signedArea_eq]

/-! ## The verdict -/

def accepted (points : List GeoPoint) : Bool := (validatedPolygon points).isOk

/-- Without coinciding neighbours no closing vertex is dropped. -/
theorem accepted_iff {ring : List GeoPoint} (h : hasDegenerateEdge ring = false) :
    accepted ring = true ↔ 3 ≤ ring.length ∧ validCoordinates ring = true ∧
      geometryEpsilon < |signedArea ring| ∧ selfIntersects ring = false := by
  have hopen := openVertices_of_edges h
  unfold accepted validatedPolygon
  simp only [hopen, h, Bool.false_eq_true, false_or]
  split
  · next hfails =>
      refine iff_of_false Bool.false_ne_true ?_
      rintro ⟨hlength, hvalid, harea, hfree⟩
      rcases hfails with hfail | hfail | hfail | hfail
      · exact absurd hlength (not_le.2 hfail)
      · exact hfail hvalid
      · exact absurd harea (not_lt.2 hfail)
      · exact Bool.false_ne_true (hfree.symm.trans hfail)
  · next hpasses =>
      simp only [not_or, not_lt, not_le, Bool.not_eq_true, Bool.not_eq_false] at hpasses
      exact iff_of_true rfl hpasses

theorem accepted_congr {ring ring' : List GeoPoint} (hperm : ring'.Perm ring)
    (hneighbours : hasDegenerateEdge ring = false)
    (hneighbours' : hasDegenerateEdge ring' = false)
    (harea : |signedArea ring'| = |signedArea ring|)
    (hedges : validCoordinates ring = false ∨ |signedArea ring| ≤ geometryEpsilon ∨
      selfIntersects ring' = selfIntersects ring) : accepted ring' = accepted ring := by
  rw [Bool.eq_iff_iff, accepted_iff hneighbours, accepted_iff hneighbours', hperm.length_eq,
    validCoordinates_perm hperm, harea]
  refine and_congr_right fun _ => and_congr_right fun hvalid => and_congr_right fun hwide => ?_
  rcases hedges with hinvalid | hnarrow | hsame
  · exact absurd (hinvalid.symm.trans hvalid) Bool.false_ne_true
  · exact absurd hwide (not_lt.2 hnarrow)
  · rw [hsame]

/-- The rings whose verdict does not depend on where and in which direction they are drawn. -/
theorem accepted_redrawn (ring : List GeoPoint) (hneighbours : hasDegenerateEdge ring = false)
    (hsettled : validCoordinates ring = false ∨ |signedArea ring| ≤ geometryEpsilon ∨
      EdgesSettled ring) :
    (∀ k, accepted (ring.rotate k) = accepted ring) ∧ accepted ring.reverse = accepted ring := by
  constructor
  · intro k
    refine accepted_congr (List.rotate_perm ring k) hneighbours ?_ (abs_signedArea_rotate ring k)
      (hsettled.imp_right (Or.imp_right fun h => (selfIntersects_redrawn h).1 k))
    rw [hasDegenerateEdge_rotate, hneighbours]
  · refine accepted_congr (List.reverse_perm ring) hneighbours ?_ (abs_signedArea_reverse ring)
      (hsettled.imp_right (Or.imp_right fun h => (selfIntersects_redrawn h).2))
    rw [hasDegenerateEdge_reverse, hneighbours]

theorem accepted_redrawn_square : (∀ k, accepted (squarePolygon.vertices.rotate k) = true) ∧
    accepted squarePolygon.vertices.reverse = true := by
  have halike : ∀ e ∈ cyclicPairs squarePolygon.vertices,
      ∀ e' ∈ cyclicPairs squarePolygon.vertices, AlmostParallel e e' →
        edgesIntersect e e' = edgesIntersect e' e ∧
          edgesIntersect e.swap e'.swap = edgesIntersect e e' := by decide +kernel
  have haccepted : accepted squarePolygon.vertices = true := by decide +kernel
  rw [← haccepted]
  exact accepted_redrawn squarePolygon.vertices squarePolygon.edges
    (.inr (.inr (.inl fun i j e e' he he' _ =>
      halike e (List.mem_of_getElem? he) e' (List.mem_of_getElem? he'))))

/-- The crossed ring is refused from its second vertex and the other way, where the crossing is
asked of the long edge; a triangle with its last vertex twice is accepted from there. -/
theorem crossedPolygon_redrawn :
    (openVertices crossedPolygon.vertices = crossedPolygon.vertices ∧
      accepted crossedPolygon.vertices = true ∧
      accepted (crossedPolygon.vertices.rotate 1) = false ∧
      accepted crossedPolygon.vertices.reverse = false) ∧
    (openVertices [⟨0, 0⟩, ⟨0, 10⟩, ⟨10, 10⟩, ⟨10, 10⟩] =
        [⟨0, 0⟩, ⟨0, 10⟩, ⟨10, 10⟩, ⟨10, 10⟩] ∧
      accepted [⟨0, 0⟩, ⟨0, 10⟩, ⟨10, 10⟩, ⟨10, 10⟩] = false ∧
      accepted ([⟨0, 0⟩, ⟨0, 10⟩, ⟨10, 10⟩, ⟨10, 10⟩].rotate 3) = true) := by
  decide +kernel

end GcsSaker
