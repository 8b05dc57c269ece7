import AgvDispatch.Proofs.Geometry.Curve
import AgvDispatch.Proofs.Geometry.Distance
import AgvDispatch.Proofs.ListParts
import AgvDispatch.Proofs.Network.Lattice
import AgvDispatch.Proofs.Network.Length
/-!
# Roads that are driven both ways

Joining two waypoints both ways keeps a record of the edge for each direction. The line that is
driven back is the line that is driven there, point for point from its end, exactly if the control
points that shape it come in the opposite order (`Edge.polyline_reverse_iff`): a sample of a curve
at `t` is one of the curve backwards at `1 - t`, and two samples between the ends tell two curves of
one kind apart.

The record for the way back is made by looking only at which control points there are. For a curve
with one control point this goes wrong if the record has another point in second place, which the
way there ignores: the way back is bent by that point, or bent at all where the way there is
straight (`Edge.Reversible`, `Network.stepLine_addTwoWayEdge_iff`).

A route along roads that can be driven back has the same points from either side, and the same
length (`Network.TwoWay.wayBack`).
-/

namespace AgvDispatch

/-- How many control points a kind of curve needs. -/
def CurveKind.controls : CurveKind → ℕ
  | .straight | .lateralStraight => 0
  | .quadratic | .lateralQuadratic => 1
  | .cubic | .lateralCubic => 2

namespace Edge

/-! ### Records for both directions -/

/-- An edge is shaped by as many control points as its kind of curve needs, or by none. -/
theorem controlPoints_length (e : Edge ℝ) :
    e.controlPoints = [] ∨ e.controlPoints.length = e.curve.controls := by
  obtain ⟨curve, control₁, control₂, distance⟩ := e
  cases curve <;> cases control₁ <;> cases control₂ <;> simp [controlPoints, CurveKind.controls]

theorem controls_le (kind : CurveKind) : kind.controls ≤ 2 := by
  cases kind <;> simp [CurveKind.controls]

/-- The line from one position to another that is shaped by some control points. -/
def lineThrough {α : Type} [Scalar α] (cs : List (Point α)) (p q : Point α) : List (Point α) :=
  match cs with
  | [c] => Curve.quadratic p c q
  | [c₁, c₂] => Curve.cubic p c₁ c₂ q
  | _ => [p, q]

theorem polyline_eq (e : Edge ℝ) (p q : Point ℝ) :
    e.polyline p q = lineThrough e.controlPoints p q := by
  unfold polyline
  match e.controlPoints with
  | [] => rfl
  | [c] => rfl
  | [c₁, c₂] => rfl
  | c₁ :: c₂ :: c₃ :: rest => rfl

theorem lineThrough_of_long {cs : List (Point ℝ)} (h : 2 < cs.length) (p q : Point ℝ) :
    lineThrough cs p q = [p, q] := by
  match cs with
  | c₁ :: c₂ :: c₃ :: rest => rfl

/-- A line backwards is shaped by the same control points in the opposite order. -/
theorem lineThrough_reverse (cs : List (Point ℝ)) (p q : Point ℝ) :
    (lineThrough cs p q).reverse = lineThrough cs.reverse q p := by
  match cs with
  | [] => rfl
  | [c] => exact Curve.quadratic_reverse p c q
  | [c₁, c₂] => exact Curve.cubic_reverse p c₁ c₂ q
  | c₁ :: c₂ :: c₃ :: rest =>
    rw [lineThrough_of_long (by simp), lineThrough_of_long (by simp)]
    rfl

/-- Lines of one kind with different control points are different. -/
theorem lineThrough_inj {cs cs' : List (Point ℝ)} {k : ℕ} (hk : k ≤ 2)
    (h : cs = [] ∨ cs.length = k) (h' : cs' = [] ∨ cs'.length = k) {p q : Point ℝ}
    (heq : lineThrough cs p q = lineThrough cs' p q) : cs = cs' := by
  have hcount := Curve.le_segmentCount p q
  have hlen := congrArg List.length heq
  match cs, cs' with
  | [], [] => rfl
  | [], [c] =>
    simp only [lineThrough, Curve.length_quadratic, List.length_cons, List.length_nil] at hlen
    omega
  | [], [c₁, c₂] =>
    simp only [lineThrough, Curve.length_cubic, List.length_cons, List.length_nil] at hlen
    omega
  | [c], [] =>
    simp only [lineThrough, Curve.length_quadratic, List.length_cons, List.length_nil] at hlen
    omega
  | [c₁, c₂], [] =>
    simp only [lineThrough, Curve.length_cubic, List.length_cons, List.length_nil] at hlen
    omega
  | [c], [c'] => rw [Curve.quadratic_inj heq]
  | [c₁, c₂], [c₁', c₂'] =>
    obtain ⟨h₁, h₂⟩ := Curve.cubic_inj heq
    rw [h₁, h₂]
  | [c], [c₁, c₂] => simp at h h'; omega
  | [c₁, c₂], [c] => simp at h h'; omega
  | _ :: _ :: _ :: _, _ => simp at h; omega
  | _, _ :: _ :: _ :: _ => simp at h'; omega

/-- **When one line is the other one backwards**: the control points that shape them come in the
opposite order. -/
theorem polyline_reverse_iff {e f : Edge ℝ} (hcurve : f.curve = e.curve) (p q : Point ℝ) :
    f.polyline q p = (e.polyline p q).reverse ↔ f.controlPoints = e.controlPoints.reverse := by
  rw [polyline_eq, polyline_eq, lineThrough_reverse]
  constructor
  · apply lineThrough_inj (controls_le e.curve)
    · rw [← hcurve]
      exact f.controlPoints_length
    · simpa using e.controlPoints_length
  · intro h
    rw [h]

/-- **Which records can be reversed**: a curve with one control point must not have another point in
second place. -/
def Reversible (e : Edge ℝ) : Prop :=
  e.curve.controls = 1 → e.control₂ = none ∨ e.control₂ = e.control₁

@[simp] theorem curve_reversed (e : Edge ℝ) : e.reversed.curve = e.curve := by
  unfold reversed
  split <;> rfl

@[simp] theorem distance_reversed (e : Edge ℝ) : e.reversed.distance = e.distance := by
  unfold reversed
  split <;> rfl

/-- **The control points change their order exactly if the record can be reversed.** -/
theorem controlPoints_reversed_iff (e : Edge ℝ) :
    e.reversed.controlPoints = e.controlPoints.reverse ↔ e.Reversible := by
  obtain ⟨curve, control₁, control₂, distance⟩ := e
  cases curve <;> cases control₁ <;> cases control₂ <;>
    simp [reversed, controlPoints, Reversible, CurveKind.controls]

theorem reversible_straight : (straight : Edge ℝ).Reversible :=
  fun h => absurd h (by decide)

end Edge

/-! ### Polylines backwards -/

theorem polylineSegments_eq_map {line : List (Point ℝ)} (h : 2 ≤ line.length) :
    polylineSegments line = (line.zip line.tail).map fun ends => ⟨ends.1, ends.2⟩ := by
  match line with
  | p :: q :: rest =>
    change List.zipWith Segment.mk _ _ = _
    rw [← List.map_uncurry_zip_eq_zipWith]
    rfl

/-- A polyline backwards has its segments turned around, in the opposite order. -/
theorem polylineSegments_reverse (line : List (Point ℝ)) :
    polylineSegments line.reverse = ((polylineSegments line).map Segment.flip).reverse := by
  match line with
  | [] => rfl
  | [p] => rfl
  | p :: q :: rest =>
    have hlen : 2 ≤ (p :: q :: rest).length := by simp
    rw [polylineSegments_eq_map hlen, polylineSegments_eq_map (by simp),
      zip_tail_reverse, List.map_reverse, List.map_map, List.map_map]
    rfl

namespace Network

theorem lineLength_reverse (line : List (Point ℝ)) : lineLength line.reverse = lineLength line := by
  rw [lineLength_eq_sum, lineLength_eq_sum, zip_tail_reverse, List.map_reverse, List.sum_reverse,
    List.map_map]
  congr 2
  funext ends
  exact Point.distance_comm _ _

/-! ### Steps backwards -/

/-- Two waypoints joined both ways by a record that can be reversed. -/
def TwoWay (n : Network ℝ) (a b : Waypoint) : Prop :=
  ∃ e : Edge ℝ, e.Reversible ∧ ((n.edge? a b = some e ∧ n.edge? b a = some e.reversed)
    ∨ (n.edge? b a = some e ∧ n.edge? a b = some e.reversed))

theorem TwoWay.symm {n : Network ℝ} {a b : Waypoint} (h : n.TwoWay a b) : n.TwoWay b a := by
  obtain ⟨e, he, hstored⟩ := h
  exact ⟨e, he, hstored.symm⟩

/-- What is kept for the two directions of a road that can be driven back. -/
theorem TwoWay.exists_opposite {n : Network ℝ} {a b : Waypoint} (h : n.TwoWay a b) :
    ∃ e f : Edge ℝ, n.edge? a b = some e ∧ n.edge? b a = some f ∧ f.curve = e.curve
      ∧ f.distance = e.distance ∧ f.controlPoints = e.controlPoints.reverse := by
  obtain ⟨e, he, ⟨hab, hba⟩ | ⟨hba, hab⟩⟩ := h
  · exact ⟨e, e.reversed, hab, hba, e.curve_reversed, e.distance_reversed,
      e.controlPoints_reversed_iff.mpr he⟩
  · refine ⟨e.reversed, e, hab, hba, e.curve_reversed.symm, e.distance_reversed.symm, ?_⟩
    rw [e.controlPoints_reversed_iff.mpr he, List.reverse_reverse]

theorem stepLine_of_edge? {n : Network ℝ} {a b : Waypoint} {e : Edge ℝ} (h : n.edge? a b = some e)
    (p q : Point ℝ) : n.stepLine a b p q = e.polyline p q := by
  unfold stepLine
  rw [h]
  rfl

theorem TwoWay.stepLine_reverse {n : Network ℝ} {a b : Waypoint} (h : n.TwoWay a b)
    (p q : Point ℝ) : n.stepLine b a q p = (n.stepLine a b p q).reverse := by
  obtain ⟨e, f, hab, hba, hcurve, -, hcontrols⟩ := h.exists_opposite
  rw [stepLine_of_edge? hab, stepLine_of_edge? hba]
  exact (Edge.polyline_reverse_iff hcurve p q).mpr hcontrols

/-- **A road that can be driven back is as long from either side.** -/
theorem TwoWay.stepLength_comm {n : Network ℝ} {a b : Waypoint} (h : n.TwoWay a b) :
    n.stepLength b a = n.stepLength a b := by
  obtain ⟨e, f, hab, hba, hcurve, hdistance, hcontrols⟩ := h.exists_opposite
  unfold stepLength
  simp only [hab, hba, Option.getD_some, hdistance]
  split
  · rfl
  · cases n.position a with
    | none => cases n.position b <;> rfl
    | some p =>
      cases n.position b with
      | none => rfl
      | some q =>
        simp only
        rw [(Edge.polyline_reverse_iff hcurve p q).mpr hcontrols, lineLength_reverse]

/-! ### Routes backwards -/

end Network

theorem Route.steps_reverse (route : Route) :
    Route.steps route.reverse = (route.steps.map Prod.swap).reverse :=
  zip_tail_reverse route

namespace Network

theorem resolve_reverse (n : Network ℝ) (route : Route) :
    n.resolve route.reverse = (n.resolve route).map List.reverse := by
  have hsome : ∀ {route : Route} {points}, n.resolve route = some points →
      n.resolve route.reverse = some points.reverse := by
    intro route points h
    rw [resolve_eq_some_iff] at h ⊢
    exact List.rel_reverse h
  cases hthere : n.resolve route with
  | some points => exact hsome hthere
  | none =>
    cases hback : n.resolve route.reverse with
    | none => rfl
    | some points =>
      -- Both routes pass the same waypoints.
      have hagain := hsome hback
      rw [List.reverse_reverse, hthere] at hagain
      cases hagain

theorem stepLines_eq_map (n : Network ℝ) (located : List (Waypoint × Point ℝ)) :
    n.stepLines located = (located.zip located.tail).map
      fun ends => n.stepLine ends.1.1 ends.2.1 ends.1.2 ends.2.2 := by
  induction located with
  | nil => rfl
  | cons first located ih =>
    match located with
    | [] => rfl
    | second :: rest =>
      rw [stepLines_cons_cons, ih]
      rfl

/-- The steps of a route with positions are steps of the route. -/
theorem mem_steps_of_mem_zip {route : Route} {points : List (Point ℝ)}
    {ends : (Waypoint × Point ℝ) × Waypoint × Point ℝ}
    (h : ends ∈ (route.zip points).zip (route.zip points).tail) :
    (ends.1.1, ends.2.1) ∈ route.steps := by
  obtain ⟨i, hi, rfl⟩ := List.mem_iff_getElem.mp h
  simp only [List.length_zip, List.length_tail] at hi
  refine List.mem_iff_getElem.mpr ⟨i, ?_, ?_⟩
  · simp only [Route.steps, List.length_zip, List.length_tail]
    omega
  · simp [Route.steps]

/-- **A route along roads that can be driven back** is driven back along the same lines. -/
theorem stepLines_reverse {n : Network ℝ} {route : Route} {points : List (Point ℝ)}
    (hlen : route.length = points.length) (h : ∀ step ∈ route.steps, n.TwoWay step.1 step.2) :
    n.stepLines (route.reverse.zip points.reverse)
      = ((n.stepLines (route.zip points)).map List.reverse).reverse := by
  rw [List.zip_eq_zipWith, ← List.reverse_zipWith hlen, ← List.zip_eq_zipWith, stepLines_eq_map,
    stepLines_eq_map, zip_tail_reverse, List.map_reverse, List.map_map, List.map_map]
  congr 1
  apply List.map_congr_left
  intro ends hends
  exact (h _ (mem_steps_of_mem_zip hends)).stepLine_reverse _ _

theorem ne_nil_of_mem_stepLines {n : Network ℝ} {located : List (Waypoint × Point ℝ)}
    {line : List (Point ℝ)} (h : line ∈ n.stepLines located) : line ≠ [] := by
  rw [stepLines_eq_map] at h
  obtain ⟨ends, -, rfl⟩ := List.mem_map.mp h
  exact n.stepLine_ne_nil _ _ _ _

end Network

namespace Skeleton

/-- A skeleton has the parts it is made from, if none of them is empty. -/
theorem map_parts_ofParts? {parts : List (List (Point ℝ))} (hparts : parts ≠ [])
    (hne : ∀ part ∈ parts, part ≠ []) : (ofParts? parts).map Skeleton.parts = some parts := by
  match parts with
  | [] :: parts => exact absurd rfl (hne [] List.mem_cons_self)
  | (first :: rest) :: parts =>
    have hfilter : (parts.filter fun part => !part.isEmpty) = parts := by
      rw [List.filter_eq_self]
      intro part hpart
      simpa using hne part (List.mem_cons_of_mem _ hpart)
    rw [ofParts?]
    simp only [Option.map_some, Skeleton.parts, hfilter]

/-- A skeleton whose parts are driven backwards, in the opposite order, has the same points. -/
theorem region_of_parts_reverse {s t : Skeleton ℝ}
    (h : t.parts = (s.parts.map List.reverse).reverse) : t.region = s.region := by
  ext p
  simp only [region, segments, h, Set.mem_ofPred_eq, List.mem_flatMap, List.mem_reverse,
    List.mem_map]
  constructor
  · rintro ⟨segment, ⟨-, ⟨part, hpart, rfl⟩, hseg⟩, hp⟩
    rw [polylineSegments_reverse, List.mem_reverse] at hseg
    obtain ⟨other, hother, rfl⟩ := List.mem_map.mp hseg
    exact ⟨other, ⟨part, hpart, hother⟩, other.points_flip ▸ hp⟩
  · rintro ⟨segment, ⟨part, hpart, hseg⟩, hp⟩
    refine ⟨segment.flip, ⟨_, ⟨part, hpart, rfl⟩, ?_⟩, segment.points_flip.symm ▸ hp⟩
    rw [polylineSegments_reverse, List.mem_reverse]
    exact List.mem_map.mpr ⟨segment, hseg, rfl⟩

end Skeleton

namespace Network

/-- The skeleton of a route of several waypoints is made from the lines of its steps. -/
theorem map_parts_skeleton? {n : Network ℝ} {route : Route} (h : 2 ≤ route.length) :
    (n.skeleton? route).map Skeleton.parts
      = (n.resolve route).map fun points => n.stepLines (route.zip points) := by
  have hroute : n.skeleton? route = (n.resolve route).bind fun points =>
      Skeleton.ofParts? (n.stepLines (route.zip points)) := by
    match route with
    | a :: b :: rest => rfl
  rw [hroute]
  cases hpoints : n.resolve route with
  | none => rfl
  | some points =>
    have hlen : route.length = points.length := (resolve_eq_some_iff.mp hpoints).length_eq
    have hlines : n.stepLines (route.zip points) ≠ [] := by
      rw [stepLines_eq_map]
      apply List.ne_nil_of_length_pos
      simp only [List.length_map, List.length_zip, List.length_tail]
      omega
    exact Skeleton.map_parts_ofParts? hlines fun _ => ne_nil_of_mem_stepLines

theorem map_parts_skeleton?_reverse {n : Network ℝ} {route : Route}
    (h : ∀ step ∈ route.steps, n.TwoWay step.1 step.2) :
    (n.skeleton? route.reverse).map Skeleton.parts
      = (n.skeleton? route).map fun s => (s.parts.map List.reverse).reverse := by
  match route with
  | [] => rfl
  | [w] =>
    simp only [List.reverse_singleton, skeleton?, Option.map_map]
    rfl
  | a :: b :: rest =>
    generalize hroute : a :: b :: rest = route at h ⊢
    have htwo : 2 ≤ route.length := by simp [← hroute]
    have hparts := congrArg (Option.map fun parts => (parts.map List.reverse).reverse)
      (map_parts_skeleton? (n := n) htwo)
    rw [Option.map_map] at hparts
    refine Eq.trans ?_ hparts.symm
    rw [map_parts_skeleton? (by simpa using htwo), resolve_reverse]
    cases hpoints : n.resolve route with
    | none => rfl
    | some points =>
      have hlen : route.length = points.length := (resolve_eq_some_iff.mp hpoints).length_eq
      exact congrArg some (stepLines_reverse hlen h)

/-- What a route comes to that is driven back. -/
structure WayBack (n : Network ℝ) (route : Route) : Prop where
  /-- The points of the skeleton are passed in the opposite order, or neither way has a skeleton. -/
  parts_eq : (n.skeleton? route.reverse).map Skeleton.parts
    = (n.skeleton? route).map fun s => (s.parts.map List.reverse).reverse
  /-- Both ways cover the same points. -/
  region_eq : (n.skeleton? route.reverse).map Skeleton.region
    = (n.skeleton? route).map Skeleton.region
  /-- Both ways are equally long. -/
  length_eq : n.routeLength route.reverse = n.routeLength route

/-- **A route along roads that can be driven back** has the same points and the same length from
either side. -/
theorem TwoWay.wayBack {n : Network ℝ} {route : Route}
    (h : ∀ step ∈ route.steps, n.TwoWay step.1 step.2) : n.WayBack route where
  parts_eq := map_parts_skeleton?_reverse h
  region_eq := by
    have hparts := map_parts_skeleton?_reverse h
    cases hs : n.skeleton? route with
    | none =>
      rw [hs, Option.map_none, Option.map_eq_none_iff] at hparts
      rw [hparts]
    | some s =>
      rw [hs, Option.map_some] at hparts
      obtain ⟨t, ht, heq⟩ := Option.map_eq_some_iff.mp hparts
      rw [ht, Option.map_some, Option.map_some, Skeleton.region_of_parts_reverse heq]
  length_eq := by
    rw [routeLength_eq_sum, routeLength_eq_sum, Route.steps_reverse, List.map_reverse,
      List.sum_reverse, List.map_map]
    congr 1
    apply List.map_congr_left
    intro step hstep
    exact (h step hstep).stepLength_comm

/-! ### Joining two waypoints both ways -/

theorem edge?_addTwoWayEdge (n : Network ℝ) (a b : Waypoint) (e : Edge ℝ) (x y : Waypoint) :
    (n.addTwoWayEdge a b e).edge? x y
      = if b = x ∧ a = y then some e.reversed
        else if a = x ∧ b = y then some e else n.edge? x y := by
  unfold addTwoWayEdge
  rw [edge?_addEdge, edge?_addEdge]

theorem edge?_addTwoWayEdge_back (n : Network ℝ) (a b : Waypoint) (e : Edge ℝ) :
    (n.addTwoWayEdge a b e).edge? b a = some e.reversed := by
  rw [edge?_addTwoWayEdge, if_pos ⟨rfl, rfl⟩]

theorem edge?_addTwoWayEdge_there (n : Network ℝ) {a b : Waypoint} (hne : a ≠ b) (e : Edge ℝ) :
    (n.addTwoWayEdge a b e).edge? a b = some e := by
  rw [edge?_addTwoWayEdge, if_neg (fun h => hne h.2), if_pos ⟨rfl, rfl⟩]

/-- **When the stored way back is the stored way there, backwards.** -/
theorem stepLine_addTwoWayEdge_iff (n : Network ℝ) {a b : Waypoint} (hne : a ≠ b) (e : Edge ℝ)
    (p q : Point ℝ) :
    (n.addTwoWayEdge a b e).stepLine b a q p = ((n.addTwoWayEdge a b e).stepLine a b p q).reverse
      ↔ e.Reversible := by
  rw [stepLine_of_edge? (n.edge?_addTwoWayEdge_back a b e),
    stepLine_of_edge? (n.edge?_addTwoWayEdge_there hne e),
    Edge.polyline_reverse_iff e.curve_reversed, Edge.controlPoints_reversed_iff]

/-- A loop keeps the record for the way back only. -/
theorem stepLine_addTwoWayEdge_self_iff (n : Network ℝ) (a : Waypoint) (e : Edge ℝ)
    (p q : Point ℝ) :
    (n.addTwoWayEdge a a e).stepLine a a q p = ((n.addTwoWayEdge a a e).stepLine a a p q).reverse
      ↔ e.reversed.controlPoints = e.reversed.controlPoints.reverse := by
  rw [stepLine_of_edge? (n.edge?_addTwoWayEdge_back a a e),
    stepLine_of_edge? (n.edge?_addTwoWayEdge_back a a e), Edge.polyline_reverse_iff rfl]

theorem twoWay_addTwoWayEdge (n : Network ℝ) {a b : Waypoint} {e : Edge ℝ}
    (hends : a ≠ b ∨ e.reversed = e) (he : e.Reversible) : (n.addTwoWayEdge a b e).TwoWay a b := by
  refine ⟨e, he, Or.inl ⟨?_, n.edge?_addTwoWayEdge_back a b e⟩⟩
  by_cases hab : a = b
  · rw [hab, edge?_addTwoWayEdge_back, hends.resolve_left (not_not.mpr hab)]
  · exact n.edge?_addTwoWayEdge_there hab e

/-- **A road that can be driven back stays one** when further roads are added that can. -/
theorem TwoWay.addTwoWayEdge {n : Network ℝ} {x y : Waypoint} (h : n.TwoWay x y) {a b : Waypoint}
    {e : Edge ℝ} (hends : a ≠ b ∨ e.reversed = e) (he : e.Reversible) :
    (n.addTwoWayEdge a b e).TwoWay x y := by
  by_cases hthere : a = x ∧ b = y
  · rw [← hthere.1, ← hthere.2]
    exact n.twoWay_addTwoWayEdge hends he
  · by_cases hback : b = x ∧ a = y
    · rw [← hback.1, ← hback.2]
      exact (n.twoWay_addTwoWayEdge hends he).symm
    · unfold TwoWay
      rw [edge?_addTwoWayEdge, if_neg hback, if_neg hthere, edge?_addTwoWayEdge,
        if_neg (fun hxy => hthere hxy.symm), if_neg (fun hxy => hback hxy.symm)]
      exact h

/-- Whether every edge of a network can be driven back. -/
def AllTwoWay (n : Network ℝ) : Prop := ∀ a b e, n.edge? a b = some e → n.TwoWay a b

theorem AllTwoWay.addTwoWayEdge {n : Network ℝ} (h : n.AllTwoWay) {a b : Waypoint} {e : Edge ℝ}
    (hends : a ≠ b ∨ e.reversed = e) (he : e.Reversible) : (n.addTwoWayEdge a b e).AllTwoWay := by
  intro x y f hf
  rw [edge?_addTwoWayEdge] at hf
  split at hf
  · rename_i hback
    rw [← hback.1, ← hback.2]
    exact (n.twoWay_addTwoWayEdge hends he).symm
  · split at hf
    · rename_i hthere
      rw [← hthere.1, ← hthere.2]
      exact n.twoWay_addTwoWayEdge hends he
    · exact (h x y f hf).addTwoWayEdge hends he

theorem AllTwoWay.addLatticePoint {n : Network ℝ} (h : n.AllTwoWay) (mapId : Int) (cols : Nat)
    (spacing : ℝ) (col row : Nat) : (addLatticePoint mapId cols spacing n col row).AllTwoWay := by
  have hpoint : ∀ p, (n.addPoint (latticePoint mapId cols col row) p).AllTwoWay := fun p => h
  have hjoin : ∀ {m : Network ℝ} (a b : Waypoint), m.AllTwoWay →
      (m.addTwoWayEdge a b Edge.straight).AllTwoWay :=
    fun a b hm => hm.addTwoWayEdge (Or.inr rfl) Edge.reversible_straight
  unfold Network.addLatticePoint
  simp only
  split <;> split
  · exact hpoint _
  · exact hjoin _ _ (hpoint _)
  · exact hjoin _ _ (hpoint _)
  · exact hjoin _ _ (hjoin _ _ (hpoint _))

/-- **Every edge of a lattice can be driven back.** -/
theorem allTwoWay_lattice (mapId cols rows : Int) (spacing : ℝ) :
    (lattice mapId cols rows spacing).AllTwoWay := by
  rw [lattice_eq]
  unfold addCells
  apply List.foldlRecOn
  · intro a b e he
    simp [edge?] at he
  · intro n hn cell _
    exact hn.addLatticePoint mapId cols.toNat spacing cell.1 cell.2

/-- On a lattice every route along its edges has the same points and the same length from either
side. -/
theorem wayBack_lattice (mapId cols rows : Int) (spacing : ℝ) {route : Route}
    (h : ∀ step ∈ route.steps,
      ((lattice mapId cols rows spacing).edge? step.1 step.2).isSome = true) :
    (lattice mapId cols rows spacing).WayBack route := by
  apply TwoWay.wayBack
  intro step hstep
  obtain ⟨e, he⟩ := Option.isSome_iff_exists.mp (h step hstep)
  exact allTwoWay_lattice mapId cols rows spacing step.1 step.2 e he

/-- **What joining two waypoints both ways comes to.** -/
structure DrivenBothWays (n : Network ℝ) : Prop where
  /-- The stored way back is the stored way there, backwards, for the records that can be reversed
  and for no others. -/
  line_iff : ∀ (a b : Waypoint) (e : Edge ℝ) (p q : Point ℝ), a ≠ b →
    ((n.addTwoWayEdge a b e).stepLine b a q p = ((n.addTwoWayEdge a b e).stepLine a b p q).reverse
      ↔ e.Reversible)
  /-- A loop is the same both ways if it looks the same from its two ends. -/
  loop_iff : ∀ (a : Waypoint) (e : Edge ℝ) (p q : Point ℝ),
    ((n.addTwoWayEdge a a e).stepLine a a q p = ((n.addTwoWayEdge a a e).stepLine a a p q).reverse
      ↔ e.reversed.controlPoints = e.reversed.controlPoints.reverse)
  /-- A record that can be reversed joins two waypoints by a road that can be driven back. -/
  twoWay : ∀ (a b : Waypoint) (e : Edge ℝ), a ≠ b → e.Reversible →
    (n.addTwoWayEdge a b e).TwoWay a b
  /-- A route along such roads has the same points and the same length from either side. -/
  wayBack : ∀ route : Route, (∀ step ∈ route.steps, n.TwoWay step.1 step.2) → n.WayBack route

theorem drivenBothWays (n : Network ℝ) : n.DrivenBothWays where
  line_iff := fun _ _ e p q hne => n.stepLine_addTwoWayEdge_iff hne e p q
  loop_iff := n.stepLine_addTwoWayEdge_self_iff
  twoWay := fun _ _ _ hne he => n.twoWay_addTwoWayEdge (Or.inl hne) he
  wayBack := fun _ h => TwoWay.wayBack h

/-! ### A way back of another shape -/

/-- Two waypoints joined both ways by a record that has a control point in second place only. -/
noncomputable def bent : Network ℝ :=
  ((({} : Network ℝ).addPoint ⟨1, 1⟩ ⟨0, 0⟩).addPoint ⟨1, 2⟩ ⟨1000, 0⟩).addTwoWayEdge ⟨1, 1⟩ ⟨1, 2⟩
    ⟨.quadratic, none, some ⟨500, -400⟩, 0⟩

/-- **The way there is straight, the way back is bent.** -/
theorem bent_back : bent.position ⟨1, 1⟩ = some ⟨0, 0⟩ ∧ bent.position ⟨1, 2⟩ = some ⟨1000, 0⟩
    ∧ bent.stepLine ⟨1, 1⟩ ⟨1, 2⟩ ⟨0, 0⟩ ⟨1000, 0⟩ = [⟨0, 0⟩, ⟨1000, 0⟩]
    ∧ bent.stepLine ⟨1, 2⟩ ⟨1, 1⟩ ⟨1000, 0⟩ ⟨0, 0⟩
      ≠ (bent.stepLine ⟨1, 1⟩ ⟨1, 2⟩ ⟨0, 0⟩ ⟨1000, 0⟩).reverse := by
  have hne : (⟨1, 1⟩ : Waypoint) ≠ ⟨1, 2⟩ := by decide
  have hposition : ∀ w, bent.position w = if (⟨1, 2⟩ : Waypoint) = w then some ⟨1000, 0⟩
      else if (⟨1, 1⟩ : Waypoint) = w then some ⟨0, 0⟩ else none := by
    intro w
    change ((({} : Network ℝ).addPoint ⟨1, 1⟩ ⟨0, 0⟩).addPoint ⟨1, 2⟩ ⟨1000, 0⟩).position w = _
    rw [position_addPoint, position_addPoint]
    rfl
  refine ⟨?_, ?_, ?_, ?_⟩
  · rw [hposition, if_neg hne.symm, if_pos rfl]
  · rw [hposition, if_pos rfl]
  · exact stepLine_of_edge? (edge?_addTwoWayEdge_there _ hne _) _ _
  · intro h
    have hreversible := (stepLine_addTwoWayEdge_iff _ hne _ _ _).mp h
    rcases hreversible rfl with h | h <;> simp at h

end Network

end AgvDispatch
