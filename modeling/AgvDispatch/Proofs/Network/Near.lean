import AgvDispatch.Proofs.Network.TwoWay
import Mathlib.Tactic.GCongr
/-!
# Points near a route

Whether a point is near a route is decided by a box first and by the distance to the skeleton
second. In exact arithmetic the box never decides anything that the distance would not
(`Network.nearAsMeasured`).

The box of a route is the one around its waypoints and the control points of its edges, while the
skeleton is made of samples of the curves. A sample is a mean of the ends of the edge and of the
control points that shape it, with weights that are not negative and add up to one, so it lies in
every box that holds these (`Edge.contains_of_mem_polyline`). Hence the box of a route holds all
that the route covers (`Network.contains_of_mem_covered`), and, expanded by a tolerance, all that is
within the tolerance of it.
-/

namespace AgvDispatch

/-! ### Samples of a curve -/

namespace Curve

theorem mem_unit_of_mem_parameters {n : ℕ} {t : ℝ} (h : t ∈ parameters n) : 0 ≤ t ∧ t ≤ 1 := by
  obtain ⟨i, hi, rfl⟩ := List.mem_map.mp h
  have hle : (i : ℝ) ≤ n := by exact_mod_cast Nat.lt_succ_iff.mp (List.mem_range.mp hi)
  have hn : (0 : ℝ) ≤ n := Nat.cast_nonneg n
  exact ⟨div_nonneg (Nat.cast_nonneg i) hn, div_le_one_of_le₀ hle hn⟩

/-- The weights of a quadratic sample add up to one. -/
theorem quadraticAt_self (a t : ℝ) : quadraticAt a a a t = a := by
  simp only [quadraticAt]
  push_cast
  ring

/-- The weights of a cubic sample add up to one. -/
theorem cubicAt_self (a t : ℝ) : cubicAt a a a a t = a := by
  simp only [cubicAt]
  push_cast
  ring

/-- The weights of a quadratic sample are not negative. -/
theorem quadraticAt_le_quadraticAt {a c b a' c' b' t : ℝ} (ht : 0 ≤ t ∧ t ≤ 1) (ha : a ≤ a')
    (hc : c ≤ c') (hb : b ≤ b') : quadraticAt a c b t ≤ quadraticAt a' c' b' t := by
  have h₀ : 0 ≤ t := ht.1
  have h₁ : 0 ≤ 1 - t := sub_nonneg.mpr ht.2
  simp only [quadraticAt]
  gcongr

/-- The weights of a cubic sample are not negative. -/
theorem cubicAt_le_cubicAt {a c₁ c₂ b a' c₁' c₂' b' t : ℝ} (ht : 0 ≤ t ∧ t ≤ 1) (ha : a ≤ a')
    (hc₁ : c₁ ≤ c₁') (hc₂ : c₂ ≤ c₂') (hb : b ≤ b') :
    cubicAt a c₁ c₂ b t ≤ cubicAt a' c₁' c₂' b' t := by
  have h₀ : 0 ≤ t := ht.1
  have h₁ : 0 ≤ 1 - t := sub_nonneg.mpr ht.2
  simp only [cubicAt]
  gcongr

/-- **A quadratic sample lies between bounds** of the ends and the control point. -/
theorem quadraticAt_mem_Icc {lo hi a c b t : ℝ} (ht : 0 ≤ t ∧ t ≤ 1) (ha : a ∈ Set.Icc lo hi)
    (hc : c ∈ Set.Icc lo hi) (hb : b ∈ Set.Icc lo hi) : quadraticAt a c b t ∈ Set.Icc lo hi := by
  constructor
  · calc lo = quadraticAt lo lo lo t := (quadraticAt_self lo t).symm
      _ ≤ quadraticAt a c b t := quadraticAt_le_quadraticAt ht ha.1 hc.1 hb.1
  · calc quadraticAt a c b t
      _ ≤ quadraticAt hi hi hi t := quadraticAt_le_quadraticAt ht ha.2 hc.2 hb.2
      _ = hi := quadraticAt_self hi t

/-- **A cubic sample lies between bounds** of the ends and the control points. -/
theorem cubicAt_mem_Icc {lo hi a c₁ c₂ b t : ℝ} (ht : 0 ≤ t ∧ t ≤ 1) (ha : a ∈ Set.Icc lo hi)
    (hc₁ : c₁ ∈ Set.Icc lo hi) (hc₂ : c₂ ∈ Set.Icc lo hi) (hb : b ∈ Set.Icc lo hi) :
    cubicAt a c₁ c₂ b t ∈ Set.Icc lo hi := by
  constructor
  · calc lo = cubicAt lo lo lo lo t := (cubicAt_self lo t).symm
      _ ≤ cubicAt a c₁ c₂ b t := cubicAt_le_cubicAt ht ha.1 hc₁.1 hc₂.1 hb.1
  · calc cubicAt a c₁ c₂ b t ≤ cubicAt hi hi hi hi t := cubicAt_le_cubicAt ht ha.2 hc₁.2 hc₂.2 hb.2
      _ = hi := cubicAt_self hi t

/-- A box that holds the ends and the control point of a quadratic curve holds its samples. -/
theorem contains_of_mem_quadratic {box : Envelope ℝ} {p c q r : Point ℝ}
    (hp : box.contains p = true) (hc : box.contains c = true) (hq : box.contains q = true)
    (hr : r ∈ quadratic p c q) : box.contains r = true := by
  rw [Envelope.contains_iff] at hp hc hq ⊢
  obtain ⟨t, ht, rfl⟩ := List.mem_map.mp hr
  have hunit := mem_unit_of_mem_parameters ht
  exact ⟨quadraticAt_mem_Icc hunit hp.1 hc.1 hq.1, quadraticAt_mem_Icc hunit hp.2 hc.2 hq.2⟩

/-- A box that holds the ends and the control points of a cubic curve holds its samples. -/
theorem contains_of_mem_cubic {box : Envelope ℝ} {p c₁ c₂ q r : Point ℝ}
    (hp : box.contains p = true) (hc₁ : box.contains c₁ = true) (hc₂ : box.contains c₂ = true)
    (hq : box.contains q = true) (hr : r ∈ cubic p c₁ c₂ q) : box.contains r = true := by
  rw [Envelope.contains_iff] at hp hc₁ hc₂ hq ⊢
  obtain ⟨t, ht, rfl⟩ := List.mem_map.mp hr
  have hunit := mem_unit_of_mem_parameters ht
  exact ⟨cubicAt_mem_Icc hunit hp.1 hc₁.1 hc₂.1 hq.1, cubicAt_mem_Icc hunit hp.2 hc₁.2 hc₂.2 hq.2⟩

end Curve

/-! ### Lines of edges -/

namespace Edge

/-- The control points that shape an edge, by how many its curve needs and which are there. -/
theorem controlPoints_eq_match (e : Edge ℝ) : e.controlPoints =
    match e.curve.controls, e.control₁, e.control₂ with
    | 1, some c, _ => [c]
    | 2, some c₁, some c₂ => [c₁, c₂]
    | _, _, _ => [] := by
  obtain ⟨curve, control₁, control₂, distance⟩ := e
  cases curve <;> cases control₁ <;> cases control₂ <;> rfl

/-- The line along an edge, by the same distinction: an edge that lacks a control point its curve
needs is straight. -/
theorem polyline_eq_match (e : Edge ℝ) (p q : Point ℝ) : e.polyline p q =
    match e.curve.controls, e.control₁, e.control₂ with
    | 1, some c, _ => Curve.quadratic p c q
    | 2, some c₁, some c₂ => Curve.cubic p c₁ c₂ q
    | _, _, _ => [p, q] := by
  obtain ⟨curve, control₁, control₂, distance⟩ := e
  cases curve <;> cases control₁ <;> cases control₂ <;> rfl

/-- **The line along an edge lies in every box** that holds its ends and the control points that
shape it. -/
theorem contains_of_mem_polyline {e : Edge ℝ} {box : Envelope ℝ} {p q r : Point ℝ}
    (hp : box.contains p = true) (hq : box.contains q = true)
    (hcontrols : ∀ c ∈ e.controlPoints, box.contains c = true) (hr : r ∈ e.polyline p q) :
    box.contains r = true := by
  rw [controlPoints_eq_match] at hcontrols
  rw [polyline_eq_match] at hr
  split at hr
  · rename_i c hcurve h₁
    rw [hcurve, h₁] at hcontrols
    exact Curve.contains_of_mem_quadratic hp (hcontrols c (by simp)) hq hr
  · rename_i c₁ c₂ hcurve h₁ h₂
    rw [hcurve, h₁, h₂] at hcontrols
    exact Curve.contains_of_mem_cubic hp (hcontrols c₁ (by simp)) (hcontrols c₂ (by simp)) hq hr
  · rcases List.mem_pair.mp hr with rfl | rfl
    · exact hp
    · exact hq

end Edge

namespace Network

/-! ### The box of a route -/

/-- A route with positions has a box: the one around the positions and the control points. -/
theorem box?_of_resolve {n : Network ℝ} {route : Route} {p : Point ℝ} {ps : List (Point ℝ)}
    (h : n.resolve route = some (p :: ps)) (tolerance : ℝ) : n.box? route tolerance
      = some ((Envelope.ofPoints p (ps ++ n.controlPoints route)).expand tolerance) := by
  unfold box?
  rw [h]
  rfl

/-- A tolerance moves the bounds of a box outwards, and does nothing else to it. -/
theorem box?_eq_map_expand (n : Network ℝ) (route : Route) (tolerance : ℝ) :
    n.box? route tolerance = (n.box? route 0).map (·.expand tolerance) := by
  cases h : n.resolve route with
  | none => simp [box?, h]
  | some points =>
    cases points with
    | nil => simp [box?, h]
    | cons p ps =>
      rw [box?_of_resolve h, box?_of_resolve h, Option.map_some, Envelope.expand_zero]

/-- **A route has a box exactly when it has a skeleton.** -/
theorem exists_box?_iff {n : Network ℝ} {route : Route} {tolerance : ℝ} :
    (∃ box, n.box? route tolerance = some box) ↔ ∃ s, n.skeleton? route = some s := by
  rw [exists_skeleton?_iff, ← exists_resolve_iff]
  constructor
  · rintro ⟨box, hbox⟩
    obtain ⟨points, hpoints, hmatch⟩ := Option.bind_eq_some_iff.mp hbox
    refine ⟨?_, points, hpoints⟩
    rintro rfl
    cases hpoints
    cases hmatch
  · rintro ⟨hne, points, hpoints⟩
    cases points with
    | nil =>
      have hlen := (resolve_eq_some_iff.mp hpoints).length_eq
      exact absurd (List.length_eq_zero_iff.mp hlen) hne
    | cons p ps => exact ⟨_, box?_of_resolve hpoints tolerance⟩

/-- The control points of the edge of a step are among those of the route. -/
theorem mem_controlPoints {n : Network ℝ} {route : Route} {step : Waypoint × Waypoint}
    {e : Edge ℝ} {c : Point ℝ} (hstep : step ∈ route.steps)
    (he : n.edge? step.1 step.2 = some e) (hc : c ∈ e.controlPoints) :
    c ∈ n.controlPoints route := by
  refine List.mem_flatMap.mpr ⟨step, hstep, ?_⟩
  change c ∈ ((n.edge? step.1 step.2).map Edge.controlPoints).getD []
  rw [he]
  exact hc

/-- The box of a route holds its waypoints and the control points of its edges. -/
theorem contains_of_box? {n : Network ℝ} {route : Route} {box : Envelope ℝ}
    (h : n.box? route 0 = some box) :
    (∀ w ∈ route, ∀ p, n.position w = some p → box.contains p = true)
      ∧ ∀ c ∈ n.controlPoints route, box.contains c = true := by
  obtain ⟨hne, points, hpoints⟩ : route ≠ [] ∧ ∃ points, n.resolve route = some points := by
    rw [exists_resolve_iff, ← exists_skeleton?_iff, ← exists_box?_iff]
    exact ⟨box, h⟩
  have hforall := resolve_eq_some_iff.mp hpoints
  cases points with
  | nil => exact absurd (List.length_eq_zero_iff.mp hforall.length_eq) hne
  | cons p ps =>
    rw [box?_of_resolve hpoints, Envelope.expand_zero, Option.some.injEq] at h
    subst h
    constructor
    · intro w hw q hq
      obtain ⟨i, hi, rfl⟩ := List.mem_iff_getElem.mp hw
      have hi' : i < (p :: ps).length := hforall.length_eq ▸ hi
      have hat : n.position route[i] = some (p :: ps)[i] := hforall.get hi hi'
      rw [hq, Option.some.injEq] at hat
      apply Envelope.contains_ofPoints
      rw [hat, ← List.cons_append]
      exact List.mem_append_left _ (List.getElem_mem hi')
    · intro c hc
      apply Envelope.contains_ofPoints
      rw [← List.cons_append]
      exact List.mem_append_right _ hc

/-- The box of a route holds the line of each of its steps. -/
theorem contains_of_mem_stepLine {n : Network ℝ} {route : Route} {box : Envelope ℝ}
    (h : n.box? route 0 = some box) {step : Waypoint × Waypoint} (hstep : step ∈ route.steps)
    {p q r : Point ℝ} (hp : n.position step.1 = some p) (hq : n.position step.2 = some q)
    (hr : r ∈ n.stepLine step.1 step.2 p q) : box.contains r = true := by
  obtain ⟨hwaypoints, hcontrols⟩ := contains_of_box? h
  obtain ⟨hfirst, hsecond⟩ := List.of_mem_zip hstep
  have hboxp := hwaypoints step.1 hfirst p hp
  have hboxq := hwaypoints step.2 (List.mem_of_mem_tail hsecond) q hq
  unfold stepLine at hr
  cases he : n.edge? step.1 step.2 with
  | none =>
    rw [he] at hr
    rcases List.mem_pair.mp hr with rfl | rfl
    · exact hboxp
    · exact hboxq
  | some e =>
    rw [he] at hr
    exact Edge.contains_of_mem_polyline hboxp hboxq
      (fun c hc => hcontrols c (mem_controlPoints hstep he hc)) hr

/-- **The box of a route holds all that the route covers.** -/
theorem contains_of_mem_covered {n : Network ℝ} {route : Route} {box : Envelope ℝ}
    (h : n.box? route 0 = some box) {r : Point ℝ} (hr : r ∈ n.covered route) :
    box.contains r = true := by
  rcases hr with ⟨w, hw, hr⟩ | ⟨step, hstep, p, q, hp, hq, s, hs, hr⟩
  · exact (contains_of_box? h).1 w hw r hr
  · -- A segment lies in a box that holds its two ends, which are samples.
    obtain ⟨hstart, hstop⟩ := mem_of_mem_polylineSegments hs
    exact Envelope.contains_of_mem_points (contains_of_mem_stepLine h hstep hp hq hstart)
      (contains_of_mem_stepLine h hstep hp hq hstop) hr

/-! ### The test -/

/-- **Whether a point is near a route depends on its distance alone.** -/
theorem near_iff {n : Network ℝ} {route : Route} {tolerance : ℝ} {p : Point ℝ} :
    n.near route tolerance p = true
      ↔ ∃ s, n.skeleton? route = some s ∧ s.distanceToPoint p ≤ tolerance := by
  unfold near
  constructor
  · intro hnear
    split at hnear
    · rename_i hskeleton
      exact ⟨_, hskeleton, of_decide_eq_true (Bool.and_eq_true_iff.mp hnear).2⟩
    · cases hnear
  · rintro ⟨s, hs, hle⟩
    obtain ⟨box, hbox⟩ : ∃ box, n.box? route 0 = some box := exists_box?_iff.mpr ⟨s, hs⟩
    -- The distance is the one to a point of the skeleton, which lies in the box.
    obtain ⟨q, hq, hdistance⟩ := (s.isLeast_distanceToPoint p).1
    rw [region_eq_covered hs] at hq
    have hclose : q.distance p ≤ tolerance := by
      rw [Point.distance_comm, ← hdistance]
      exact hle
    have hinside := Envelope.contains_expand (contains_of_mem_covered hbox hq) hclose
    rw [box?_eq_map_expand, hbox, hs]
    exact Bool.and_eq_true_iff.mpr ⟨hinside, decide_eq_true hle⟩

/-- **What the box that is tested first is worth.** -/
structure NearAsMeasured (n : Network ℝ) : Prop where
  /-- A point is near a route exactly if the route has a skeleton that is within the tolerance. -/
  near_iff : ∀ (route : Route) (tolerance : ℝ) (p : Point ℝ), n.near route tolerance p = true
    ↔ ∃ s, n.skeleton? route = some s ∧ s.distanceToPoint p ≤ tolerance
  /-- Every sample of an edge lies in the box around its ends and its control points. -/
  samples : ∀ (a b : Waypoint) (p q : Point ℝ) (e : Edge ℝ), n.position a = some p →
    n.position b = some q → n.edge? a b = some e → ∃ box, n.box? [a, b] 0 = some box
      ∧ box = Envelope.ofPoints p (q :: e.controlPoints)
      ∧ ∀ r ∈ e.polyline p q, box.contains r = true
  /-- A skeleton lies in the box of its route. -/
  region : ∀ (route : Route) (s : Skeleton ℝ), n.skeleton? route = some s →
    ∃ box, n.box? route 0 = some box ∧ ∀ r ∈ s.region, box.contains r = true

/-- **The box that is tested first never changes the answer.** -/
theorem nearAsMeasured (n : Network ℝ) : n.NearAsMeasured where
  near_iff := fun _ _ _ => near_iff
  samples := by
    intro a b p q e hp hq he
    have hresolve : n.resolve [a, b] = some [p, q] :=
      resolve_eq_some_iff.mpr (.cons hp (.cons hq .nil))
    have hcontrols : n.controlPoints [a, b] = e.controlPoints := by
      simp [controlPoints, he]
    have hbox := box?_of_resolve hresolve 0
    rw [Envelope.expand_zero, hcontrols] at hbox
    refine ⟨_, hbox, rfl, fun r hr => ?_⟩
    have hstep : (a, b) ∈ Route.steps [a, b] := List.mem_singleton_self _
    refine contains_of_mem_stepLine hbox hstep hp hq ?_
    unfold stepLine
    rw [he]
    exact hr
  region := by
    intro route s hs
    obtain ⟨box, hbox⟩ : ∃ box, n.box? route 0 = some box := exists_box?_iff.mpr ⟨s, hs⟩
    refine ⟨box, hbox, fun r hr => ?_⟩
    rw [region_eq_covered hs] at hr
    exact contains_of_mem_covered hbox hr

end Network

end AgvDispatch
