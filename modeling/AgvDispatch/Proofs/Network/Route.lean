import AgvDispatch.Network.Route
import AgvDispatch.Proofs.Geometry.Skeleton
/-!
# Skeletons of routes

A route has a skeleton exactly when it is not empty and each of its waypoints has a position
(`Network.exists_skeleton?_iff`).

In exact arithmetic the skeleton of a route covers a set of points that depends on nothing but its
waypoints and its steps: `Network.covered`. So what a route covers is easy to compare with what its
parts cover. A part of a route covers no more than the route (`Network.covered_subset_of_infix`),
and two routes that are joined at a waypoint cover what they cover by themselves
(`Network.covered_append`).
-/

namespace AgvDispatch

/-- The steps of a route: each waypoint with the one that follows it. -/
def Route.steps (route : Route) : List (Waypoint × Waypoint) := route.zip route.tail

namespace Route

@[simp] theorem steps_nil : steps [] = [] := rfl

@[simp] theorem steps_singleton (w : Waypoint) : steps [w] = [] := rfl

@[simp] theorem steps_cons_cons (a b : Waypoint) (rest : Route) :
    steps (a :: b :: rest) = (a, b) :: steps (b :: rest) := rfl

/-- The steps of a route that is cut at one of its waypoints. -/
theorem steps_append (route : Route) (w : Waypoint) (rest : Route) :
    steps (route ++ w :: rest) = steps (route ++ [w]) ++ steps (w :: rest) := by
  induction route with
  | nil => rfl
  | cons a route ih =>
    match route with
    | [] => rfl
    | b :: route => simpa using ih

/-- The part of a route from some waypoint on has no steps of its own. -/
theorem steps_subset_append_left (route rest : Route) : steps rest ⊆ steps (route ++ rest) := by
  match rest with
  | [] => simp
  | w :: rest =>
    rw [steps_append]
    exact List.subset_append_right _ _

/-- The part of a route up to some waypoint has no steps of its own. -/
theorem steps_subset_append_right (route rest : Route) : steps route ⊆ steps (route ++ rest) := by
  induction route with
  | nil => simp
  | cons a route ih =>
    match route with
    | [] => simp
    | b :: route =>
      intro step h
      simp only [steps_cons_cons, List.mem_cons, List.cons_append] at h ih ⊢
      exact h.imp_right fun h => ih h

theorem steps_subset_of_infix {part route : Route} (h : part <:+: route) :
    steps part ⊆ steps route := by
  obtain ⟨before, after, rfl⟩ := h
  exact List.Subset.trans (steps_subset_append_left before part) (steps_subset_append_right _ after)

end Route

/-! ### The ends of a curve -/

namespace Curve

theorem zero_mem_parameters (n : ℕ) : (0 : ℝ) ∈ parameters n :=
  List.mem_map.mpr ⟨0, by simp, by simp⟩

theorem one_mem_parameters {n : ℕ} (h : n ≠ 0) : (1 : ℝ) ∈ parameters n :=
  List.mem_map.mpr ⟨n, by simp, div_self (Nat.cast_ne_zero.mpr h)⟩

theorem quadraticAt_zero (a c b : ℝ) : quadraticAt a c b 0 = a := by
  simp only [quadraticAt]
  ring

theorem quadraticAt_one (a c b : ℝ) : quadraticAt a c b 1 = b := by
  simp only [quadraticAt]
  ring

theorem cubicAt_zero (a c₁ c₂ b : ℝ) : cubicAt a c₁ c₂ b 0 = a := by
  simp only [cubicAt]
  ring

theorem cubicAt_one (a c₁ c₂ b : ℝ) : cubicAt a c₁ c₂ b 1 = b := by
  simp only [cubicAt]
  ring

end Curve

namespace Network

section

variable {α : Type}

/-! ### Which routes have a skeleton -/

/-- The positions along a route, waypoint by waypoint. -/
theorem resolve_eq_some_iff {n : Network α} {route : Route} {points : List (Point α)} :
    n.resolve route = some points
      ↔ List.Forall₂ (fun w p => n.position w = some p) route points := by
  unfold resolve
  induction route generalizing points with
  | nil => simp [eq_comm]
  | cons w route ih =>
    rw [List.mapM_cons, List.forall₂_cons_left_iff]
    simp only [Option.bind_eq_bind, Option.bind_eq_some_iff, Option.pure_def, Option.some.injEq, ih]
    constructor
    · rintro ⟨p, hp, ps, hps, rfl⟩
      exact ⟨p, ps, hp, hps, rfl⟩
    · rintro ⟨p, ps, hp, hps, rfl⟩
      exact ⟨p, hp, ps, hps, rfl⟩

/-- Whether every waypoint of a route has a position. -/
def Resolves (n : Network α) (route : Route) : Prop :=
  ∀ w ∈ route, ∃ p, n.position w = some p

theorem Resolves.append {n : Network α} {route rest : Route} (h : n.Resolves route)
    (h' : n.Resolves rest) : n.Resolves (route ++ rest) := by
  intro w hw
  rcases List.mem_append.mp hw with hw | hw
  · exact h w hw
  · exact h' w hw

theorem Resolves.mono {n : Network α} {part route : Route} (h : n.Resolves route)
    (hsub : part ⊆ route) : n.Resolves part :=
  fun w hw => h w (hsub hw)

theorem exists_resolve_iff {n : Network α} {route : Route} :
    (∃ points, n.resolve route = some points) ↔ n.Resolves route := by
  simp only [resolve_eq_some_iff, Resolves]
  induction route with
  | nil => simp
  | cons w route ih =>
    simp only [List.forall₂_cons_left_iff, List.forall_mem_cons]
    rw [← ih]
    constructor
    · rintro ⟨-, p, ps, hp, hps, rfl⟩
      exact ⟨⟨p, hp⟩, ps, hps⟩
    · rintro ⟨⟨p, hp⟩, ps, hps⟩
      exact ⟨p :: ps, p, ps, hp, hps, rfl⟩

variable [Scalar α]

/-- The line that is driven from one waypoint to the next, given their positions. -/
def stepLine (n : Network α) (a b : Waypoint) (p q : Point α) : List (Point α) :=
  ((n.edge? a b).map (·.polyline p q)).getD [p, q]

theorem stepLines_cons_cons (n : Network α) (a b : Waypoint) (p q : Point α)
    (rest : List (Waypoint × Point α)) : n.stepLines ((a, p) :: (b, q) :: rest)
      = n.stepLine a b p q :: n.stepLines ((b, q) :: rest) := rfl

theorem stepLine_ne_nil (n : Network α) (a b : Waypoint) (p q : Point α) :
    n.stepLine a b p q ≠ [] := by
  unfold stepLine
  cases n.edge? a b with
  | none => simp
  | some e =>
    simp only [Option.map_some, Option.getD_some]
    unfold Edge.polyline
    split <;> simp [Curve.quadratic, Curve.cubic, Curve.parameters]

theorem skeleton?_cons_cons (n : Network α) (a b : Waypoint) (rest : Route) :
    n.skeleton? (a :: b :: rest) = (n.resolve (a :: b :: rest)).bind fun points =>
      Skeleton.ofParts? (n.stepLines ((a :: b :: rest).zip points)) := rfl

/-- **A route has a skeleton exactly when it is not empty and every waypoint has a position.** -/
theorem exists_skeleton?_iff {n : Network α} {route : Route} :
    (∃ s, n.skeleton? route = some s) ↔ route ≠ [] ∧ n.Resolves route := by
  match route with
  | [] => simp [skeleton?]
  | [w] => simp [skeleton?, Resolves]
  | a :: b :: rest =>
    rw [skeleton?_cons_cons, ← exists_resolve_iff]
    constructor
    · rintro ⟨s, h⟩
      obtain ⟨points, hpoints, -⟩ := Option.bind_eq_some_iff.mp h
      exact ⟨List.cons_ne_nil _ _, points, hpoints⟩
    · rintro ⟨-, points, hpoints⟩
      obtain ⟨p, ps, -, hps, rfl⟩ :=
        List.forall₂_cons_left_iff.mp (resolve_eq_some_iff.mp hpoints)
      obtain ⟨q, qs, -, -, rfl⟩ := List.forall₂_cons_left_iff.mp hps
      rw [hpoints, Option.bind_some, List.zip_cons_cons, List.zip_cons_cons, stepLines_cons_cons]
      exact Skeleton.exists_ofParts? _ (stepLine_ne_nil n a b p q)

end

/-! ### What a route covers -/

/-- The ends of a line driven along an edge. -/
theorem mem_polyline (e : Edge ℝ) (p q : Point ℝ) : p ∈ e.polyline p q ∧ q ∈ e.polyline p q := by
  have hcount : Curve.segmentCount p q ≠ 0 := by
    unfold Curve.segmentCount
    simp only
    omega
  unfold Edge.polyline
  -- A curve begins at parameter zero and ends at parameter one.
  split
  · rename_i c _
    constructor
    · refine List.mem_map.mpr ⟨0, Curve.zero_mem_parameters _, ?_⟩
      rw [Curve.quadraticAt_zero, Curve.quadraticAt_zero]
    · refine List.mem_map.mpr ⟨1, Curve.one_mem_parameters hcount, ?_⟩
      rw [Curve.quadraticAt_one, Curve.quadraticAt_one]
  · rename_i c₁ c₂ _
    constructor
    · refine List.mem_map.mpr ⟨0, Curve.zero_mem_parameters _, ?_⟩
      rw [Curve.cubicAt_zero, Curve.cubicAt_zero]
    · refine List.mem_map.mpr ⟨1, Curve.one_mem_parameters hcount, ?_⟩
      rw [Curve.cubicAt_one, Curve.cubicAt_one]
  · simp

theorem mem_stepLine (n : Network ℝ) (a b : Waypoint) (p q : Point ℝ) :
    p ∈ n.stepLine a b p q ∧ q ∈ n.stepLine a b p q := by
  unfold stepLine
  cases n.edge? a b with
  | none => simp
  | some e => exact mem_polyline e p q

/-- The points on the line of a step between two positioned waypoints. -/
def stepRegion (n : Network ℝ) (a b : Waypoint) : Set (Point ℝ) :=
  {r | ∃ p q, n.position a = some p ∧ n.position b = some q
    ∧ ∃ s ∈ polylineSegments (n.stepLine a b p q), r ∈ s.points}

/-- **What a route covers**: the positions of its waypoints and the lines of its steps. -/
def covered (n : Network ℝ) (route : Route) : Set (Point ℝ) :=
  {r | (∃ w ∈ route, n.position w = some r) ∨ ∃ step ∈ route.steps, r ∈ n.stepRegion step.1 step.2}

theorem position_mem_covered {n : Network ℝ} {route : Route} {w : Waypoint} {p : Point ℝ}
    (hw : w ∈ route) (hp : n.position w = some p) : p ∈ n.covered route :=
  Or.inl ⟨w, hw, hp⟩

/-- The segments of the lines of a route with positions. -/
theorem exists_segment_stepLines_iff {n : Network ℝ} {route : Route} {points : List (Point ℝ)}
    (h : List.Forall₂ (fun w p => n.position w = some p) route points) (r : Point ℝ) :
    (∃ s ∈ (n.stepLines (route.zip points)).flatMap polylineSegments, r ∈ s.points)
      ↔ ∃ step ∈ route.steps, r ∈ n.stepRegion step.1 step.2 := by
  induction h with
  | nil => simp [stepLines]
  | @cons a p route points ha htail ih =>
    cases htail with
    | nil => simp [stepLines]
    | @cons b q route points hb htail =>
      simp only [List.zip_cons_cons] at ih ⊢
      rw [stepLines_cons_cons, Route.steps_cons_cons, List.flatMap_cons]
      simp only [List.mem_append, List.mem_cons, or_and_right, exists_or, exists_eq_left]
      apply or_congr _ ih
      constructor
      · intro hr
        exact ⟨p, q, ha, hb, hr⟩
      · rintro ⟨p', q', ha', hb', hr⟩
        rw [ha, Option.some.injEq] at ha'
        rw [hb, Option.some.injEq] at hb'
        rw [ha', hb']
        exact hr

/-- Every waypoint of a route with a step is an end of a step. -/
theorem exists_step_of_mem {a b w : Waypoint} {rest : Route} (h : w ∈ a :: b :: rest) :
    ∃ step ∈ Route.steps (a :: b :: rest), w = step.1 ∨ w = step.2 := by
  induction rest generalizing a b with
  | nil =>
    refine ⟨(a, b), by simp, ?_⟩
    simpa using h
  | cons c rest ih =>
    rcases List.mem_cons.mp h with rfl | h
    · exact ⟨(w, b), by simp, Or.inl rfl⟩
    · obtain ⟨step, hstep, hw⟩ := ih h
      refine ⟨step, ?_, hw⟩
      rw [Route.steps_cons_cons]
      exact List.mem_cons_of_mem _ hstep

/-- **The skeleton of a route covers what the route covers.** -/
theorem region_eq_covered {n : Network ℝ} {route : Route} {s : Skeleton ℝ}
    (h : n.skeleton? route = some s) : s.region = n.covered route := by
  match route with
  | [] => simp [skeleton?] at h
  | [w] =>
    obtain ⟨p, hp, rfl⟩ := Option.map_eq_some_iff.mp h
    ext r
    simp [covered, hp, eq_comm]
  | a :: b :: rest =>
    rw [skeleton?_cons_cons] at h
    obtain ⟨points, hpoints, hparts⟩ := Option.bind_eq_some_iff.mp h
    have hforall := resolve_eq_some_iff.mp hpoints
    ext r
    unfold Skeleton.region covered
    rw [Skeleton.segments_ofParts? hparts]
    simp only [Set.mem_ofPred_eq]
    rw [exists_segment_stepLines_iff hforall, iff_or_self]
    -- A position is an end of the line of a step.
    rintro ⟨w, hw, hr⟩
    obtain ⟨⟨x, y⟩, hstep, hend⟩ := exists_step_of_mem hw
    have hresolves : n.Resolves (a :: b :: rest) := exists_resolve_iff.mp ⟨points, hpoints⟩
    have hxy := List.of_mem_zip hstep
    obtain ⟨p, hp⟩ := hresolves x hxy.1
    obtain ⟨q, hq⟩ := hresolves y (List.mem_of_mem_tail hxy.2)
    refine ⟨(x, y), hstep, p, q, hp, hq, ?_⟩
    obtain ⟨hmemp, hmemq⟩ := n.mem_stepLine x y p q
    rcases hend with rfl | rfl
    · rw [hp, Option.some.injEq] at hr
      exact exists_polylineSegment (hr ▸ hmemp)
    · rw [hq, Option.some.injEq] at hr
      exact exists_polylineSegment (hr ▸ hmemq)

/-- **A part of a route covers no more than the route.** -/
theorem covered_subset_of_infix {n : Network ℝ} {part route : Route} (h : part <:+: route) :
    n.covered part ⊆ n.covered route := by
  -- A part has no waypoints and no steps of its own.
  rintro r (⟨w, hw, hr⟩ | ⟨step, hstep, hr⟩)
  · exact Or.inl ⟨w, h.subset hw, hr⟩
  · exact Or.inr ⟨step, Route.steps_subset_of_infix h hstep, hr⟩

/-- Two routes that share the waypoint at which one ends and the other begins cover, joined, what
they cover by themselves. -/
theorem covered_append {n : Network ℝ} (route : Route) (w : Waypoint) (rest : Route) :
    n.covered (route ++ w :: rest) = n.covered (route ++ [w]) ∪ n.covered (w :: rest) := by
  ext r
  unfold covered
  rw [Route.steps_append]
  simp only [List.mem_append, List.mem_cons, List.not_mem_nil, or_false, Set.mem_union,
    Set.mem_ofPred_eq, or_and_right, exists_or, exists_eq_left]
  grind

/-- A waypoint that is listed twice covers nothing of its own, unless an edge leads from it to
itself. -/
theorem covered_cons_self {n : Network ℝ} {w : Waypoint} (h : n.edge? w w = none) (rest : Route) :
    n.covered (w :: w :: rest) = n.covered (w :: rest) := by
  apply Set.Subset.antisymm
  · rintro r (⟨w', hw', hr⟩ | ⟨step, hstep, hr⟩)
    · refine Or.inl ⟨w', ?_, hr⟩
      simpa using hw'
    · rw [Route.steps_cons_cons, List.mem_cons] at hstep
      rcases hstep with rfl | hstep
      · obtain ⟨p, q, hp, hq, s, hs, hr⟩ := hr
        rw [hp, Option.some.injEq] at hq
        subst hq
        have hline : n.stepLine w w p p = [p, p] := by
          unfold stepLine
          rw [h]
          rfl
        rw [hline] at hs
        have hsegment : s = ⟨p, p⟩ := by simpa [polylineSegments] using hs
        rw [hsegment, Segment.points_self] at hr
        rw [hr]
        exact position_mem_covered List.mem_cons_self hp
      · exact Or.inr ⟨step, hstep, hr⟩
  · exact covered_subset_of_infix (List.suffix_cons w (w :: rest)).isInfix

end Network

end AgvDispatch
