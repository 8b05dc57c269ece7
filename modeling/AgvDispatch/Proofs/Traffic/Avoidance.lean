import AgvDispatch.Proofs.Network.Lattice
import AgvDispatch.Proofs.Network.Route
import AgvDispatch.Traffic.Safety
/-!
# Avoidance points

`Traffic.avoidancePoints` picks, of some candidates, the ones where a vehicle is out of the way of a
blocked route. In exact arithmetic these are the candidates with a position that lie farther than
the limit from the skeleton of the route, and hence from each of its waypoints
(`Traffic.clears_of_resolves`).

A route has no skeleton for one of two reasons, which call for opposite answers. The empty route is
in nobody's way. A route with an unknown waypoint may be in the way of every candidate, but it too
rules out none of them. So the points avoid the blocked route exactly if each of its waypoints has a
position, or else none of those that have one is near a candidate (`Traffic.avoids_iff`).
-/

namespace AgvDispatch.Traffic

variable {n : Network ℝ} {blocked : Route} {candidates : List Waypoint} {r r' limit : ℝ}

/-- Whether a position is farther than a limit from every positioned waypoint of a route and from
the skeleton of the route, if there is one. -/
structure Clears (n : Network ℝ) (blocked : Route) (limit : ℝ) (p : Point ℝ) : Prop where
  waypoints : ∀ w ∈ blocked, ∀ q, n.position w = some q → limit < p.distance q
  skeleton : ∀ s, n.skeleton? blocked = some s → limit < s.distanceToPoint p

/-- **What it means to avoid a blocked route** with a selection from some candidates. -/
structure Avoids (n : Network ℝ) (blocked : Route) (limit : ℝ)
    (candidates selection : List Waypoint) : Prop where
  /-- The selection keeps the order and the repetitions of the candidates. -/
  ordered : selection = candidates.filter (· ∈ selection)
  /-- What is selected has a position that clears the route. -/
  clears : ∀ w ∈ selection, ∃ p, n.position w = some p ∧ Clears n blocked limit p
  /-- A candidate that is far from the skeleton is selected. -/
  keeps : ∀ w ∈ candidates, ∀ p, n.position w = some p → ∀ s, n.skeleton? blocked = some s →
    limit < s.distanceToPoint p → w ∈ selection

/-! ### What is selected -/

/-- The skeleton decides which candidates are selected, and nothing else about the route does. -/
theorem mem_avoidancePoints_iff {w : Waypoint} :
    w ∈ avoidancePoints n blocked candidates r r' ↔ w ∈ candidates ∧ ∃ p, n.position w = some p
      ∧ ∀ s, n.skeleton? blocked = some s → r + r' < s.distanceToPoint p := by
  unfold avoidancePoints
  rw [List.mem_filter]
  refine and_congr_right fun _ => ?_
  cases n.position w with
  | none => simp
  | some p => cases n.skeleton? blocked <;> simp

theorem avoidancePoints_eq_filter (n : Network ℝ) (blocked : Route) (candidates : List Waypoint)
    (r r' : ℝ) : avoidancePoints n blocked candidates r r'
      = candidates.filter (· ∈ avoidancePoints n blocked candidates r r') := by
  rw [avoidancePoints]
  refine List.filter_congr fun w hw => ?_
  rw [Bool.eq_iff_iff, decide_eq_true_iff, List.mem_filter]
  exact (and_iff_right hw).symm

/-! ### What the skeleton tells about the route -/

theorem clears_nil (n : Network ℝ) (limit : ℝ) (p : Point ℝ) : Clears n [] limit p :=
  ⟨by simp, by simp [Network.skeleton?]⟩

/-- **A skeleton passes through the waypoints of its route**, so what is far from it is far from
each of them. -/
theorem clears_of_resolves {p : Point ℝ} (hresolves : n.Resolves blocked)
    (hfar : ∀ s, n.skeleton? blocked = some s → limit < s.distanceToPoint p) :
    Clears n blocked limit p := by
  by_cases hnil : blocked = []
  · rw [hnil]
    exact clears_nil n limit p
  · obtain ⟨s, hs⟩ := Network.exists_skeleton?_iff.mpr ⟨hnil, hresolves⟩
    refine ⟨fun w hw q hq => ?_, hfar⟩
    have hmem : q ∈ s.region := by
      rw [Network.region_eq_covered hs]
      exact Network.position_mem_covered hw hq
    calc limit < s.distanceToPoint p := hfar s hs
      _ ≤ p.distance q := s.distanceToPoint_le p hmem

/-- A route with an unknown waypoint rules out no candidate that has a position. -/
theorem mem_avoidancePoints_of_not_resolves (hunknown : ¬n.Resolves blocked) {w : Waypoint}
    {p : Point ℝ} (hw : w ∈ candidates) (hp : n.position w = some p) :
    w ∈ avoidancePoints n blocked candidates r r' :=
  mem_avoidancePoints_iff.mpr ⟨hw, p, hp,
    fun s hs => absurd (Network.exists_skeleton?_iff.mp ⟨s, hs⟩).2 hunknown⟩

/-- **When the points avoid the blocked route**: if all of it is on the floor, which the empty route
is, or none of the candidates is near the part of it that is. -/
theorem avoids_iff :
    Avoids n blocked (r + r') candidates (avoidancePoints n blocked candidates r r')
      ↔ n.Resolves blocked
        ∨ ∀ w ∈ candidates, ∀ p, n.position w = some p → Clears n blocked (r + r') p := by
  constructor
  · intro havoids
    -- With an unknown waypoint every positioned candidate is selected, so each must be clear.
    refine or_iff_not_imp_left.mpr fun hunknown w hw p hp => ?_
    obtain ⟨q, hq, hclears⟩ :=
      havoids.clears w (mem_avoidancePoints_of_not_resolves hunknown hw hp)
    rw [hp, Option.some.injEq] at hq
    exact hq ▸ hclears
  · intro h
    refine ⟨avoidancePoints_eq_filter _ _ _ _ _, fun w hw => ?_, fun w hw p hp s hs hlt => ?_⟩
    · obtain ⟨hcandidate, p, hp, hfar⟩ := mem_avoidancePoints_iff.mp hw
      refine ⟨p, hp, ?_⟩
      rcases h with hresolves | hclears
      · exact clears_of_resolves hresolves hfar
      · exact hclears w hcandidate p hp
    · refine mem_avoidancePoints_iff.mpr ⟨hw, p, hp, fun s' hs' => ?_⟩
      rw [hs, Option.some.injEq] at hs'
      exact hs' ▸ hlt

/-! ### The selection as a whole -/

/-- **What the selected points are worth.** -/
structure AvoidsBySkeleton (n : Network ℝ) (blocked : Route) (limit : ℝ)
    (candidates selection : List Waypoint) : Prop where
  /-- The selection keeps the order and the repetitions of the candidates. -/
  ordered : selection = candidates.filter (· ∈ selection)
  /-- It holds the candidates that have a position and are far from the skeleton, if there is
  one. -/
  mem_iff : ∀ w, w ∈ selection ↔ w ∈ candidates ∧ ∃ p, n.position w = some p
    ∧ ∀ s, n.skeleton? blocked = some s → limit < s.distanceToPoint p
  /-- It avoids the route if the skeleton tells of all of it, and else by chance only. -/
  avoids_iff : Avoids n blocked limit candidates selection ↔ n.Resolves blocked
    ∨ ∀ w ∈ candidates, ∀ p, n.position w = some p → Clears n blocked limit p

/-- **Avoidance points avoid what has a skeleton.** -/
theorem avoidsBySkeleton (n : Network ℝ) (blocked : Route) (candidates : List Waypoint)
    (r r' : ℝ) : AvoidsBySkeleton n blocked (r + r') candidates
      (avoidancePoints n blocked candidates r r') where
  ordered := avoidancePoints_eq_filter n blocked candidates r r'
  mem_iff := fun _ => mem_avoidancePoints_iff
  avoids_iff := avoids_iff

/-- A floor with one waypoint. -/
def lone : Network ℝ := ({} : Network ℝ).addPoint ⟨1, 1⟩ ⟨0, 0⟩

/-- **An unknown waypoint clears the way**: a route that leads off the floor from its one waypoint
leaves that waypoint as an avoidance point. -/
theorem lone_not_avoided : lone.position ⟨1, 1⟩ = some ⟨0, 0⟩
    ∧ (⟨1, 1⟩ : Waypoint) ∈ avoidancePoints lone [⟨1, 1⟩, ⟨1, 2⟩] [⟨1, 1⟩] 600 600
    ∧ ¬Avoids lone [⟨1, 1⟩, ⟨1, 2⟩] (600 + 600) [⟨1, 1⟩]
      (avoidancePoints lone [⟨1, 1⟩, ⟨1, 2⟩] [⟨1, 1⟩] 600 600) := by
  have hposition : ∀ w, lone.position w = if (⟨1, 1⟩ : Waypoint) = w then some ⟨0, 0⟩ else none :=
    fun w => Network.position_addPoint _ _ _ w
  have hhere : lone.position ⟨1, 1⟩ = some ⟨0, 0⟩ := by
    rw [hposition, if_pos rfl]
  have hunknown : ¬lone.Resolves [⟨1, 1⟩, ⟨1, 2⟩] := by
    intro hresolves
    obtain ⟨p, hp⟩ := hresolves ⟨1, 2⟩ (by decide)
    rw [hposition, if_neg (by decide)] at hp
    cases hp
  refine ⟨hhere, mem_avoidancePoints_of_not_resolves hunknown (by decide) hhere, ?_⟩
  rw [avoids_iff]
  rintro (hresolves | hclears)
  · exact hunknown hresolves
  · have hfar := (hclears ⟨1, 1⟩ (by decide) _ hhere).waypoints ⟨1, 1⟩ (by decide) _ hhere
    rw [Point.distance_self] at hfar
    norm_num at hfar

end AgvDispatch.Traffic
