import AgvDispatch.Proofs.Network.BreadthFirst
import AgvDispatch.Proofs.Network.Lattice
import AgvDispatch.Simulation.Run
/-!
# The courses of simulated vehicles

A **course** from one waypoint to another is a shortest way around certain waypoints or, if there is
no way around them, a shortest way through them (`Network.IsCourse`). The route that a simulated
vehicle is expected to take starts where it stands, with a course to the origin of the trip around
the other vehicles, and goes on with such a course from there to the destination
(`Simulation.isExpected_expectedRoute`). Since there is a way between any two points of the floor
plan, it leads over the origin to the destination (`Simulation.expectedRoute_leads`).
-/

namespace AgvDispatch

namespace Network

variable {α : Type} {n : Network α} {avoid : Waypoint → Bool} {start goal : Waypoint}

/-- **A course** from one waypoint to another, if there is one. -/
inductive IsCourse (n : Network α) (avoid : Waypoint → Bool) (start goal : Waypoint) :
    Option Route → Prop
  /-- There is nowhere to go. -/
  | here (heq : start = goal) : IsCourse n avoid start goal (some [start])
  /-- A shortest way around the waypoints to be avoided. -/
  | around {route : Route} (hne : start ≠ goal) (hway : n.IsAnswer avoid start goal (some route)) :
    IsCourse n avoid start goal (some route)
  /-- A shortest way through them, as there is no way around. -/
  | through {route : Route} (hne : start ≠ goal) (haround : n.IsAnswer avoid start goal none)
    (hway : n.IsAnswer (fun _ => false) start goal (some route)) :
    IsCourse n avoid start goal (some route)
  /-- There is no way at all. -/
  | nowhere (hne : start ≠ goal) (haround : n.IsAnswer avoid start goal none)
    (hway : n.IsAnswer (fun _ => false) start goal none) : IsCourse n avoid start goal none

theorem isCourse_or (n : Network α) (avoid : Waypoint → Bool) (start goal : Waypoint) :
    n.IsCourse avoid start goal ((n.shortestRoute start goal avoid).or
      (n.shortestRoute start goal fun _ => false)) := by
  by_cases heq : start = goal
  · have hself : n.shortestRoute start goal avoid = some [start] := if_pos heq
    rw [hself]
    exact .here heq
  · have haround : n.IsAnswer avoid start goal (n.shortestRoute start goal avoid) :=
      isAnswer_shortestRoute heq
    have hthrough : n.IsAnswer (fun _ => false) start goal
        (n.shortestRoute start goal fun _ => false) :=
      isAnswer_shortestRoute heq
    cases hroute : n.shortestRoute start goal avoid with
    | some route => exact .around heq (hroute ▸ haround)
    | none =>
      rw [hroute] at haround
      cases hroute' : n.shortestRoute start goal fun _ => false with
      | some route => exact .through heq haround (hroute' ▸ hthrough)
      | none => exact .nowhere heq haround (hroute' ▸ hthrough)

/-- A course leads from the start to the goal, and it does not stop before it gets there. -/
theorem IsCourse.ends {route : Route} (h : n.IsCourse avoid start goal (some route)) :
    route.head? = some start ∧ route.getLast? = some goal
      ∧ (start ≠ goal → route.tail.getLast? = some goal) := by
  have hway : ∀ {entered : Waypoint → Bool}, start ≠ goal → n.IsWay entered start goal route →
      route.head? = some start ∧ route.getLast? = some goal
        ∧ (start ≠ goal → route.tail.getLast? = some goal) := by
    intro entered hne hway
    refine ⟨hway.head, hway.last, fun _ => ?_⟩
    obtain ⟨rest, rfl⟩ := List.head?_eq_some_iff.mp hway.head
    have hlast := hway.last
    rw [List.getLast?_cons, Option.some.injEq] at hlast
    cases hrest : rest.getLast? with
    | none =>
      rw [hrest] at hlast
      exact absurd hlast hne
    | some last =>
      rw [hrest] at hlast
      exact hrest.trans (congrArg some hlast)
  cases h with
  | here heq => exact ⟨rfl, congrArg some heq, fun hne => absurd heq hne⟩
  | around hne h => exact hway hne h.1
  | through hne _ h => exact hway hne h.1

end Network

variable {α : Type} [Scalar α]

namespace Simulation

/-- **Whether a route is one that a vehicle is expected to take** from a waypoint to the origin of a
trip and on to its destination. -/
structure IsExpected (s : Simulation α) (id : String) (start origin destination : Waypoint)
    (route : Route) : Prop where
  /-- It begins where the vehicle stands. -/
  head?_eq : route.head? = some start
  /-- It consists of two courses around the other vehicles, as far as there are any. -/
  exists_courses : ∃ approach transport,
    s.fleet.network.IsCourse (s.occupied id).contains start origin approach
      ∧ s.fleet.network.IsCourse (s.occupied id).contains origin destination transport
      ∧ route = approach.getD [start] ++ (transport.getD []).tail

section

variable {s : Simulation α} {side : ℕ} {start goal origin destination : Waypoint} {p q r : Point α}

theorem isCourse_routeAround (s : Simulation α) (id : String) (start goal : Waypoint) :
    s.fleet.network.IsCourse (s.occupied id).contains start goal (s.routeAround id start goal) :=
  Network.isCourse_or _ _ _ _

/-- **The expected route is as it should be.** -/
theorem isExpected_expectedRoute (s : Simulation α) (id : String)
    (start origin destination : Waypoint) :
    s.IsExpected id start origin destination (s.expectedRoute id start origin destination) := by
  refine ⟨?_, _, _, s.isCourse_routeAround id start origin,
    s.isCourse_routeAround id origin destination, rfl⟩
  have hcourse := s.isCourse_routeAround id start origin
  unfold expectedRoute
  simp only
  cases happroach : s.routeAround id start origin with
  | none => rfl
  | some approach =>
    rw [happroach] at hcourse
    rw [Option.getD_some, List.head?_append, hcourse.ends.1]
    rfl

/-- There is a course between any two points of the floor plan. -/
theorem exists_routeAround (hnetwork : s.fleet.network = floorPlan side)
    (hstart : s.fleet.network.position start = some p)
    (hgoal : s.fleet.network.position goal = some q) (id : String) :
    ∃ route, s.routeAround id start goal = some route
      ∧ s.fleet.network.IsCourse (s.occupied id).contains start goal (some route) := by
  rw [hnetwork] at hstart hgoal
  have hthrough : (s.fleet.network.shortestRoute start goal fun _ => false).isSome = true := by
    rw [hnetwork]
    exact Network.isSome_shortestRoute (Network.reflTransGen_lattice hstart hgoal)
  have hsome : (s.routeAround id start goal).isSome = true := by
    unfold routeAround
    simp only
    rw [Option.isSome_or, hthrough, Bool.or_true]
  obtain ⟨route, hroute⟩ := Option.isSome_iff_exists.mp hsome
  exact ⟨route, hroute, hroute ▸ s.isCourse_routeAround id start goal⟩

/-- **An expected route leads over the origin to the destination.** -/
theorem expectedRoute_leads (hnetwork : s.fleet.network = floorPlan side)
    (hstart : s.fleet.network.position start = some p)
    (horigin : s.fleet.network.position origin = some q)
    (hdestination : s.fleet.network.position destination = some r) (hne : origin ≠ destination)
    (id : String) : origin ∈ s.expectedRoute id start origin destination
      ∧ (s.expectedRoute id start origin destination).getLast? = some destination := by
  obtain ⟨approach, happroach, hto⟩ := exists_routeAround hnetwork hstart horigin id
  obtain ⟨transport, htransport, hon⟩ := exists_routeAround hnetwork horigin hdestination id
  unfold expectedRoute
  simp only
  rw [happroach, htransport, Option.getD_some, Option.getD_some]
  refine ⟨List.mem_append_left _ (List.mem_of_getLast? hto.ends.2.1), ?_⟩
  rw [List.getLast?_append, hon.ends.2.2 hne]
  rfl

end

end Simulation

end AgvDispatch
