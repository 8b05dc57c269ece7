import AgvDispatch.Proofs.Network.Route
/-!
# Lengths of routes

In exact arithmetic the length of a route is the sum of the lengths of its steps
(`Network.routeLength_eq_sum`), declared or measured, and no step has a negative length. So two
routes that meet at a waypoint have, joined, the lengths of both (`Network.routeLength_append`), and
a route that is cut short is no longer than the whole (`Network.routeLength_le_of_prefix`).
-/

namespace AgvDispatch

theorem Scalar.sum_eq (xs : List ℝ) : Scalar.sum xs = xs.sum :=
  List.sum_eq_foldl.symm

namespace Network

/-- The length of a line is the sum of the lengths of its segments. -/
theorem lineLength_eq_sum (line : List (Point ℝ)) :
    lineLength line = ((line.zip line.tail).map fun ends => ends.1.distance ends.2).sum := by
  unfold lineLength
  rw [Scalar.sum_eq, ← List.map_uncurry_zip_eq_zipWith]
  rfl

theorem lineLength_nonneg (line : List (Point ℝ)) : 0 ≤ lineLength line := by
  rw [lineLength_eq_sum]
  apply List.sum_nonneg
  intro d hd
  obtain ⟨⟨p, q⟩, -, rfl⟩ := List.mem_map.mp hd
  exact Point.distance_nonneg p q

/-- A positive declared length is the length of a step. -/
theorem stepLength_of_declared {n : Network ℝ} {a b : Waypoint} {e : Edge ℝ}
    (h : n.edge? a b = some e) (hpos : 0 < e.distance) : n.stepLength a b = e.distance := by
  unfold stepLength
  rw [h]
  exact if_pos hpos

/-- **No step has a negative length**: what is declared counts only if it is positive. -/
theorem stepLength_nonneg (n : Network ℝ) (a b : Waypoint) : 0 ≤ n.stepLength a b := by
  unfold stepLength
  simp only
  split
  · rename_i hdeclared
    exact le_of_lt hdeclared
  · split
    · exact lineLength_nonneg _
    · exact le_rfl

/-- **The length of a route is the sum of the lengths of its steps.** -/
theorem routeLength_eq_sum (n : Network ℝ) (route : Route) :
    n.routeLength route = (route.steps.map fun step => n.stepLength step.1 step.2).sum := by
  unfold routeLength Route.steps
  rw [Scalar.sum_eq, ← List.map_uncurry_zip_eq_zipWith]
  rfl

@[simp] theorem routeLength_nil (n : Network ℝ) : n.routeLength [] = 0 := rfl

@[simp] theorem routeLength_singleton (n : Network ℝ) (w : Waypoint) : n.routeLength [w] = 0 := rfl

theorem routeLength_nonneg (n : Network ℝ) (route : Route) : 0 ≤ n.routeLength route := by
  rw [routeLength_eq_sum]
  apply List.sum_nonneg
  intro d hd
  obtain ⟨step, -, rfl⟩ := List.mem_map.mp hd
  exact n.stepLength_nonneg step.1 step.2

/-- **Lengths add up at a joint**: a route that is cut at one of its waypoints is as long as its two
parts, which both keep the waypoint. -/
theorem routeLength_append (n : Network ℝ) (route : Route) (w : Waypoint) (rest : Route) :
    n.routeLength (route ++ w :: rest)
      = n.routeLength (route ++ [w]) + n.routeLength (w :: rest) := by
  rw [routeLength_eq_sum, routeLength_eq_sum, routeLength_eq_sum, Route.steps_append,
    List.map_append, List.sum_append]

/-- **A first part of a route is no longer than the route.** -/
theorem routeLength_le_of_prefix (n : Network ℝ) {part route : Route} (h : part <+: route) :
    n.routeLength part ≤ n.routeLength route := by
  obtain ⟨rest, rfl⟩ := h
  rcases List.eq_nil_or_concat part with rfl | ⟨before, w, rfl⟩
  · rw [routeLength_nil]
    exact n.routeLength_nonneg _
  · rw [List.concat_eq_append, List.append_assoc, List.singleton_append,
      n.routeLength_append before w rest]
    exact le_add_of_nonneg_right (n.routeLength_nonneg _)

end Network

end AgvDispatch
