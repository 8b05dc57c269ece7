import AgvDispatch.Proofs.Network.Route
import AgvDispatch.Proofs.Task.SubTask
import AgvDispatch.Proofs.Traffic.Reservation
/-!
# Claims

The points that a vehicle **claims** are those of the skeleton it has reserved (`Traffic.claimed`).
They say less than a reservation, which has a route and a corridor besides, and they are easier to
follow: a vehicle that reserves a route claims what the route covers
(`Traffic.claimed_reserve_self`), and of two routes that are joined it claims what the two cover by
themselves (`Network.covered_joinRoutes`).
-/

namespace AgvDispatch

theorem Network.covered_nil (n : Network ℝ) : n.covered [] = ∅ := by
  ext p
  simp [covered]

/-- What a route covers, once a segment is joined to it, is what the two cover by themselves. The
segment has to begin where the route ends. -/
theorem Network.covered_joinRoutes (n : Network ℝ) {route segment : Route}
    (h : route = [] ∨ route.getLast? = segment.head?) :
    n.covered (SubTask.joinRoutes route segment) = n.covered route ∪ n.covered segment := by
  rcases h with rfl | h
  · rw [SubTask.joinRoutes_nil_left, covered_nil, Set.empty_union]
  · cases segment with
    | nil => rw [SubTask.joinRoutes_nil_right, covered_nil, Set.union_empty]
    | cons w rest =>
      rw [SubTask.joinRoutes_of_getLast? h]
      obtain ⟨init, rfl⟩ := List.getLast?_eq_some_iff.mp h
      rw [List.append_assoc, List.singleton_append, covered_append]

theorem Network.Resolves.joinRoutes {α : Type} {n : Network α} {route segment : Route}
    (h : n.Resolves route) (h' : n.Resolves segment) :
    n.Resolves (SubTask.joinRoutes route segment) := by
  unfold SubTask.joinRoutes
  split
  · exact h
  · split
    · exact h.append (h'.mono (List.subset_cons_self _ _))
    · exact h.append h'

namespace Traffic

/-- **The points that a vehicle claims**: those of the skeleton that it has reserved. -/
def claimed (t : Traffic ℝ) (id : String) : Set (Point ℝ) :=
  {p | ∃ r, t.reservation? id = some r ∧ p ∈ r.corridor.skeleton.region}

theorem claimed_eq_empty {t : Traffic ℝ} {id : String} (h : t.reservation? id = none) :
    t.claimed id = ∅ := by
  ext p
  simp [claimed, h]

theorem claimed_congr {t t' : Traffic ℝ} {id : String}
    (h : t'.reservation? id = t.reservation? id) : t'.claimed id = t.claimed id := by
  unfold claimed
  rw [h]

theorem claimed_eq_region {t : Traffic ℝ} {id : String} {r : Reservation ℝ}
    (h : t.reservation? id = some r) : t.claimed id = r.corridor.skeleton.region := by
  ext p
  simp [claimed, h]

theorem claimed_dropReservation (t : Traffic ℝ) (id other : String) :
    (t.dropReservation id).claimed other = if id = other then ∅ else t.claimed other := by
  split
  · rename_i h
    apply claimed_eq_empty
    rw [reservation?_dropReservation, if_pos h]
  · rename_i h
    apply claimed_congr
    rw [reservation?_dropReservation, if_neg h]

theorem claimed_track (t : Traffic ℝ) (id : String) (position : Point ℝ) (radius : ℝ)
    (other : String) : (t.track id position radius).claimed other = t.claimed other :=
  claimed_congr (t.reservation?_track id position radius other)

theorem claimed_reserve_of_ne (t : Traffic ℝ) (n : Network ℝ) {id other : String}
    (hne : other ≠ id) (route : Route) (buffer : ℝ) :
    (t.reserve n id route buffer).2.claimed other = t.claimed other :=
  claimed_congr (t.reservation?_reserve_of_ne n hne route buffer)

/-- A vehicle that reserves a route over known waypoints claims what the route covers. -/
theorem claimed_reserve_self {t : Traffic ℝ} {n : Network ℝ} {buffer : ℝ}
    (hfits : t.Holds fun _ r => r.Fits n buffer) (id : String) {route : Route}
    (hresolves : n.Resolves route) :
    (t.reserve n id route buffer).2.claimed id = n.covered route := by
  have hroute := reservedRoute?_reserve_self hfits id route
  by_cases hnil : route = []
  · subst hnil
    have hnone : (t.reserve n id [] buffer).2.reservation? id = none :=
      Option.map_eq_none_iff.mp hroute
    rw [claimed_eq_empty hnone, Network.covered_nil]
  · obtain ⟨s, hs⟩ := Network.exists_skeleton?_iff.mpr ⟨hnil, hresolves⟩
    rw [hs, Option.isSome_some, if_pos rfl] at hroute
    obtain ⟨r, hr, hrroute⟩ := Option.map_eq_some_iff.mp hroute
    have hskeleton := (hfits.reserve_fits id route id r hr).skeleton_eq
    rw [claimed_eq_region hr, Network.region_eq_covered hskeleton, hrroute]

end Traffic

end AgvDispatch
