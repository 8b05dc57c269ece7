import AgvDispatch.Proofs.Network.Fingerprint
import AgvDispatch.Traffic.Basic
/-!
# Reservations

What the operations of `Traffic` do to the reservations.

* Each operation touches the reservation of one vehicle only
  (`Traffic.reservation?_reserve_of_ne`, `Traffic.reservation?_release`), and `Traffic.track`
  touches none.
* A property of reservations that the newly built ones have is kept by every operation
  (`Traffic.Holds.reserve`). `Reservation.Fits` is the one of interest: a reservation **fits** a
  network if it is named after its route and its corridor runs along it.
* `Traffic.reservedRoute?_reserve_self`: what is reserved in the end is the route asked for, also
  where the corridor is not built again.
-/

namespace AgvDispatch

variable {α : Type} [Scalar α]

namespace Traffic

/-! ### Where the operations make a difference -/

@[simp] theorem reservation?_ofIndex (index : BoxIndex α String) (id : String) :
    (ofIndex index).reservation? id = none := by
  simp [reservation?, ofIndex]

theorem reservation?_dropReservation (t : Traffic α) (id other : String) :
    (t.dropReservation id).reservation? other
      = if id = other then none else t.reservation? other := by
  simp [reservation?, dropReservation, Std.TreeMap.getElem?_erase]

@[simp] theorem index_dropReservation (t : Traffic α) (id : String) :
    (t.dropReservation id).index = t.index := rfl

@[simp] theorem footprints_dropReservation (t : Traffic α) (id : String) :
    (t.dropReservation id).footprints = t.footprints := rfl

@[simp] theorem reservations_track (t : Traffic α) (id : String) (position : Point α)
    (radius : α) : (t.track id position radius).reservations = t.reservations := by
  unfold track
  cases t.footprints.get? id with
  | none => rfl
  | some old =>
    simp only
    split <;> rfl

@[simp] theorem reservation?_track (t : Traffic α) (id : String) (position : Point α)
    (radius : α) (other : String) :
    (t.track id position radius).reservation? other = t.reservation? other := by
  simp only [reservation?, reservations_track]

theorem reservation?_release (t : Traffic α) (id other : String) :
    (t.release id).reservation? other = if id = other then none else t.reservation? other := by
  rw [← reservation?_dropReservation]
  unfold release
  simp only
  split <;> rfl

/-- The four results of `reserve`, each with the traffic state that it leaves. -/
theorem reserve_results (t : Traffic α) (n : Network α) (id : String) (route : Route)
    (buffer : α) :
    (route = [] ∧ t.reserve n id route buffer = (.cleared, t.dropReservation id))
      ∨ (route ≠ [] ∧ t.hasReserved id route = true
          ∧ t.reserve n id route buffer = (.unchanged, t))
      ∨ (t.hasReserved id route = false ∧ n.skeleton? route = none
          ∧ t.reserve n id route buffer = (.unresolved, t.dropReservation id))
      ∨ (t.hasReserved id route = false ∧ ∃ r : Reservation α,
          t.reserve n id route buffer = (.rebuilt,
            { t with reservations := t.reservations.insert id r, revision := t.revision + 1 })
          ∧ r.revision = t.revision + 1
          ∧ r.vehicleId = id ∧ r.route = route ∧ r.fingerprint = route.fingerprint
          ∧ route.head?.map Waypoint.mapId = some r.mapId
          ∧ n.skeleton? route = some r.corridor.skeleton ∧ r.corridor.radius = max buffer 0) := by
  cases route with
  | nil => exact Or.inl ⟨rfl, rfl⟩
  | cons first rest =>
    simp only [reserve]
    by_cases hreserved : t.hasReserved id (first :: rest) = true
    · rw [if_pos hreserved]
      exact Or.inr (Or.inl ⟨List.cons_ne_nil _ _, hreserved, rfl⟩)
    · rw [if_neg hreserved]
      rw [Bool.not_eq_true] at hreserved
      cases hskeleton : n.skeleton? (first :: rest) with
      | none => exact Or.inr (Or.inr (Or.inl ⟨hreserved, rfl, rfl⟩))
      | some skeleton =>
        exact Or.inr (Or.inr (Or.inr
          ⟨hreserved, _, rfl, rfl, rfl, rfl, rfl, rfl, rfl, rfl⟩))

/-- The three things that `reserve` can do: drop what is reserved, leave everything as it is, or
build a corridor. -/
theorem reserve_cases (t : Traffic α) (n : Network α) (id : String) (route : Route) (buffer : α) :
    (n.skeleton? route = none ∧ (t.reserve n id route buffer).2 = t.dropReservation id)
      ∨ (route ≠ [] ∧ t.hasReserved id route = true ∧ (t.reserve n id route buffer).2 = t)
      ∨ (t.hasReserved id route = false ∧ ∃ r : Reservation α,
          (t.reserve n id route buffer).2
            = { t with reservations := t.reservations.insert id r, revision := t.revision + 1 }
          ∧ r.vehicleId = id ∧ r.route = route ∧ r.fingerprint = route.fingerprint
          ∧ route.head?.map Waypoint.mapId = some r.mapId
          ∧ n.skeleton? route = some r.corridor.skeleton ∧ r.corridor.radius = max buffer 0) := by
  obtain ⟨rfl, h⟩ | ⟨hne, hreserved, h⟩ | ⟨-, hskeleton, h⟩ | ⟨hreserved, r, h, -, hr⟩ :=
    t.reserve_results n id route buffer
  · exact Or.inl ⟨rfl, by rw [h]⟩
  · exact Or.inr (Or.inl ⟨hne, hreserved, by rw [h]⟩)
  · exact Or.inl ⟨hskeleton, by rw [h]⟩
  · exact Or.inr (Or.inr ⟨hreserved, r, by rw [h], hr⟩)

@[simp] theorem index_reserve (t : Traffic α) (n : Network α) (id : String) (route : Route)
    (buffer : α) : (t.reserve n id route buffer).2.index = t.index := by
  rcases t.reserve_cases n id route buffer with ⟨-, h⟩ | ⟨-, -, h⟩ | ⟨-, r, h, -⟩
  · rw [h, index_dropReservation]
  · rw [h]
  · rw [h]

@[simp] theorem footprints_reserve (t : Traffic α) (n : Network α) (id : String) (route : Route)
    (buffer : α) : (t.reserve n id route buffer).2.footprints = t.footprints := by
  rcases t.reserve_cases n id route buffer with ⟨-, h⟩ | ⟨-, -, h⟩ | ⟨-, r, h, -⟩
  · rw [h, footprints_dropReservation]
  · rw [h]
  · rw [h]

theorem reservation?_reserve_of_ne (t : Traffic α) (n : Network α) {id other : String}
    (hne : other ≠ id) (route : Route) (buffer : α) :
    (t.reserve n id route buffer).2.reservation? other = t.reservation? other := by
  rcases t.reserve_cases n id route buffer with ⟨-, h⟩ | ⟨-, -, h⟩ | ⟨-, r, h, -⟩
  · rw [h, reservation?_dropReservation, if_neg hne.symm]
  · rw [h]
  · rw [h]
    simp [reservation?, Std.TreeMap.getElem?_insert, hne.symm]

/-! ### What all reservations have in common -/

/-- Whether every reservation has a property, which may depend on the vehicle. -/
def Holds (t : Traffic α) (P : String → Reservation α → Prop) : Prop :=
  ∀ id r, t.reservation? id = some r → P id r

section Holds

variable {t : Traffic α} {P : String → Reservation α → Prop}

theorem Holds.dropReservation (h : t.Holds P) (id : String) : (t.dropReservation id).Holds P := by
  intro other r hr
  rw [reservation?_dropReservation] at hr
  split at hr
  · simp at hr
  · exact h other r hr

theorem Holds.track (h : t.Holds P) (id : String) (position : Point α) (radius : α) :
    (t.track id position radius).Holds P := by
  intro other r hr
  rw [reservation?_track] at hr
  exact h other r hr

theorem Holds.release (h : t.Holds P) (id : String) : (t.release id).Holds P := by
  intro other r hr
  rw [reservation?_release, ← reservation?_dropReservation] at hr
  exact h.dropReservation id other r hr

/-- What holds of the reservations so far and of one that is built for the route holds of the
reservations afterwards. -/
theorem Holds.reserve (h : t.Holds P) {n : Network α} {id : String} {route : Route} {buffer : α}
    (hnew : ∀ r : Reservation α, r.vehicleId = id → r.route = route →
      r.fingerprint = route.fingerprint → route.head?.map Waypoint.mapId = some r.mapId →
      n.skeleton? route = some r.corridor.skeleton → r.corridor.radius = max buffer 0 → P id r) :
    (t.reserve n id route buffer).2.Holds P := by
  rcases t.reserve_cases n id route buffer with
    ⟨-, heq⟩ | ⟨-, -, heq⟩ | ⟨-, r, heq, hid, hroute, hprint, hmap, hskeleton, hradius⟩
  · rw [heq]
    exact h.dropReservation id
  · rw [heq]
    exact h
  · intro other r' hr'
    by_cases hother : other = id
    · subst hother
      rw [heq] at hr'
      obtain rfl : r = r' := by simpa [reservation?] using hr'
      exact hnew r hid hroute hprint hmap hskeleton hradius
    · rw [reservation?_reserve_of_ne t n hother] at hr'
      exact h other r' hr'

end Holds

end Traffic

/-- **What a reservation is for**: it is named after its route and begins on its map, and its
corridor runs along the route. -/
structure Reservation.Fits (r : Reservation α) (n : Network α) (buffer : α) : Prop where
  /-- The text that identifies the route is the fingerprint. -/
  fingerprint_eq : r.fingerprint = r.route.fingerprint
  /-- The route begins on the map of the reservation. -/
  mapId_eq : r.route.head?.map Waypoint.mapId = some r.mapId
  /-- The route has the skeleton of the corridor. -/
  skeleton_eq : n.skeleton? r.route = some r.corridor.skeleton
  /-- The corridor reaches as far as the buffer says. -/
  radius_eq : r.corridor.radius = max buffer 0

namespace Traffic

theorem Holds.reserve_fits {t : Traffic α} {n : Network α} {buffer : α}
    (h : t.Holds fun _ r => r.Fits n buffer) (id : String) (route : Route) :
    (t.reserve n id route buffer).2.Holds fun _ r => r.Fits n buffer := by
  refine h.reserve ?_
  rintro r - rfl hprint hmap hskeleton hradius
  exact ⟨hprint, hmap, hskeleton, hradius⟩

/-- The route that a vehicle has reserved. -/
def reservedRoute? (t : Traffic α) (id : String) : Option Route :=
  (t.reservation? id).map Reservation.route

/-- **A route passes for reserved only if it is the one that is reserved**: the texts are compared,
and a text tells a route apart from all others. -/
theorem hasReserved_iff {t : Traffic α}
    (h : t.Holds fun _ r => r.fingerprint = r.route.fingerprint) {id : String} {route : Route} :
    t.hasReserved id route = true ↔ t.reservedRoute? id = some route := by
  unfold hasReserved reservedRoute?
  cases hr : t.reservation? id with
  | none => simp
  | some r =>
    simp only [beq_iff_eq, h id r hr, Option.map_some, Option.some.injEq]
    exact ⟨fun heq => Route.fingerprint_injective heq, congrArg Route.fingerprint⟩

/-- **What is reserved is the route asked for**, provided that it has a skeleton, and nothing
otherwise. Where the corridor is not built again, the route was reserved before. -/
theorem reservedRoute?_reserve_of_fits {t : Traffic α} {n : Network α}
    (h : t.Holds fun _ r => ∃ reach, r.Fits n reach) (id : String) (route : Route) (buffer : α) :
    (t.reserve n id route buffer).2.reservedRoute? id
      = if (n.skeleton? route).isSome then some route else none := by
  rcases t.reserve_cases n id route buffer with
    ⟨hskeleton, heq⟩ | ⟨hroute, hreserved, heq⟩ | ⟨-, r, heq, -, hroute, -, -, hskeleton, -⟩
  · rw [heq, hskeleton, reservedRoute?, reservation?_dropReservation]
    simp
  · have hprints : t.Holds fun _ r => r.fingerprint = r.route.fingerprint :=
      fun id r hr => (h id r hr).choose_spec.fingerprint_eq
    have hsame := (hasReserved_iff hprints).mp hreserved
    obtain ⟨r, hr, rfl⟩ := Option.map_eq_some_iff.mp hsame
    obtain ⟨reach, hfits⟩ := h id r hr
    rw [heq, hsame, hfits.skeleton_eq]
    rfl
  · rw [heq, hskeleton]
    simp [reservedRoute?, reservation?, hroute]

theorem reservedRoute?_reserve_self {t : Traffic α} {n : Network α} {buffer : α}
    (h : t.Holds fun _ r => r.Fits n buffer) (id : String) (route : Route) :
    (t.reserve n id route buffer).2.reservedRoute? id
      = if (n.skeleton? route).isSome then some route else none :=
  reservedRoute?_reserve_of_fits (fun id r hr => ⟨buffer, h id r hr⟩) id route buffer

end Traffic

end AgvDispatch
