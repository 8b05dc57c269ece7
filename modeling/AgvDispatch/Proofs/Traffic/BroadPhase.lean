import AgvDispatch.Proofs.Traffic.Event
import AgvDispatch.Proofs.Traffic.Safety
/-!
# The footprints never change an answer

`Traffic.isSafe` measures the distance to a vehicle only if its footprint does not rule it out.
`Traffic.isSafeUnfiltered` measures the distance to every other vehicle of the map. In exact
arithmetic the two agree, whatever registry writes and traffic operations came before
(`TrafficControl.isSafe_run_eq_isSafeUnfiltered`).

* A vehicle that is ruled out is out of reach of the path, so that looking at it finds nothing
  (`Traffic.any_within`). This is where the reach and the cells of the index come in.
* It takes an index that is up to date, which every event keeps (`TrafficControl.indexed_step`). It
  takes nothing from the registry: a vehicle whose footprint is missing or is not the one around its
  registered position is never ruled out.
-/

namespace AgvDispatch

namespace Traffic

/-- Whether a candidate route keeps clear of every other vehicle on a map, where the registered
position of each of them is looked at. -/
def isSafeUnfiltered {α : Type} [Scalar α] (t : Traffic α) (registry : Registry α)
    (network : Network α) (mapId : Int) (vehicleId : String) (candidate : Route) (buffer : α) :
    Bool :=
  candidate.isEmpty ||
    match network.skeleton? candidate with
    | none => false
    | some path =>
      let vs := others registry mapId vehicleId
      !(vs.any (t.hitsReservation mapId path buffer) || vs.any (hitsPosition path buffer))

variable {t : Traffic ℝ}

theorem hitsPosition_iff {path : Skeleton ℝ} {buffer : ℝ} {v : Vehicle ℝ} :
    hitsPosition path buffer v = true
      ↔ path.distanceToPoint v.position < buffer + v.radius :=
  Skeleton.collides_iff

/-- **Some vehicle is hit exactly when one that the footprints leave is.** -/
theorem any_within (h : t.Indexed) (path : Skeleton ℝ) (buffer : ℝ) (vs : List (Vehicle ℝ)) :
    (t.within path buffer vs).any (hitsPosition path buffer)
      = vs.any (hitsPosition path buffer) := by
  rw [Bool.eq_iff_iff, List.any_eq_true, List.any_eq_true]
  constructor
  · rintro ⟨v, hv, hhit⟩
    exact ⟨v, List.mem_of_mem_filter hv, hhit⟩
  · rintro ⟨v, hv, hhit⟩
    have hclose := hitsPosition_iff.mp hhit
    exact ⟨v, mem_within h hv hclose, hhit⟩

theorem isSafe_eq_isSafeUnfiltered (h : t.Indexed) (registry : Registry ℝ) (n : Network ℝ)
    (mapId : Int) (id : String) (candidate : Route) (buffer : ℝ) :
    t.isSafe registry n mapId id candidate buffer
      = t.isSafeUnfiltered registry n mapId id candidate buffer := by
  unfold isSafe isSafeUnfiltered
  cases n.skeleton? candidate with
  | none => rfl
  | some path =>
    show (_ || !(_ || (t.within path buffer (others registry mapId id)).any _)) = _
    rw [any_within h]

end Traffic

namespace TrafficControl

/-- The index is up to date over any floor, also over one without an extent. -/
theorem indexed_start (floor : FloorSettings ℝ) (registry : Registry ℝ) (n : Network ℝ) :
    (start floor registry n).traffic.Indexed :=
  Traffic.Indexed.ofIndex (BoxIndex.regular_empty _ _ _ _)

theorem indexed_step (c : TrafficControl ℝ) (event : TrafficEvent ℝ) (h : c.traffic.Indexed) :
    (c.step event).traffic.Indexed := by
  cases event with
  | upsert v => exact h
  | modify id change => exact h
  | erase id => exact h
  | reserve id route buffer => exact h.reserve c.network id route buffer
  | track id position radius => exact h.track id position radius
  | release id => exact h.release id

/-- **The footprints never change an answer**: after any sequence of registry writes and traffic
operations a route is safe exactly when it keeps clear of the registered position of every other
vehicle of the map. -/
theorem isSafe_run_eq_isSafeUnfiltered (floor : FloorSettings ℝ) (registry : Registry ℝ)
    (n : Network ℝ) (events : List (TrafficEvent ℝ)) (mapId : Int) (id : String)
    (candidate : Route) (buffer : ℝ) :
    let c := (start floor registry n).run events
    c.traffic.isSafe c.registry c.network mapId id candidate buffer
      = c.traffic.isSafeUnfiltered c.registry c.network mapId id candidate buffer := by
  intro c
  have hindexed : c.traffic.Indexed :=
    invariant_run (I := fun c => c.traffic.Indexed) indexed_step
      (indexed_start floor registry n) events
  exact Traffic.isSafe_eq_isSafeUnfiltered hindexed c.registry c.network mapId id candidate buffer

end TrafficControl

end AgvDispatch
