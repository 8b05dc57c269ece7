import AgvDispatch.Proofs.Fleet.Queue
import AgvDispatch.Proofs.Traffic.Claim
/-!
# A fleet on one map

A fleet is on a map (`Fleet.OnMap`) when all its vehicles, waypoints and sub-tasks are, and it stays
on it as long as orders and reports are about the map. An event is coherent (`Fleet.Coherent`) when
it agrees, besides, with the plans of the fleet: a candidate begins where the committed route ends,
and a vehicle reports the route that the fleet believes to lie ahead of it.

Two properties of the claims of a fleet are stated here, with what is enough to keep them.

* What lies ahead of a vehicle is claimed by it (`Fleet.Reserved`).
* The claims of different vehicles keep apart (`Fleet.Apart`). It is enough that a claim only loses
  points (`Fleet.Apart.of_subset`), or that one vehicle adds points that keep clear of the other
  claims (`Fleet.Apart.of_added`).
-/

namespace AgvDispatch.Fleet

/-! ### One map -/

/-- **One map and nothing but that**: every vehicle, every waypoint and every sub-task is on it, and
the clearances are sensible. -/
structure OnMap (f : Fleet ℝ) (mapId : ℤ) : Prop where
  /-- Every vehicle is registered under its own id. -/
  keyed : f.registry.Keyed
  /-- Every vehicle is on the map. -/
  vehicles : f.registry.Holds fun _ v => v.mapId = mapId
  /-- Every vehicle has an extent. -/
  radii : f.registry.Holds fun _ v => 0 < v.radius
  /-- Every waypoint with a position is on the map. -/
  waypoints : ∀ w p, f.network.position w = some p → w.mapId = mapId
  /-- Every sub-task is executed on the map. -/
  tasks : ∀ id, ∀ task ∈ f.backlog.queue id, task.mapId = mapId
  /-- The buffer of a corridor is not negative. -/
  bufferRadius_nonneg : 0 ≤ f.settings.traffic.bufferRadius
  /-- The safety buffer is not negative. -/
  safetyBuffer_nonneg : 0 ≤ f.settings.traffic.safetyBuffer

/-- The route that the fleet believes to lie ahead of a vehicle once it has taken a report in. -/
def routeAfter (f : Fleet ℝ) (r : VehicleReport ℝ) : Route :=
  ((f.backlog.head? r.vehicleId).map fun task => (r.passed task).effectiveRoute).getD []

/-- **Whether an event is coherent with the plans of a fleet.** Orders and reports are about the
map; a candidate begins where the committed route ends; and a vehicle reports as its remaining route
the one that the fleet believes to lie ahead of it then. No vehicle goes offline. -/
def Coherent (mapId : ℤ) (f : Fleet ℝ) : FleetEvent ℝ → Prop
  | .assign order => order.mapId = mapId
  | .report r => r.mapId = mapId ∧ r.remaining = f.routeAfter r
  | .plan id candidate => ∀ task, f.backlog.head? id = some task → task.running ≠ [] →
      candidate.head? = task.runningEnd
  | .takeOffline _ => False
  | _ => True

/-- An event of one map keeps a fleet on it. -/
theorem OnMap.step {f : Fleet ℝ} {mapId : ℤ} {event : FleetEvent ℝ} (h : f.OnMap mapId)
    (hassign : ∀ order, event = .assign order → order.mapId = mapId)
    (hreport : ∀ r, event = .report r → r.mapId = mapId) : (f.step event).OnMap mapId := by
  refine ⟨keyed_step h.keyed event, ?_, ?_, ?_, ?_, ?_, ?_⟩
  · intro id v' hv'
    obtain ⟨v, hv, -, -, hplace | ⟨r, hr, -, rfl⟩⟩ := exists_get?_of_step hv'
    · exact hplace.mapId_eq.trans (h.vehicles id v hv)
    · exact hreport r hr
  · intro id v' hv'
    obtain ⟨v, hv, -, hradius, -⟩ := exists_get?_of_step hv'
    rw [hradius]
    exact h.radii id v hv
  · rw [network_step]
    exact h.waypoints
  · intro id task htask
    have htasks := h.tasks id
    rcases f.queue_step_cases event id with
      heq | ⟨order, his, heq⟩ | ⟨head, rest, head', hcons, heq, hstep⟩ | heq
    · rw [heq] at htask
      exact htasks task htask
    · rw [heq, List.mem_append, List.mem_singleton] at htask
      rcases htask with htask | rfl
      · exact htasks task htask
      · exact hassign order his
    · rw [hcons, List.forall_mem_cons] at htasks
      rw [heq] at htask
      rcases List.mem_cons.mp htask with rfl | htask
      · exact (SubTask.mapId_step hstep).trans htasks.1
      · exact htasks.2 task htask
    · rw [heq] at htask
      exact htasks task (List.mem_of_mem_tail htask)
  · rw [settings_step]
    exact h.bufferRadius_nonneg
  · rw [settings_step]
    exact h.safetyBuffer_nonneg

theorem OnMap.step_of_coherent {f : Fleet ℝ} {mapId : ℤ} {event : FleetEvent ℝ} (h : f.OnMap mapId)
    (hcoherent : f.Coherent mapId event) : (f.step event).OnMap mapId := by
  refine h.step ?_ ?_
  · rintro order rfl
    exact hcoherent
  · rintro r rfl
    exact hcoherent.1

theorem OnMap.report {f : Fleet ℝ} {mapId : ℤ} (h : f.OnMap mapId) {r : VehicleReport ℝ}
    (hmap : r.mapId = mapId) : (f.step (.report r)).OnMap mapId := by
  refine h.step ?_ ?_
  · intro order horder
    cases horder
  · intro r' hr'
    cases hr'
    exact hmap

theorem OnMap.of_closed {f : Fleet ℝ} {mapId : ℤ} (h : f.OnMap mapId) {event : FleetEvent ℝ}
    {id : String} (hend : event = .finish id ∨ ∃ reason, event = .cancel id reason) :
    (f.step event).OnMap mapId := by
  refine h.step ?_ ?_
  · rintro order rfl
    simp at hend
  · rintro r rfl
    simp at hend

/-! ### What lies ahead is claimed -/

/-- **Whether what lies ahead of each vehicle is claimed by it.** -/
structure Reserved (f : Fleet ℝ) : Prop where
  /-- The reservations are what they say. -/
  fits : f.traffic.Holds fun _ r => r.Fits f.network f.settings.traffic.bufferRadius
  /-- What lies ahead of a vehicle leads over known waypoints. -/
  resolves : ∀ id task, f.backlog.head? id = some task → f.network.Resolves task.effectiveRoute
  /-- What lies ahead of a vehicle is claimed. -/
  covered_subset : ∀ id task, f.backlog.head? id = some task →
    f.network.covered task.effectiveRoute ⊆ f.traffic.claimed id

/-- The distance that two vehicles under way have to keep. -/
def clearance (f : Fleet ℝ) (a b : Vehicle ℝ) : ℝ :=
  f.settings.traffic.bufferRadius + f.settings.traffic.safetyBuffer + min a.radius b.radius

/-- **Whether the claims of the registered vehicles keep apart.** -/
def Apart (f : Fleet ℝ) : Prop :=
  ∀ v w a b, v ≠ w → f.registry.get? v = some a → f.registry.get? w = some b →
    ∀ p ∈ f.traffic.claimed v, ∀ q ∈ f.traffic.claimed w, f.clearance a b ≤ p.distance q

/-- Claims that only lose points keep apart. -/
theorem Apart.of_subset {f f' : Fleet ℝ} (h : f.Apart) (hsettings : f'.settings = f.settings)
    (hregistry : ∀ id v', f'.registry.get? id = some v' →
      ∃ v, f.registry.get? id = some v ∧ v'.radius = v.radius)
    (hclaimed : ∀ id, f'.traffic.claimed id ⊆ f.traffic.claimed id) : f'.Apart := by
  intro v w a' b' hne ha' hb' p hp q hq
  obtain ⟨a, ha, hra⟩ := hregistry v a' ha'
  obtain ⟨b, hb, hrb⟩ := hregistry w b' hb'
  unfold clearance
  rw [hsettings, hra, hrb]
  exact h v w a b hne ha hb p (hclaimed v hp) q (hclaimed w hq)

theorem Apart.of_step {f : Fleet ℝ} (h : f.Apart) {event : FleetEvent ℝ}
    (hclaimed : ∀ id, (f.step event).traffic.claimed id ⊆ f.traffic.claimed id) :
    (f.step event).Apart := by
  refine h.of_subset (f.settings_step event) ?_ hclaimed
  intro id v' hv'
  obtain ⟨v, hv, -, hradius, -⟩ := exists_get?_of_step hv'
  exact ⟨v, hv, hradius⟩

/-- The claims of all vehicles keep apart if those before did and one vehicle has added to its claim
only points that keep clear of the claims of the others. -/
theorem Apart.of_added {f f' : Fleet ℝ} (h : f.Apart) (hsettings : f'.settings = f.settings)
    (hregistry : f'.registry = f.registry) {id : String} (added : Set (Point ℝ))
    (hself : f'.traffic.claimed id ⊆ f.traffic.claimed id ∪ added)
    (hothers : ∀ other, other ≠ id → f'.traffic.claimed other = f.traffic.claimed other)
    (hclear : ∀ other a b, other ≠ id → f.registry.get? id = some a →
      f.registry.get? other = some b → ∀ p ∈ added, ∀ q ∈ f.traffic.claimed other,
        f.clearance a b ≤ p.distance q) : f'.Apart := by
  have hclearance : ∀ a b, f'.clearance a b = f.clearance a b := by
    intro a b
    unfold clearance
    rw [hsettings]
  have hsymm : ∀ a b, f.clearance a b = f.clearance b a := by
    intro a b
    unfold clearance
    rw [min_comm]
  intro v w a b hne ha hb p hp q hq
  rw [hregistry] at ha hb
  rw [hclearance]
  -- Only one of the two claims can have grown.
  by_cases hv : v = id
  · subst hv
    rw [hothers w hne.symm] at hq
    rcases hself hp with hp | hp
    · exact h v w a b hne ha hb p hp q hq
    · exact hclear w a b hne.symm ha hb p hp q hq
  · rw [hothers v hv] at hp
    by_cases hw : w = id
    · subst hw
      rcases hself hq with hq | hq
      · exact h v w a b hne ha hb p hp q hq
      · rw [Point.distance_comm, hsymm]
        exact hclear v b a hne hb ha q hq p hp
    · rw [hothers w hw] at hq
      exact h v w a b hne ha hb p hp q hq

/-- What lies ahead is claimed after an event if it is so for every head that the event has changed
or whose claim it has changed. -/
theorem Reserved.of_heads {f f' : Fleet ℝ} (h : f.Reserved) (hnetwork : f'.network = f.network)
    (hfits : f'.traffic.Holds fun _ r => r.Fits f'.network f'.settings.traffic.bufferRadius)
    (hheads : ∀ id task', f'.backlog.head? id = some task' →
      (f.network.Resolves task'.effectiveRoute
          ∧ f.network.covered task'.effectiveRoute ⊆ f'.traffic.claimed id)
        ∨ ∃ task, f.backlog.head? id = some task ∧ task'.effectiveRoute = task.effectiveRoute
          ∧ f'.traffic.claimed id = f.traffic.claimed id) : f'.Reserved := by
  have hboth : ∀ id task', f'.backlog.head? id = some task' →
      f'.network.Resolves task'.effectiveRoute
        ∧ f'.network.covered task'.effectiveRoute ⊆ f'.traffic.claimed id := by
    intro id task' hhead'
    rw [hnetwork]
    rcases hheads id task' hhead' with hnew | ⟨task, hhead, hroute, hclaimed⟩
    · exact hnew
    · rw [hroute, hclaimed]
      exact ⟨h.resolves id task hhead, h.covered_subset id task hhead⟩
  exact ⟨hfits, fun id task hhead => (hboth id task hhead).1,
    fun id task hhead => (hboth id task hhead).2⟩

/-- A report over known waypoints replaces the claim of its vehicle. -/
theorem claimed_report {f : Fleet ℝ}
    (hfits : f.traffic.Holds fun _ r => r.Fits f.network f.settings.traffic.bufferRadius)
    {r : VehicleReport ℝ} {v : Vehicle ℝ} (hv : f.registry.get? r.vehicleId = some v)
    (hresolves : f.network.Resolves r.remaining) (id : String) :
    (f.step (.report r)).traffic.claimed id
      = if r.vehicleId = id then f.network.covered r.remaining else f.traffic.claimed id := by
  have htraffic : (f.step (.report r)).traffic = _ := traffic_report hv
  rw [htraffic]
  split
  · rename_i hid
    subst hid
    exact Traffic.claimed_reserve_self (hfits.track r.vehicleId r.position v.radius) _ hresolves
  · rename_i hid
    rw [Traffic.claimed_reserve_of_ne _ _ (fun heq => hid heq.symm), Traffic.claimed_track]

/-- A sub-task of which nothing has been committed has nothing ahead. -/
theorem resolves_of_unbegun {f : Fleet ℝ} {task : SubTask ℝ} (h : task.Unbegun)
    (claim : Set (Point ℝ)) : f.network.Resolves task.effectiveRoute
      ∧ f.network.covered task.effectiveRoute ⊆ claim := by
  have hnil : task.effectiveRoute = [] := h.onTrack.effectiveRoute_eq_nil_iff.mpr h.running_eq
  rw [hnil, Network.covered_nil]
  exact ⟨fun w hw => absurd hw List.not_mem_nil, Set.empty_subset _⟩

end AgvDispatch.Fleet
