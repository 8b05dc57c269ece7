import AgvDispatch.Proofs.Fleet.Separation
/-!
# Vehicles do not meet

Corridors that keep apart are of use only if the vehicles are where they claim to be. A fleet is
**clear** (`Fleet.Clear`) when its vehicles stand on different waypoints and no vehicle claims a
point that is too close to where another one stands.

A plan is held against the positions of the other vehicles, so what it adds to a claim keeps clear
of them (`Fleet.Clear.step`). A vehicle that moves to a waypoint of its own claim gets no closer to
the claims of the others than its old claim was, since claims keep apart (`Fleet.Clear.of_moved`).
-/

namespace AgvDispatch

theorem Vehicle.SamePlace.waypoint_eq {α : Type} {v w : Vehicle α} (h : v.SamePlace w) :
    w.waypoint = v.waypoint := by
  unfold Vehicle.waypoint
  rw [h.currentPoint_eq, h.mapId_eq]

namespace Fleet

theorem indexed_step {f : Fleet ℝ} (h : f.traffic.Indexed) (event : FleetEvent ℝ) :
    (f.step event).traffic.Indexed := by
  cases f.change_step event with
  | idle _ htraffic | assigned _ _ _ _ htraffic | staged _ _ _ _ _ _ _ htraffic
  | deferred _ _ _ _ _ _ _ _ _ _ htraffic =>
    rw [htraffic]
    exact h
  | planned _ _ _ _ _ _ _ _ _ htraffic =>
    rw [htraffic]
    exact h.reserve _ _ _ _
  | reported r v _ _ _ htraffic =>
    rw [htraffic]
    exact (h.track _ _ _).reserve _ _ _ _
  | closed id _ _ _ _ htraffic =>
    rw [htraffic]
    exact h.dropReservation id
  | released id _ _ htraffic =>
    rw [htraffic]
    exact h.release id

/-- **Whether every vehicle keeps clear of where the others stand.** All vehicles have the same
radius. -/
structure Clear (f : Fleet ℝ) (radius : ℝ) : Prop where
  /-- The footprints are filed. -/
  indexed : f.traffic.Indexed
  /-- All vehicles reach as far around their positions. -/
  radii : f.registry.Holds fun _ v => v.radius = radius
  /-- Every vehicle stands on a waypoint. -/
  stands : f.registry.Holds fun _ v => ∃ w, v.waypoint = some w
    ∧ f.network.position w = some v.position
  /-- No two vehicles stand on the same waypoint. -/
  waypoint_ne : ∀ id other a b, id ≠ other → f.registry.get? id = some a →
    f.registry.get? other = some b → a.waypoint ≠ b.waypoint
  /-- What a vehicle claims is not close to where another one stands. -/
  le_distance : ∀ id other a b, id ≠ other → f.registry.get? id = some a →
    f.registry.get? other = some b → ∀ p ∈ f.traffic.claimed id,
      f.settings.traffic.safetyBuffer + radius ≤ p.distance b.position

namespace Clear

variable {f f' : Fleet ℝ} {mapId : ℤ} {radius : ℝ}

/-- A route that is safe for a vehicle keeps clear of where the others stand. -/
theorem le_distance_of_isSafe (h : f.Clear radius) (hsep : f.Separated mapId) {id other : String}
    (hne : id ≠ other) {b : Vehicle ℝ} (hb : f.registry.get? other = some b) {route : Route}
    (hsafe : f.traffic.isSafe f.registry f.network mapId id route
      f.settings.traffic.safetyBuffer = true)
    {p : Point ℝ} (hp : p ∈ f.network.covered route) :
    f.settings.traffic.safetyBuffer + radius ≤ p.distance b.position := by
  have hroute : route ≠ [] := by
    rintro rfl
    rw [Network.covered_nil] at hp
    exact absurd hp (Set.notMem_empty p)
  obtain ⟨path, hpath, -⟩ := Traffic.exists_path_of_isSafe hsafe hroute
  have hkey : b.id = other := hsep.onMap.keyed other b hb
  have hother : b ∈ Traffic.others f.registry mapId id := Traffic.mem_others.mpr
    ⟨⟨other, hb⟩, hsep.onMap.vehicles other b hb, by rw [hkey]; exact hne.symm⟩
  have hdistance := Traffic.le_distanceToPoint_of_isSafe h.indexed hsafe hpath hother
  have hradius : b.radius = radius := h.radii other b hb
  rw [hradius, Skeleton.le_distanceToPoint_iff] at hdistance
  rw [← Network.region_eq_covered hpath] at hp
  rw [Point.distance_comm]
  exact hdistance p hp

/-- A fleet stays clear when every vehicle stays where it is and what is added to a claim is not
close to where another vehicle stands. -/
theorem of_still (h : f.Clear radius) (hindexed : f'.traffic.Indexed)
    (hnetwork : f'.network = f.network) (hsettings : f'.settings = f.settings)
    (hplace : ∀ id v', f'.registry.get? id = some v' → ∃ v, f.registry.get? id = some v
      ∧ v'.radius = v.radius ∧ v'.waypoint = v.waypoint ∧ v'.position = v.position)
    (hclaimed : ∀ id other b, id ≠ other → f.registry.get? other = some b →
      ∀ p ∈ f'.traffic.claimed id, p ∈ f.traffic.claimed id
        ∨ f.settings.traffic.safetyBuffer + radius ≤ p.distance b.position) :
    f'.Clear radius := by
  refine ⟨hindexed, ?_, ?_, ?_, ?_⟩
  · intro id v' hv'
    obtain ⟨v, hv, hradius, -⟩ := hplace id v' hv'
    exact hradius.trans (h.radii id v hv)
  · intro id v' hv'
    obtain ⟨v, hv, -, hwaypoint, hposition⟩ := hplace id v' hv'
    rw [hnetwork, hwaypoint, hposition]
    exact h.stands id v hv
  · intro id other a' b' hne ha' hb'
    obtain ⟨a, ha, -, hwaypointa, -⟩ := hplace id a' ha'
    obtain ⟨b, hb, -, hwaypointb, -⟩ := hplace other b' hb'
    rw [hwaypointa, hwaypointb]
    exact h.waypoint_ne id other a b hne ha hb
  · intro id other a' b' hne ha' hb' p hp
    obtain ⟨a, ha, -⟩ := hplace id a' ha'
    obtain ⟨b, hb, -, -, hposition⟩ := hplace other b' hb'
    rw [hsettings, hposition]
    rcases hclaimed id other b hne hb p hp with hp | hdistance
    · exact h.le_distance id other a b hne ha hb p hp
    · exact hdistance

/-- An event other than a report leaves every vehicle where it is. -/
theorem of_step (h : f.Clear radius) {event : FleetEvent ℝ} (hreport : ∀ r, event ≠ .report r)
    (hclaimed : ∀ id other b, id ≠ other → f.registry.get? other = some b →
      ∀ p ∈ (f.step event).traffic.claimed id, p ∈ f.traffic.claimed id
        ∨ f.settings.traffic.safetyBuffer + radius ≤ p.distance b.position) :
    (f.step event).Clear radius := by
  refine h.of_still (indexed_step h.indexed event) (f.network_step event) (f.settings_step event)
    ?_ hclaimed
  intro id v' hv'
  obtain ⟨v, hv, -, hradius, hplace | ⟨r, hr, -⟩⟩ := exists_get?_of_step hv'
  · exact ⟨v, hv, hradius, hplace.waypoint_eq, hplace.position_eq⟩
  · exact absurd hr (hreport r)

/-- **A coherent event other than a report keeps a fleet clear.** -/
theorem step (h : f.Clear radius) (hsep : f.Separated mapId) {event : FleetEvent ℝ}
    (hcoherent : f.Coherent mapId event) (hreport : ∀ r, event ≠ .report r) :
    (f.step event).Clear radius := by
  refine h.of_step hreport fun id other b hne hb p hp => ?_
  rcases hsep.mem_claimed_step hcoherent hp with hp | ⟨route, hsafe, hp⟩
  · exact Or.inl hp
  · exact Or.inr (h.le_distance_of_isSafe hsep hne hb hsafe hp)

/-- The end of a sub-task keeps a fleet clear, whatever lies ahead of the vehicles. -/
theorem finish (h : f.Clear radius) (id : String) : (f.step (.finish id)).Clear radius := by
  refine h.of_step (fun r hr => by cases hr) fun owner other b _ _ p hp => Or.inl ?_
  cases f.change_step (.finish id) with
  | idle _ htraffic =>
    rw [htraffic] at hp
    exact hp
  | closed id' _ _ _ _ htraffic =>
    rw [htraffic, Traffic.claimed_dropReservation] at hp
    split at hp
    · exact absurd hp (Set.notMem_empty p)
    · exact hp
  | assigned _ _ his | staged _ _ _ his | deferred _ _ _ his | planned _ _ _ his | reported _ _ his
  | released _ his => simp at his

theorem expect (h : f.Clear radius) (id : String) (route : Route) :
    (f.expect id route).Clear radius :=
  ⟨h.indexed, h.radii, h.stands, h.waypoint_ne, h.le_distance⟩

/-- A vehicle that reports to be where it was, with nothing ahead of it, keeps a fleet clear. -/
theorem of_presence (h : f.Clear radius) (hsep : f.Separated mapId) {r : VehicleReport ℝ}
    {v : Vehicle ℝ} (hv : f.registry.get? r.vehicleId = some v)
    (hwaypoint : r.waypoint = v.waypoint) (hposition : r.position = v.position)
    (hremaining : r.remaining = []) :
    (f.step (.report r)).Clear radius := by
  refine h.of_still (indexed_step h.indexed _) (f.network_step _) (f.settings_step _) ?_ ?_
  · intro id a' ha'
    have hget : (f.step (.report r)).registry.get? id = _ := get?_report hv id
    rw [hget] at ha'
    split at ha'
    · rename_i hid
      subst hid
      rw [hv, Option.map_some, Option.some.injEq] at ha'
      subst ha'
      exact ⟨v, hv, rfl, hwaypoint, hposition⟩
    · exact ⟨a', ha', rfl, rfl, rfl⟩
  · intro id _ _ _ _ p hp
    have hresolves : f.network.Resolves r.remaining := by
      rw [hremaining]
      exact fun w hw => absurd hw List.not_mem_nil
    rw [claimed_report hsep.reserved.fits hv hresolves, hremaining, Network.covered_nil] at hp
    split at hp
    · exact absurd hp (Set.notMem_empty p)
    · exact Or.inl hp

/-- No other vehicle stands on a waypoint that a vehicle claims. -/
theorem waypoint_ne_of_mem (h : f.Clear radius) (hsep : f.Separated mapId) {id other : String}
    (hne : id ≠ other) {a b : Vehicle ℝ} (ha : f.registry.get? id = some a)
    (hb : f.registry.get? other = some b) {w : Waypoint} {p : Point ℝ}
    (hp : f.network.position w = some p) (hmem : p ∈ f.traffic.claimed id) :
    b.waypoint ≠ some w := by
  intro hw
  obtain ⟨w', hw', hposition⟩ := h.stands other b hb
  rw [hw, Option.some.injEq] at hw'
  rw [← hw', hp, Option.some.injEq] at hposition
  have hdistance := h.le_distance id other a b hne ha hb p hmem
  rw [← hposition, Point.distance_self] at hdistance
  have hradius : b.radius = radius := h.radii other b hb
  have hpositive : 0 < b.radius := hsep.onMap.radii other b hb
  linarith [hsep.onMap.safetyBuffer_nonneg]

/-- **A vehicle that moves within its claim keeps a fleet clear.** -/
theorem of_moved (h : f.Clear radius) (hsep : f.Separated mapId) {r : VehicleReport ℝ}
    {v : Vehicle ℝ} (hv : f.registry.get? r.vehicleId = some v) {here : Waypoint}
    (hwaypoint : r.waypoint = some here) (hposition : f.network.position here = some r.position)
    (hmem : r.position ∈ f.traffic.claimed r.vehicleId) (hresolves : f.network.Resolves r.remaining)
    (hclaimed : f.network.covered r.remaining ⊆ f.traffic.claimed r.vehicleId) :
    (f.step (.report r)).Clear radius := by
  have hself : (f.step (.report r)).registry.get? r.vehicleId = some (r.update v) := by
    refine (get?_report hv r.vehicleId).trans ?_
    rw [if_pos rfl, hv]
    rfl
  have hother : ∀ id, id ≠ r.vehicleId →
      (f.step (.report r)).registry.get? id = f.registry.get? id := by
    intro id hid
    refine (get?_report hv id).trans ?_
    rw [if_neg hid.symm]
  have hfree : ∀ id a, id ≠ r.vehicleId → f.registry.get? id = some a →
      (r.update v).waypoint ≠ a.waypoint := by
    intro id a hid ha heq
    have hhere : a.waypoint = some here := heq.symm.trans hwaypoint
    exact h.waypoint_ne_of_mem hsep hid.symm hv ha hposition hmem hhere
  refine ⟨indexed_step h.indexed _, ?_, ?_, ?_, ?_⟩
  · intro id a' ha'
    obtain ⟨a, ha, -, hradius, -⟩ := exists_get?_of_step ha'
    exact hradius.trans (h.radii id a ha)
  · intro id a' ha'
    rw [network_step]
    by_cases hid : id = r.vehicleId
    · subst hid
      rw [hself, Option.some.injEq] at ha'
      subst ha'
      exact ⟨here, hwaypoint, hposition⟩
    · rw [hother id hid] at ha'
      exact h.stands id a' ha'
  · intro id other a' b' hne ha' hb'
    by_cases hid : id = r.vehicleId
    · subst hid
      rw [hself, Option.some.injEq] at ha'
      rw [hother other hne.symm] at hb'
      rw [← ha']
      exact hfree other b' hne.symm hb'
    · rw [hother id hid] at ha'
      by_cases hid' : other = r.vehicleId
      · subst hid'
        rw [hself, Option.some.injEq] at hb'
        rw [← hb']
        exact (hfree id a' hid ha').symm
      · rw [hother other hid'] at hb'
        exact h.waypoint_ne id other a' b' hne ha' hb'
  · intro id other a' b' hne ha' hb' p hp
    rw [settings_step]
    rw [claimed_report hsep.reserved.fits hv hresolves] at hp
    by_cases hid : id = r.vehicleId
    · subst hid
      rw [if_pos rfl] at hp
      rw [hother other hne.symm] at hb'
      exact h.le_distance r.vehicleId other v b' hne hv hb' p (hclaimed hp)
    · rw [if_neg (fun heq => hid heq.symm)] at hp
      rw [hother id hid] at ha'
      by_cases hid' : other = r.vehicleId
      · -- The other vehicle has moved within its claim, and claims keep apart.
        subst hid'
        rw [hself, Option.some.injEq] at hb'
        rw [← hb']
        have hapart := hsep.apart id r.vehicleId a' v hne ha' hv p hp r.position hmem
        have hradiusa : a'.radius = radius := h.radii id a' ha'
        have hradiusv : v.radius = radius := h.radii r.vehicleId v hv
        unfold clearance at hapart
        rw [hradiusa, hradiusv, min_self] at hapart
        change _ ≤ p.distance r.position
        linarith [hsep.onMap.bufferRadius_nonneg]
      · rw [hother other hid'] at hb'
        exact h.le_distance id other a' b' hne ha' hb' p hp

end Clear

end Fleet

end AgvDispatch
