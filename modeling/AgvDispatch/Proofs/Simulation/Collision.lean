import AgvDispatch.Proofs.Simulation.Assembly
import AgvDispatch.Settings.Check
/-!
# Simulated vehicles do not meet

Whatever is wanted in each tick of a simulation, after each report of a vehicle any two vehicles
stand on different points of the floor plan, and what one of them has reserved keeps clear of where
the other one stands (`Simulation.collisionFree_of_mem_trail`).

A simulated fleet is **sound** (`Simulation.Sound`) when it is separated and clear. Each thing that
a simulation does keeps it so. The one moment at which it is not separated is when a vehicle has
reported that nothing lies ahead of it and its sub-task has not ended yet; then the fleet is still
clear (`Simulation.Intact`).
-/

namespace AgvDispatch

theorem Settings.nonneg_of_problems_eq_nil {settings : Settings ℝ} (h : settings.problems = []) :
    0 ≤ settings.traffic.bufferRadius ∧ 0 ≤ settings.traffic.safetyBuffer := by
  unfold problems problemIf at h
  simp only [List.append_eq_nil_iff, ite_eq_right_iff, decide_eq_true_eq] at h
  obtain ⟨⟨⟨⟨-, hbuffer⟩, hsafety⟩, -⟩, -⟩ := h
  exact ⟨not_lt.mp fun hlt => List.cons_ne_nil _ _ (hbuffer hlt),
    not_lt.mp fun hlt => List.cons_ne_nil _ _ (hsafety hlt)⟩

namespace Simulation

/-- **Whether no two vehicles of a simulation meet.** -/
structure CollisionFree (settings : Settings ℝ) (vehicles : ℕ) (f : Fleet ℝ) : Prop where
  /-- Every vehicle stands on a point of the floor plan. -/
  stands : ∀ i < vehicles, ∃ v w, f.registry.get? (vehicleId (i + 1)) = some v
    ∧ v.waypoint = some w ∧ (floorPlan (gridSide vehicles)).position w = some v.position
  /-- Two vehicles stand on different points. -/
  waypoint_ne : ∀ i j v w, i < vehicles → j < vehicles → i ≠ j →
    f.registry.get? (vehicleId (i + 1)) = some v → f.registry.get? (vehicleId (j + 1)) = some w →
    v.waypoint ≠ w.waypoint
  /-- What a vehicle has reserved keeps clear of where another one stands. -/
  le_distanceToPoint : ∀ i j r v, i < vehicles → j < vehicles → i ≠ j →
    f.traffic.reservation? (vehicleId (i + 1)) = some r →
    f.registry.get? (vehicleId (j + 1)) = some v →
    settings.traffic.safetyBuffer + vehicleRadius ≤ r.corridor.skeleton.distanceToPoint v.position

/-- What holds of a simulated fleet after each report: all vehicles are there, and they keep clear
of each other. -/
structure Intact (settings : Settings ℝ) (vehicles : ℕ) (f : Fleet ℝ) : Prop where
  /-- The settings are those of the simulation. -/
  settings_eq : f.settings = settings
  /-- The network is the floor plan. -/
  network_eq : f.network = floorPlan (gridSide vehicles)
  /-- Every vehicle is registered. -/
  registered : ∀ i < vehicles, (f.registry.get? (vehicleId (i + 1))).isSome = true
  /-- The vehicles keep clear of each other. -/
  clear : f.Clear vehicleRadius

/-- **What holds of a simulated fleet before and after each turn.** -/
structure Sound (settings : Settings ℝ) (vehicles : ℕ) (f : Fleet ℝ) : Prop
    extends Intact settings vehicles f where
  /-- Claims keep apart. -/
  separated : f.Separated mapId

variable {settings : Settings ℝ} {vehicles : ℕ} {f : Fleet ℝ}

theorem Intact.collisionFree (h : Intact settings vehicles f) :
    CollisionFree settings vehicles f := by
  have hid : ∀ {i j : ℕ}, i ≠ j → vehicleId (i + 1) ≠ vehicleId (j + 1) := by
    intro i j hne heq
    exact hne (Nat.succ_injective (vehicleId_injective heq))
  refine ⟨?_, ?_, ?_⟩
  · intro i hi
    obtain ⟨v, hv⟩ := Option.isSome_iff_exists.mp (h.registered i hi)
    obtain ⟨w, hw, hposition⟩ := h.clear.stands _ v hv
    rw [h.network_eq] at hposition
    exact ⟨v, w, hv, hw, hposition⟩
  · intro i j v w _ _ hne hv hw
    exact h.clear.waypoint_ne _ _ v w (hid hne) hv hw
  · intro i j r v hi _ hne hr hv
    obtain ⟨u, hu⟩ := Option.isSome_iff_exists.mp (h.registered i hi)
    rw [Skeleton.le_distanceToPoint_iff]
    intro p hp
    rw [Point.distance_comm, ← h.settings_eq]
    refine h.clear.le_distance _ _ u v (hid hne) hu hv p ?_
    rw [Traffic.claimed_eq_region hr]
    exact hp

theorem Intact.of_step (h : Intact settings vehicles f) {event : FleetEvent ℝ}
    (hclear : (f.step event).Clear vehicleRadius) : Intact settings vehicles (f.step event) := by
  refine ⟨?_, ?_, ?_, hclear⟩
  · rw [Fleet.settings_step, h.settings_eq]
  · rw [Fleet.network_step, h.network_eq]
  · intro i hi
    rw [Fleet.isSome_get?_step]
    exact h.registered i hi

/-! ### Trips and plans -/

namespace Sound

theorem step (h : Sound settings vehicles f) {event : FleetEvent ℝ}
    (hcoherent : f.Coherent mapId event) (hreport : ∀ r, event ≠ .report r) :
    Sound settings vehicles (f.step event) :=
  ⟨h.toIntact.of_step (h.clear.step h.separated hcoherent hreport), h.separated.step hcoherent⟩

theorem expect (h : Sound settings vehicles f) (id : String) (route : Route) :
    Sound settings vehicles (f.expect id route) :=
  ⟨⟨h.settings_eq, h.network_eq, h.registered, h.clear.expect id route⟩,
    h.separated.expect id route⟩

theorem spawn {s s' : Simulation ℝ} (h : Sound settings vehicles s.fleet) {tick : ℕ} {trip : Trip}
    (hspawn : s.spawn tick trip = .ok s') : Sound settings vehicles s'.fleet := by
  obtain ⟨order, horder, hfleet⟩ := spawn_eq_ok hspawn
  have hassigned : Sound settings vehicles (s.fleet.step (.assign order)) :=
    h.step horder fun r hr => by cases hr
  rcases hfleet with hfleet | ⟨id, route, hfleet⟩
  · rw [hfleet]
    exact hassigned
  · rw [hfleet]
    exact hassigned.expect id route

theorem planVehicle {s : Simulation ℝ} (h : Sound settings vehicles s.fleet) (id : String) :
    Sound settings vehicles (s.planVehicle id).fleet := by
  rw [fleet_planVehicle]
  exact h.step trivial fun r hr => by cases hr

/-! ### Turns -/

/-- A vehicle that reports to be on a waypoint ahead of it, and no more ahead than there was, keeps
all vehicles clear of each other. -/
theorem report (h : Sound settings vehicles f) {id : String} {task : SubTask ℝ}
    (hhead : f.backlog.head? id = some task) {here : Waypoint} (hhere : here ∈ task.effectiveRoute)
    {position : Point ℝ} (hposition : f.network.position here = some position) {remaining : Route}
    (hremaining : remaining <:+: task.effectiveRoute) :
    Intact settings vehicles (f.step (.report (reportOf id here position remaining))) := by
  refine h.toIntact.of_step ?_
  cases hv : f.registry.get? id with
  | none =>
    have hsame : f.step (.report (reportOf id here position remaining)) = f :=
      congrArg Prod.snd (Fleet.report_unknown hv)
    rw [hsame]
    exact h.clear
  | some v =>
    have hclaimed := h.separated.reserved.covered_subset id task hhead
    have hwaypoint : (reportOf id here position remaining).waypoint = some here := rfl
    refine h.clear.of_moved h.separated hv hwaypoint hposition ?_ ?_ ?_
    · exact hclaimed (Network.position_mem_covered hhere hposition)
    · exact (h.separated.reserved.resolves id task hhead).mono hremaining.subset
    · exact (Network.covered_subset_of_infix hremaining).trans hclaimed

/-- What lies ahead of a vehicle after it has moved to the next waypoint is what it reports. -/
theorem covered_passed (h : Sound settings vehicles f) {task : SubTask ℝ} {here next : Waypoint}
    {rest : Route} (hahead : task.effectiveRoute = here :: next :: rest) (id : String)
    (position : Point ℝ) :
    f.network.covered ((reportOf id next position (next :: rest)).passed task).effectiveRoute
      = f.network.covered (next :: rest) := by
  have hpassed : ((reportOf id next position (next :: rest)).passed task).effectiveRoute
      = (here :: next :: rest).drop (((here :: next :: rest).idxOf? next).getD 0) := by
    rw [← hahead]
    exact SubTask.effectiveRoute_reach task next
  rw [hpassed]
  by_cases heq : here = next
  · -- The waypoint is listed twice, so the vehicle counts as being on the first of the two.
    have hself : f.network.edge? next next = none := by
      rw [h.network_eq]
      exact Network.edge?_lattice_self _ _ _ _ _
    have hindex : (here :: next :: rest).idxOf? next = some 0 := by simp [List.idxOf?_cons, heq]
    rw [hindex, heq]
    exact Network.covered_cons_self hself rest
  · have hindex : (here :: next :: rest).idxOf? next = some 1 := by simp [List.idxOf?_cons, heq]
    rw [hindex]
    rfl

theorem moves (h : Sound settings vehicles f) {id : String} {task : SubTask ℝ}
    {here next : Waypoint} {rest : Route} (hhead : f.backlog.head? id = some task)
    (hahead : task.effectiveRoute = here :: next :: rest) {position : Point ℝ}
    (hposition : f.network.position next = some position) :
    Sound settings vehicles (f.step (.report (reportOf id next position (next :: rest)))) := by
  have hsuffix : (next :: rest) <:+ task.effectiveRoute := by
    rw [hahead]
    exact List.suffix_cons here (next :: rest)
  refine ⟨h.report hhead (hsuffix.subset List.mem_cons_self) hposition hsuffix.isInfix, ?_⟩
  refine h.separated.of_report ?_ ?_ ?_ ?_
  · exact h.separated.onMap.waypoints next position hposition
  · exact (h.separated.reserved.resolves id task hhead).mono hsuffix.subset
  · exact (Network.covered_subset_of_infix hsuffix.isInfix).trans
      (h.separated.reserved.covered_subset id task hhead)
  · intro task' hhead'
    obtain rfl : task = task' := Option.some.inj (hhead.symm.trans hhead')
    exact (h.covered_passed hahead id position).subset

/-- **The report of a turn** leaves all vehicles clear of each other. -/
theorem reported {s s' : Simulation ℝ} (h : Sound settings vehicles s.fleet) {id : String}
    (hreported : s.reported? id = some s') : Intact settings vehicles s'.fleet := by
  have hturn := s.turn_advanceVehicle id
  rw [hreported] at hturn
  generalize s.advanceVehicle id = result at hturn
  cases hturn with
  | moves task here next rest hhead hahead =>
    have hnext : next ∈ task.effectiveRoute := by simp [hahead]
    obtain ⟨position, hposition⟩ := h.separated.reserved.resolves id task hhead next hnext
    rw [fleet_reportAt hposition]
    exact (h.moves hhead hahead hposition).toIntact
  | arrives task last hhead hahead =>
    have hlast : last ∈ task.effectiveRoute := by simp [hahead]
    obtain ⟨position, hposition⟩ := h.separated.reserved.resolves id task hhead last hlast
    rw [fleet_reportAt hposition]
    exact h.report hhead hlast hposition List.nil_infix

/-- **A turn keeps a simulated fleet sound.** -/
theorem advanceVehicle {s s' : Simulation ℝ} (h : Sound settings vehicles s.fleet) {id : String}
    (hadvance : s.advanceVehicle id = .ok s') : Sound settings vehicles s'.fleet := by
  have hturn := s.turn_advanceVehicle id
  rw [hadvance] at hturn
  cases hreported : s.reported? id with
  | none =>
    rw [hreported] at hturn
    cases hturn
    exact h
  | some s₁ =>
    rw [hreported] at hturn
    generalize hresult : Except.ok s' = result at hturn
    cases hturn with
    | moves task here next rest hhead hahead =>
      cases hresult
      have hnext : next ∈ task.effectiveRoute := by simp [hahead]
      obtain ⟨position, hposition⟩ := h.separated.reserved.resolves id task hhead next hnext
      rw [fleet_reportAt hposition]
      exact h.moves hhead hahead hposition
    | arrives task last hhead hahead =>
      have hintact := h.reported hreported
      have hlast : last ∈ task.effectiveRoute := by simp [hahead]
      obtain ⟨position, hposition⟩ := h.separated.reserved.resolves id task hhead last hlast
      have hfleet := fleet_reportAt hposition id []
      cases hfinish : (s.reportAt id last []).fleet.finish id with
      | error e =>
        rw [hfinish] at hresult
        cases hresult
      | ok closed =>
        rw [hfinish] at hresult
        cases hresult
        have hstep : (s.reportAt id last []).fleet.step (.finish id) = closed.2 := by
          change (((s.reportAt id last []).fleet.finish id).toOption.map Prod.snd).getD _ = _
          rw [hfinish]
          rfl
        refine ⟨?_, ?_⟩
        · change Intact settings vehicles closed.2
          rw [← hstep]
          exact hintact.of_step (hintact.clear.finish id)
        · change closed.2.Separated mapId
          rw [hfleet] at hfinish
          refine h.separated.of_report_finish ?_ ?_ hfinish
          · exact h.separated.onMap.waypoints last position hposition
          · exact fun w hw => absurd hw List.not_mem_nil

end Sound

/-! ### Presence reports -/

/-- What holds while the vehicles tell where they stand: there are no sub-tasks, and nobody has
moved. -/
structure Gathering (settings : Settings ℝ) (vehicles : ℕ) (f : Fleet ℝ) : Prop
    extends Sound settings vehicles f where
  /-- There are no sub-tasks. -/
  queues : ∀ id, f.backlog.queue id = []
  /-- Every vehicle is where it started. -/
  places : ∀ id v, (assembled settings vehicles).registry.get? id = some v →
    ∃ v', f.registry.get? id = some v' ∧ v.SamePlace v'

theorem Gathering.assembled (hbuffer : 0 ≤ settings.traffic.bufferRadius)
    (hsafety : 0 ≤ settings.traffic.safetyBuffer) (hpos : 0 < vehicles)
    (hpoints : gridSide vehicles * gridSide vehicles ≤ 2147483647) :
    Gathering settings vehicles (assembled settings vehicles) where
  settings_eq := by simp only [Simulation.assembled, Fleet.start]
  network_eq := network_assembled settings vehicles
  registered := fun _ => isSome_get?_assembled settings
  clear := clear_assembled hpos hpoints
  separated := separated_assembled hbuffer hsafety
  queues := Backlog.queue_empty
  places := fun _ v hv => ⟨v, hv, rfl, rfl, rfl, rfl, rfl⟩

theorem Gathering.presence (h : Gathering settings vehicles f) {v : Vehicle ℝ}
    (hv : (Simulation.assembled settings vehicles).registry.get? v.id = some v) :
    Gathering settings vehicles (f.step (.report (presence v))) := by
  obtain ⟨v', hv', hplace⟩ := h.places v.id v hv
  have hget : f.registry.get? (Simulation.presence v).vehicleId = some v' := hv'
  have hempty : ∀ id, (f.step (.report (Simulation.presence v))).backlog.queue id = [] := by
    intro id
    refine (Fleet.queue_report hget id).trans ?_
    rw [h.queues]
    split <;> rfl
  have hcoherent : f.Coherent mapId (.report (Simulation.presence v)) := by
    refine ⟨?_, ?_⟩
    · exact hplace.mapId_eq.symm.trans (h.separated.onMap.vehicles v.id v' hv')
    · have hnone : f.backlog.head? (Simulation.presence v).vehicleId = none := by
        rw [Backlog.head?, h.queues]
        rfl
      unfold Fleet.routeAfter
      rw [hnone]
      rfl
  have hclear : (f.step (.report (Simulation.presence v))).Clear vehicleRadius :=
    h.clear.of_presence h.separated hget hplace.waypoint_eq.symm hplace.position_eq.symm rfl
  refine ⟨⟨h.toIntact.of_step hclear, h.separated.step hcoherent⟩, hempty, ?_⟩
  intro id u hu
  obtain ⟨u', hu', hplaceu⟩ := h.places id u hu
  have hafter : (f.step (.report (Simulation.presence v))).registry.get? id = _ :=
    Fleet.get?_report hget id
  rw [hafter, hu']
  split
  · rename_i hid
    have hid : v.id = id := hid
    subst hid
    obtain rfl : v = u := Option.some.inj (hv.symm.trans hu)
    exact ⟨_, rfl, hplaceu.id_eq, hplaceu.radius_eq, rfl, rfl, rfl⟩
  · exact ⟨u', rfl, hplaceu⟩

/-- The fleet is sound all along the trail of presence reports, and so is the simulation that
starts from its end. -/
theorem Gathering.trail {vs : List (Vehicle ℝ)} (h : Gathering settings vehicles f)
    (hvs : ∀ v ∈ vs, (Simulation.assembled settings vehicles).registry.get? v.id = some v) :
    (∀ g ∈ presenceTrail f vs, Intact settings vehicles g)
      ∧ Sound settings vehicles (vs.foldl (fun f v => (f.report (Simulation.presence v)).2) f) := by
  induction vs generalizing f with
  | nil =>
    refine ⟨fun g hg => ?_, h.toSound⟩
    rw [List.mem_singleton.mp hg]
    exact h.toIntact
  | cons v vs ih =>
    rw [List.forall_mem_cons] at hvs
    obtain ⟨hlater, hend⟩ := ih (h.presence hvs.1) hvs.2
    refine ⟨fun g hg => ?_, hend⟩
    rcases List.mem_cons.mp hg with rfl | hg
    · exact h.toIntact
    · exact hlater g hg

/-! ### The whole simulation -/

/-- **Simulated vehicles do not meet.** For settings that pass the check, any number of vehicles for
which the number of points fits into 32 bits, and any trips: before the first report and after each
one, every vehicle stands on a point of its own, and what it has reserved keeps the safety buffer
and a radius from where any other vehicle stands. -/
theorem collisionFree_of_mem_trail {settings : Settings ℝ} {vehicles : ℕ}
    (hvalid : (widen settings (gridSide vehicles)).problems = []) (hpos : 1 ≤ vehicles)
    (hpoints : gridSide vehicles * gridSide vehicles ≤ 2147483647) (trips : List (Option Trip)) :
    ∀ f ∈ trail (widen settings (gridSide vehicles)) vehicles trips,
      CollisionFree settings vehicles f := by
  obtain ⟨hbuffer, hsafety⟩ := Settings.nonneg_of_problems_eq_nil hvalid
  have hassembled := Gathering.assembled hbuffer hsafety hpos hpoints
  have hkeyed : ∀ v ∈ (assembled (widen settings (gridSide vehicles)) vehicles).registry.all,
      (assembled (widen settings (gridSide vehicles)) vehicles).registry.get? v.id = some v := by
    intro v hv
    obtain ⟨id, hid⟩ := Registry.mem_all.mp hv
    have hkey : v.id = id := hassembled.separated.onMap.keyed id v hid
    rw [hkey]
    exact hid
  obtain ⟨hstart, hsound⟩ := hassembled.trail hkeyed
  have hrun : ∀ f ∈ runTrail 0 (start (widen settings (gridSide vehicles)) vehicles) trips,
      Intact (widen settings (gridSide vehicles)) vehicles f :=
    (run_invariant (I := fun s => Sound (widen settings (gridSide vehicles)) vehicles s.fleet)
      (fun _ _ _ _ hs => hs.spawn) (fun _ id hs => hs.planVehicle id) (fun _ _ _ hs => hs.reported)
      (fun _ _ _ hs => hs.advanceVehicle) hsound 0 trips).1
  intro f hf
  have hintact : Intact (widen settings (gridSide vehicles)) vehicles f := by
    rcases List.mem_append.mp hf with hf | hf
    · exact hstart f hf
    · exact hrun f hf
  have hfree := hintact.collisionFree
  exact ⟨hfree.stands, hfree.waypoint_ne, hfree.le_distanceToPoint⟩

theorem problems_widen_standard :
    (widen (Settings.standard : Settings ℝ) (gridSide 2)).problems = [] := by
  have hextent : (0 : ℝ) < ((100000 : ℕ) : ℝ) := Nat.cast_pos.mpr (by norm_num)
  have hwidth : ¬(widen (Settings.standard : Settings ℝ) (gridSide 2)).floor.width ≤ 0 :=
    not_le.mpr (lt_of_lt_of_le hextent (le_max_left _ _))
  have hheight : ¬(widen (Settings.standard : Settings ℝ) (gridSide 2)).floor.height ≤ 0 :=
    not_le.mpr (lt_of_lt_of_le hextent (le_max_left _ _))
  have hbuffer : ¬(widen (Settings.standard : Settings ℝ) (gridSide 2)).traffic.bufferRadius < 0 :=
    not_lt.mpr (Nat.cast_nonneg _)
  have hsafety : ¬(widen (Settings.standard : Settings ℝ) (gridSide 2)).traffic.safetyBuffer < 0 :=
    not_lt.mpr (Nat.cast_nonneg _)
  unfold Settings.problems Settings.problemIf
  rw [decide_eq_false hwidth, decide_eq_false hheight, decide_eq_false hbuffer,
    decide_eq_false hsafety]
  rfl

/-- **Two vehicles with the standard settings** do not meet while one of them executes a trip. -/
theorem collisionFree_pair :
    (start (widen Settings.standard (gridSide 2)) 2).fleet
        ∈ trail (widen (Settings.standard : Settings ℝ) (gridSide 2)) 2 [some ⟨2, 7⟩, none, none]
      ∧ ∀ f ∈ trail (widen (Settings.standard : Settings ℝ) (gridSide 2)) 2
          [some ⟨2, 7⟩, none, none], CollisionFree Settings.standard 2 f :=
  ⟨List.mem_append_left _ (start_mem_startTrail _ _),
    collisionFree_of_mem_trail problems_widen_standard (by decide) (by decide +kernel) _⟩

end Simulation

end AgvDispatch
