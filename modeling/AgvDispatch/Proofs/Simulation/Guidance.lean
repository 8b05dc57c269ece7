import AgvDispatch.Proofs.Fleet.Following
import AgvDispatch.Proofs.Simulation.Accounting
/-!
# Simulated fleets are guided

A simulated fleet is **guided** (`Simulation.Guided`) when the expected route of every sub-task at
the head of a queue leads over its origin to its destination, as it does when it is laid down, and
the vehicles follow their expected routes. All that a simulation does keeps it so.
-/

namespace AgvDispatch

variable {α : Type}

/-- Whether a sub-task is to be driven from one point of a network to another one. -/
structure SubTask.IsTrip (n : Network α) (t : SubTask α) : Prop where
  origin : ∃ p, n.position t.origin = some p
  destination : ∃ p, n.position t.destination = some p
  origin_ne : t.origin ≠ t.destination

/-- Whether the expected route of a trip leads over its origin to its destination. -/
def SubTask.Routed (n : Network α) (t : SubTask α) : Prop :=
  t.IsTrip n → t.origin ∈ t.expected ∧ t.expected.getLast? = some t.destination

theorem SubTask.Routed.of_eq {n : Network α} {t t' : SubTask α} (h : t.Routed n)
    (hends : t'.ends = t.ends) (hexpected : t'.expected = t.expected) : t'.Routed n := by
  obtain ⟨horigin, hdestination⟩ := Prod.ext_iff.mp hends
  change t'.origin = t.origin at horigin
  change t'.destination = t.destination at hdestination
  rintro ⟨hknown, hknown', hne⟩
  rw [horigin] at hknown hne ⊢
  rw [hdestination] at hknown' hne ⊢
  rw [hexpected]
  exact h ⟨hknown, hknown', hne⟩

variable [Scalar α]

namespace Simulation

/-! ### Guided fleets -/

/-- **Whether a simulated fleet is guided.** -/
structure Guided (side : ℕ) (f : Fleet α) : Prop extends f.Faithful where
  network_eq : f.network = floorPlan side
  /-- The vehicles stand on points of the floor plan. -/
  stands : ∀ id v w, f.registry.get? id = some v → v.waypoint = some w →
    ∃ p, f.network.position w = some p
  /-- Their sub-tasks have a route to the destination. -/
  routed : ∀ id task, f.backlog.head? id = some task → task.Routed f.network

namespace Guided

variable {f : Fleet α} {side : ℕ}

/-- Vehicles stay on points of the floor plan if they report to be on one. -/
theorem exists_position_step (h : Guided side f) (event : FleetEvent α)
    (hreport : ∀ r w, event = .report r → r.waypoint = some w →
      ∃ p, f.network.position w = some p) {id : String} {v' : Vehicle α} {w : Waypoint}
    (hv' : (f.step event).registry.get? id = some v') (hw : v'.waypoint = some w) :
    ∃ p, (f.step event).network.position w = some p := by
  rw [Fleet.network_step]
  obtain ⟨v, hv, -, -, hplace | ⟨r, hr, -, rfl⟩⟩ := Fleet.exists_get?_of_step hv'
  · have hpoint : v'.waypoint = v.waypoint := by
      rw [Vehicle.waypoint, Vehicle.waypoint, hplace.mapId_eq, hplace.currentPoint_eq]
    exact h.stands id v w hv (hpoint.symm.trans hw)
  · exact hreport r w hr hw

/-- **Whatever is neither an order nor a plan along another route** keeps a fleet guided, if no
sub-task waits behind another one. -/
theorem step (h : Guided side f) (hlength : ∀ id, (f.backlog.queue id).length ≤ 1)
    (event : FleetEvent α) (hplan : ∀ id candidate, event ≠ .plan id candidate)
    (hassign : ∀ order, event ≠ .assign order)
    (hreport : ∀ r w, event = .report r → r.waypoint = some w →
      ∃ p, f.network.position w = some p) : Guided side (f.step event) := by
  refine ⟨h.toFaithful.step event hplan, ?_, fun _ _ _ => h.exists_position_step event hreport,
    fun id task' hhead' => ?_⟩
  · rw [Fleet.network_step]
    exact h.network_eq
  · rw [Fleet.network_step]
    rcases f.head_step_cases (hplan id) hhead' with
      ⟨task, hhead, hcontinues⟩ | ⟨-, order, -, his, -⟩ | hwaiting
    · exact (h.routed id task hhead).of_eq hcontinues.ends_eq hcontinues.expected_eq
    · exact absurd his (hassign order)
    · have hempty : (f.backlog.queue id).tail = [] := by
        have hle := hlength id
        rw [← List.length_eq_zero_iff, List.length_tail]
        omega
      rw [hempty] at hwaiting
      exact absurd hwaiting List.not_mem_nil

end Guided

variable {s : Simulation α} {side ticks : ℕ}

theorem Guided.reportAt (h : Guided side s.fleet) (haccounting : s.Accounting ticks) (id : String)
    (here : Waypoint) (remaining : Route) : Guided side (s.reportAt id here remaining).fleet := by
  cases hposition : s.fleet.network.position here with
  | none =>
    have hsame : s.reportAt id here remaining = s := by
      unfold Simulation.reportAt
      rw [hposition]
    rw [hsame]
    exact h
  | some position =>
    rw [fleet_reportAt hposition]
    refine h.step haccounting.rostered.length_queue_le _ (by simp) (by simp) ?_
    intro r w hr hw
    cases hr
    obtain rfl : here = w := Option.some.inj hw
    exact ⟨position, hposition⟩

theorem Guided.planVehicle (h : Guided side s.fleet) (haccounting : s.Accounting ticks)
    (id : String) : Guided side (s.planVehicle id).fleet := by
  rw [fleet_planVehicle]
  exact h.step haccounting.rostered.length_queue_le (.planRemaining id) (by simp) (by simp)
    (by simp)

/-- An order concerns only the queue of the vehicle that it goes to. -/
theorem head?_assign_of_ne {f : Fleet α} {order : TransportOrder} (hnew : order.stage = .new)
    {id : String} (hne : (f.assign order).1 ≠ some id) :
    (f.step (.assign order)).backlog.head? id = f.backlog.head? id := by
  show (f.assign order).2.backlog.head? id = f.backlog.head? id
  rcases f.assign_of_new hnew with ⟨-, hbacklog⟩ | ⟨v, hv, hbacklog⟩
  · rw [hbacklog]
  · have howner : v ≠ id := fun heq => hne (heq ▸ hv)
    rw [hbacklog, Backlog.head?_push]
    exact if_neg howner

/-- **A trip keeps a fleet guided**: the sub-task that is made for it gets an expected route. -/
theorem Guided.spawn (h : Guided side s.fleet) (haccounting : s.Accounting ticks) {tick : ℕ}
    {trip : Trip} {s' : Simulation α} (hspawn : s.spawn tick trip = .ok s') :
    Guided side s'.fleet := by
  have hnew : (orderOf tick trip).stage = .new := rfl
  have hfaithful : (s.fleet.step (.assign (orderOf tick trip))).Faithful :=
    h.toFaithful.step (.assign _) (by simp)
  have hnetwork : (s.fleet.step (.assign (orderOf tick trip))).network = floorPlan side :=
    (Fleet.network_step s.fleet _).trans h.network_eq
  have hstands : ∀ id v w,
      (s.fleet.step (.assign (orderOf tick trip))).registry.get? id = some v →
      v.waypoint = some w →
      ∃ p, (s.fleet.step (.assign (orderOf tick trip))).network.position w = some p :=
    fun _ _ _ => h.exists_position_step (.assign _) (by simp)
  -- Only the head of the chosen vehicle is another one.
  have hothers : ∀ other task, (s.fleet.assign (orderOf tick trip)).1 ≠ some other →
      (s.fleet.step (.assign (orderOf tick trip))).backlog.head? other = some task →
      task.Routed (s.fleet.step (.assign (orderOf tick trip))).network := by
    intro other task hne hhead
    rw [head?_assign_of_ne hnew hne] at hhead
    rw [Fleet.network_step]
    exact h.routed other task hhead
  rcases s.spawn_cases tick trip with ⟨hnone, heq⟩ | ⟨id, hassign, heq⟩
  · obtain rfl := Except.ok.inj (hspawn.symm.trans heq)
    refine ⟨hfaithful, hnetwork, hstands, fun other task hhead => hothers other task ?_ hhead⟩
    rw [hnone]
    exact (Option.some_ne_none other).symm
  · obtain ⟨v, start, hv, hstart⟩ := haccounting.rostered.exists_waypoint_of_assign hnew rfl hassign
    obtain rfl := Except.ok.inj (hspawn.symm.trans (heq v start hv hstart))
    refine ⟨hfaithful.expect (fun task hhead => ?_) _, hnetwork, hstands,
      fun other task hhead => ?_⟩
    · rw [Backlog.head?, haccounting.queue_assign hassign] at hhead
      cases hhead
      rfl
    · by_cases hid : id = other
      · subst hid
        rw [Backlog.head?, haccounting.queue_expect hassign] at hhead
        cases hhead
        rintro ⟨⟨q, horigin⟩, ⟨r, hdestination⟩, hne⟩
        obtain ⟨p, hposition⟩ := hstands id v start hv hstart
        exact expectedRoute_leads hnetwork hposition horigin hdestination hne id
      · change (Backlog.modifyHead _ id _).head? other = some task at hhead
        rw [Backlog.head?_modifyHead, if_neg hid] at hhead
        refine hothers other task ?_ hhead
        rw [hassign]
        exact fun heq => hid (Option.some.inj heq)

/-- **The vehicles start on points of the floor plan.** -/
theorem guided_start (settings : Settings α) (vehicles : ℕ) :
    Guided (gridSide vehicles) (start settings vehicles).fleet := by
  have hempty : ∀ id, (assembled settings vehicles).backlog.queue id = [] := Backlog.queue_empty
  have hknown : ∀ id v w, (assembled settings vehicles).registry.get? id = some v →
      v.waypoint = some w →
      ∃ p, (floorPlan (gridSide vehicles) : Network α).position w = some p := by
    intro id v w hv hw
    obtain ⟨i, -, p, hp, -, rfl⟩ := exists_of_get?_assembled hv
    rw [waypoint_startVehicle, Option.some.injEq] at hw
    exact ⟨p, hw ▸ hp⟩
  have hnohead : ∀ id task, (assembled settings vehicles).backlog.head? id ≠ some task := by
    intro id task hhead
    rw [Backlog.head?, hempty] at hhead
    cases hhead
  have hassembled : Guided (gridSide vehicles) (assembled settings vehicles) := by
    refine ⟨⟨.of_queues_empty hempty, fun id task hhead => absurd hhead (hnohead id task)⟩,
      network_assembled settings vehicles, fun id v w hv hw => ?_,
      fun id task hhead => absurd hhead (hnohead id task)⟩
    rw [network_assembled]
    exact hknown id v w hv hw
  -- The reports come from where the vehicles start, and no sub-task comes to wait.
  have hstart : Guided (gridSide vehicles) (start settings vehicles).fleet
      ∧ (start settings vehicles).fleet.Rostered := by
    refine start_invariant (P := fun f => Guided (gridSide vehicles) f ∧ f.Rostered)
      ⟨hassembled, rostered_assembled settings vehicles⟩ ?_
    rintro f v hv ⟨hguided, hrostered⟩
    refine ⟨hguided.step hrostered.length_queue_le (.report (presence v)) (by simp) (by simp) ?_,
      hrostered.step (.report (presence v)) ⟨rfl, rfl, rfl⟩⟩
    intro r w hr hw
    cases hr
    obtain ⟨id, hget⟩ := Registry.mem_all.mp hv
    rw [hguided.network_eq]
    exact hknown id v w hget hw
  exact hstart.1

end Simulation

end AgvDispatch
