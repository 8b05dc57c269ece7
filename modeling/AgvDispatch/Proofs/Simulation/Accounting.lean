import AgvDispatch.Proofs.Fleet.Booking
import AgvDispatch.Proofs.Fleet.Ledger
import AgvDispatch.Proofs.Simulation.Assembly
import AgvDispatch.Proofs.Simulation.Course
import AgvDispatch.Simulation.Summary
/-!
# The accounts of a simulation

A simulation never fails, and its counters agree with the fleet that they are about: with the
queues, which hold what has been assigned and not been finished, and with the sink, which in the end
holds what has been committed (`Simulation.Accounts`). As no vehicle has more than one sub-task, the
route that is expected for an order is laid down for the right one (`Simulation.Spawned`).

* `Simulation.Accounting`: what is kept from one step to the next, each of which succeeds.
* `Simulation.perform`: one step of a simulation, or of a worker that delivers commands meanwhile.
* `Simulation.accounts_run`: after every tick, and after any steps in any order, the accounts are in
  order.
* `Simulation.exists_simulate_eq_ok`: so they are in the summary of a whole simulation.
-/

namespace AgvDispatch

variable {α : Type} [Scalar α]

namespace Fleet

/-- Unless an order lines up or a sub-task is handed back, as many sub-tasks are in the queues. -/
theorem size_backlog_step (f : Fleet α) {event : FleetEvent α}
    (hassign : ∀ order, event ≠ .assign order)
    (hnone : ∀ id, (f.outcome event id).handedBack = none) :
    (f.step event).backlog.size = f.backlog.size := by
  refine Backlog.size_congr fun id => ?_
  have hids := (f.effect_step event id).map_id hassign (hnone id)
  rw [← List.length_map SubTask.id, hids, List.length_map]

theorem step_finish {f fleet : Fleet α} {id : String} {task : SubTask α}
    (h : f.finish id = .ok (task, fleet)) : f.step (.finish id) = fleet := by
  simp only [step, h]
  rfl

theorem emitted_finish (f : Fleet α) (owner id : String) :
    (f.outcome (.finish owner) id).emitted = [] := by
  simp only [outcome]
  split
  · cases f.finish owner <;> rfl
  · rfl

/-- A plan along the expected route emits a command if and only if it is committed. -/
theorem emitted_planRemaining (f : Fleet α) (owner : String) :
    ((∃ segment, (f.planRemaining owner).1 = .committed segment)
        ∧ (f.outcome (.planRemaining owner) owner).emitted ≠ [])
      ∨ (((f.planRemaining owner).1 = .deferred ∨ (f.planRemaining owner).1 = .noTask)
        ∧ ∀ id, (f.outcome (.planRemaining owner) id).emitted = []) := by
  simp only [outcome]
  cases hresult : (f.planRemaining owner).1 with
  | committed segment =>
    refine Or.inl ⟨⟨segment, rfl⟩, ?_⟩
    rcases f.planRemaining_cases owner with ⟨-, heq⟩ | ⟨task, hhead, -⟩
    · rw [heq] at hresult
      cases hresult
    · rw [if_pos trivial, hhead]
      exact List.cons_ne_nil _ _
  | deferred | noTask =>
    refine Or.inr ⟨by simp, fun id => ?_⟩
    simp only [Outcome.ofPlan, ite_self]

end Fleet

namespace Simulation

/-! ### One step -/

/-- **What the steps of a simulation keep**, where `ticks` bounds the number of trips so far. -/
structure Accounting (s : Simulation α) (ticks : ℕ) : Prop where
  rostered : s.fleet.Rostered
  ledger : s.fleet.Ledger s.committed
  created_eq : s.created = s.assigned + s.unassigned
  created_le : s.created ≤ ticks
  size_add : s.fleet.backlog.size + s.finished = s.assigned

namespace Accounting

variable {s : Simulation α} {ticks : ℕ}

theorem mono (h : s.Accounting ticks) {more : ℕ} (hle : ticks ≤ more) : s.Accounting more :=
  { h with created_le := h.created_le.trans hle }

/-- A quiet event that emits nothing and leaves the queues as long as they are. -/
theorem of_step (h : s.Accounting ticks) (event : FleetEvent α) (hquiet : s.fleet.Quiet event)
    (hassign : ∀ order, event ≠ .assign order)
    (hnone : ∀ id, (s.fleet.outcome event id).handedBack = none)
    (hsilent : ∀ id, (s.fleet.outcome event id).emitted = []) :
    Accounting { s with fleet := s.fleet.step event } ticks where
  rostered := h.rostered.step event hquiet
  ledger := h.ledger.step_of_silent event hsilent
  created_eq := h.created_eq
  created_le := h.created_le
  size_add := by
    show (s.fleet.step event).backlog.size + s.finished = s.assigned
    rw [s.fleet.size_backlog_step hassign hnone, h.size_add]

theorem deliver (h : s.Accounting ticks) (id : String) (worker : ℕ) :
    Accounting { s with fleet := s.fleet.deliver id worker } ticks :=
  h.of_step (.deliver id worker) trivial (by simp) (fun _ => rfl) fun _ => rfl

theorem report (h : s.Accounting ticks) {r : VehicleReport α} (hstate : r.state = none)
    (htaskId : r.taskId = none) (hprogress : r.progress = none) :
    Accounting { s with fleet := s.fleet.step (.report r) } ticks :=
  h.of_step (.report r) ⟨hstate, htaskId, hprogress⟩ (by simp) (fun _ => rfl) fun _ => rfl

theorem reportAt (h : s.Accounting ticks) (id : String) (here : Waypoint) (remaining : Route) :
    (s.reportAt id here remaining).Accounting ticks := by
  rcases s.reportAt_cases id here remaining with heq | ⟨position, heq⟩
  · rw [heq]
    exact h
  · rw [heq]
    exact h.report rfl rfl rfl

/-- The only sub-task of the vehicle that a trip goes to is the one just made for it. -/
theorem queue_assign (h : s.Accounting ticks) {tick : ℕ} {trip : Trip} {id : String}
    (hassign : (s.fleet.assign (orderOf tick trip)).1 = some id) :
    (s.fleet.step (.assign (orderOf tick trip))).backlog.queue id
      = [.ofOrder id (orderOf tick trip) 1] := by
  have hnew : (orderOf tick trip).stage = .new := rfl
  have hempty := h.rostered.queue_eq_nil_of_assign hnew hassign
  rcases s.fleet.assign_of_new hnew with ⟨hnone, -⟩ | ⟨v, hv, hbacklog⟩
  · rw [hassign] at hnone
    cases hnone
  · obtain rfl : id = v := Option.some.inj (hassign.symm.trans hv)
    show (s.fleet.assign (orderOf tick trip)).2.backlog.queue id = _
    rw [hbacklog, hempty, Backlog.queue_push, hempty]
    exact if_pos rfl

theorem queue_expect (h : s.Accounting ticks) {tick : ℕ} {trip : Trip} {id : String}
    (hassign : (s.fleet.assign (orderOf tick trip)).1 = some id) (route : Route) :
    ((s.fleet.step (.assign (orderOf tick trip))).expect id route).backlog.queue id
      = [{ (.ofOrder id (orderOf tick trip) 1 : SubTask α) with expected := route }] := by
  rw [Fleet.queue_expect, if_pos rfl, h.queue_assign hassign]
  rfl

/-- **A trip is counted**, whether it finds a vehicle or not. -/
theorem spawn (h : s.Accounting ticks) (tick : ℕ) (trip : Trip) :
    ∃ s', s.spawn tick trip = .ok s' ∧ s'.Accounting (ticks + 1) := by
  have hnew : (orderOf tick trip).stage = .new := rfl
  have hrostered := h.rostered.step (.assign (orderOf tick trip)) trivial
  have hledger := h.ledger.step_of_silent (.assign (orderOf tick trip)) fun _ => rfl
  have hcreated := h.created_eq
  have hle := h.created_le
  have hsize := h.size_add
  rcases s.spawn_cases tick trip with ⟨hnone, heq⟩ | ⟨id, hassign, heq⟩
  · refine ⟨_, heq, hrostered, hledger, ?_, Nat.succ_le_succ hle, ?_⟩
    · show s.created + 1 = s.assigned + (s.unassigned + 1)
      omega
    · show (s.fleet.assign (orderOf tick trip)).2.backlog.size + s.finished = s.assigned
      rcases s.fleet.assign_of_new hnew with ⟨-, hbacklog⟩ | ⟨v, hv, -⟩
      · rw [hbacklog, hsize]
      · rw [hnone] at hv
        cases hv
  · obtain ⟨v, start, hv, hstart⟩ := h.rostered.exists_waypoint_of_assign hnew rfl hassign
    refine ⟨_, heq v start hv hstart, hrostered.expect id _, hledger.of_eq rfl rfl, ?_,
      Nat.succ_le_succ hle, ?_⟩
    · show s.created + 1 = s.assigned + 1 + s.unassigned
      omega
    · show ((s.fleet.step (.assign (orderOf tick trip))).backlog.modifyHead id _).size + s.finished
        = s.assigned + 1
      rw [Backlog.size_modifyHead]
      show (s.fleet.assign (orderOf tick trip)).2.backlog.size + s.finished = s.assigned + 1
      rcases s.fleet.assign_of_new hnew with ⟨hnone, -⟩ | ⟨v, -, hbacklog⟩
      · rw [hassign] at hnone
        cases hnone
      · rw [hbacklog, Backlog.size_push]
        omega

/-- **A plan is counted as committed exactly if a command has been emitted.** -/
theorem planVehicle (h : s.Accounting ticks) (id : String) :
    (s.planVehicle id).Accounting ticks := by
  have hrostered := h.rostered.step (.planRemaining id) trivial
  have hsize : (s.fleet.step (.planRemaining id)).backlog.size + s.finished = s.assigned := by
    rw [s.fleet.size_backlog_step (by simp) fun other =>
      s.fleet.handedBack_outcome other (by simp) (by simp), h.size_add]
  unfold Simulation.planVehicle
  simp only
  -- The counter goes up in the same case in which the ledger does.
  rcases s.fleet.emitted_planRemaining id with ⟨⟨segment, hresult⟩, hne⟩ | ⟨hresult, hsilent⟩
  · rw [hresult]
    exact ⟨hrostered, h.ledger.step_of_emitted hne, h.created_eq, h.created_le, hsize⟩
  · have hledger := h.ledger.step_of_silent (.planRemaining id) hsilent
    rcases hresult with hresult | hresult <;> rw [hresult] <;>
      exact ⟨hrostered, hledger, h.created_eq, h.created_le, hsize⟩

/-- **A turn never fails**, and what it finishes is counted. -/
theorem advanceVehicle (h : s.Accounting ticks) (id : String) :
    ∃ s', s.advanceVehicle id = .ok s' ∧ s'.Accounting ticks := by
  rcases s.advanceVehicle_cases id with heq | ⟨task, here, next, rest, -, -, heq⟩
    | ⟨task, last, closed, fleet, hhead, hahead, -, hfinish, heq⟩
  · exact ⟨s, heq, h⟩
  · exact ⟨_, heq, h.reportAt id next (next :: rest)⟩
  · have hreported := h.reportAt id last []
    have hstep : (s.reportAt id last []).fleet.step (.finish id) = fleet :=
      Fleet.step_finish hfinish
    have hcounter := s.finished_reportAt id last []
    have hrostered := hreported.rostered.step (.finish id) trivial
    have hledger := hreported.ledger.step_of_silent (.finish id) (Fleet.emitted_finish _ id)
    rw [hstep] at hrostered hledger
    refine ⟨_, heq, hrostered, hledger, hreported.created_eq, hreported.created_le, ?_⟩
    -- The queue that the sub-task is taken from is still the one it was at the head of.
    obtain ⟨head, -, -, hclosed⟩ := Fleet.finish_eq_ok_iff.mp hfinish
    obtain rfl : (s.reportAt id last []).fleet.closeHead id = fleet := congrArg Prod.snd hclosed
    have hsize := Backlog.size_removeHead (head?_reportAt hhead hahead)
    have hadd := hreported.size_add
    show ((s.reportAt id last []).fleet.backlog.removeHead id).size + (s.finished + 1)
      = (s.reportAt id last []).assigned
    omega

theorem advanceAll (h : s.Accounting ticks) (ids : List String) :
    ∃ s', ids.foldlM Simulation.advanceVehicle s = .ok s' ∧ s'.Accounting ticks :=
  exists_foldlM_eq_ok (I := fun s : Simulation α => s.Accounting ticks)
    (fun _ id hs => hs.advanceVehicle id) h ids

theorem planAll (h : s.Accounting ticks) : s.planAll.Accounting ticks :=
  List.foldlRecOn (motive := fun s : Simulation α => s.Accounting ticks) s.fleet.backlog.vehicles
    Simulation.planVehicle h fun _ hs id _ => hs.planVehicle id

/-- **A tick never fails.** -/
theorem tick (h : s.Accounting ticks) (number : ℕ) (wanted : Option Trip) :
    ∃ s', s.tick number wanted = .ok s' ∧ s'.Accounting (ticks + 1) := by
  obtain ⟨next, hnext, haccounting⟩ : ∃ next, s.demanded number wanted = .ok next
      ∧ next.Accounting (ticks + 1) := by
    cases wanted with
    | none => exact ⟨s, rfl, h.mono (Nat.le_succ ticks)⟩
    | some trip => exact h.spawn number trip
  obtain ⟨s', hs', hend⟩ := haccounting.planAll.advanceAll next.planAll.fleet.backlog.vehicles
  refine ⟨s', ?_, hend⟩
  rw [tick_eq, hnext]
  exact hs'

end Accounting

/-! ### The beginning -/

theorem rostered_assembled (settings : Settings α) (vehicles : ℕ) :
    (assembled settings vehicles).Rostered := by
  have hempty : ∀ id, (assembled settings vehicles).backlog.queue id = [] := Backlog.queue_empty
  have hunhooked : (assembled settings vehicles).distributor.strategy.Unhooked :=
    Strategy.unhooked_ofSettings settings.allocation
  refine ⟨⟨?_, hunhooked.choosy, fun id hne => absurd (hempty id) hne⟩, hunhooked, ?_⟩
  · intro id v hv
    obtain ⟨i, -, p, -, rfl, rfl⟩ := exists_of_get?_assembled hv
    rfl
  · intro id v hv
    obtain ⟨i, -, p, -, -, rfl⟩ := exists_of_get?_assembled hv
    rw [hempty]
    exact .free rfl rfl

/-- **At first everything is zero.** -/
theorem accounting_start (settings : Settings α) (vehicles : ℕ) :
    (start settings vehicles).Accounting 0 := by
  have hassembled : Accounting
      { fleet := assembled settings vehicles, points := gridSide vehicles * gridSide vehicles } 0 :=
    ⟨rostered_assembled settings vehicles, Fleet.ledger_start _ _ _ _, rfl, Nat.le_refl 0,
      Backlog.size_empty (α := α)⟩
  exact start_invariant (P := fun f => Accounting
    { fleet := f, points := gridSide vehicles * gridSide vehicles } 0) hassembled
    fun f v _ h => h.report (r := presence v) rfl rfl rfl

end Simulation

/-! ### Runs -/

/-- A small step of a simulation, or one of the workers that deliver commands meanwhile. -/
inductive SimulationEvent where
  /-- A trip is wanted in a tick. -/
  | spawn (tick : ℕ) (trip : Trip)
  /-- A vehicle is planned further. -/
  | plan (vehicleId : String)
  /-- A vehicle has its turn. -/
  | advance (vehicleId : String)
  /-- A worker takes a step. -/
  | deliver (vehicleId : String) (worker : ℕ)

/-- Whether a trip is wanted. -/
def SimulationEvent.isTrip : SimulationEvent → Bool
  | .spawn _ _ => true
  | _ => false

namespace Simulation

/-- What a simulation is after a small step. -/
def perform (s : Simulation α) : SimulationEvent → Except Fault (Simulation α)
  | .spawn tick trip => s.spawn tick trip
  | .plan id => .ok (s.planVehicle id)
  | .advance id => s.advanceVehicle id
  | .deliver id worker => .ok { s with fleet := s.fleet.deliver id worker }

namespace Accounting

variable {s : Simulation α} {ticks : ℕ}

theorem perform (h : s.Accounting ticks) (event : SimulationEvent) :
    ∃ s', s.perform event = .ok s'
      ∧ s'.Accounting (ticks + if event.isTrip then 1 else 0) := by
  cases event with
  | spawn tick trip => exact h.spawn tick trip
  | plan id => exact ⟨_, rfl, h.planVehicle id⟩
  | advance id => exact h.advanceVehicle id
  | deliver id worker => exact ⟨_, rfl, h.deliver id worker⟩

theorem performAll (h : s.Accounting ticks) (events : List SimulationEvent) :
    ∃ s', events.foldlM Simulation.perform s = .ok s'
      ∧ s'.Accounting (ticks + events.countP SimulationEvent.isTrip) := by
  induction events generalizing s ticks with
  | nil => exact ⟨s, rfl, h⟩
  | cons event later ih =>
    obtain ⟨next, hnext, haccounting⟩ := h.perform event
    obtain ⟨s', hs', hend⟩ := ih haccounting
    refine ⟨s', ?_, ?_⟩
    · rw [List.foldlM_cons, hnext]
      exact hs'
    · rw [List.countP_cons, Nat.add_comm (later.countP _), ← Nat.add_assoc]
      exact hend

theorem run (h : s.Accounting ticks) (number : ℕ) (trips : List (Option Trip)) :
    ∃ s', Simulation.run number s trips = .ok s' ∧ s'.Accounting (ticks + trips.length) := by
  induction trips generalizing s ticks number with
  | nil => exact ⟨s, rfl, h⟩
  | cons wanted later ih =>
    obtain ⟨next, hnext, haccounting⟩ := h.tick number wanted
    obtain ⟨s', hs', hend⟩ := ih haccounting (number + 1)
    refine ⟨s', ?_, ?_⟩
    · rw [Simulation.run, hnext]
      exact hs'
    · rw [List.length_cons, Nat.add_comm later.length, ← Nat.add_assoc]
      exact hend

end Accounting

/-! ### The accounts -/

/-- **What becomes of an order** in a simulation in which a vehicle has been chosen for it, where
the vehicle is to start, and what the queues are in the end. -/
structure Spawned (chosen : Simulation α) (order : TransportOrder) (id : String) (start : Waypoint)
    (queues : Backlog α) : Prop where
  /-- The vehicle stands where it is to start. -/
  stands : ∃ v, chosen.fleet.registry.get? id = some v ∧ v.waypoint = some start
  /-- The route is one that the vehicle is expected to take from there. -/
  isExpected : chosen.IsExpected id start order.origin order.destination
    (chosen.expectedRoute id start order.origin order.destination)
  /-- It is laid down for the sub-task that has just been made, the only one of the vehicle. -/
  queue_eq : queues.queue id = [{ (.ofOrder id order 1 : SubTask α) with
    expected := chosen.expectedRoute id start order.origin order.destination }]

/-- **Whether the accounts of a simulation are in order** after a number of ticks. -/
structure Accounts (s : Simulation α) (ticks : ℕ) : Prop where
  created_eq : s.created = s.assigned + s.unassigned
  created_le : s.created ≤ ticks
  finished_le : s.finished ≤ s.assigned
  /-- What has been assigned and not been finished is in the queues. -/
  size_eq : s.fleet.backlog.size = s.assigned - s.finished
  length_queue_le : ∀ id, (s.fleet.backlog.queue id).length ≤ 1
  /-- A further trip does not fail. If it finds a vehicle, the expected route is laid down for the
  sub-task that has just been made, which is the only one of the vehicle. -/
  spawn : ∀ tick trip, ∃ s', s.spawn tick trip = .ok s'
    ∧ ∀ id, (s.fleet.assign (orderOf tick trip)).1 = some id → ∃ start,
      Spawned { s with fleet := (s.fleet.assign (orderOf tick trip)).2 } (orderOf tick trip) id
        start s'.fleet.backlog
  /-- Whatever steps workers take, when no lane is busy any more, as many commands have been
  delivered as plans have been committed. -/
  delivered : ∀ events : List (FleetEvent α),
    (∀ event ∈ events, event.IsDelivery) →
    (s.fleet.run events).dispatcher.isBusy = false →
    (s.fleet.run events).sink.count = s.committed
  /-- So it is in the summary. -/
  sent_eq : ∀ o : SimulationOptions,
    (s.summarise o).flushed = true → (s.summarise o).sent = s.committed

theorem Accounting.accounts {s : Simulation α} {ticks : ℕ} (h : s.Accounting ticks) :
    s.Accounts ticks := by
  have hsize := h.size_add
  have hdelivered : ∀ events : List (FleetEvent α),
      (∀ event ∈ events, event.IsDelivery) →
      (s.fleet.run events).dispatcher.isBusy = false →
      (s.fleet.run events).sink.count = s.committed :=
    fun _ hevents => (h.ledger.run_of_isDelivery hevents).count_sink_eq
  refine ⟨h.created_eq, h.created_le, by omega, by omega, h.rostered.length_queue_le, ?_,
    hdelivered, ?_⟩
  · intro tick trip
    rcases s.spawn_cases tick trip with ⟨hnone, heq⟩ | ⟨id, hassign, heq⟩
    · refine ⟨_, heq, fun id hid => ?_⟩
      rw [hnone] at hid
      cases hid
    · obtain ⟨v, start, hv, hstart⟩ := h.rostered.exists_waypoint_of_assign rfl rfl hassign
      refine ⟨_, heq v start hv hstart, fun other hother => ?_⟩
      obtain rfl : id = other := Option.some.inj (hassign.symm.trans hother)
      exact ⟨start, ⟨v, hv, hstart⟩, isExpected_expectedRoute _ _ _ _ _, h.queue_expect hassign _⟩
  · intro o hflushed
    obtain ⟨events, hevents, hsettle⟩ := s.fleet.exists_settle_eq_run
    have hidle : s.fleet.settle.dispatcher.isBusy = false := by
      rw [← Bool.not_eq_true']
      exact hflushed
    show s.fleet.settle.sink.count = s.committed
    rw [hsettle] at hidle ⊢
    exact hdelivered events hevents hidle

/-- **The accounts of a simulation are in order.** Every vehicle has a point to start from. Whatever
is wanted in each tick, and whatever a simulation and the workers do in any order, nothing fails,
and the accounts are in order. -/
theorem accounts_run (settings : Settings α) (vehicles : ℕ) :
    (∀ i < vehicles, ∃ p, (floorPlan (gridSide vehicles) : Network α).position
        (startPoint vehicles (gridSide vehicles * gridSide vehicles) i) = some p)
      ∧ (∀ trips : List (Option Trip), ∃ s,
        run 0 (start settings vehicles) trips = .ok s ∧ s.Accounts trips.length)
      ∧ ∀ events : List SimulationEvent, ∃ s,
        events.foldlM perform (start settings vehicles) = .ok s
          ∧ s.Accounts (events.countP SimulationEvent.isTrip) := by
  have hstart := accounting_start settings vehicles
  refine ⟨fun i hi => exists_position_startPoint (gridSide_pos vehicles) hi, fun trips => ?_,
    fun events => ?_⟩
  · obtain ⟨s, hs, haccounting⟩ := hstart.run 0 trips
    rw [Nat.zero_add] at haccounting
    exact ⟨s, hs, haccounting.accounts⟩
  · obtain ⟨s, hs, haccounting⟩ := hstart.performAll events
    rw [Nat.zero_add] at haccounting
    exact ⟨s, hs, haccounting.accounts⟩

theorem length_demand (chance : Float) (points ticks : ℕ) (r : RandomWords) :
    (demand chance points ticks r).length = ticks := by
  induction ticks generalizing r with
  | zero => rfl
  | succ ticks ih =>
    unfold demand
    simp only
    split
    · exact congrArg (· + 1) (ih _)
    · exact congrArg (· + 1) (ih _)

/-- **A simulation whose options and settings pass the check comes to a summary**, for any seed, and
the accounts are in order in the end. -/
theorem exists_simulate_eq_ok {settings checked : Settings Float} {options o : SimulationOptions}
    (ho : options.checked = .ok o) (hsettings : (widen settings (gridSide o.vehicles)).checked
      = .ok checked) :
    ∃ s : Simulation Float, simulate settings options = .ok (s.summarise o)
      ∧ s.Accounts o.ticks := by
  obtain ⟨s, hs, haccounting⟩ := (accounting_start checked o.vehicles).run 0
    (demand o.taskRate (start checked o.vehicles).points o.ticks
      (RandomWords.ofSeed o.seed.toUInt64))
  rw [Nat.zero_add, length_demand] at haccounting
  refine ⟨s, ?_, haccounting.accounts⟩
  unfold simulate
  rw [ho]
  show (widen settings (gridSide o.vehicles)).checked >>= _ = _
  rw [hsettings]
  show run 0 _ _ >>= _ = _
  rw [hs]
  rfl

end Simulation

end AgvDispatch
