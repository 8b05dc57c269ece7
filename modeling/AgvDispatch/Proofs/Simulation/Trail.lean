import AgvDispatch.Proofs.Fleet.Queue
import AgvDispatch.Simulation.Run
/-!
# The trail of a simulation

A simulation is made of the operations of a fleet: an order and an expected route for each trip
(`Simulation.spawn_eq_ok`), plans (`Simulation.fleet_planVehicle`), reports, and the end of a
sub-task when its vehicle arrives (`Simulation.turn_advanceVehicle`).

The **trail** of a simulation lists the fleet as it is after each report: first the reports in which
every vehicle tells where it stands (`Simulation.startTrail`), then the ones that vehicles under way
make tick by tick (`Simulation.runTrail`).
-/

namespace AgvDispatch.Simulation

variable {α : Type} [Scalar α]

/-! ### The operations of a tick -/

/-- A trip becomes an order, and if the order finds a vehicle an expected route is laid down. -/
theorem spawn_eq_ok {s s' : Simulation α} {tick : Nat} {trip : Trip}
    (h : s.spawn tick trip = .ok s') : ∃ order : TransportOrder, order.mapId = mapId
      ∧ (s'.fleet = s.fleet.step (.assign order)
        ∨ ∃ id route, s'.fleet = (s.fleet.step (.assign order)).expect id route) := by
  refine ⟨.ofRoute (orderCode tick) (waypoint trip.origin) (waypoint trip.destination), rfl, ?_⟩
  unfold spawn at h
  simp only at h
  split at h
  · cases h
    exact Or.inl rfl
  · split at h
    · cases h
    · split at h
      · cases h
      · cases h
        exact Or.inr ⟨_, _, rfl⟩

/-- A vehicle is planned along its expected route. -/
theorem fleet_planVehicle (s : Simulation α) (id : String) :
    (s.planVehicle id).fleet = s.fleet.step (.planRemaining id) := by
  unfold planVehicle
  simp only
  split <;> rfl

/-- The report of a vehicle that stands on a waypoint and has a route ahead of it. -/
def reportOf (id : String) (here : Waypoint) (position : Point α) (remaining : Route) :
    VehicleReport α :=
  { VehicleReport.ofPosition id here.mapId position with currentPoint := some here.id, remaining }

theorem fleet_reportAt {s : Simulation α} {here : Waypoint} {position : Point α}
    (h : s.fleet.network.position here = some position) (id : String) (remaining : Route) :
    (s.reportAt id here remaining).fleet
      = s.fleet.step (.report (reportOf id here position remaining)) := by
  unfold reportAt
  rw [h]
  rfl

/-- The simulation after the report that a vehicle makes in its turn, if it makes one. -/
def reported? (s : Simulation α) (id : String) : Option (Simulation α) :=
  match s.fleet.backlog.head? id with
  | none => none
  | some task =>
    if task.stage != .run then none
    else
      match task.effectiveRoute with
      | [] => none
      | [last] => if task.expected.getLast? == some last then some (s.reportAt id last []) else none
      | _ :: next :: rest => some (s.reportAt id next (next :: rest))

/-- **What a vehicle does in its turn**: the report that it makes and what comes of the turn. -/
inductive Turn (s : Simulation α) (id : String) :
    Option (Simulation α) → Except Fault (Simulation α) → Prop
  /-- It stays where it is. -/
  | stays : Turn s id none (.ok s)
  /-- It moves to the next waypoint. -/
  | moves (task : SubTask α) (here next : Waypoint) (rest : Route)
    (head : s.fleet.backlog.head? id = some task)
    (ahead : task.effectiveRoute = here :: next :: rest) :
    Turn s id (some (s.reportAt id next (next :: rest))) (.ok (s.reportAt id next (next :: rest)))
  /-- It stands on the last waypoint and completes its sub-task. -/
  | arrives (task : SubTask α) (last : Waypoint) (head : s.fleet.backlog.head? id = some task)
    (ahead : task.effectiveRoute = [last]) :
    Turn s id (some (s.reportAt id last [])) (((s.reportAt id last []).fleet.finish id).map
      fun result => { s.reportAt id last [] with
        fleet := result.2, finished := (s.reportAt id last []).finished + 1 })

theorem turn_advanceVehicle (s : Simulation α) (id : String) :
    Turn s id (s.reported? id) (s.advanceVehicle id) := by
  unfold reported? advanceVehicle
  cases hhead : s.fleet.backlog.head? id with
  | none => exact .stays
  | some task =>
    simp only
    split
    · exact .stays
    · rcases hahead : task.effectiveRoute with _ | ⟨here, _ | ⟨next, rest⟩⟩
      · exact .stays
      · simp only
        split
        · have hturn := Turn.arrives task here hhead hahead
          cases hfinish : (s.reportAt id here []).fleet.finish id with
          | error e =>
            rw [hfinish] at hturn
            exact hturn
          | ok result =>
            rw [hfinish] at hturn
            exact hturn
        · exact .stays
      · exact .moves task here next rest hhead hahead

/-! ### Operations in detail -/

/-- The order that a trip is turned into. -/
def orderOf (tick : Nat) (trip : Trip) : TransportOrder :=
  .ofRoute (orderCode tick) (waypoint trip.origin) (waypoint trip.destination)

/-- An order that finds no vehicle is counted, and so is one that finds a vehicle; the vehicle, if
it is registered and on a waypoint, is expected to take a route for the trip. -/
theorem spawn_cases (s : Simulation α) (tick : Nat) (trip : Trip) :
    ((s.fleet.assign (orderOf tick trip)).1 = none ∧ s.spawn tick trip = .ok { s with
        fleet := s.fleet.step (.assign (orderOf tick trip))
        created := s.created + 1
        unassigned := s.unassigned + 1 })
      ∨ ∃ id, (s.fleet.assign (orderOf tick trip)).1 = some id ∧ ∀ v start,
        (s.fleet.step (.assign (orderOf tick trip))).registry.get? id = some v →
        v.waypoint = some start → s.spawn tick trip = .ok { s with
          fleet := (s.fleet.step (.assign (orderOf tick trip))).expect id
            (expectedRoute { s with fleet := s.fleet.step (.assign (orderOf tick trip)) } id start
              (waypoint trip.origin) (waypoint trip.destination))
          created := s.created + 1
          assigned := s.assigned + 1 } := by
  cases hchosen : (s.fleet.assign (orderOf tick trip)).1 with
  | none =>
    refine Or.inl ⟨rfl, ?_⟩
    change (s.fleet.assign (.ofRoute _ _ _)).1 = none at hchosen
    unfold spawn
    simp only [hchosen]
    rfl
  | some id =>
    refine Or.inr ⟨id, rfl, fun v start hv hstart => ?_⟩
    change (s.fleet.assign (.ofRoute _ _ _)).1 = some id at hchosen
    change (s.fleet.assign (.ofRoute _ _ _)).2.registry.get? id = some v at hv
    unfold spawn
    simp only [hchosen, hv, hstart]
    rfl

/-- A vehicle only reports from waypoints that have a position. -/
theorem reportAt_cases (s : Simulation α) (id : String) (here : Waypoint) (remaining : Route) :
    s.reportAt id here remaining = s ∨ ∃ position, s.reportAt id here remaining
      = { s with fleet := s.fleet.step (.report (reportOf id here position remaining)) } := by
  unfold reportAt
  cases s.fleet.network.position here with
  | none => exact Or.inl rfl
  | some position => exact Or.inr ⟨position, rfl⟩

@[simp] theorem finished_reportAt (s : Simulation α) (id : String) (here : Waypoint)
    (remaining : Route) : (s.reportAt id here remaining).finished = s.finished := by
  rcases s.reportAt_cases id here remaining with heq | ⟨position, heq⟩ <;> rw [heq]

theorem finished_spawn {s s' : Simulation α} {tick : Nat} {trip : Trip}
    (h : s.spawn tick trip = .ok s') : s'.finished = s.finished := by
  unfold spawn at h
  simp only at h
  split at h
  · cases h
    rfl
  · split at h
    · cases h
    · split at h
      · cases h
      · cases h
        rfl

theorem finished_planVehicle (s : Simulation α) (id : String) :
    (s.planVehicle id).finished = s.finished := by
  unfold planVehicle
  simp only
  split <;> rfl

/-- A vehicle that reports from the only waypoint ahead stays where it is. -/
theorem head?_reportAt {s : Simulation α} {id : String} {task : SubTask α} {last : Waypoint}
    (hhead : s.fleet.backlog.head? id = some task) (hahead : task.effectiveRoute = [last]) :
    (s.reportAt id last []).fleet.backlog.head? id = some task := by
  rcases s.reportAt_cases id last [] with heq | ⟨position, heq⟩
  · rw [heq, hhead]
  · rw [heq]
    show (s.fleet.step (.report (reportOf id last position []))).backlog.head? id = some task
    have hpassed : (reportOf id last position []).passed task = task := by
      have hreach : (reportOf id last position []).passed task = task.reach last := rfl
      rw [hreach]
      unfold SubTask.reach
      simp [hahead]
    cases hv : s.fleet.registry.get? id with
    | none =>
      simp only [Fleet.step]
      rw [Fleet.report_unknown hv, hhead]
    | some v =>
      have hregistered : (s.fleet.registry.get? id).isSome = true := by
        rw [hv]
        rfl
      have hreported :=
        Fleet.head?_report (r := reportOf id last position []) hhead hregistered
      rw [hpassed] at hreported
      exact hreported

/-! ### Completed sub-tasks -/

/-- A simulation, and the sub-tasks that have been handed back in it. -/
structure Logbook (α : Type) [Scalar α] where
  /-- The simulation. -/
  simulation : Simulation α
  /-- The sub-tasks that have been handed back, in order. -/
  completed : List (SubTask α) := []

/-- A turn of a vehicle. A sub-task that is completed in it is put down. -/
def Logbook.turn (l : Logbook α) (id : String) : Except Fault (Logbook α) :=
  match l.simulation.fleet.backlog.head? id with
  | none => .ok l
  | some task =>
    if task.stage != .run then .ok l
    else
      match task.effectiveRoute with
      | [] => .ok l
      | [last] =>
        if task.expected.getLast? == some last then do
          let s := l.simulation.reportAt id last []
          let (closed, fleet) ← s.fleet.finish id
          return ⟨{ s with fleet, finished := s.finished + 1 }, l.completed ++ [closed]⟩
        else .ok l
      | _ :: next :: rest => .ok ⟨l.simulation.reportAt id next (next :: rest), l.completed⟩

/-- What is put down does not matter for the turn. -/
theorem Logbook.simulation_turn (l : Logbook α) (id : String) :
    (l.turn id).map Logbook.simulation = l.simulation.advanceVehicle id := by
  unfold turn advanceVehicle
  cases l.simulation.fleet.backlog.head? id with
  | none => rfl
  | some task =>
    simp only
    split
    · rfl
    · rcases task.effectiveRoute with _ | ⟨here, _ | ⟨next, rest⟩⟩
      · rfl
      · simp only
        split
        · cases (l.simulation.reportAt id here []).fleet.finish id <;> rfl
        · rfl
      · rfl

/-- **What a vehicle does in its turn.** It stays where it is, or it moves to the next waypoint of
its route, or it stands on the last one, where its expected route ends, and completes its sub-task.
It never fails. -/
theorem Logbook.turn_cases (l : Logbook α) (id : String) : l.turn id = .ok l
    ∨ (∃ task here next rest, l.simulation.fleet.backlog.head? id = some task
      ∧ task.effectiveRoute = here :: next :: rest
      ∧ l.turn id = .ok ⟨l.simulation.reportAt id next (next :: rest), l.completed⟩)
    ∨ ∃ task last closed fleet, l.simulation.fleet.backlog.head? id = some task
      ∧ task.effectiveRoute = [last] ∧ task.expected.getLast? = some last
      ∧ (l.simulation.reportAt id last []).fleet.finish id = .ok (closed, fleet)
      ∧ l.turn id = .ok ⟨{ l.simulation.reportAt id last [] with
          fleet := fleet, finished := l.simulation.finished + 1 }, l.completed ++ [closed]⟩ := by
  unfold turn
  cases hhead : l.simulation.fleet.backlog.head? id with
  | none => exact Or.inl rfl
  | some task =>
    simp only
    split
    · exact Or.inl rfl
    · rename_i hstage
      rcases hahead : task.effectiveRoute with _ | ⟨here, _ | ⟨next, rest⟩⟩
      · exact Or.inl rfl
      · simp only
        split
        · rename_i hlast
          -- The sub-task is still being driven after the report, so it can be completed.
          have hrun : task.stage = .run := by simpa using hstage
          have hfinish := Fleet.finish_eq_ok_iff.mpr
            ⟨task, head?_reportAt hhead hahead, by rw [hrun]; rfl, rfl⟩
          refine Or.inr (Or.inr ⟨task, here, _, _, rfl, hahead, by simpa using hlast, hfinish, ?_⟩)
          rw [hfinish, ← l.simulation.finished_reportAt id here []]
          rfl
        · exact Or.inl rfl
      · exact Or.inr (Or.inl ⟨task, here, next, rest, rfl, hahead, rfl⟩)

theorem advanceVehicle_cases (s : Simulation α) (id : String) : s.advanceVehicle id = .ok s
    ∨ (∃ task here next rest, s.fleet.backlog.head? id = some task
      ∧ task.effectiveRoute = here :: next :: rest
      ∧ s.advanceVehicle id = .ok (s.reportAt id next (next :: rest)))
    ∨ ∃ task last closed fleet, s.fleet.backlog.head? id = some task
      ∧ task.effectiveRoute = [last] ∧ task.expected.getLast? = some last
      ∧ (s.reportAt id last []).fleet.finish id = .ok (closed, fleet)
      ∧ s.advanceVehicle id
        = .ok { s.reportAt id last [] with fleet := fleet, finished := s.finished + 1 } := by
  have hturn := Logbook.simulation_turn ⟨s, []⟩ id
  rcases Logbook.turn_cases ⟨s, []⟩ id with heq | ⟨task, here, next, rest, hhead, hahead, heq⟩
    | ⟨task, last, closed, fleet, hhead, hahead, hlast, hfinish, heq⟩
  all_goals rw [heq] at hturn
  · exact Or.inl hturn.symm
  · exact Or.inr (Or.inl ⟨task, here, next, rest, hhead, hahead, hturn.symm⟩)
  · exact Or.inr (Or.inr ⟨task, last, closed, fleet, hhead, hahead, hlast, hfinish, hturn.symm⟩)

/-! ### Trails -/

/-- Steps that do not fail as long as something holds, and keep it, do not fail one after another.
-/
theorem exists_foldlM_eq_ok {σ β : Type} {step : σ → β → Except Fault σ} {I : σ → Prop}
    (hstep : ∀ s b, I s → ∃ s', step s b = .ok s' ∧ I s') {s : σ} (hs : I s) (bs : List β) :
    ∃ s', bs.foldlM step s = .ok s' ∧ I s' := by
  induction bs generalizing s with
  | nil => exact ⟨s, rfl, hs⟩
  | cons b bs ih =>
    obtain ⟨next, hnext, hkept⟩ := hstep s b hs
    obtain ⟨s', hs', hend⟩ := ih hkept
    refine ⟨s', ?_, hend⟩
    rw [List.foldlM_cons, hnext]
    exact hs'

/-- The fleet after each report that some vehicles make in turn. -/
def turnsTrail : Simulation α → List String → List (Fleet α)
  | _, [] => []
  | s, id :: ids => ((s.reported? id).map (·.fleet)).toList ++ match s.advanceVehicle id with
    | .ok s => turnsTrail s ids
    | .error _ => []

/-- The simulation after a trip, if one is wanted. -/
def demanded (s : Simulation α) (number : Nat) : Option Trip → Except Fault (Simulation α)
  | none => .ok s
  | some trip => s.spawn number trip

/-- The fleet after each report that is made in a tick. -/
def tickTrail (s : Simulation α) (number : Nat) (wanted : Option Trip) : List (Fleet α) :=
  match s.demanded number wanted with
  | .ok s => s.planAll.turnsTrail s.planAll.fleet.backlog.vehicles
  | .error _ => []

/-- **The fleet after each report that vehicles under way make**, in the ticks from one number on.
-/
def runTrail : Nat → Simulation α → List (Option Trip) → List (Fleet α)
  | _, _, [] => []
  | number, s, wanted :: later => s.tickTrail number wanted ++ match s.tick number wanted with
    | .ok s => runTrail (number + 1) s later
    | .error _ => []

/-- The fleet before and after each report of some vehicles that stay where they are. -/
def presenceTrail : Fleet α → List (Vehicle α) → List (Fleet α)
  | f, [] => [f]
  | f, v :: vs => f :: presenceTrail (f.report (presence v)).2 vs

/-- The fleet before any vehicle has reported. -/
def assembled (settings : Settings α) (vehicles : Nat) : Fleet α :=
  let side := gridSide vehicles
  Fleet.start settings (fleetRegistry (floorPlan side) vehicles (side * side)) (floorPlan side) none
    {}

/-- **The fleet before and after each report in which a vehicle tells where it stands.** -/
def startTrail (settings : Settings α) (vehicles : Nat) : List (Fleet α) :=
  presenceTrail (assembled settings vehicles) (assembled settings vehicles).registry.all

/-- **The trail of a whole simulation.** -/
def trail (settings : Settings α) (vehicles : Nat) (trips : List (Option Trip)) :
    List (Fleet α) :=
  startTrail settings vehicles ++ runTrail 0 (start settings vehicles) trips

theorem tick_eq (s : Simulation α) (number : Nat) (wanted : Option Trip) :
    s.tick number wanted = s.demanded number wanted >>= fun s =>
      s.planAll.fleet.backlog.vehicles.foldlM advanceVehicle s.planAll := by
  cases wanted <;> rfl

/-- What holds before a vehicle has its turn holds after all vehicles have had theirs, if every turn
keeps it; and what every report brings about holds all along the trail. -/
theorem turns_invariant {I : Simulation α → Prop} {P : Fleet α → Prop}
    (hreport : ∀ s s' id, I s → s.reported? id = some s' → P s'.fleet)
    (hturn : ∀ s s' id, I s → s.advanceVehicle id = .ok s' → I s') {s : Simulation α} (hs : I s)
    (ids : List String) : (∀ f ∈ s.turnsTrail ids, P f)
      ∧ ∀ s', ids.foldlM advanceVehicle s = .ok s' → I s' := by
  induction ids generalizing s with
  | nil =>
    refine ⟨fun f hf => absurd hf List.not_mem_nil, fun s' hs' => ?_⟩
    cases hs'
    exact hs
  | cons id ids ih =>
    have hfirst : ∀ f ∈ ((s.reported? id).map (·.fleet)).toList, P f := by
      intro f hf
      rw [Option.mem_toList, Option.map_eq_some_iff] at hf
      obtain ⟨s', hs', rfl⟩ := hf
      exact hreport s s' id hs hs'
    unfold turnsTrail
    rw [List.foldlM_cons]
    -- A turn that fails ends the trail, but its report belongs to it.
    cases hadvance : s.advanceVehicle id with
    | error e =>
      refine ⟨fun f hf => ?_, fun s' hs' => by cases hs'⟩
      rw [List.append_nil] at hf
      exact hfirst f hf
    | ok next =>
      obtain ⟨htrail, hend⟩ := ih (hturn s next id hs hadvance)
      refine ⟨fun f hf => ?_, hend⟩
      rcases List.mem_append.mp hf with hf | hf
      · exact hfirst f hf
      · exact htrail f hf

/-- **What every step of a simulation keeps** holds all along a run, and what every report then
brings about holds all along its trail. -/
theorem run_invariant {I : Simulation α → Prop} {P : Fleet α → Prop}
    (hspawn : ∀ s s' tick trip, I s → s.spawn tick trip = .ok s' → I s')
    (hplan : ∀ s id, I s → I (s.planVehicle id))
    (hreport : ∀ s s' id, I s → s.reported? id = some s' → P s'.fleet)
    (hturn : ∀ s s' id, I s → s.advanceVehicle id = .ok s' → I s') {s : Simulation α} (hs : I s)
    (number : Nat) (trips : List (Option Trip)) : (∀ f ∈ runTrail number s trips, P f)
      ∧ ∀ s', run number s trips = .ok s' → I s' := by
  have hplans : ∀ (ids : List String) s, I s → I (ids.foldl planVehicle s) := by
    intro ids
    induction ids with
    | nil => exact fun s hs => hs
    | cons id ids ih => exact fun s hs => ih _ (hplan s id hs)
  have htick : ∀ s number wanted, I s → (∀ f ∈ s.tickTrail number wanted, P f)
      ∧ ∀ s', s.tick number wanted = .ok s' → I s' := by
    intro s number wanted hs
    unfold tickTrail
    rw [tick_eq]
    cases hdemanded : s.demanded number wanted with
    | error e => exact ⟨fun f hf => absurd hf List.not_mem_nil, fun s' hs' => by cases hs'⟩
    | ok next =>
      have hnext : I next := by
        cases wanted with
        | none =>
          cases hdemanded
          exact hs
        | some trip => exact hspawn s next number trip hs hdemanded
      exact turns_invariant hreport hturn (hplans _ next hnext) _
  induction trips generalizing number s with
  | nil =>
    refine ⟨fun f hf => absurd hf List.not_mem_nil, fun s' hs' => ?_⟩
    cases hs'
    exact hs
  | cons wanted later ih =>
    obtain ⟨hfirst, hend⟩ := htick s number wanted hs
    unfold runTrail run
    cases hnext : s.tick number wanted with
    | error e =>
      refine ⟨fun f hf => ?_, fun s' hs' => by cases hs'⟩
      rw [List.append_nil] at hf
      exact hfirst f hf
    | ok next =>
      obtain ⟨hlater, hlast⟩ := ih (hend next hnext) (number + 1)
      refine ⟨fun f hf => ?_, hlast⟩
      rcases List.mem_append.mp hf with hf | hf
      · exact hfirst f hf
      · exact hlater f hf

/-- What holds before the vehicles report where they stand, and is kept by such reports, holds of
the fleet that a simulation starts with. -/
theorem start_invariant {P : Fleet α → Prop} {settings : Settings α} {vehicles : Nat}
    (hassembled : P (assembled settings vehicles))
    (hreport : ∀ f, ∀ v ∈ (assembled settings vehicles).registry.all, P f →
      P (f.step (.report (presence v)))) :
    P (start settings vehicles).fleet :=
  List.foldlRecOn (motive := P) (assembled settings vehicles).registry.all
    (fun f v => (f.report (presence v)).2) hassembled fun f hf v hv => hreport f v hv hf

/-- The simulation starts from the end of the trail of presence reports. -/
theorem start_mem_startTrail (settings : Settings α) (vehicles : Nat) :
    (start settings vehicles).fleet ∈ startTrail settings vehicles := by
  have hmem : ∀ (vs : List (Vehicle α)) (f : Fleet α),
      vs.foldl (fun f v => (f.report (presence v)).2) f ∈ presenceTrail f vs := by
    intro vs
    induction vs with
    | nil => exact fun f => List.mem_singleton_self f
    | cons v vs ih => exact fun f => List.mem_cons_of_mem f (ih _)
  exact hmem _ _

end AgvDispatch.Simulation
