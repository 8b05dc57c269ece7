import AgvDispatch.Proofs.Simulation.Guidance
/-!
# When a simulated sub-task is completed

A simulated vehicle completes its sub-task when only one waypoint lies ahead of it, the one it
stands on, and that is the waypoint where the expected route ends. So all that has been committed
has been driven. Whether this is all of the expected route depends on the route: a vehicle that has
been stopped on an earlier visit of the last waypoint completes its sub-task there. If no waypoint
is visited twice there is no earlier visit, and the expected route has been driven as a whole, over
the origin to the destination (`SubTask.Arrived`).

A `Simulation.Logbook` puts the completed sub-tasks down. It does not change the simulation
(`Simulation.Logbook.simulation_run`), and whatever is wanted in each tick, every sub-task in it has
arrived (`Simulation.Logbook.arrived_run`). A sub-task whose route comes back to its last waypoint
need not have been driven at all (`Simulation.Logbook.completed_standstill`).
-/

namespace AgvDispatch

/-- Two routes that end on the same waypoint are the same if one of them is a beginning of the other
and that one visits no waypoint twice. -/
theorem eq_of_isPrefix_of_getLast? {route whole : Route} (hpre : route <+: whole)
    (hnodup : whole.Nodup) {last : Waypoint} (hroute : route.getLast? = some last)
    (hwhole : whole.getLast? = some last) : route = whole := by
  obtain ⟨rest, rfl⟩ := hpre
  cases hrest : rest.getLast? with
  | none => rw [List.getLast?_eq_none_iff.mp hrest, List.append_nil]
  | some w =>
    -- The last waypoint would be visited in the rest once more.
    rw [List.getLast?_append, hrest, Option.some_or, Option.some.injEq] at hwhole
    subst hwhole
    have hdisjoint := (List.nodup_append.mp hnodup).2.2
    exact absurd rfl
      (hdisjoint w (List.mem_of_getLast? hroute) w (List.mem_of_getLast? hrest))

variable {α : Type}

/-- **What has been driven for a completed sub-task** on a network. -/
structure SubTask.Arrived (n : Network α) (t : SubTask α) : Prop where
  running_ne_nil : t.running ≠ []
  /-- All that has been committed lies behind the vehicle but for the waypoint it stands on. -/
  traveled_eq : t.traveled = t.running.dropLast
  /-- The expected route ends on that waypoint. -/
  getLast?_running : t.running.getLast? = t.expected.getLast?
  /-- It is the destination of a trip. -/
  stands : t.IsTrip n → t.running.getLast? = some t.destination
  /-- All of the expected route has been committed, if it visits no waypoint twice. -/
  running_eq : t.expected.Nodup → t.running = t.expected
  /-- All of the expected route but for its last waypoint lies behind the vehicle, if it visits no
  waypoint twice. -/
  traveled_eq_expected : t.expected.Nodup → t.traveled = t.expected.dropLast
  /-- So does the origin of a trip. -/
  visited : t.IsTrip n → t.expected.Nodup → t.origin ∈ t.traveled

/-- A sub-task that is followed has arrived when the only waypoint ahead is the one where the
expected route ends. -/
theorem SubTask.OnTrack.arrived {n : Network α} {t : SubTask α} (h : t.OnTrack)
    (hfollows : t.expected.Nodup → t.running <+: t.expected) (hrouted : t.Routed n)
    {last : Waypoint} (hahead : t.effectiveRoute = [last])
    (hlast : t.expected.getLast? = some last) : t.Arrived n := by
  have hrunning : t.running = t.traveled ++ [last] := hahead ▸ h.running_eq
  have hend : t.running.getLast? = some last := by rw [hrunning, List.getLast?_concat]
  have htraveled : t.traveled = t.running.dropLast := by rw [hrunning, List.dropLast_concat]
  have hwhole : t.expected.Nodup → t.running = t.expected := fun hnodup =>
    eq_of_isPrefix_of_getLast? (hfollows hnodup) hnodup hend hlast
  have hdestination : t.IsTrip n → last = t.destination := fun htrip =>
    Option.some.inj (hlast.symm.trans (hrouted htrip).2)
  refine ⟨?_, htraveled, hend.trans hlast.symm, fun htrip => ?_, hwhole, fun hnodup => ?_,
    fun htrip hnodup => ?_⟩
  · rw [hrunning]
    exact List.concat_ne_nil last t.traveled
  · rw [hend, hdestination htrip]
  · rw [htraveled, hwhole hnodup]
  · -- The origin is on the route and is not where it ends.
    have horigin : t.origin ∈ t.traveled ++ [last] := by
      rw [← hrunning, hwhole hnodup]
      exact (hrouted htrip).1
    rw [List.mem_append, List.mem_singleton, hdestination htrip] at horigin
    exact horigin.resolve_right htrip.origin_ne

variable [Scalar α]

namespace Simulation

/-! ### Logbooks -/

namespace Logbook

/-- One tick of the simulation. -/
def tick (l : Logbook α) (number : ℕ) (wanted : Option Trip) : Except Fault (Logbook α) := do
  let s ← l.simulation.demanded number wanted
  s.planAll.fleet.backlog.vehicles.foldlM turn ⟨s.planAll, l.completed⟩

/-- The ticks of a simulation from one number on. -/
def run : ℕ → Logbook α → List (Option Trip) → Except Fault (Logbook α)
  | _, l, [] => .ok l
  | number, l, wanted :: later => do run (number + 1) (← l.tick number wanted) later

theorem simulation_turns (l : Logbook α) (ids : List String) :
    (ids.foldlM turn l).map simulation = ids.foldlM advanceVehicle l.simulation := by
  induction ids generalizing l with
  | nil => rfl
  | cons id ids ih =>
    rw [List.foldlM_cons, List.foldlM_cons, ← l.simulation_turn id]
    cases l.turn id with
    | error fault => rfl
    | ok next => exact ih next

theorem simulation_tick (l : Logbook α) (number : ℕ) (wanted : Option Trip) :
    (l.tick number wanted).map simulation = l.simulation.tick number wanted := by
  rw [tick_eq]
  unfold tick
  cases l.simulation.demanded number wanted with
  | error fault => rfl
  | ok s => exact simulation_turns ⟨s.planAll, l.completed⟩ _

/-- **What is put down does not matter for the simulation.** -/
theorem simulation_run (l : Logbook α) (number : ℕ) (trips : List (Option Trip)) :
    (run number l trips).map simulation = Simulation.run number l.simulation trips := by
  induction trips generalizing l number with
  | nil => rfl
  | cons wanted later ih =>
    unfold run Simulation.run
    rw [← l.simulation_tick number wanted]
    cases l.tick number wanted with
    | error fault => rfl
    | ok next => exact ih next (number + 1)

/-- **What is kept by every turn** on a floor plan with a given side: the fleet is guided, and what
has been put down is what has been counted and has arrived. -/
structure InOrder (side : ℕ) (l : Logbook α) (ticks : ℕ) : Prop where
  accounting : l.simulation.Accounting ticks
  guided : Guided side l.simulation.fleet
  length_completed : l.completed.length = l.simulation.finished
  arrived : ∀ task ∈ l.completed, task.Arrived (floorPlan side)

namespace InOrder

variable {side : ℕ} {l : Logbook α} {ticks : ℕ}

theorem mono (h : InOrder side l ticks) {more : ℕ} (hle : ticks ≤ more) : InOrder side l more :=
  { h with accounting := h.accounting.mono hle }

theorem spawn (h : InOrder side l ticks) (number : ℕ) (trip : Trip) :
    ∃ s, l.simulation.spawn number trip = .ok s ∧ InOrder side ⟨s, l.completed⟩ (ticks + 1) := by
  obtain ⟨s, hspawn, haccounting⟩ := h.accounting.spawn number trip
  exact ⟨s, hspawn, haccounting, h.guided.spawn h.accounting hspawn,
    h.length_completed.trans (finished_spawn hspawn).symm, h.arrived⟩

theorem planVehicle (h : InOrder side l ticks) (id : String) :
    InOrder side ⟨l.simulation.planVehicle id, l.completed⟩ ticks :=
  ⟨h.accounting.planVehicle id, h.guided.planVehicle h.accounting id,
    h.length_completed.trans (finished_planVehicle _ id).symm, h.arrived⟩

theorem planAll (h : InOrder side l ticks) :
    InOrder side ⟨l.simulation.planAll, l.completed⟩ ticks :=
  List.foldlRecOn (motive := fun s : Simulation α => InOrder side ⟨s, l.completed⟩ ticks)
    l.simulation.fleet.backlog.vehicles Simulation.planVehicle h fun _ hs id _ => hs.planVehicle id

/-- **A turn keeps a logbook in order.** -/
theorem turn (h : InOrder side l ticks) (id : String) :
    ∃ l', l.turn id = .ok l' ∧ InOrder side l' ticks := by
  obtain ⟨s, hadvance, haccounting⟩ := h.accounting.advanceVehicle id
  have hprojection := l.simulation_turn id
  rw [hadvance] at hprojection
  rcases l.turn_cases id with heq | ⟨task, here, next, rest, -, -, heq⟩
    | ⟨task, last, closed, fleet, hhead, hahead, hlast, hfinish, heq⟩
  · exact ⟨l, heq, h⟩
  · rw [heq] at hprojection
    cases hprojection
    exact ⟨_, heq, haccounting, h.guided.reportAt h.accounting id next _,
      h.length_completed.trans (l.simulation.finished_reportAt id next _).symm, h.arrived⟩
  · rw [heq] at hprojection
    cases hprojection
    refine ⟨_, heq, haccounting, ?_, ?_, ?_⟩
    · have hclosed := (h.guided.reportAt h.accounting id last []).step
        (h.accounting.reportAt id last []).rostered.length_queue_le (.finish id) (by simp) (by simp)
        (by simp)
      rwa [Fleet.step_finish hfinish] at hclosed
    · rw [List.length_append, List.length_singleton, h.length_completed]
    · rw [List.forall_mem_append, List.forall_mem_singleton]
      refine ⟨h.arrived, ?_⟩
      -- The end of a sub-task leaves its ends and its routes alone.
      obtain ⟨head, hhead', -, hclosed⟩ := Fleet.finish_eq_ok_iff.mp hfinish
      obtain rfl : task = head :=
        Option.some.inj ((head?_reportAt hhead hahead).symm.trans hhead')
      obtain rfl := congrArg Prod.fst hclosed
      have hrouted := h.guided.routed id task hhead
      rw [h.guided.network_eq] at hrouted
      exact SubTask.OnTrack.arrived ((h.guided.toFaithful.toOnTrack.head hhead).of_eq rfl rfl)
        (h.guided.follows id task hhead) (hrouted.of_eq rfl rfl) hahead hlast

theorem turns (h : InOrder side l ticks) (ids : List String) :
    ∃ l', ids.foldlM Logbook.turn l = .ok l' ∧ InOrder side l' ticks :=
  exists_foldlM_eq_ok (I := fun l : Logbook α => InOrder side l ticks)
    (fun _ id hl => hl.turn id) h ids

theorem tick (h : InOrder side l ticks) (number : ℕ) (wanted : Option Trip) :
    ∃ l', l.tick number wanted = .ok l' ∧ InOrder side l' (ticks + 1) := by
  obtain ⟨s, hdemanded, horder⟩ : ∃ s, l.simulation.demanded number wanted = .ok s
      ∧ InOrder side ⟨s, l.completed⟩ (ticks + 1) := by
    cases wanted with
    | none => exact ⟨l.simulation, rfl, h.mono (Nat.le_succ ticks)⟩
    | some trip => exact h.spawn number trip
  obtain ⟨l', hl', hend⟩ := horder.planAll.turns s.planAll.fleet.backlog.vehicles
  refine ⟨l', ?_, hend⟩
  unfold Logbook.tick
  rw [hdemanded]
  exact hl'

theorem run (h : InOrder side l ticks) (number : ℕ) (trips : List (Option Trip)) :
    ∃ l', Logbook.run number l trips = .ok l' ∧ InOrder side l' (ticks + trips.length) := by
  induction trips generalizing l ticks number with
  | nil => exact ⟨l, rfl, h⟩
  | cons wanted later ih =>
    obtain ⟨next, hnext, horder⟩ := h.tick number wanted
    obtain ⟨l', hl', hend⟩ := ih horder (number + 1)
    refine ⟨l', ?_, ?_⟩
    · rw [Logbook.run, hnext]
      exact hl'
    · rw [List.length_cons, Nat.add_comm later.length, ← Nat.add_assoc]
      exact hend

end InOrder

/-- **Every sub-task that is completed in a simulation has arrived**, whatever is wanted in each
tick, and the simulation never fails. -/
theorem arrived_run (settings : Settings α) (vehicles : ℕ) (trips : List (Option Trip)) :
    ∃ l : Logbook α, run 0 ⟨start settings vehicles, []⟩ trips = .ok l
      ∧ Simulation.run 0 (start settings vehicles) trips = .ok l.simulation
      ∧ l.completed.length = l.simulation.finished
      ∧ ∀ task ∈ l.completed, task.Arrived (floorPlan (gridSide vehicles)) := by
  have hstart : InOrder (gridSide vehicles) ⟨start settings vehicles, []⟩ 0 :=
    ⟨accounting_start settings vehicles, guided_start settings vehicles, rfl, by simp⟩
  obtain ⟨l, hl, horder⟩ := hstart.run 0 trips
  have hprojection := simulation_run ⟨start settings vehicles, []⟩ 0 trips
  rw [hl] at hprojection
  exact ⟨l, hl, hprojection.symm, horder.length_completed, horder.arrived⟩

/-- Two ticks with two vehicles, which start from the points 1 and 9. The first trip goes from 9 to
5. The second one goes from 5 to 1, while the other vehicle still stands on 5. -/
def standstill : Except Fault (Logbook Float) :=
  run 0 ⟨start (widen .standard (gridSide 2)) 2, []⟩ [some ⟨9, 5⟩, some ⟨5, 1⟩]

/-- **A sub-task can be completed before it is done**: the expected route comes back to where the
vehicle stands, and only its first waypoint can be committed. -/
theorem completed_standstill :
    (∃ checked, (widen (.standard : Settings Float) (gridSide 2)).checked = .ok checked)
      ∧ ∃ l, standstill = .ok l ∧ ∃ task ∈ l.completed,
        task.expected = [waypoint 1, waypoint 5, waypoint 1] ∧ task.running = [waypoint 1]
          ∧ task.traveled = [] ∧ task.origin = waypoint 5 := by
  have hproblems : (widen (.standard : Settings Float) (gridSide 2)).problems = [] := by
    decide +kernel
  have hcompleted : (standstill.toOption.any fun l => l.completed.any fun task =>
      task.expected == [waypoint 1, waypoint 5, waypoint 1] && task.running == [waypoint 1]
        && task.traveled == [] && task.origin == waypoint 5) = true := by
    decide +kernel
  refine ⟨⟨_, by rw [Settings.checked, hproblems]⟩, ?_⟩
  cases hrun : standstill with
  | error fault =>
    rw [hrun] at hcompleted
    cases hcompleted
  | ok l =>
    rw [hrun] at hcompleted
    obtain ⟨task, htask, hroutes⟩ := List.any_eq_true.mp hcompleted
    simp only [Bool.and_eq_true, beq_iff_eq] at hroutes
    obtain ⟨⟨⟨hexpected, hrunning⟩, htraveled⟩, horigin⟩ := hroutes
    exact ⟨l, rfl, task, htask, hexpected, hrunning, htraveled, horigin⟩

end Logbook

end Simulation

end AgvDispatch
