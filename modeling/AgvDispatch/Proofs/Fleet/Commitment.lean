import AgvDispatch.Proofs.Dispatch.Fifo
import AgvDispatch.Proofs.Fleet.Detour
import AgvDispatch.Proofs.Fleet.Grounded
/-!
# What a committed plan guarantees

A plan that is committed touches the head of one queue, the reservation of its vehicle and the lane
of its vehicle, and it makes the three agree (`Fleet.Commitment`). Whatever has happened to a fleet
before, every plan that it commits is such a commitment (`Fleet.commitment_of_reachable`).

That the reservation exists takes a grounded fleet: the route to be reserved begins with what was
committed earlier, and a single waypoint without a position would leave nothing reserved. That the
committed route grows is what the test for a stalled plan is for (`Fleet.length_lt_plannedTask`).
-/

namespace AgvDispatch.Fleet

variable {α : Type} [Scalar α]

/-- **A commitment** of a segment to the vehicle `id`, from the fleet `f` to the fleet `f'`. The
sub-task `task` at the head of the queue becomes `task'`. -/
structure Commitment (f f' : Fleet α) (id : String) (candidate segment : Route)
    (task task' : SubTask α) : Prop where
  /-- There is something to commit. -/
  segment_ne_nil : segment ≠ []
  isPrefix : segment <+: candidate
  /-- The segment was safe before the commitment. -/
  isSafe : f.traffic.isSafe f.registry f.network task.mapId id segment
    f.settings.traffic.safetyBuffer = true
  /-- The head of the queue is replaced, and the sub-tasks behind it stay. -/
  queue_eq : ∃ later, f.backlog.queue id = task :: later ∧ f'.backlog.queue id = task' :: later
  /-- The segment continues the running route, without its first waypoint if that is where the
  route ended. -/
  running_eq : task'.running
    = task.running ++ if task.runningEnd = segment.head? then segment.tail else segment
  length_lt : task.running.length < task'.running.length
  stage_eq : task'.stage = .run
  mark_eq : task'.mark = .planned
  candidate_eq : task'.candidate = []
  /-- What lies ahead of the vehicle is reserved. -/
  reservation : ∃ r, f'.traffic.reservation? id = some r ∧ r.route = task'.effectiveRoute
  isSuffix : segment <:+ task'.effectiveRoute
  /-- One command is put in line, behind the earlier ones. -/
  waiting_eq : (f'.dispatcher.lane id).waiting
    = (f.dispatcher.lane id).waiting ++ [.move task'.id segment]
  id_eq : task'.id = task.id
  /-- Nothing is done to the other vehicles. -/
  others : ∀ other, other ≠ id → f'.backlog.queue other = f.backlog.queue other
    ∧ f'.traffic.reservation? other = f.traffic.reservation? other
    ∧ f'.dispatcher.lane other = f.dispatcher.lane other
  /-- Nothing is done to the positions of the vehicles and to their records. -/
  footprints_eq : f'.traffic.footprints = f.traffic.footprints
  index_eq : f'.traffic.index = f.traffic.index
  registry_eq : f'.registry = f.registry

/-- A part that merely repeats the end of what is committed is never planned. -/
theorem not_stalled {f : Fleet α} {id : String} {task : SubTask α} {candidate : Route}
    (hne : f.plannable id task candidate ≠ []) :
    ¬((f.plannable id task candidate).length = 1
      ∧ task.running.getLast? = (f.plannable id task candidate).head?) := by
  unfold plannable at hne ⊢
  simp only at hne ⊢
  split at hne
  · exact absurd rfl hne
  · rename_i hstalled
    rw [if_neg hstalled]
    rw [Bool.and_eq_true, decide_eq_true_eq, beq_iff_eq] at hstalled
    exact hstalled

/-- **What is planned adds to the running route.** -/
theorem length_lt_plannedTask {f : Fleet α} {id : String} {task : SubTask α} {candidate : Route}
    (hne : f.plannable id task candidate ≠ []) :
    task.running.length < (f.plannedTask id task candidate).running.length := by
  rw [running_plannedTask]
  exact SubTask.length_lt_joinRoutes hne (not_stalled hne)

theorem effectiveRoute_plannedTask (f : Fleet α) (id : String) {task : SubTask α}
    (h : task.OnTrack) (candidate : Route) : (f.plannedTask id task candidate).effectiveRoute
      = SubTask.joinRoutes task.effectiveRoute (f.plannable id task candidate) := by
  have hproposed : (task.propose candidate).OnTrack :=
    h.of_eq (SubTask.running_propose task candidate) (SubTask.traveled_propose task candidate)
  exact hproposed.effectiveRoute_commitPlan _ _

/-- A grounded fleet reserves what lies ahead of a vehicle that it has planned. -/
theorem Grounded.exists_reservation_plannedFleet {f : Fleet α} (h : f.Grounded) {id : String}
    {task : SubTask α} (hhead : f.backlog.head? id = some task) {candidate : Route}
    (hne : f.plannable id task candidate ≠ []) :
    ∃ r, (f.plannedFleet id task candidate).traffic.reservation? id = some r
      ∧ r.route = (f.plannedTask id task candidate).effectiveRoute := by
  have hahead : (f.plannedTask id task candidate).effectiveRoute ≠ [] := by
    rw [f.effectiveRoute_plannedTask id (h.onTrack.head hhead)]
    exact SubTask.joinRoutes_ne_nil hne
  have hresolves : f.network.Resolves (f.plannedTask id task candidate).effectiveRoute :=
    (h.resolves_plannedTask hhead candidate).mono (List.drop_subset _ _)
  obtain ⟨path, hpath⟩ := Network.exists_skeleton?_iff.mpr ⟨hahead, hresolves⟩
  have hroute := Traffic.reservedRoute?_reserve_self h.fits id
    (f.plannedTask id task candidate).effectiveRoute
  rw [hpath, Option.isSome_some, if_pos rfl] at hroute
  exact Option.map_eq_some_iff.mp hroute

theorem lane_plannedFleet (f : Fleet α) (id : String) (task : SubTask α) (candidate : Route)
    (other : String) : (f.plannedFleet id task candidate).dispatcher.lane other
      = if id = other then (f.dispatcher.lane other).submit
          (.move (f.plannedTask id task candidate).id (f.plannable id task candidate))
        else f.dispatcher.lane other :=
  Dispatcher.lane_submit _ _ _ _

theorem stage_plannedTask (f : Fleet α) (id : String) {task : SubTask α}
    (h : task.stage.needsPlan = true) (candidate : Route) :
    (f.plannedTask id task candidate).stage = .run := by
  have hproposed : (task.propose candidate).stage.needsPlan = true := h
  exact SubTask.stage_commitPlan_of_needsPlan _ hproposed _ _

/-- A plan that a grounded fleet commits is a commitment. -/
theorem Grounded.commitment_of_plan {f : Fleet α} (h : f.Grounded) {id : String}
    {candidate segment : Route} (hplan : (f.plan id candidate).1 = .committed segment) :
    ∃ task task', Commitment f (f.plan id candidate).2 id candidate segment task task' := by
  rcases f.plan_cases id candidate with
    ⟨hnone | hdeferred, -⟩ | ⟨task, hhead, -, hneeds, -, ⟨-, heq⟩ | ⟨hne, heq⟩⟩
  · rw [hnone] at hplan
    cases hplan
  · rw [hdeferred] at hplan
    cases hplan
  · rw [heq] at hplan
    cases hplan
  · rw [heq] at hplan ⊢
    obtain rfl : f.plannable id task candidate = segment := PlanOutcome.committed.inj hplan
    obtain ⟨later, hqueue⟩ := Backlog.head?_eq_some_iff.mp hhead
    have hqueues : ∀ other, (f.plannedFleet id task candidate).backlog.queue other
        = if id = other
          then (f.backlog.queue other).modifyHead fun _ => f.plannedTask id task candidate
          else f.backlog.queue other := fun other => Backlog.queue_modifyHead _ _ _ _
    have hlanes := f.lane_plannedFleet id task candidate
    refine ⟨task, f.plannedTask id task candidate, {
      segment_ne_nil := hne
      isPrefix := f.plannable_isPrefix id task candidate
      isSafe := f.isSafe_plannable id task candidate
      queue_eq := ⟨later, hqueue, ?queue⟩
      running_eq := ?running
      length_lt := length_lt_plannedTask hne
      stage_eq := f.stage_plannedTask id hneeds candidate
      mark_eq := SubTask.mark_commitPlan _ _ _
      candidate_eq := SubTask.candidate_commitPlan _ _ _
      reservation := h.exists_reservation_plannedFleet hhead hne
      isSuffix := ?suffix
      waiting_eq := ?waiting
      id_eq := SubTask.id_commitPlan _ _ _
      others := ?others
      footprints_eq := Traffic.footprints_reserve _ _ _ _ _
      index_eq := Traffic.index_reserve _ _ _ _ _
      registry_eq := rfl }⟩
    case queue =>
      rw [hqueues, if_pos rfl, hqueue]
      rfl
    case running =>
      rw [running_plannedTask, SubTask.joinRoutes_eq_append _ hne]
      rfl
    case suffix =>
      rw [f.effectiveRoute_plannedTask id (h.onTrack.head hhead)]
      exact SubTask.suffix_joinRoutes _ _
    case waiting =>
      rw [hlanes, if_pos rfl]
      rfl
    case others =>
      intro other hother
      refine ⟨?_, Traffic.reservation?_reserve_of_ne _ _ hother _ _, ?_⟩
      · rw [hqueues, if_neg hother.symm]
      · rw [hlanes, if_neg hother.symm]

/-- **What a committed plan guarantees**, whatever has happened to the fleet before and whoever has
written to it. -/
theorem commitment_of_reachable {settings : Settings α} {registry : Registry α} {n : Network α}
    {hook : Option (AllocationHook α)} {sink : Sink} {f : Fleet α}
    (hreach : (start settings registry n hook sink).Reachable f) {id : String}
    {candidate segment : Route} (hplan : (f.plan id candidate).1 = .committed segment) :
    ∃ task task', Commitment f (f.plan id candidate).2 id candidate segment task task' := by
  have hgrounded : f.Grounded := (Grounded.start settings registry n hook sink).of_reachable hreach
  exact hgrounded.commitment_of_plan hplan

/-- A vehicle on its own is sent as far as the waypoints of the candidate have a position. -/
theorem commitment_tour :
    let f : Fleet Float := tour [⟨1, 1⟩, ⟨1, 2⟩] []
    (f.plan "a" [⟨1, 1⟩, ⟨1, 2⟩, ⟨1, 3⟩]).1 = .committed [⟨1, 1⟩, ⟨1, 2⟩]
      ∧ ∃ task task', Commitment f (f.plan "a" [⟨1, 1⟩, ⟨1, 2⟩, ⟨1, 3⟩]).2 "a"
        [⟨1, 1⟩, ⟨1, 2⟩, ⟨1, 3⟩] [⟨1, 1⟩, ⟨1, 2⟩] task task' := by
  intro f
  have halone := alone_tour (α := Float) [⟨1, 1⟩, ⟨1, 2⟩] []
  have hnetwork : f.network = spots [⟨1, 1⟩, ⟨1, 2⟩] := network_step _ _
  have hpart : f.network.Resolves [⟨1, 1⟩, ⟨1, 2⟩] := by
    rw [hnetwork]
    exact fun w hw => ⟨_, (position_spots _ w).trans (if_pos hw)⟩
  have hrest : ∀ w ∈ ([⟨1, 3⟩] : Route).head?, f.network.position w = none := by
    rw [hnetwork]
    rintro w ⟨⟩
    exact position_spots _ _
  have hsegment := halone.plannable_eq hpart hrest le_rfl
  have hcommitted := plan_committed halone.head (SubTask.isLive_of_needsPlan halone.needsPlan)
    halone.needsPlan (hsegment ▸ List.cons_ne_nil _ _)
  have hplan : (f.plan "a" [⟨1, 1⟩, ⟨1, 2⟩, ⟨1, 3⟩]).1 = .committed [⟨1, 1⟩, ⟨1, 2⟩] := by
    rw [hsegment] at hcommitted
    exact congrArg Prod.fst hcommitted
  have hreach : (tourStart [⟨1, 1⟩, ⟨1, 2⟩] : Fleet Float).Reachable f :=
    (Reachable.refl.step (.assign tourOrder)).edit "a" _ (fun _ => rfl) fun _ => rfl
  exact ⟨hplan, commitment_of_reachable hreach hplan⟩

end AgvDispatch.Fleet
