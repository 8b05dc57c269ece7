import AgvDispatch.Proofs.Dispatch.Accounting
import AgvDispatch.Proofs.Fleet.Detour
import AgvDispatch.Proofs.Fleet.Effect
/-!
# What the vehicles are told

A fleet notes down a committed segment at once, and the command to drive it reaches the vehicle
later, by the steps of a worker. With a sink that accepts every command the two views never drift
apart (`Exchange.told_run`).

* What an event does to the commands on their way is one event of the dispatcher, or none
  (`Fleet.transfer_step`). So the commands that have been emitted to a vehicle are the jobs that
  have been submitted under its key, and those that the sink has received are the jobs that have
  ended.
* The running route of the head of a queue is put together from the segments of the commands to
  drive that have been emitted since it became the head (`Exchange.Driven.step`): a commitment adds
  the same segment to both, and the sub-tasks that wait have not been sent anywhere.
-/

namespace AgvDispatch

/-! ### Sinks that accept everything -/

namespace Sink

/-- **Whether a sink accepts every command.** -/
def Accepting (sink : Sink) : Prop :=
  ∀ id, ∀ answer ∈ (sink.plan.get? id).getD [], answer = .accept

theorem Accepting.answer_eq {sink : Sink} (h : sink.Accepting) (id : String) :
    sink.answer id = .accept := by
  have hplan := h id
  unfold answer
  split
  · rename_i answer later heq
    rw [heq, Option.getD_some] at hplan
    exact hplan answer List.mem_cons_self
  · rfl

theorem Accepting.send {sink : Sink} (h : sink.Accepting) (id : String) (command : VehicleCommand) :
    (sink.send id command).Accepting := by
  intro other answer hanswer
  simp only [Sink.send, h.answer_eq] at hanswer
  split at hanswer
  · rename_i first later heq
    by_cases hother : id = other
    · subst hother
      have hlater : answer ∈ later := by simpa using hanswer
      have hfirst := h id
      rw [heq, Option.getD_some] at hfirst
      exact hfirst answer (List.mem_cons_of_mem first hlater)
    · refine h other answer ?_
      simpa [Std.TreeMap.getElem?_insert, hother] using hanswer
  · exact h other answer hanswer

/-- An accepted command is received after those before it. -/
theorem Accepting.deliveredTo_send {sink : Sink} (h : sink.Accepting) (id : String)
    (command : VehicleCommand) (other : String) : (sink.send id command).deliveredTo other
      = sink.deliveredTo other ++ if id = other then [command] else [] := by
  have hdelivered : (sink.send id command).delivered = (id, command) :: sink.delivered := by
    simp only [Sink.send, h.answer_eq]
  unfold deliveredTo
  rw [hdelivered, List.reverse_cons, List.filterMap_append]
  by_cases hother : id = other <;> simp [hother]

end Sink

variable {α : Type} [Scalar α]

/-! ### Commands on their way -/

namespace Fleet

/-- **What an event does to the commands on their way**, and which ones it emits. -/
inductive Transfer (f f' : Fleet α) (event : FleetEvent α) : Prop
  /-- Nothing. -/
  | idle (dispatcher : f'.dispatcher = f.dispatcher) (sink : f'.sink = f.sink)
    (emitted : ∀ id, (f.outcome event id).emitted = [])
  /-- A command is put in line. -/
  | submitted (owner : String) (command : VehicleCommand)
    (dispatcher : f'.dispatcher = f.dispatcher.submit owner command) (sink : f'.sink = f.sink)
    (emitted : ∀ id, (f.outcome event id).emitted = if owner = id then [command] else [])
  /-- A vehicle goes offline, and its lane is closed if it can be. -/
  | unregistered (owner : String) (is_offline : event = .takeOffline owner)
    (dispatcher : f'.dispatcher = f.dispatcher.unregister owner)
    (sink : f'.sink = f.sink) (emitted : ∀ id, (f.outcome event id).emitted = [])
  /-- A worker has its turn. -/
  | woken (owner : String) (i : ℕ) (dispatcher : f'.dispatcher = f.dispatcher.wake owner i)
    (sink : f'.sink = f.sink) (emitted : ∀ id, (f.outcome event id).emitted = [])
  /-- A command is handed over. -/
  | handedOver (owner : String) (i : ℕ) (command : VehicleCommand)
    (running : (f.dispatcher.lane owner).running? i = some command)
    (dispatcher : f'.dispatcher = f.dispatcher.finish owner i (f.sink.answer owner).outcome)
    (sink : f'.sink = f.sink.send owner command)
    (emitted : ∀ id, (f.outcome event id).emitted = [])

/-- An order is not a command yet. -/
theorem line_assign (f : Fleet α) (order : TransportOrder) :
    (f.assign order).2.dispatcher = f.dispatcher ∧ (f.assign order).2.sink = f.sink := by
  unfold assign
  simp only
  cases (f.distributor.distribute f.registry f.network f.backlog order).1 with
  | none => exact ⟨rfl, rfl⟩
  | some v =>
    simp only
    split <;> exact ⟨rfl, rfl⟩

theorem transfer_assign (f : Fleet α) (order : TransportOrder) :
    Transfer f (f.assign order).2 (.assign order) :=
  .idle (f.line_assign order).1 (f.line_assign order).2 fun _ => rfl

theorem transfer_report (f : Fleet α) (r : VehicleReport α) :
    Transfer f (f.report r).2 (.report r) := by
  cases hv : f.registry.get? r.vehicleId with
  | none =>
    rw [report_unknown hv]
    exact .idle rfl rfl fun _ => rfl
  | some v =>
    have hframe : (f.report r).2.dispatcher = f.dispatcher ∧ (f.report r).2.sink = f.sink := by
      unfold report
      rw [hv]
      exact ⟨rfl, rfl⟩
    exact .idle hframe.1 hframe.2 fun _ => rfl

/-- A plan emits a command if it is committed. -/
theorem transfer_plan (f : Fleet α) {event : FleetEvent α} {owner : String} {candidate : Route}
    (h : ∀ id, f.outcome event id = if owner = id
      then .ofPlan (f.backlog.head? owner) (f.plan owner candidate).1 else {}) :
    Transfer f (f.plan owner candidate).2 event := by
  rcases f.plan_cases owner candidate with
    ⟨hskip, heq⟩ | ⟨task, hhead, -, -, -, ⟨-, heq⟩ | ⟨-, heq⟩⟩
  · rw [heq]
    refine .idle rfl rfl fun id => ?_
    rw [h, Outcome.ofPlan_of_skipped hskip, ite_self]
  · rw [heq] at h ⊢
    refine .idle rfl rfl fun id => ?_
    rw [h]
    simp only [Outcome.ofPlan, ite_self]
  · rw [heq, hhead] at h
    rw [heq]
    have hid : (f.plannedTask owner task candidate).id = task.id := SubTask.id_commitPlan _ _ _
    refine .submitted owner (.move task.id (f.plannable owner task candidate)) ?_ rfl fun id => ?_
    · -- The command names the sub-task as it is after the commitment.
      show f.dispatcher.submit owner (.move (f.plannedTask owner task candidate).id _) = _
      rw [hid]
    · rw [h]
      split <;> rfl

theorem transfer_planRemaining (f : Fleet α) (owner : String) :
    Transfer f (f.planRemaining owner).2 (.planRemaining owner) := by
  have houtcome : ∀ id, f.outcome (.planRemaining owner) id = if owner = id
      then .ofPlan (f.backlog.head? owner) (f.planRemaining owner).1 else {} := fun _ => rfl
  rcases f.planRemaining_cases owner with ⟨-, heq⟩ | ⟨task, -, ⟨-, -, heq⟩ | ⟨-, heq⟩⟩
  · rw [heq] at houtcome ⊢
    refine .idle rfl rfl fun id => ?_
    rw [houtcome]
    simp only [Outcome.ofPlan, ite_self]
  · rw [heq] at houtcome ⊢
    refine .idle rfl rfl fun id => ?_
    rw [houtcome]
    simp only [Outcome.ofPlan, ite_self]
  · rw [heq] at houtcome ⊢
    exact f.transfer_plan houtcome

/-- **What an event does to the commands on their way.** -/
theorem transfer_step (f : Fleet α) (event : FleetEvent α) : Transfer f (f.step event) event := by
  cases event with
  | assign order => exact f.transfer_assign order
  | report r => exact f.transfer_report r
  | plan owner candidate => exact f.transfer_plan fun _ => rfl
  | planRemaining owner => exact f.transfer_planRemaining owner
  | pause owner =>
    simp only [step]
    cases h : f.pause owner with
    | error fault => exact .idle rfl rfl fun id => by simp [outcome, h, Outcome.ofChange]
    | ok f' =>
      obtain ⟨task, hhead, -, rfl⟩ := pause_eq_ok_iff.mp h
      refine .submitted owner (.pause task.id) rfl rfl fun id => ?_
      simp only [outcome, h, hhead, Outcome.ofChange]
      split <;> rfl
  | resume owner =>
    simp only [step]
    cases h : f.resume owner with
    | error fault => exact .idle rfl rfl fun id => by simp [outcome, h, Outcome.ofChange]
    | ok f' =>
      obtain ⟨task, hhead, -, rfl⟩ := resume_eq_ok_iff.mp h
      refine .submitted owner (.resume task.id) rfl rfl fun id => ?_
      simp only [outcome, h, hhead, Outcome.ofChange]
      split <;> rfl
  | cancel owner reason =>
    simp only [step]
    cases h : f.cancel owner reason with
    | error fault => exact .idle rfl rfl fun id => by simp [outcome, h, Outcome.ofCancel]
    | ok result =>
      obtain ⟨task, -, -, rfl⟩ := cancel_eq_ok_iff.mp h
      refine .submitted owner (.cancel task.id) rfl rfl fun id => ?_
      simp only [outcome, h, Outcome.ofCancel]
      split <;> rfl
  | finish owner =>
    simp only [step]
    cases h : f.finish owner with
    | error fault => exact .idle rfl rfl fun id => by simp [outcome, h, Outcome.ofFinish]
    | ok result =>
      obtain ⟨task, -, -, rfl⟩ := finish_eq_ok_iff.mp h
      refine .idle rfl rfl fun id => ?_
      simp only [outcome, h, Outcome.ofFinish]
      split <;> rfl
  | takeOffline owner => exact .unregistered owner rfl rfl rfl fun _ => rfl
  | deliver owner i =>
    simp only [step, deliver]
    split
    · rename_i command hrunning
      exact .handedOver owner i command hrunning rfl rfl fun _ => rfl
    · exact .woken owner i rfl rfl fun _ => rfl

end Fleet

/-! ### Fleets on record -/

/-- The segments that some commands have a vehicle drive. -/
def VehicleCommand.segments (commands : List VehicleCommand) : List Route :=
  commands.filterMap fun
    | .move _ segment => some segment
    | .pause _ | .resume _ | .cancel _ => none

/-- The route that segments are put together to. The first waypoint of a segment is dropped if it is
the end of what came before. -/
def Route.concat (segments : List Route) : Route :=
  segments.foldl (fun route segment =>
    route ++ if route.getLast? = segment.head? then segment.tail else segment) []

/-- Segments are put together in the way in which they are committed. -/
theorem Route.concat_append (segments more : List Route) :
    concat (segments ++ more) = more.foldl SubTask.joinRoutes (concat segments) := by
  have hjoin : SubTask.joinRoutes = fun (route segment : Route) =>
      route ++ if route.getLast? = segment.head? then segment.tail else segment := by
    funext route segment
    cases segment with
    | nil => simp [SubTask.joinRoutes]
    | cons w rest => exact SubTask.joinRoutes_eq_append route (List.cons_ne_nil w rest)
  rw [hjoin]
  exact List.foldl_append

/-- **What an event commits to the head of a queue it also sends to the vehicle**, and nothing has
been committed to a sub-task that becomes the head. -/
theorem Fleet.Effect.running_head {f : Fleet α} {event : FleetEvent α} {id : String}
    {task' : SubTask α} {later' : List (SubTask α)} {outcome : Outcome α}
    (h : f.Effect event id (task' :: later') outcome) :
    (∃ task later, f.backlog.queue id = task :: later ∧ outcome.handedBack = none ∧ task'.running
        = (VehicleCommand.segments outcome.emitted).foldl SubTask.joinRoutes task.running)
      ∨ ((outcome.handedBack.isSome = true ∨ f.backlog.queue id = [])
        ∧ VehicleCommand.segments outcome.emitted = []
        ∧ (task' ∈ (f.backlog.queue id).tail ∨ task'.running = [])) := by
  -- The cases fix the queue afterwards, so it has to be a variable before they are split.
  generalize hqueue' : task' :: later' = queue' at h
  cases h with
  | idle => exact Or.inl ⟨task', later', hqueue'.symm, rfl, rfl⟩
  | assigned order =>
    cases hqueue : f.backlog.queue id with
    | nil =>
      rw [hqueue, List.nil_append, List.cons.injEq] at hqueue'
      refine Or.inr ⟨Or.inr rfl, rfl, Or.inr ?_⟩
      rw [hqueue'.1]
      rfl
    | cons task later =>
      rw [hqueue, List.cons_append, List.cons.injEq] at hqueue'
      exact Or.inl ⟨task, later, rfl, rfl, by rw [hqueue'.1]; rfl⟩
  | staged task later stage command his hqueue _ =>
    obtain ⟨rfl, -⟩ := List.cons.inj hqueue'
    refine Or.inl ⟨task, later, hqueue, rfl, ?_⟩
    rcases his with ⟨-, -, rfl⟩ | ⟨-, -, rfl⟩ <;> rfl
  | deferred task later candidate hqueue _ =>
    obtain ⟨rfl, -⟩ := List.cons.inj hqueue'
    exact Or.inl ⟨task, later, hqueue, rfl, rfl⟩
  | planned task later candidate hqueue _ _ =>
    obtain ⟨rfl, -⟩ := List.cons.inj hqueue'
    exact Or.inl ⟨task, later, hqueue, rfl, running_plannedTask f id task candidate⟩
  | passed r task later hqueue =>
    obtain ⟨rfl, -⟩ := List.cons.inj hqueue'
    exact Or.inl ⟨task, later, hqueue, rfl, SubTask.running_passed r task⟩
  | cancelled _ task _ hqueue _ =>
    refine Or.inr ⟨Or.inl rfl, rfl, Or.inl ?_⟩
    rw [hqueue, ← hqueue']
    exact List.mem_cons_self
  | finished task _ hqueue _ _ =>
    refine Or.inr ⟨Or.inl rfl, rfl, Or.inl ?_⟩
    rw [hqueue, ← hqueue']
    exact List.mem_cons_self

/-- **A fleet on record**, with what it has told its vehicles to do. -/
structure Exchange (α : Type) [Scalar α] where
  /-- The fleet. -/
  fleet : Fleet α
  /-- The commands that have been emitted to each vehicle, in order. -/
  emitted : String → List VehicleCommand := fun _ => []
  /-- Those of them that have been emitted since the head of the queue of the vehicle became the
  head. -/
  sinceHead : String → List VehicleCommand := fun _ => []

namespace Exchange

/-- The record after an event. A sub-task becomes the head when the one before it is handed back, or
when it lines up in an empty queue. -/
def step (x : Exchange α) (event : FleetEvent α) : Exchange α where
  fleet := x.fleet.step event
  emitted := fun id => x.emitted id ++ (x.fleet.outcome event id).emitted
  sinceHead := fun id =>
    let before := if (x.fleet.outcome event id).handedBack.isSome
      || (x.fleet.backlog.queue id).isEmpty then [] else x.sinceHead id
    before ++ (x.fleet.outcome event id).emitted

/-- The record after a sequence of events. -/
def run (x : Exchange α) (events : List (FleetEvent α)) : Exchange α :=
  events.foldl step x

theorem fleet_run (x : Exchange α) (events : List (FleetEvent α)) :
    (x.run events).fleet = x.fleet.run events := by
  induction events generalizing x with
  | nil => rfl
  | cons event later ih => exact ih (x.step event)

/-! ### What is emitted is received -/

/-- Whether the dispatcher can tell what has been emitted and received: the commands that have been
emitted are the jobs that have been submitted to it, and those that have been received are the jobs
that have ended. -/
structure Dispatched (x : Exchange α) : Prop where
  accepting : x.fleet.sink.Accepting
  record : ∃ r : RecordedDispatcher VehicleCommand, r.Accounted
    ∧ r.dispatcher = x.fleet.dispatcher ∧ (∀ id, r.submitted id = x.emitted id)
    ∧ ∀ id, r.ended id = x.fleet.sink.deliveredTo id

/-- **Nothing that is emitted is lost.** -/
theorem Dispatched.step {x : Exchange α} (h : x.Dispatched) (event : FleetEvent α) :
    (x.step event).Dispatched := by
  obtain ⟨haccepting, r, hr, hdispatcher, hsubmitted, hended⟩ := h
  -- The record goes on by the event of the dispatcher that the event comes to.
  have hgoOn : ∀ d : DispatchEvent VehicleCommand, (x.fleet.step event).sink.Accepting →
      (x.fleet.step event).dispatcher = x.fleet.dispatcher.step d →
      (∀ id, d.submits id = (x.fleet.outcome event id).emitted) →
      (∀ id, (x.fleet.step event).sink.deliveredTo id
        = x.fleet.sink.deliveredTo id ++ x.fleet.dispatcher.ends d id) →
      (x.step event).Dispatched := by
    intro d hsink hstep hsubmits hends
    refine ⟨hsink, r.step d, hr.step d, ?_, fun id => ?_, fun id => ?_⟩
    · show r.dispatcher.step d = (x.fleet.step event).dispatcher
      rw [hdispatcher, hstep]
    · show r.submitted id ++ d.submits id = x.emitted id ++ (x.fleet.outcome event id).emitted
      rw [hsubmitted, hsubmits]
    · show r.ended id ++ r.dispatcher.ends d id = (x.fleet.step event).sink.deliveredTo id
      rw [hended, hdispatcher, hends]
  cases x.fleet.transfer_step event with
  | idle hlanes hsink hemitted =>
    refine ⟨?_, r, hr, hdispatcher.trans hlanes.symm, fun id => ?_, fun id => ?_⟩
    · show (x.fleet.step event).sink.Accepting
      rwa [hsink]
    · show r.submitted id = x.emitted id ++ (x.fleet.outcome event id).emitted
      rw [hemitted, List.append_nil, hsubmitted]
    · show r.ended id = (x.fleet.step event).sink.deliveredTo id
      rw [hsink, hended]
  | submitted owner command hlanes hsink hemitted =>
    refine hgoOn (.submit owner command) (hsink ▸ haccepting) hlanes (fun id => ?_) fun id => ?_
    · exact (hemitted id).symm
    · rw [hsink]
      exact (List.append_nil _).symm
  | unregistered owner _ hlanes hsink hemitted =>
    refine hgoOn (.unregister owner) (hsink ▸ haccepting) hlanes (fun id => ?_) fun id => ?_
    · exact (hemitted id).symm
    · rw [hsink]
      exact (List.append_nil _).symm
  | woken owner i hlanes hsink hemitted =>
    refine hgoOn (.wake owner i) (hsink ▸ haccepting) hlanes (fun id => ?_) fun id => ?_
    · exact (hemitted id).symm
    · rw [hsink]
      exact (List.append_nil _).symm
  | handedOver owner i command hrunning hlanes hsink hemitted =>
    refine hgoOn (.finish owner i (x.fleet.sink.answer owner).outcome)
      (hsink ▸ haccepting.send owner command) hlanes (fun id => ?_) fun id => ?_
    · exact (hemitted id).symm
    · rw [hsink, haccepting.deliveredTo_send]
      simp only [Dispatcher.ends, hrunning]
      rfl

/-- What has been emitted has been received, is being handed over or waits in line. -/
theorem Dispatched.emitted_eq {x : Exchange α} (h : x.Dispatched) (id : String) :
    x.emitted id = x.fleet.sink.deliveredTo id
      ++ ((x.fleet.dispatcher.lane id).running ++ (x.fleet.dispatcher.lane id).waiting) := by
  obtain ⟨-, r, hr, hdispatcher, hsubmitted, hended⟩ := h
  rw [← hsubmitted, hr.submitted_eq, hr.started_eq, hended, hdispatcher, List.append_assoc]

theorem Dispatched.deliveredTo_eq {x : Exchange α} (h : x.Dispatched)
    (hbusy : x.fleet.dispatcher.isBusy = false) (id : String) :
    x.fleet.sink.deliveredTo id = x.emitted id := by
  obtain ⟨-, r, hr, hdispatcher, hsubmitted, hended⟩ := h
  rw [← hdispatcher] at hbusy
  rw [← hsubmitted, ← hended]
  exact hr.ended_eq_submitted (hr.orderly.lane_eq_empty_of_isBusy hbusy id)

/-! ### What is emitted is noted down -/

/-- Whether the running routes of the heads are what has been emitted. -/
structure Driven (x : Exchange α) : Prop where
  onTrack : x.fleet.OnTrack
  running_eq : ∀ id task later, x.fleet.backlog.queue id = task :: later →
    task.running = Route.concat (VehicleCommand.segments (x.sinceHead id))

/-- **Every event keeps the running routes and the commands in step.** -/
theorem Driven.step {x : Exchange α} (h : x.Driven) (event : FleetEvent α) :
    (x.step event).Driven := by
  refine ⟨h.onTrack.step event, fun id task' later' hqueue' => ?_⟩
  have heffect := x.fleet.effect_step event id
  rw [show (x.fleet.step event).backlog.queue id = task' :: later' from hqueue'] at heffect
  have hsegments : VehicleCommand.segments ((x.step event).sinceHead id)
      = VehicleCommand.segments (if (x.fleet.outcome event id).handedBack.isSome
          || (x.fleet.backlog.queue id).isEmpty then [] else x.sinceHead id)
        ++ VehicleCommand.segments (x.fleet.outcome event id).emitted := List.filterMap_append
  rw [hsegments]
  rcases heffect.running_head with
    ⟨task, later, hqueue, hnone, hrunning⟩ | ⟨hnew, hemitted, hunbegun⟩
  · -- The head stays the head.
    rw [hnone, hqueue, hrunning, h.running_eq id task later hqueue]
    exact (Route.concat_append _ _).symm
  · have hbegins : ((x.fleet.outcome event id).handedBack.isSome
        || (x.fleet.backlog.queue id).isEmpty) = true := by
      rcases hnew with hsome | hempty
      · rw [hsome, Bool.true_or]
      · rw [hempty, List.isEmpty_nil, Bool.or_true]
    rw [if_pos hbegins, hemitted]
    show task'.running = []
    rcases hunbegun with hwaiting | hrunning
    · exact (h.onTrack.waiting id task' hwaiting).running_eq
    · exact hrunning

/-- **Whether the vehicles are told what the fleet has noted down.** -/
structure Told (x : Exchange α) : Prop where
  /-- What has not been received yet is on its way, in the order in which it was emitted. -/
  emitted_eq : ∀ id, x.emitted id = x.fleet.sink.deliveredTo id
    ++ ((x.fleet.dispatcher.lane id).running ++ (x.fleet.dispatcher.lane id).waiting)
  deliveredTo_isPrefix : ∀ id, x.fleet.sink.deliveredTo id <+: x.emitted id
  /-- Once no lane is busy everything has been received. -/
  deliveredTo_eq : x.fleet.dispatcher.isBusy = false →
    ∀ id, x.fleet.sink.deliveredTo id = x.emitted id
  /-- The commands to drive make up the running route. -/
  running_eq : ∀ id task, x.fleet.backlog.head? id = some task →
    Route.concat (VehicleCommand.segments (x.sinceHead id)) = task.running

/-- **The vehicles are told what the fleet has noted down**, whatever happens, provided that the
sink accepts every command. -/
theorem told_run {settings : Settings α} {registry : Registry α} {n : Network α}
    {hook : Option (AllocationHook α)} {sink : Sink} (haccepting : sink.Accepting)
    (hdelivered : sink.delivered = []) (events : List (FleetEvent α)) :
    let x := ({ fleet := .start settings registry n hook sink } : Exchange α).run events
    x.fleet = (Fleet.start settings registry n hook sink).run events ∧ x.Told := by
  have hstart : ({ fleet := .start settings registry n hook sink } : Exchange α).Dispatched
      ∧ ({ fleet := .start settings registry n hook sink } : Exchange α).Driven := by
    refine ⟨⟨haccepting, {}, RecordedDispatcher.accounted_empty, rfl, fun _ => rfl, fun id => ?_⟩,
      ⟨.of_queues_empty (Fleet.queue_start settings registry n hook sink), ?_⟩⟩
    · show [] = sink.deliveredTo id
      rw [Sink.deliveredTo, hdelivered]
      rfl
    · intro id task later hqueue
      have hempty := Fleet.queue_start settings registry n hook sink id
      rw [hempty] at hqueue
      cases hqueue
  obtain ⟨hdispatched, hdriven⟩ : (Exchange.run _ events).Dispatched
      ∧ (Exchange.run _ events).Driven :=
    List.foldlRecOn (motive := fun x : Exchange α => x.Dispatched ∧ x.Driven) events Exchange.step
      hstart fun x h event _ => ⟨h.1.step event, h.2.step event⟩
  refine ⟨fleet_run _ events, hdispatched.emitted_eq, fun id => ?_, hdispatched.deliveredTo_eq, ?_⟩
  · rw [hdispatched.emitted_eq]
    exact List.prefix_append _ _
  · intro id task hhead
    obtain ⟨later, hqueue⟩ := Backlog.head?_eq_some_iff.mp hhead
    exact (hdriven.running_eq id task later hqueue).symm

/-- A vehicle is planned, and interrupted while the first command is being handed over. -/
theorem told_tour : ({} : Sink).Accepting ∧ ({} : Sink).delivered = []
    ∧ (({ fleet := Fleet.tourStart [⟨1, 1⟩, ⟨1, 2⟩] } : Exchange Float).run
      [.assign Fleet.tourOrder, .plan "a" [⟨1, 1⟩, ⟨1, 2⟩], .deliver "a" 0, .pause "a",
        .deliver "a" 0, .takeOffline "a", .deliver "a" 0]).Told := by
  have haccepting : ({} : Sink).Accepting := by
    intro id answer hanswer
    simp at hanswer
  exact ⟨haccepting, rfl, (told_run haccepting rfl _).2⟩

end Exchange

end AgvDispatch
