import AgvDispatch.Proofs.Allocation.Registered
import AgvDispatch.Proofs.Fleet.Queue
/-!
# Keeping the books of routes

What a fleet knows of the way of a vehicle is the running and the traveled route of its sub-task,
and the route ahead is found by counting. The count is right in every fleet that can come about
(`Fleet.Bookkept`, `Fleet.bookkept_run`): nothing is ever appended to the traveled route but what
lies ahead next, and never all of it.

* `SubTask.passage_passed`: what a report does to the sub-task of its vehicle.
* `Fleet.AsAssigned.step`: the sub-tasks that wait are what they were made for their orders.
* `Fleet.Staffed.step`: vehicles with a sub-task are registered, so that their reports are heard.
  This is up to the hook, if there is one.
-/

namespace AgvDispatch

variable {α : Type} [Scalar α]

/-! ### Reports -/

/-- **What a report does to the sub-task of its vehicle**, which is `task` before and `task'`
after it. -/
structure SubTask.Passage (task : SubTask α) (r : VehicleReport α) (task' : SubTask α) : Prop where
  running_eq : task'.running = task.running
  traveled_isPrefix : task.traveled <+: task'.traveled
  /-- What comes before the first visit of the reported waypoint no longer lies ahead. -/
  effectiveRoute_eq : ∀ here before after, r.waypoint = some here →
    task.effectiveRoute = before ++ here :: after → here ∉ before →
    task'.effectiveRoute = here :: after
  /-- A report of no waypoint, or of one that does not lie ahead, changes nothing. -/
  traveled_eq : (∀ here, r.waypoint = some here → here ∉ task.effectiveRoute) →
    task'.traveled = task.traveled

namespace SubTask

omit [Scalar α] in
theorem passage_passed (r : VehicleReport α) (task : SubTask α) :
    task.Passage r (r.passed task) := by
  cases hwaypoint : r.waypoint with
  | none =>
    have hpassed : r.passed task = task := by simp [VehicleReport.passed, hwaypoint]
    rw [hpassed]
    exact ⟨rfl, List.prefix_refl _, fun here _ _ hhere => by simp [hwaypoint] at hhere,
      fun _ => rfl⟩
  | some here =>
    have hpassed : r.passed task = task.reach here := by simp [VehicleReport.passed, hwaypoint]
    rw [hpassed]
    refine ⟨running_reach task here, task.traveled_isPrefix_reach here, ?_, fun helsewhere => ?_⟩
    · intro here' before after hhere hahead hfirst
      obtain rfl : here = here' := Option.some.inj (hwaypoint.symm.trans hhere)
      exact effectiveRoute_reach_of_eq_append hahead hfirst
    · rw [reach_of_notMem (helsewhere here hwaypoint)]

end SubTask

namespace Fleet

/-! ### Sub-tasks that wait -/

/-- **Whether the sub-tasks behind the heads of the queues are what they were made for their
orders.** -/
def AsAssigned (f : Fleet α) : Prop :=
  ∀ id, ∀ task ∈ (f.backlog.queue id).tail, ∃ order number, task = .ofOrder id order number

theorem AsAssigned.step {f : Fleet α} (h : f.AsAssigned) (event : FleetEvent α) :
    (f.step event).AsAssigned := by
  intro id task htask
  have hwaiting := h id
  rcases f.queue_step_cases event id with
    heq | ⟨order, -, heq⟩ | ⟨head, rest, head', hcons, heq, -⟩ | heq
  · rw [heq] at htask
    exact hwaiting task htask
  · -- The new sub-task waits, unless it is the only one.
    rw [heq] at htask
    cases hcons : f.backlog.queue id with
    | nil => simp [hcons] at htask
    | cons first rest =>
      rw [hcons] at hwaiting htask
      rw [List.cons_append, List.tail_cons, List.mem_append, List.mem_singleton] at htask
      rcases htask with htask | rfl
      · exact hwaiting task htask
      · exact ⟨order, _, rfl⟩
  · rw [hcons] at hwaiting
    rw [heq] at htask
    exact hwaiting task htask
  · rw [heq] at htask
    exact hwaiting task (List.mem_of_mem_tail htask)

/-! ### Vehicles with a sub-task -/

/-- **Whether the vehicles with a sub-task are registered**, and will be: the registry is keyed, and
whoever chooses vehicles for orders chooses among it. -/
structure Staffed (f : Fleet α) : Prop where
  keyed : f.registry.Keyed
  choosy : f.distributor.strategy.Choosy
  registered : ∀ id, f.backlog.queue id ≠ [] → (f.registry.get? id).isSome = true

theorem choosy_step {f : Fleet α} (h : f.distributor.strategy.Choosy) (event : FleetEvent α) :
    (f.step event).distributor.strategy.Choosy := by
  by_cases hassign : ∃ order, event = .assign order
  · obtain ⟨order, rfl⟩ := hassign
    have hdistributor : (f.step (.assign order)).distributor = _ := f.distributor_assign order
    rw [hdistributor]
    exact Distributor.choosy_distribute h f.registry f.network f.backlog order
  · have hdistributor := (f.frame_step event).2.2 fun order heq => hassign ⟨order, heq⟩
    rw [hdistributor]
    exact h

namespace Staffed

/-- An order goes to a registered vehicle. -/
theorem isSome_get?_of_assign {f : Fleet α} (h : f.Staffed) {order : TransportOrder} {id : String}
    (hassign : (f.assign order).1 = some id) : (f.registry.get? id).isSome = true := by
  obtain ⟨v, hchosen, rfl⟩ := exists_chosen_of_assign hassign
  have hmem : v ∈ f.registry.all := Distributor.mem_all_of_distribute h.choosy hchosen
  rw [h.keyed.get?_of_mem_all hmem]
  rfl

theorem registered_assign {f : Fleet α} (h : f.Staffed) (order : TransportOrder) {id : String}
    (hne : (f.assign order).2.backlog.queue id ≠ []) : (f.registry.get? id).isSome = true := by
  rcases f.assign_cases order with ⟨hbacklog, -⟩ | ⟨v, -, hv, hbacklog, -⟩
  · rw [hbacklog] at hne
    exact h.registered id hne
  · rw [hbacklog, Backlog.queue_push] at hne
    split at hne
    · rename_i howner
      have howner : v = id := howner
      exact howner ▸ h.isSome_get?_of_assign hv
    · exact h.registered id hne

theorem step {f : Fleet α} (h : f.Staffed) (event : FleetEvent α) : (f.step event).Staffed := by
  refine ⟨keyed_step h.keyed event, choosy_step h.choosy event, fun id hne => ?_⟩
  rw [isSome_get?_step]
  rcases f.queue_step_cases event id with
    heq | ⟨order, rfl, -⟩ | ⟨task, rest, task', hcons, -, -⟩ | heq
  · rw [heq] at hne
    exact h.registered id hne
  · exact h.registered_assign order hne
  · exact h.registered id (by rw [hcons]; exact List.cons_ne_nil _ _)
  · -- What is left of a queue was there before.
    refine h.registered id fun hnil => hne ?_
    rw [heq, hnil]
    rfl

end Staffed

/-! ### All fleets that can come about -/

/-- **Whether the books of a fleet are in order**, where `hook` is what may choose vehicles for
orders. -/
structure Bookkept (f : Fleet α) (hook : Option (AllocationHook α)) : Prop where
  /-- What lies behind a vehicle is the beginning of what has been committed. -/
  traveled_isPrefix : ∀ id, ∀ task ∈ f.backlog.queue id, task.traveled <+: task.running
  /-- It is not all of it. -/
  length_lt : ∀ id, ∀ task ∈ f.backlog.queue id, task.traveled.length < task.running.length
    ∨ (task.traveled = [] ∧ task.running = [])
  running_eq : ∀ id, ∀ task ∈ f.backlog.queue id,
    task.running = task.traveled ++ task.effectiveRoute
  /-- The sub-tasks that wait are as assigned: nothing has been done with them. -/
  waiting : ∀ id, ∀ task ∈ (f.backlog.queue id).tail, task.Unbegun
    ∧ ∃ order number, task = .ofOrder id order number
  /-- A report is a passage of the sub-task at the head of the queue of its vehicle. -/
  passage : ∀ r : VehicleReport α, (f.registry.get? r.vehicleId).isSome = true →
    ∀ task later, f.backlog.queue r.vehicleId = task :: later →
      ∃ task', (f.report r).2.backlog.queue r.vehicleId = task' :: later ∧ task.Passage r task'
  /-- It does not concern the sub-tasks of the other vehicles. -/
  queue_eq : ∀ (r : VehicleReport α) id, id ≠ r.vehicleId →
    (f.report r).2.backlog.queue id = f.backlog.queue id
  /-- The report of a vehicle that is not registered is ignored. -/
  unknown : ∀ r : VehicleReport α, f.registry.get? r.vehicleId = none → (f.report r).2 = f
  /-- Such a vehicle has no sub-task, unless a hook has come up with it. -/
  registered : (∀ choose ∈ hook, AllocationHook.Choosy choose) →
    ∀ id, f.backlog.queue id ≠ [] → (f.registry.get? id).isSome = true

theorem asAssigned_start (settings : Settings α) (registry : Registry α) (n : Network α)
    (hook : Option (AllocationHook α)) (sink : Sink) :
    (start settings registry n hook sink).AsAssigned := by
  intro id task htask
  rw [queue_start] at htask
  exact absurd htask List.not_mem_nil

theorem staffed_start (settings : Settings α) (vehicles : List (Vehicle α)) (n : Network α)
    {hook : Option (AllocationHook α)} (h : ∀ choose ∈ hook, AllocationHook.Choosy choose)
    (sink : Sink) : (start settings (.ofList vehicles) n hook sink).Staffed :=
  ⟨Registry.keyed_ofList vehicles, Strategy.choosy_ofSettings settings.allocation h,
    fun id hne => absurd (queue_start settings _ n hook sink id) hne⟩

theorem passage_report {f : Fleet α} {r : VehicleReport α}
    (hregistered : (f.registry.get? r.vehicleId).isSome = true) {task : SubTask α}
    {later : List (SubTask α)} (hqueue : f.backlog.queue r.vehicleId = task :: later) :
    ∃ task', (f.report r).2.backlog.queue r.vehicleId = task' :: later ∧ task.Passage r task' := by
  obtain ⟨v, hv⟩ := Option.isSome_iff_exists.mp hregistered
  refine ⟨r.passed task, ?_, task.passage_passed r⟩
  rw [queue_report hv, if_pos rfl, hqueue]
  rfl

theorem queue_report_of_ne (f : Fleet α) (r : VehicleReport α) {id : String}
    (hne : id ≠ r.vehicleId) : (f.report r).2.backlog.queue id = f.backlog.queue id := by
  cases hv : f.registry.get? r.vehicleId with
  | none => rw [report_unknown hv]
  | some v => rw [queue_report hv, if_neg hne.symm]

/-- **The books of a fleet are always in order**, whatever candidates are planned, whatever is
reported and whatever else happens. -/
theorem bookkept_run (settings : Settings α) (vehicles : List (Vehicle α)) (n : Network α)
    (hook : Option (AllocationHook α)) (sink : Sink) (events : List (FleetEvent α)) :
    ((start settings (.ofList vehicles) n hook sink).run events).Bookkept hook := by
  have honTrack : ((start settings (.ofList vehicles) n hook sink).run events).OnTrack :=
    invariant_run (fun f event h => h.step event)
      (.of_queues_empty (queue_start settings _ n hook sink)) events
  have hassigned : ((start settings (.ofList vehicles) n hook sink).run events).AsAssigned :=
    invariant_run (fun f event h => h.step event) (asAssigned_start settings _ n hook sink) events
  have hstaffed : (∀ choose ∈ hook, AllocationHook.Choosy choose) →
      ((start settings (.ofList vehicles) n hook sink).run events).Staffed := fun h =>
    invariant_run (fun f event h => h.step event) (staffed_start settings vehicles n h sink) events
  generalize (start settings (.ofList vehicles) n hook sink).run events = f at *
  exact {
    traveled_isPrefix := fun id task htask => (honTrack.tasks id task htask).traveled_isPrefix
    length_lt := fun id task htask => (honTrack.tasks id task htask).length_lt_or_empty
    running_eq := fun id task htask => (honTrack.tasks id task htask).running_eq
    waiting := fun id task htask =>
      ⟨honTrack.waiting id task htask, hassigned id task htask⟩
    passage := fun r hregistered task later hqueue => passage_report hregistered hqueue
    queue_eq := fun r id hne => f.queue_report_of_ne r hne
    unknown := fun r hnone => by rw [report_unknown hnone]
    registered := fun hchoosy => (hstaffed hchoosy).registered }

end Fleet

end AgvDispatch
