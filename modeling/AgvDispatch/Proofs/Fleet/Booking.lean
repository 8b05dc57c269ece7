import AgvDispatch.Proofs.Allocation.Available
import AgvDispatch.Proofs.Fleet.Detour
import AgvDispatch.Proofs.Fleet.Lifecycle
/-!
# No vehicle is booked twice

What a vehicle is doing is kept in three places: in its queue, in its record, and in what it has
reported. `Vehicle.Engaged` says how the three fit together. An event keeps them together as long as
vehicles do not report states or tasks on their own (`Fleet.Quiet`), because new orders only go to
vehicles that are available, and one with a sub-task is not.

* `Fleet.deal_step`: what an event does to the queue and to the record of one vehicle.
* `Fleet.Rostered.queue_eq_nil_of_assign`: a new order goes to a vehicle without a sub-task.
* `Fleet.Rostered.step`: every quiet event keeps queues and records together.
* `Fleet.bookedOnce_run`: no vehicle is ever booked twice.
-/

namespace AgvDispatch

variable {α : Type} [Scalar α]

namespace Fleet

/-! ### One vehicle in one event -/

theorem handedBack_outcome {event : FleetEvent α} (f : Fleet α) (id : String)
    (hcancel : ∀ owner reason, event ≠ .cancel owner reason)
    (hfinish : ∀ owner, event ≠ .finish owner) : (f.outcome event id).handedBack = none := by
  have hplan : ∀ (task : Option (SubTask α)) (result : PlanOutcome),
      (Outcome.ofPlan task result).handedBack = none := by
    intro task result
    cases result <;> rfl
  have hchange : ∀ (task : Option (SubTask α)) (command : String → VehicleCommand)
      (result : Except Fault (Fleet α)),
      (Outcome.ofChange task command result).handedBack = none := by
    intro task command result
    cases result <;> rfl
  cases event with
  | assign | report | takeOffline | deliver => rfl
  | plan owner candidate =>
    simp only [outcome]
    split
    · exact hplan _ _
    · rfl
  | planRemaining owner =>
    simp only [outcome]
    split
    · exact hplan _ _
    · rfl
  | pause owner | resume owner =>
    simp only [outcome]
    split
    · exact hchange _ _ _
    · rfl
  | cancel owner reason => exact absurd rfl (hcancel owner reason)
  | finish owner => exact absurd rfl (hfinish owner)

/-- Unless an order lines up or a sub-task is handed back, the same sub-tasks are in a queue. -/
theorem Effect.map_id {f : Fleet α} {event : FleetEvent α} {id : String} {queue' : List (SubTask α)}
    {outcome : Outcome α} (h : f.Effect event id queue' outcome)
    (hassign : ∀ order, event ≠ .assign order) (hnone : outcome.handedBack = none) :
    queue'.map SubTask.id = (f.backlog.queue id).map SubTask.id := by
  cases h with
  | idle => rfl
  | assigned order his => exact absurd his (hassign order)
  | staged task later _ _ _ heq _ | deferred task later _ heq _ =>
    rw [heq]
    rfl
  | planned task later candidate heq _ _ =>
    rw [heq, List.map_cons, List.map_cons]
    exact congrArg (· :: _) (SubTask.id_commitPlan _ _ _)
  | passed r task later heq =>
    rw [heq, List.map_cons, List.map_cons, (SubTask.evolves_passed r task).id_eq]
  | cancelled | finished => cases hnone

/-- **What an event does to the queue and to the record of a vehicle.** -/
inductive Deal (f : Fleet α) (event : FleetEvent α) (id : String) :
    List (SubTask α) → Option (Vehicle α) → Prop
  /-- The same sub-tasks are in the queue, and the record is left alone. -/
  | kept (queue' : List (SubTask α))
    (ids : queue'.map SubTask.id = (f.backlog.queue id).map SubTask.id) :
    Deal f event id queue' (f.registry.get? id)
  /-- A new sub-task is bound to the vehicle. -/
  | bound (order : TransportOrder) (is_new : order.stage = .new)
    (chosen : (f.assign order).1 = some id) :
    Deal f event id (f.backlog.queue id ++ [.ofOrder id order ((f.backlog.queue id).length + 1)])
      ((f.registry.get? id).map fun v =>
        { v with
          state := .busy
          taskId := some (SubTask.idOf order.code ((f.backlog.queue id).length + 1))
          progress := .underway })
  /-- The vehicle reports. -/
  | reported (r : VehicleReport α) (is_report : event = .report r) (queue' : List (SubTask α))
    (ids : queue'.map SubTask.id = (f.backlog.queue id).map SubTask.id) :
    Deal f event id queue' ((f.registry.get? id).map r.update)
  /-- The vehicle is marked as offline. -/
  | offline :
    Deal f event id (f.backlog.queue id)
      ((f.registry.get? id).map fun v => { v with state := .offline })
  /-- The sub-task at the head of the queue ends. A vehicle that has nothing left to do is free. -/
  | closed (task : SubTask α) (later : List (SubTask α))
    (queue : f.backlog.queue id = task :: later) :
    Deal f event id later
      (if later = [] then (f.registry.get? id).map freed else f.registry.get? id)

theorem get?_closeHead (f : Fleet α) (owner id : String) : (f.closeHead owner).registry.get? id
    = if owner = id ∧ (f.backlog.queue owner).tail = [] then (f.registry.get? id).map freed
      else f.registry.get? id := by
  have hhas : (f.backlog.removeHead owner).hasTask owner
      = !(f.backlog.queue owner).tail.isEmpty := by
    rw [Backlog.hasTask, Backlog.queue_removeHead, if_pos rfl]
  unfold closeHead
  simp only [hhas]
  cases (f.backlog.queue owner).tail with
  | nil => simp [Registry.get?_modify]
  | cons task later => simp

/-- The end of a sub-task concerns the vehicle that executes it. -/
theorem deal_closeHead {f : Fleet α} (event : FleetEvent α) {owner : String} {task : SubTask α}
    (hhead : f.backlog.head? owner = some task) (id : String) :
    f.Deal event id ((f.closeHead owner).backlog.queue id)
      ((f.closeHead owner).registry.get? id) := by
  obtain ⟨later, hqueue⟩ := Backlog.head?_eq_some_iff.mp hhead
  have hbacklog : (f.closeHead owner).backlog.queue id
      = if owner = id then (f.backlog.queue id).tail else f.backlog.queue id :=
    Backlog.queue_removeHead _ _ _
  rw [hbacklog, get?_closeHead, hqueue, List.tail_cons]
  by_cases howner : owner = id
  · subst howner
    rw [if_pos rfl, hqueue, List.tail_cons]
    simp only [true_and]
    exact .closed task later hqueue
  · rw [if_neg howner, if_neg fun h => howner h.1]
    exact .kept _ rfl

/-- **What an event does to the queue and to the record of a vehicle.** -/
theorem deal_step (f : Fleet α) (event : FleetEvent α) (id : String) :
    f.Deal event id ((f.step event).backlog.queue id) ((f.step event).registry.get? id) := by
  -- Most events leave the registry alone.
  have hkept : (∀ order, event ≠ .assign order) → (f.outcome event id).handedBack = none →
      (f.step event).registry = f.registry →
      f.Deal event id ((f.step event).backlog.queue id) ((f.step event).registry.get? id) := by
    intro hassign hnone hregistry
    rw [hregistry]
    exact .kept _ ((f.effect_step event id).map_id hassign hnone)
  have hmarked : ∀ owner : String, f.Deal event id (f.backlog.queue id)
      ((f.registry.markOffline owner).get? id) := by
    intro owner
    rw [Registry.markOffline, Registry.get?_modify]
    split
    · exact .offline
    · exact .kept _ rfl
  cases event with
  | assign order =>
    simp only [step]
    rcases f.assign_cases order with ⟨hbacklog, hregistry⟩ | ⟨v, hnew, hchosen, hbacklog, hregistry⟩
    · rw [hbacklog, hregistry]
      exact .kept _ rfl
    · have hqueue : (f.backlog.push (.ofOrder v order ((f.backlog.queue v).length + 1))).queue id
          = if v = id then f.backlog.queue id
            ++ [.ofOrder v order ((f.backlog.queue v).length + 1)] else f.backlog.queue id :=
        Backlog.queue_push _ _ _
      rw [hbacklog, hregistry, hqueue, Registry.get?_modify]
      by_cases hv : v = id
      · subst hv
        rw [if_pos rfl, if_pos rfl]
        exact .bound order hnew hchosen
      · rw [if_neg hv, if_neg hv]
        exact .kept _ rfl
  | report r =>
    cases hv : f.registry.get? r.vehicleId with
    | none =>
      simp only [step]
      rw [report_unknown hv]
      exact .kept _ rfl
    | some v =>
      have hids := (f.effect_step (.report r) id).map_id (by simp)
        (handedBack_outcome f id (by simp) (by simp))
      have hget : (f.step (.report r)).registry.get? id = _ := get?_report hv id
      rw [hget]
      split
      · exact .reported r rfl _ hids
      · exact .kept _ hids
  | plan owner candidate =>
    exact hkept (by simp) (handedBack_outcome f id (by simp) (by simp))
      (f.frame_plan owner candidate).2.2
  | planRemaining owner =>
    exact hkept (by simp) (handedBack_outcome f id (by simp) (by simp))
      (f.frame_planRemaining owner).2.2
  | pause owner =>
    refine hkept (by simp) (handedBack_outcome f id (by simp) (by simp)) ?_
    simp only [step]
    cases h : f.pause owner with
    | error fault => rfl
    | ok f' =>
      obtain ⟨task, -, -, rfl⟩ := pause_eq_ok_iff.mp h
      rfl
  | resume owner =>
    refine hkept (by simp) (handedBack_outcome f id (by simp) (by simp)) ?_
    simp only [step]
    cases h : f.resume owner with
    | error fault => rfl
    | ok f' =>
      obtain ⟨task, -, -, rfl⟩ := resume_eq_ok_iff.mp h
      rfl
  | cancel owner reason =>
    simp only [step]
    cases h : f.cancel owner reason with
    | error fault => exact .kept _ rfl
    | ok result =>
      obtain ⟨task, hhead, -, rfl⟩ := cancel_eq_ok_iff.mp h
      exact deal_closeHead _ hhead id
  | finish owner =>
    simp only [step]
    cases h : f.finish owner with
    | error fault => exact .kept _ rfl
    | ok result =>
      obtain ⟨task, hhead, -, rfl⟩ := finish_eq_ok_iff.mp h
      exact deal_closeHead _ hhead id
  | takeOffline owner => exact hmarked owner
  | deliver owner worker =>
    simp only [step, deliver]
    split
    · unfold handOver
      simp only
      split
      · exact hmarked owner
      · exact .kept _ rfl
    · exact .kept _ rfl

end Fleet

/-! ### Queues and records -/

/-- **Whether the record of a vehicle fits its queue.** -/
inductive Vehicle.Engaged (v : Vehicle α) : List (SubTask α) → Prop
  /-- It has nothing to do and says so. -/
  | free (taskId : v.taskId = none) (progress : v.progress = .none) : Engaged v []
  /-- It executes the only sub-task in its queue. -/
  | bound (task : SubTask α) (taskId : v.taskId = some task.id) (progress : v.progress = .underway)
    (state : v.state = .busy ∨ v.state = .offline) : Engaged v [task]

namespace Vehicle.Engaged

variable {v w : Vehicle α} {queue queue' : List (SubTask α)}

omit [Scalar α] in
theorem length_le (h : v.Engaged queue) : queue.length ≤ 1 := by
  cases h <;> simp

omit [Scalar α] in
theorem ne_nil_iff (h : v.Engaged queue) : queue ≠ [] ↔ v.progress = .underway := by
  cases h with
  | free _ hprogress => simp [hprogress]
  | bound task _ hprogress _ => simp [hprogress]

omit [Scalar α] in
/-- A vehicle that is available has nothing to do: it is neither under way nor busy. -/
theorem eq_nil_of_available (h : v.Engaged queue) {lowestBattery : ℕ}
    (havailable : v.Available lowestBattery) : queue = [] := by
  cases h with
  | free => rfl
  | bound task _ hprogress hstate =>
    rcases havailable with hidle | hcharging
    · simp [Vehicle.isIdle, hprogress] at hidle
    · rcases hstate with hstate | hstate <;> simp [Vehicle.mayLeaveCharger, hstate] at hcharging

omit [Scalar α] in
/-- Only the ids of the sub-tasks matter, and a record that says the same about the task; the
vehicle may go offline besides. -/
theorem of_eq (h : v.Engaged queue) (hids : queue'.map SubTask.id = queue.map SubTask.id)
    (htaskId : w.taskId = v.taskId) (hprogress : w.progress = v.progress)
    (hstate : w.state = v.state ∨ w.state = .offline) : w.Engaged queue' := by
  cases h with
  | free htask hnone =>
    obtain rfl : queue' = [] := List.map_eq_nil_iff.mp hids
    exact .free (htaskId.trans htask) (hprogress.trans hnone)
  | bound task htask hunderway hbusy =>
    obtain ⟨task', rfl, hid⟩ := List.map_eq_singleton_iff.mp hids
    refine .bound task' (by rw [htaskId, htask, hid]) (hprogress.trans hunderway) ?_
    rcases hstate with hstate | hstate
    · rwa [hstate]
    · exact Or.inr hstate

end Vehicle.Engaged

namespace Fleet

/-- **Whether the vehicles and their queues fit together** and will do so: vehicles are chosen for
orders among those that are available. -/
structure Rostered (f : Fleet α) : Prop where
  staffed : f.Staffed
  unhooked : f.distributor.strategy.Unhooked
  engaged : ∀ id v, f.registry.get? id = some v → v.Engaged (f.backlog.queue id)

/-- Whether an event is anything but the report of a state or of a task. -/
def Quiet (_ : Fleet α) : FleetEvent α → Prop
  | .report r => r.state = none ∧ r.taskId = none ∧ r.progress = none
  | _ => True

namespace Rostered

variable {f : Fleet α}

/-- No queue is longer than one, not even that of a vehicle that is not registered. -/
theorem length_queue_le (h : f.Rostered) (id : String) : (f.backlog.queue id).length ≤ 1 := by
  by_cases hnil : f.backlog.queue id = []
  · rw [hnil]
    exact Nat.zero_le 1
  · obtain ⟨v, hv⟩ := Option.isSome_iff_exists.mp (h.staffed.registered id hnil)
    exact (h.engaged id v hv).length_le

/-- **A new order goes to a vehicle without a sub-task.** -/
theorem queue_eq_nil_of_assign (h : f.Rostered) {order : TransportOrder} (hnew : order.stage = .new)
    {id : String} (hassign : (f.assign order).1 = some id) : f.backlog.queue id = [] := by
  obtain ⟨v, hchosen, rfl⟩ := exists_chosen_of_assign hassign
  have hmem : v ∈ f.registry.all := Distributor.mem_all_of_distribute h.staffed.choosy hchosen
  have hengaged := h.engaged v.id v (h.staffed.keyed.get?_of_mem_all hmem)
  exact hengaged.eq_nil_of_available (Distributor.available_of_distribute h.unhooked hnew hchosen)

theorem unhooked_step (h : f.distributor.strategy.Unhooked) (event : FleetEvent α) :
    (f.step event).distributor.strategy.Unhooked := by
  by_cases hassign : ∃ order, event = .assign order
  · obtain ⟨order, rfl⟩ := hassign
    have hdistributor : (f.step (.assign order)).distributor = _ := f.distributor_assign order
    rw [hdistributor]
    exact Distributor.unhooked_distribute h f.registry f.network f.backlog order
  · have hdistributor := (f.frame_step event).2.2 fun order heq => hassign ⟨order, heq⟩
    rw [hdistributor]
    exact h

/-- **Every quiet event keeps vehicles and queues together.** -/
theorem step (h : f.Rostered) (event : FleetEvent α) (hquiet : f.Quiet event) :
    (f.step event).Rostered := by
  refine ⟨h.staffed.step event, unhooked_step h.unhooked event, fun id v' hv' => ?_⟩
  have hdeal := f.deal_step event id
  have hengaged := h.engaged id
  generalize (f.step event).backlog.queue id = queue' at hdeal ⊢
  rw [hv'] at hdeal
  generalize hrecord : some v' = record at hdeal
  cases hdeal with
  | kept _ hids => exact (hengaged v' hrecord.symm).of_eq hids rfl rfl (Or.inl rfl)
  | bound order hnew hchosen =>
    obtain ⟨v, -, rfl⟩ := Option.map_eq_some_iff.mp hrecord.symm
    rw [h.queue_eq_nil_of_assign hnew hchosen]
    exact .bound _ rfl rfl (Or.inl rfl)
  | reported r his _ hids =>
    subst his
    obtain ⟨hstate, htaskId, hprogress⟩ := hquiet
    obtain ⟨v, hv, rfl⟩ := Option.map_eq_some_iff.mp hrecord.symm
    refine (hengaged v hv).of_eq hids ?_ ?_ (Or.inl ?_) <;> simp [VehicleReport.update, *]
  | offline =>
    obtain ⟨v, hv, rfl⟩ := Option.map_eq_some_iff.mp hrecord.symm
    exact (hengaged v hv).of_eq rfl rfl rfl (Or.inr rfl)
  | closed task _ hqueue =>
    -- The sub-task was the only one, so the vehicle is free now.
    have hlength := h.length_queue_le id
    rw [hqueue, List.length_cons] at hlength
    obtain rfl : queue' = [] := List.length_eq_zero_iff.mp (by omega)
    rw [if_pos rfl] at hrecord
    obtain ⟨v, -, rfl⟩ := Option.map_eq_some_iff.mp hrecord.symm
    exact .free rfl rfl

/-- An expected route may be laid down at any time. -/
theorem expect (h : f.Rostered) (id : String) (route : Route) : (f.expect id route).Rostered := by
  have hids : ∀ other, ((f.expect id route).backlog.queue other).map SubTask.id
      = (f.backlog.queue other).map SubTask.id := by
    intro other
    rw [queue_expect]
    split
    · cases f.backlog.queue other <;> rfl
    · rfl
  refine ⟨⟨h.staffed.keyed, h.staffed.choosy, fun other hne => ?_⟩, h.unhooked,
    fun other v hv => ?_⟩
  · refine h.staffed.registered other fun hnil => hne ?_
    have hmap := hids other
    rw [hnil] at hmap
    exact List.map_eq_nil_iff.mp hmap
  · exact (h.engaged other v hv).of_eq (hids other) rfl rfl (Or.inl rfl)

/-- Who gets a new order that names no vehicle stands on a waypoint. -/
theorem exists_waypoint_of_assign (h : f.Rostered) {order : TransportOrder}
    (hnew : order.stage = .new) (hany : order.requestedVehicle = none) {id : String}
    (hassign : (f.assign order).1 = some id) : ∃ v start,
      (f.step (.assign order)).registry.get? id = some v ∧ v.waypoint = some start := by
  obtain ⟨u, hchosen, rfl⟩ := exists_chosen_of_assign hassign
  have hmem : u ∈ f.registry.all := Distributor.mem_all_of_distribute h.staffed.choosy hchosen
  have hu := h.staffed.keyed.get?_of_mem_all hmem
  have hadmits := Distributor.admits_of_distribute h.unhooked hnew hany hchosen
  obtain ⟨v, hv⟩ : ∃ v, (f.step (.assign order)).registry.get? u.id = some v := by
    rw [← Option.isSome_iff_exists, isSome_get?_step, hu]
    rfl
  obtain ⟨w, hw, -, -, hplace⟩ := exists_get?_of_step hv
  obtain rfl : u = w := Option.some.inj (hu.symm.trans hw)
  have hpoint : v.currentPoint = u.currentPoint := by
    rcases hplace with hplace | ⟨r, hr, -⟩
    · exact hplace.currentPoint_eq
    · cases hr
  have hsome : u.currentPoint.isSome = true := by
    simp only [TransportOrder.admits, Bool.and_eq_true] at hadmits
    exact hadmits.2
  obtain ⟨point, hpoint'⟩ := Option.isSome_iff_exists.mp hsome
  refine ⟨v, ⟨v.mapId, point⟩, hv, ?_⟩
  rw [Vehicle.waypoint, hpoint, hpoint']
  rfl

end Rostered

/-- A vehicle whose queue becomes empty is no longer busy. -/
theorem state_of_queue_eq_nil {f : Fleet α} {event : FleetEvent α} {id : String} {v : Vehicle α}
    (hv : f.registry.get? id = some v) (hbefore : f.backlog.queue id ≠ [])
    (hafter : (f.step event).backlog.queue id = []) :
    ∃ v', (f.step event).registry.get? id = some v'
      ∧ v'.state = if v.state = .busy then .idle else v.state := by
  have hdeal := f.deal_step event id
  rw [hafter] at hdeal
  generalize hqueue : ([] : List (SubTask α)) = queue' at hdeal
  generalize (f.step event).registry.get? id = record at hdeal ⊢
  cases hdeal with
  | kept _ hids | reported _ _ _ hids =>
    subst hqueue
    exact absurd (List.map_eq_nil_iff.mp hids.symm) hbefore
  | bound => exact absurd hqueue.symm (List.append_ne_nil_of_right_ne_nil _ (List.cons_ne_nil _ _))
  | offline => exact absurd hqueue.symm hbefore
  | closed task _ _ =>
    rw [if_pos hqueue.symm, hv]
    exact ⟨freed v, rfl, rfl⟩

/-! ### All runs -/

/-- Whether no vehicle has anything to do, and no hook chooses vehicles for orders. -/
structure Unbooked (f : Fleet α) : Prop where
  queue_eq : ∀ id, f.backlog.queue id = []
  keyed : f.registry.Keyed
  taskId_eq : f.registry.Holds fun _ v => v.taskId = none
  progress_eq : f.registry.Holds fun _ v => v.progress = .none
  mode_ne : f.distributor.strategy.mode ≠ .customize

theorem Unbooked.rostered {f : Fleet α} (h : f.Unbooked) : f.Rostered where
  staffed := ⟨h.keyed, (Strategy.unhooked_of_mode_ne h.mode_ne).choosy,
    fun id hne => absurd (h.queue_eq id) hne⟩
  unhooked := Strategy.unhooked_of_mode_ne h.mode_ne
  engaged := by
    intro id v hv
    rw [h.queue_eq id]
    exact .free (h.taskId_eq id v hv) (h.progress_eq id v hv)

/-- **Whether no vehicle is booked twice.** -/
structure BookedOnce (f : Fleet α) : Prop where
  length_queue_le : ∀ id, (f.backlog.queue id).length ≤ 1
  /-- A vehicle has a sub-task exactly if it is under way with one. -/
  queue_ne_nil_iff : ∀ id v, f.registry.get? id = some v →
    (f.backlog.queue id ≠ [] ↔ v.progress = .underway)
  taskId_eq : ∀ id v task, f.registry.get? id = some v → f.backlog.head? id = some task →
    v.taskId = some task.id
  state_eq : ∀ id v, f.registry.get? id = some v → f.backlog.queue id ≠ [] →
    v.state = .busy ∨ v.state = .offline
  /-- Once its queue is empty a busy vehicle is idle, and any other state is kept. -/
  freed : ∀ event id v, f.registry.get? id = some v → f.backlog.queue id ≠ [] →
    (f.step event).backlog.queue id = [] → ∃ v', (f.step event).registry.get? id = some v'
      ∧ v'.state = if v.state = .busy then .idle else v.state
  /-- A vehicle that has work is given no new order. -/
  queue_eq_nil_of_assign : ∀ (order : TransportOrder) id, order.stage = .new →
    (f.assign order).1 = some id → f.backlog.queue id = []

theorem Rostered.bookedOnce {f : Fleet α} (h : f.Rostered) : f.BookedOnce where
  length_queue_le := h.length_queue_le
  queue_ne_nil_iff := fun id v hv => (h.engaged id v hv).ne_nil_iff
  taskId_eq := by
    intro id v task hv hhead
    obtain ⟨later, hqueue⟩ := Backlog.head?_eq_some_iff.mp hhead
    have hengaged := h.engaged id v hv
    rw [hqueue] at hengaged
    cases hengaged with
    | bound _ htaskId _ _ => exact htaskId
  state_eq := by
    intro id v hv hne
    cases hqueue : f.backlog.queue id with
    | nil => exact absurd hqueue hne
    | cons task later =>
      have hengaged := h.engaged id v hv
      rw [hqueue] at hengaged
      cases hengaged with
      | bound _ _ _ hstate => exact hstate
  freed := fun _ _ _ => state_of_queue_eq_nil
  queue_eq_nil_of_assign := fun _ _ hnew => h.queue_eq_nil_of_assign hnew

/-- **No vehicle is ever booked twice**, whatever happens to a fleet that begins without work, as
long as its vehicles do not report states or tasks on their own. -/
theorem bookedOnce_run {f : Fleet α} (hstart : f.Unbooked) {events : List (FleetEvent α)}
    (hevents : f.Along Quiet events) : (f.run events).BookedOnce :=
  Rostered.bookedOnce
    (hevents.invariant (I := Rostered) (fun _ event h hquiet => h.step event hquiet)
      hstart.rostered)

/-- A vehicle goes offline while it executes a sub-task, reports where it is, and is free again. -/
theorem bookedOnce_tour : (Fleet.tourStart [⟨1, 1⟩] : Fleet Float).Unbooked
    ∧ (Fleet.tourStart [⟨1, 1⟩] : Fleet Float).Along Quiet
      [.assign tourOrder, .takeOffline "a", .report (.ofPosition "a" 1 ⟨0, 0⟩),
        .cancel "a" .vehicleOffline]
    ∧ ((Fleet.tourStart [⟨1, 1⟩] : Fleet Float).run
      [.assign tourOrder, .takeOffline "a", .report (.ofPosition "a" 1 ⟨0, 0⟩),
        .cancel "a" .vehicleOffline]).BookedOnce := by
  have hvehicles : (Fleet.tourStart [⟨1, 1⟩] : Fleet Float).registry.Holds
      fun _ v => v.taskId = none ∧ v.progress = .none := by
    intro id v hv
    change (({} : Registry Float).upsert guide).get? id = some v at hv
    rw [Registry.get?_upsert, Registry.get?_empty] at hv
    split at hv
    · obtain rfl := Option.some.inj hv
      exact ⟨rfl, rfl⟩
    · cases hv
  have hstart : (Fleet.tourStart [⟨1, 1⟩] : Fleet Float).Unbooked :=
    ⟨queue_start _ _ _ _ _, Registry.keyed_ofList [guide], fun id v hv => (hvehicles id v hv).1,
      fun id v hv => (hvehicles id v hv).2, nofun⟩
  have hquiet : (Fleet.tourStart [⟨1, 1⟩] : Fleet Float).Along Quiet
      [.assign tourOrder, .takeOffline "a", .report (.ofPosition "a" 1 ⟨0, 0⟩),
        .cancel "a" .vehicleOffline] :=
    ⟨trivial, trivial, ⟨rfl, rfl, rfl⟩, trivial, trivial⟩
  exact ⟨hstart, hquiet, bookedOnce_run hstart hquiet⟩

end Fleet

end AgvDispatch
