import AgvDispatch.Proofs.Fleet.Event
import AgvDispatch.Proofs.Task.Backlog
import AgvDispatch.Proofs.Task.SubTask
import AgvDispatch.Proofs.Traffic.Safety
/-!
# What an event does

For each operation of a fleet, everything that it can do. The facts that concern one part of the
fleet only are gathered for all events at once:

* `Fleet.change_step`: what becomes of the queues and of the traffic, one case for each thing that
  an event can do (`Fleet.Change`);
* `Fleet.exists_get?_of_step` and `Fleet.isSome_get?_step`: no vehicle is added or removed, and none
  changes its id or its radius;
* `Fleet.network_step` and `Fleet.settings_step`: network and settings never change.
-/

namespace AgvDispatch

variable {α : Type} [Scalar α]

namespace Fleet

/-! ### Plans -/

/-- The sub-task of a vehicle once a candidate route has been planned as far as it can be. -/
def plannedTask (f : Fleet α) (id : String) (task : SubTask α) (candidate : Route) : SubTask α :=
  (task.propose candidate).commitPlan (f.plannable id task candidate)
    (f.network.routeLength (f.plannable id task candidate))

/-- The fleet once a candidate route has been planned for the sub-task of a vehicle as far as it can
be: what lies ahead is reserved, and the vehicle is sent on its way. -/
def plannedFleet (f : Fleet α) (id : String) (task : SubTask α) (candidate : Route) : Fleet α :=
  ({ f with
    backlog := f.backlog.modifyHead id fun _ => f.plannedTask id task candidate
    traffic := (f.traffic.reserve f.network id (f.plannedTask id task candidate).effectiveRoute
      f.settings.traffic.bufferRadius).2 } : Fleet α).emit id
    (.move (f.plannedTask id task candidate).id (f.plannable id task candidate))

@[simp] theorem running_plannedTask (f : Fleet α) (id : String) (task : SubTask α)
    (candidate : Route) : (f.plannedTask id task candidate).running
      = SubTask.joinRoutes task.running (f.plannable id task candidate) := by
  simp [plannedTask]

theorem plannable_isPrefix (f : Fleet α) (id : String) (task : SubTask α) (candidate : Route) :
    f.plannable id task candidate <+: candidate := by
  unfold plannable
  simp only
  split
  · exact List.nil_prefix
  · exact Traffic.safePart_isPrefix

/-- What is planned is safe. -/
theorem isSafe_plannable (f : Fleet α) (id : String) (task : SubTask α) (candidate : Route) :
    f.traffic.isSafe f.registry f.network task.mapId id (f.plannable id task candidate)
      f.settings.traffic.safetyBuffer = true := by
  unfold plannable
  simp only
  split
  · exact Traffic.isSafe_nil
  · exact Traffic.isSafe_safePart

/-- A candidate route that is safe as a whole and more than the end of what is committed can be
planned as a whole. -/
theorem plannable_eq_self {f : Fleet α} {id : String} {task : SubTask α} {candidate : Route}
    (hsafe : f.traffic.isSafe f.registry f.network task.mapId id candidate
      f.settings.traffic.safetyBuffer = true)
    (hnew : ¬(candidate.length = 1 ∧ task.runningEnd = candidate.head?)) :
    f.plannable id task candidate = candidate := by
  unfold plannable
  simp only [Traffic.safePart_eq_self hsafe]
  rw [if_neg]
  rw [Bool.and_eq_true, decide_eq_true_eq, beq_iff_eq]
  exact hnew

section Plan

variable {f : Fleet α} {id : String} {task : SubTask α} {candidate : Route}

theorem plan_noTask (h : f.backlog.head? id = none) (candidate : Route) :
    f.plan id candidate = (.noTask, f) := by
  unfold plan
  rw [h]

/-- A candidate route of which something can be planned is planned. -/
theorem plan_committed (hhead : f.backlog.head? id = some task) (hlive : task.isLive = true)
    (hneeds : task.stage.needsPlan = true) (hsegment : f.plannable id task candidate ≠ []) :
    f.plan id candidate
      = (.committed (f.plannable id task candidate), f.plannedFleet id task candidate) := by
  have hne : candidate ≠ [] := by
    rintro rfl
    exact hsegment (List.prefix_nil.mp (f.plannable_isPrefix id task []))
  unfold plan
  rw [hhead]
  simp only
  rw [if_neg (by simp [hlive]), if_neg (by simp [hneeds, hne]), if_neg (by simp [hsegment])]
  rfl

/-- A candidate route of which nothing can be planned is deferred. -/
theorem plan_deferred (hhead : f.backlog.head? id = some task) (hlive : task.isLive = true)
    (hneeds : task.stage.needsPlan = true) (hne : candidate ≠ [])
    (hsegment : f.plannable id task candidate = []) :
    f.plan id candidate = (.deferred,
      { f with backlog := f.backlog.modifyHead id fun _ => (task.propose candidate).defer }) := by
  unfold plan
  rw [hhead]
  simp only
  rw [if_neg (by simp [hlive]), if_neg (by simp [hneeds, hne]), if_pos (by simp [hsegment])]

/-- A sub-task that cannot take a new route is left alone, and so is one whose candidate is
empty. -/
theorem plan_skipped (hhead : f.backlog.head? id = some task)
    (hskip : task.isLive = false ∨ task.stage.needsPlan = false ∨ candidate = []) :
    ((f.plan id candidate).1 = .noTask ∨ (f.plan id candidate).1 = .deferred)
      ∧ (f.plan id candidate).2 = f := by
  unfold plan
  rw [hhead]
  simp only
  by_cases hlive : task.isLive = true
  · rw [if_neg (by simp [hlive])]
    have hdefer : (!task.stage.needsPlan || candidate.isEmpty) = true := by
      rcases hskip with h | h | h
      · rw [h] at hlive
        cases hlive
      · simp [h]
      · simp [h]
    rw [if_pos hdefer]
    exact ⟨Or.inr rfl, rfl⟩
  · rw [if_pos (by simp [hlive])]
    exact ⟨Or.inl rfl, rfl⟩

end Plan

/-- **What a plan can do.** It does nothing, or it defers the head of the queue, or it commits to
the head all that can be planned. -/
theorem plan_cases (f : Fleet α) (id : String) (candidate : Route) :
    (((f.plan id candidate).1 = .noTask ∨ (f.plan id candidate).1 = .deferred)
        ∧ (f.plan id candidate).2 = f)
      ∨ ∃ task, f.backlog.head? id = some task ∧ task.isLive = true
        ∧ task.stage.needsPlan = true ∧ candidate ≠ []
        ∧ ((f.plannable id task candidate = [] ∧ f.plan id candidate = (.deferred,
              { f with
                backlog := f.backlog.modifyHead id fun _ => (task.propose candidate).defer }))
          ∨ (f.plannable id task candidate ≠ [] ∧ f.plan id candidate
            = (.committed (f.plannable id task candidate), f.plannedFleet id task candidate))) := by
  cases hhead : f.backlog.head? id with
  | none =>
    rw [plan_noTask hhead]
    exact Or.inl ⟨Or.inl rfl, rfl⟩
  | some task =>
    by_cases hskip : task.isLive = false ∨ task.stage.needsPlan = false ∨ candidate = []
    · exact Or.inl (plan_skipped hhead hskip)
    · rw [not_or, not_or, Bool.not_eq_false, Bool.not_eq_false] at hskip
      obtain ⟨hlive, hneeds, hne⟩ := hskip
      refine Or.inr ⟨task, rfl, hlive, hneeds, hne, ?_⟩
      by_cases hsegment : f.plannable id task candidate = []
      · exact Or.inl ⟨hsegment, plan_deferred hhead hlive hneeds hne hsegment⟩
      · exact Or.inr ⟨hsegment, plan_committed hhead hlive hneeds hsegment⟩

/-- A plan concerns one vehicle only. -/
theorem plan_of_ne (f : Fleet α) {id other : String} (hne : other ≠ id) (candidate : Route) :
    (f.plan id candidate).2.backlog.queue other = f.backlog.queue other
      ∧ (f.plan id candidate).2.traffic.reservation? other = f.traffic.reservation? other := by
  rcases f.plan_cases id candidate with ⟨-, heq⟩ | ⟨task, -, -, -, -, ⟨-, heq⟩ | ⟨-, heq⟩⟩
  · rw [heq]
    exact ⟨rfl, rfl⟩
  · rw [heq]
    exact ⟨(Backlog.queue_modifyHead _ _ _ _).trans (if_neg hne.symm), rfl⟩
  · rw [heq]
    exact ⟨(Backlog.queue_modifyHead _ _ _ _).trans (if_neg hne.symm),
      Traffic.reservation?_reserve_of_ne _ _ hne _ _⟩

/-- Planning along the expected route is a plan of what has yet to be committed, unless that is
nothing new. -/
theorem planRemaining_cases (f : Fleet α) (id : String) :
    (f.backlog.head? id = none ∧ f.planRemaining id = (.noTask, f))
      ∨ ∃ task, f.backlog.head? id = some task
        ∧ ((task.pendingRoute.length < 2 ∧ task.running ≠ [] ∧ f.planRemaining id = (.deferred, f))
          ∨ ((task.running ≠ [] → 2 ≤ task.pendingRoute.length)
            ∧ f.planRemaining id = f.plan id task.pendingRoute)) := by
  unfold planRemaining
  cases hhead : f.backlog.head? id with
  | none => exact Or.inl ⟨rfl, rfl⟩
  | some task =>
    refine Or.inr ⟨task, rfl, ?_⟩
    simp only [Bool.and_eq_true, decide_eq_true_eq, Bool.not_eq_true', List.isEmpty_eq_false_iff]
    by_cases hdone : task.pendingRoute.length < 2 ∧ task.running ≠ []
    · rw [if_pos hdone]
      exact Or.inl ⟨hdone.1, hdone.2, rfl⟩
    · rw [if_neg hdone]
      exact Or.inr ⟨fun hne => Nat.not_lt.mp fun hlt => hdone ⟨hlt, hne⟩, rfl⟩

/-! ### Stages -/

/-- What is done with the head of a queue after it has entered a stage. -/
theorem advanceHead_bind_eq_ok_iff {β : Type} {f : Fleet α} {id : String} {stage : Stage}
    {next : SubTask α → Except Fault β} {b : β} :
    (f.advanceHead id stage >>= next) = .ok b ↔ ∃ task, f.backlog.head? id = some task
      ∧ task.stage.mayBecome stage = true ∧ next (task.setStage stage) = .ok b := by
  unfold advanceHead SubTask.advance
  cases f.backlog.head? id with
  | none =>
    constructor
    · intro h
      cases h
    · rintro ⟨task, hhead, -⟩
      cases hhead
  | some task =>
    simp only [Option.some.injEq, exists_eq_left']
    split
    · rename_i hmay
      rw [and_iff_right hmay]
      rfl
    · rename_i hmay
      constructor
      · intro h
        cases h
      · rintro ⟨h, -⟩
        exact absurd h hmay

theorem pause_eq_ok_iff {f f' : Fleet α} {id : String} : f.pause id = .ok f' ↔
    ∃ task, f.backlog.head? id = some task ∧ task.stage.mayBecome .pause = true
      ∧ ({ f with backlog := f.backlog.modifyHead id fun _ => task.setStage .pause }
          : Fleet α).emit id (.pause task.id) = f' := by
  unfold pause
  simp only [advanceHead_bind_eq_ok_iff, pure, Except.pure, Except.ok.injEq]
  rfl

theorem resume_eq_ok_iff {f f' : Fleet α} {id : String} : f.resume id = .ok f' ↔
    ∃ task, f.backlog.head? id = some task ∧ task.stage.mayBecome .run = true
      ∧ ({ f with backlog := f.backlog.modifyHead id fun _ => task.setStage .run }
          : Fleet α).emit id (.resume task.id) = f' := by
  unfold resume
  simp only [advanceHead_bind_eq_ok_iff, pure, Except.pure, Except.ok.injEq]
  rfl

theorem cancel_eq_ok_iff {f : Fleet α} {id : String} {reason : CancelReason}
    {result : SubTask α × Fleet α} : f.cancel id reason = .ok result ↔
    ∃ task, f.backlog.head? id = some task ∧ task.stage.mayBecome .cancel = true
      ∧ ({ task.setStage .cancel with cancelReason := some reason },
          (f.closeHead id).emit id (.cancel task.id)) = result := by
  unfold cancel
  simp only [advanceHead_bind_eq_ok_iff, pure, Except.pure, Except.ok.injEq]
  rfl

theorem finish_eq_ok_iff {f : Fleet α} {id : String} {result : SubTask α × Fleet α} :
    f.finish id = .ok result ↔
    ∃ task, f.backlog.head? id = some task ∧ task.stage.mayBecome .finish = true
      ∧ ({ task.setStage .finish with
            realizedCost := f.network.routeLength (task.traveled ++ task.effectiveRoute.take 1) },
          f.closeHead id) = result := by
  unfold finish
  simp only [advanceHead_bind_eq_ok_iff, pure, Except.pure, Except.ok.injEq]
  rfl

/-! ### Orders, reports and the end of a sub-task -/

/-- What an order can do: it adds a new sub-task behind the others of the chosen vehicle, or it
changes neither queue nor vehicle. -/
theorem assign_cases (f : Fleet α) (order : TransportOrder) :
    ((f.assign order).2.backlog = f.backlog ∧ (f.assign order).2.registry = f.registry)
      ∨ ∃ v, order.stage = .new ∧ (f.assign order).1 = some v
        ∧ (f.assign order).2.backlog
          = f.backlog.push (.ofOrder v order ((f.backlog.queue v).length + 1))
        ∧ (f.assign order).2.registry = f.registry.modify v fun a =>
          { a with
            state := .busy
            taskId := some (SubTask.idOf order.code ((f.backlog.queue v).length + 1))
            progress := .underway } := by
  unfold assign
  simp only
  cases (f.distributor.distribute f.registry f.network f.backlog order).1 with
  | none => exact Or.inl ⟨rfl, rfl⟩
  | some v =>
    simp only
    split
    · rename_i hnew
      exact Or.inr ⟨v.id, hnew, rfl, rfl, rfl⟩
    · exact Or.inl ⟨rfl, rfl⟩

/-- A new order that finds a vehicle becomes a sub-task of that vehicle. -/
theorem assign_of_new (f : Fleet α) {order : TransportOrder} (hnew : order.stage = .new) :
    ((f.assign order).1 = none ∧ (f.assign order).2.backlog = f.backlog)
      ∨ ∃ v, (f.assign order).1 = some v ∧ (f.assign order).2.backlog
        = f.backlog.push (.ofOrder v order ((f.backlog.queue v).length + 1)) := by
  unfold assign
  simp only
  cases (f.distributor.distribute f.registry f.network f.backlog order).1 with
  | none => exact Or.inl ⟨rfl, rfl⟩
  | some v =>
    simp only [if_pos hnew]
    exact Or.inr ⟨v.id, rfl, rfl⟩

theorem assign_frame (f : Fleet α) (order : TransportOrder) :
    (f.assign order).2.traffic = f.traffic ∧ (f.assign order).2.network = f.network
      ∧ (f.assign order).2.settings = f.settings := by
  unfold assign
  simp only
  cases (f.distributor.distribute f.registry f.network f.backlog order).1 with
  | none => exact ⟨rfl, rfl, rfl⟩
  | some v =>
    simp only
    split <;> exact ⟨rfl, rfl, rfl⟩

theorem distributor_assign (f : Fleet α) (order : TransportOrder) :
    (f.assign order).2.distributor
      = (f.distributor.distribute f.registry f.network f.backlog order).2 := by
  unfold assign
  simp only
  cases (f.distributor.distribute f.registry f.network f.backlog order).1 with
  | none => rfl
  | some v =>
    simp only
    split <;> rfl

theorem exists_chosen_of_assign {f : Fleet α} {order : TransportOrder} {id : String}
    (h : (f.assign order).1 = some id) : ∃ v : Vehicle α,
      (f.distributor.distribute f.registry f.network f.backlog order).1 = some v ∧ v.id = id := by
  unfold assign at h
  simp only at h
  cases hchosen : (f.distributor.distribute f.registry f.network f.backlog order).1 with
  | none => simp [hchosen] at h
  | some v =>
    refine ⟨v, rfl, ?_⟩
    simp only [hchosen] at h
    split at h <;> exact Option.some.inj h

theorem report_unknown {f : Fleet α} {r : VehicleReport α}
    (h : f.registry.get? r.vehicleId = none) : f.report r = (none, f) := by
  unfold report
  rw [h]

end Fleet

/-- The sub-task of a vehicle once it has taken a report of the vehicle in. -/
def VehicleReport.passed (r : VehicleReport α) (task : SubTask α) : SubTask α :=
  match r.waypoint with
  | none => task
  | some here => task.reach here

namespace Fleet

theorem queue_report {f : Fleet α} {r : VehicleReport α} {v : Vehicle α}
    (h : f.registry.get? r.vehicleId = some v) (id : String) :
    (f.report r).2.backlog.queue id
      = if r.vehicleId = id then (f.backlog.queue id).modifyHead r.passed
        else f.backlog.queue id := by
  cases hwaypoint : r.waypoint with
  | none =>
    have hbacklog : (f.report r).2.backlog = f.backlog := by simp only [report, h, hwaypoint]
    have hsame : r.passed = (fun task : SubTask α => task) := by
      funext task
      simp [VehicleReport.passed, hwaypoint]
    rw [hbacklog, hsame]
    cases f.backlog.queue id <;> simp
  | some here =>
    have hbacklog : (f.report r).2.backlog
        = f.backlog.modifyHead r.vehicleId (·.reach here) := by simp only [report, h, hwaypoint]
    have hreach : r.passed = (·.reach here) := by
      funext task
      simp [VehicleReport.passed, hwaypoint]
    rw [hbacklog, hreach]
    exact Backlog.queue_modifyHead _ _ _ _

/-- A registered vehicle has its report taken in by its sub-task. -/
theorem head?_report {f : Fleet α} {r : VehicleReport α} {task : SubTask α}
    (hhead : f.backlog.head? r.vehicleId = some task)
    (hregistered : (f.registry.get? r.vehicleId).isSome = true) :
    (f.report r).2.backlog.head? r.vehicleId = some (r.passed task) := by
  obtain ⟨v, hv⟩ := Option.isSome_iff_exists.mp hregistered
  obtain ⟨later, hqueue⟩ := Backlog.head?_eq_some_iff.mp hhead
  refine Backlog.head?_eq_some_iff.mpr ⟨later, (queue_report hv r.vehicleId).trans ?_⟩
  rw [if_pos rfl, hqueue, List.modifyHead_cons]

theorem traffic_report {f : Fleet α} {r : VehicleReport α} {v : Vehicle α}
    (h : f.registry.get? r.vehicleId = some v) : (f.report r).2.traffic
      = ((f.traffic.track r.vehicleId r.position v.radius).reserve f.network r.vehicleId r.remaining
          f.settings.traffic.bufferRadius).2 := by
  unfold report
  rw [h]

theorem registry_report {f : Fleet α} {r : VehicleReport α} {v : Vehicle α}
    (h : f.registry.get? r.vehicleId = some v) :
    (f.report r).2.registry = f.registry.modify r.vehicleId r.update := by
  unfold report
  rw [h]

theorem get?_report {f : Fleet α} {r : VehicleReport α} {v : Vehicle α}
    (h : f.registry.get? r.vehicleId = some v) (id : String) :
    (f.report r).2.registry.get? id
      = if r.vehicleId = id then (f.registry.get? id).map r.update else f.registry.get? id := by
  rw [registry_report h, Registry.get?_modify]

/-! ### All events -/

/-- What an event does to the queues and to the traffic. -/
inductive Change (f f' : Fleet α) (event : FleetEvent α) : Prop
  /-- Nothing. -/
  | idle (backlog : f'.backlog = f.backlog) (traffic : f'.traffic = f.traffic)
  /-- A new sub-task lines up. -/
  | assigned (id : String) (order : TransportOrder) (is_assign : event = .assign order)
    (backlog : f'.backlog = f.backlog.push (.ofOrder id order ((f.backlog.queue id).length + 1)))
    (traffic : f'.traffic = f.traffic)
  /-- A vehicle is to stop, or to get ready to drive on. -/
  | staged (id : String) (task : SubTask α) (stage : Stage)
    (is_stage : (event = .pause id ∧ stage = .pause) ∨ (event = .resume id ∧ stage = .run))
    (head : f.backlog.head? id = some task) (may : task.stage.mayBecome stage = true)
    (backlog : f'.backlog = f.backlog.modifyHead id fun _ => task.setStage stage)
    (traffic : f'.traffic = f.traffic)
  /-- A plan is deferred. -/
  | deferred (id : String) (task : SubTask α) (candidate : Route)
    (is_plan : event = .plan id candidate
      ∨ (event = .planRemaining id ∧ candidate = task.pendingRoute))
    (head : f.backlog.head? id = some task) (live : task.isLive = true)
    (needsPlan : task.stage.needsPlan = true) (candidate_ne_nil : candidate ≠ [])
    (plannable : f.plannable id task candidate = [])
    (backlog : f'.backlog = f.backlog.modifyHead id fun _ => (task.propose candidate).defer)
    (traffic : f'.traffic = f.traffic)
  /-- A plan is committed and reserved. -/
  | planned (id : String) (task : SubTask α) (candidate : Route)
    (is_plan : event = .plan id candidate
      ∨ (event = .planRemaining id ∧ candidate = task.pendingRoute))
    (head : f.backlog.head? id = some task) (live : task.isLive = true)
    (needsPlan : task.stage.needsPlan = true) (plannable : f.plannable id task candidate ≠ [])
    (backlog : f'.backlog = f.backlog.modifyHead id fun _ => f.plannedTask id task candidate)
    (traffic : f'.traffic = (f.traffic.reserve f.network id
      (f.plannedTask id task candidate).effectiveRoute f.settings.traffic.bufferRadius).2)
  /-- A vehicle has moved on, and its remaining route is reserved. -/
  | reported (r : VehicleReport α) (v : Vehicle α) (is_report : event = .report r)
    (registered : f.registry.get? r.vehicleId = some v)
    (queue : ∀ id, f'.backlog.queue id = if r.vehicleId = id
      then (f.backlog.queue id).modifyHead r.passed else f.backlog.queue id)
    (traffic : f'.traffic = ((f.traffic.track r.vehicleId r.position v.radius).reserve f.network
      r.vehicleId r.remaining f.settings.traffic.bufferRadius).2)
  /-- A sub-task ends. -/
  | closed (id : String) (task : SubTask α)
    (is_end : event = .finish id ∨ ∃ reason, event = .cancel id reason)
    (head : f.backlog.head? id = some task)
    (backlog : f'.backlog = f.backlog.removeHead id)
    (traffic : f'.traffic = f.traffic.dropReservation id)
  /-- A vehicle goes offline. -/
  | released (id : String) (is_offline : event = .takeOffline id)
    (backlog : f'.backlog = f.backlog) (traffic : f'.traffic = f.traffic.release id)

theorem change_plan (f : Fleet α) (id : String) (candidate : Route) {event : FleetEvent α}
    (h : event = .plan id candidate ∨ (event = .planRemaining id
      ∧ ∀ task, f.backlog.head? id = some task → candidate = task.pendingRoute)) :
    Change f (f.plan id candidate).2 event := by
  rcases f.plan_cases id candidate with ⟨-, heq⟩ | ⟨task, hhead, hlive, hneeds, hne, hcases⟩
  · rw [heq]
    exact .idle rfl rfl
  · have his : event = .plan id candidate
        ∨ (event = .planRemaining id ∧ candidate = task.pendingRoute) :=
      h.imp_right fun h => ⟨h.1, h.2 task hhead⟩
    rcases hcases with ⟨hsegment, heq⟩ | ⟨hsegment, heq⟩
    · rw [heq]
      exact .deferred id task candidate his hhead hlive hneeds hne hsegment rfl rfl
    · rw [heq]
      exact .planned id task candidate his hhead hlive hneeds hsegment rfl rfl

/-- **What an event can do to the queues and to the traffic.** -/
theorem change_step (f : Fleet α) (event : FleetEvent α) : Change f (f.step event) event := by
  cases event with
  | assign order =>
    obtain ⟨htraffic, -, -⟩ := f.assign_frame order
    rcases f.assign_cases order with ⟨hbacklog, -⟩ | ⟨v, -, -, hbacklog, -⟩
    · exact .idle hbacklog htraffic
    · exact .assigned v order rfl hbacklog htraffic
  | report r =>
    cases hv : f.registry.get? r.vehicleId with
    | none =>
      simp only [step]
      rw [report_unknown hv]
      exact .idle rfl rfl
    | some v => exact .reported r v rfl hv (queue_report hv) (traffic_report hv)
  | plan id candidate => exact f.change_plan id candidate (Or.inl rfl)
  | planRemaining id =>
    simp only [step]
    rcases f.planRemaining_cases id with
      ⟨-, heq⟩ | ⟨task, hhead, ⟨-, -, heq⟩ | ⟨-, heq⟩⟩
    · rw [heq]
      exact .idle rfl rfl
    · rw [heq]
      exact .idle rfl rfl
    · -- The candidate is what is left of the expected route of the head.
      rw [heq]
      refine f.change_plan id task.pendingRoute (Or.inr ⟨rfl, fun task' hhead' => ?_⟩)
      rw [hhead, Option.some.injEq] at hhead'
      rw [hhead']
  | pause id =>
    simp only [step]
    cases h : f.pause id with
    | error e => exact .idle rfl rfl
    | ok f' =>
      obtain ⟨task, hhead, hmay, rfl⟩ := pause_eq_ok_iff.mp h
      exact .staged id task .pause (Or.inl ⟨rfl, rfl⟩) hhead hmay rfl rfl
  | resume id =>
    simp only [step]
    cases h : f.resume id with
    | error e => exact .idle rfl rfl
    | ok f' =>
      obtain ⟨task, hhead, hmay, rfl⟩ := resume_eq_ok_iff.mp h
      exact .staged id task .run (Or.inr ⟨rfl, rfl⟩) hhead hmay rfl rfl
  | cancel id reason =>
    simp only [step]
    cases h : f.cancel id reason with
    | error e => exact .idle rfl rfl
    | ok result =>
      obtain ⟨task, hhead, -, rfl⟩ := cancel_eq_ok_iff.mp h
      exact .closed id task (Or.inr ⟨reason, rfl⟩) hhead rfl rfl
  | finish id =>
    simp only [step]
    cases h : f.finish id with
    | error e => exact .idle rfl rfl
    | ok result =>
      obtain ⟨task, hhead, -, rfl⟩ := finish_eq_ok_iff.mp h
      exact .closed id task (Or.inl rfl) hhead rfl rfl
  | takeOffline id => exact .released id rfl rfl rfl
  | deliver id worker =>
    simp only [step, deliver]
    split <;> exact .idle rfl rfl

/-! ### What never changes -/

theorem frame_plan (f : Fleet α) (id : String) (candidate : Route) :
    (f.plan id candidate).2.network = f.network ∧ (f.plan id candidate).2.settings = f.settings
      ∧ (f.plan id candidate).2.registry = f.registry := by
  rcases f.plan_cases id candidate with
    ⟨-, heq⟩ | ⟨task, -, -, -, -, ⟨-, heq⟩ | ⟨-, heq⟩⟩
  · rw [heq]
    exact ⟨rfl, rfl, rfl⟩
  · rw [heq]
    exact ⟨rfl, rfl, rfl⟩
  · rw [heq]
    exact ⟨rfl, rfl, rfl⟩

theorem frame_planRemaining (f : Fleet α) (id : String) :
    (f.planRemaining id).2.network = f.network ∧ (f.planRemaining id).2.settings = f.settings
      ∧ (f.planRemaining id).2.registry = f.registry := by
  rcases f.planRemaining_cases id with ⟨-, heq⟩ | ⟨task, -, ⟨-, -, heq⟩ | ⟨-, heq⟩⟩
  · rw [heq]
    exact ⟨rfl, rfl, rfl⟩
  · rw [heq]
    exact ⟨rfl, rfl, rfl⟩
  · rw [heq]
    exact f.frame_plan id _

theorem distributor_plan (f : Fleet α) (id : String) (candidate : Route) :
    (f.plan id candidate).2.distributor = f.distributor := by
  rcases f.plan_cases id candidate with
    ⟨-, heq⟩ | ⟨task, -, -, -, -, ⟨-, heq⟩ | ⟨-, heq⟩⟩ <;> rw [heq]
  rfl

theorem distributor_planRemaining (f : Fleet α) (id : String) :
    (f.planRemaining id).2.distributor = f.distributor := by
  rcases f.planRemaining_cases id with ⟨-, heq⟩ | ⟨task, -, ⟨-, -, heq⟩ | ⟨-, heq⟩⟩
  · rw [heq]
  · rw [heq]
  · rw [heq]
    exact f.distributor_plan id _

/-- **The network and the settings never change**, and what finds vehicles for orders only changes
when there is an order. -/
theorem frame_step (f : Fleet α) (event : FleetEvent α) :
    (f.step event).network = f.network ∧ (f.step event).settings = f.settings
      ∧ ((∀ order, event ≠ .assign order) → (f.step event).distributor = f.distributor) := by
  cases event with
  | assign order =>
    obtain ⟨-, hnetwork, hsettings⟩ := f.assign_frame order
    exact ⟨hnetwork, hsettings, fun h => absurd rfl (h order)⟩
  | report r =>
    cases hv : f.registry.get? r.vehicleId with
    | none =>
      simp only [step]
      rw [report_unknown hv]
      exact ⟨rfl, rfl, fun _ => rfl⟩
    | some v =>
      simp only [step]
      unfold report
      rw [hv]
      exact ⟨rfl, rfl, fun _ => rfl⟩
  | plan id candidate =>
    obtain ⟨hnetwork, hsettings, -⟩ := f.frame_plan id candidate
    exact ⟨hnetwork, hsettings, fun _ => f.distributor_plan id candidate⟩
  | planRemaining id =>
    obtain ⟨hnetwork, hsettings, -⟩ := f.frame_planRemaining id
    exact ⟨hnetwork, hsettings, fun _ => f.distributor_planRemaining id⟩
  | pause id =>
    simp only [step]
    cases h : f.pause id with
    | error e => exact ⟨rfl, rfl, fun _ => rfl⟩
    | ok f' =>
      obtain ⟨task, -, -, rfl⟩ := pause_eq_ok_iff.mp h
      exact ⟨rfl, rfl, fun _ => rfl⟩
  | resume id =>
    simp only [step]
    cases h : f.resume id with
    | error e => exact ⟨rfl, rfl, fun _ => rfl⟩
    | ok f' =>
      obtain ⟨task, -, -, rfl⟩ := resume_eq_ok_iff.mp h
      exact ⟨rfl, rfl, fun _ => rfl⟩
  | cancel id reason =>
    simp only [step]
    cases h : f.cancel id reason with
    | error e => exact ⟨rfl, rfl, fun _ => rfl⟩
    | ok result =>
      obtain ⟨task, -, -, rfl⟩ := cancel_eq_ok_iff.mp h
      exact ⟨rfl, rfl, fun _ => rfl⟩
  | finish id =>
    simp only [step]
    cases h : f.finish id with
    | error e => exact ⟨rfl, rfl, fun _ => rfl⟩
    | ok result =>
      obtain ⟨task, -, -, rfl⟩ := finish_eq_ok_iff.mp h
      exact ⟨rfl, rfl, fun _ => rfl⟩
  | takeOffline id => exact ⟨rfl, rfl, fun _ => rfl⟩
  | deliver id worker =>
    simp only [step, deliver]
    split <;> exact ⟨rfl, rfl, fun _ => rfl⟩

theorem network_step (f : Fleet α) (event : FleetEvent α) :
    (f.step event).network = f.network :=
  (f.frame_step event).1

theorem settings_step (f : Fleet α) (event : FleetEvent α) :
    (f.step event).settings = f.settings :=
  (f.frame_step event).2.1

/-- Reservations are what they say, whatever happens to a fleet. -/
theorem fits_step {f : Fleet α}
    (h : f.traffic.Holds fun _ r => r.Fits f.network f.settings.traffic.bufferRadius)
    (event : FleetEvent α) : (f.step event).traffic.Holds fun _ r =>
      r.Fits (f.step event).network (f.step event).settings.traffic.bufferRadius := by
  rw [network_step, settings_step]
  cases f.change_step event with
  | idle _ htraffic | assigned _ _ _ _ htraffic | staged _ _ _ _ _ _ _ htraffic
  | deferred _ _ _ _ _ _ _ _ _ _ htraffic =>
    rw [htraffic]
    exact h
  | planned id _ _ _ _ _ _ _ _ htraffic =>
    rw [htraffic]
    exact h.reserve_fits id _
  | reported r v _ _ _ htraffic =>
    rw [htraffic]
    exact (h.track r.vehicleId r.position v.radius).reserve_fits r.vehicleId _
  | closed id _ _ _ _ htraffic =>
    rw [htraffic]
    exact h.dropReservation id
  | released id _ _ htraffic =>
    rw [htraffic]
    exact h.release id

end Fleet

/-- Whether two records are of the same vehicle in the same place. -/
structure Vehicle.SamePlace (v w : Vehicle α) : Prop where
  /-- The vehicle is the same. -/
  id_eq : w.id = v.id
  /-- It reaches as far around its position. -/
  radius_eq : w.radius = v.radius
  /-- It is on the same map. -/
  mapId_eq : w.mapId = v.mapId
  /-- It is in the same position. -/
  position_eq : w.position = v.position
  /-- It stands on the same waypoint. -/
  currentPoint_eq : w.currentPoint = v.currentPoint

namespace Fleet

theorem registry_closeHead (f : Fleet α) (id : String) :
    (f.closeHead id).registry = f.registry
      ∨ (f.closeHead id).registry = f.registry.modify id freed := by
  unfold closeHead
  simp only
  split
  · exact Or.inl rfl
  · exact Or.inr rfl

/-- **What an event can do to the vehicles.** A report brings the record of its vehicle up to date;
all other events leave the vehicles where they are. -/
theorem registry_step_cases (f : Fleet α) (event : FleetEvent α) :
    (f.step event).registry = f.registry
      ∨ (∃ r, event = .report r ∧ (f.step event).registry = f.registry.modify r.vehicleId r.update)
      ∨ ∃ id g, (∀ v : Vehicle α, v.SamePlace (g v))
        ∧ (f.step event).registry = f.registry.modify id g := by
  cases event with
  | assign order =>
    rcases f.assign_cases order with ⟨-, hregistry⟩ | ⟨v, -, -, -, hregistry⟩
    · exact Or.inl hregistry
    · refine Or.inr (Or.inr ⟨v, _, ?_, hregistry⟩)
      exact fun v => ⟨rfl, rfl, rfl, rfl, rfl⟩
  | report r =>
    cases hv : f.registry.get? r.vehicleId with
    | none =>
      refine Or.inl ?_
      simp only [step]
      rw [report_unknown hv]
    | some v => exact Or.inr (Or.inl ⟨r, rfl, registry_report hv⟩)
  | plan id candidate => exact Or.inl (f.frame_plan id candidate).2.2
  | planRemaining id => exact Or.inl (f.frame_planRemaining id).2.2
  | pause id =>
    simp only [step]
    cases h : f.pause id with
    | error e => exact Or.inl rfl
    | ok f' =>
      obtain ⟨task, -, -, rfl⟩ := pause_eq_ok_iff.mp h
      exact Or.inl rfl
  | resume id =>
    simp only [step]
    cases h : f.resume id with
    | error e => exact Or.inl rfl
    | ok f' =>
      obtain ⟨task, -, -, rfl⟩ := resume_eq_ok_iff.mp h
      exact Or.inl rfl
  | cancel id reason =>
    simp only [step]
    cases h : f.cancel id reason with
    | error e => exact Or.inl rfl
    | ok result =>
      obtain ⟨task, -, -, rfl⟩ := cancel_eq_ok_iff.mp h
      exact (f.registry_closeHead id).imp_right fun hregistry =>
        Or.inr ⟨id, freed, fun v => ⟨rfl, rfl, rfl, rfl, rfl⟩, hregistry⟩
  | finish id =>
    simp only [step]
    cases h : f.finish id with
    | error e => exact Or.inl rfl
    | ok result =>
      obtain ⟨task, -, -, rfl⟩ := finish_eq_ok_iff.mp h
      exact (f.registry_closeHead id).imp_right fun hregistry =>
        Or.inr ⟨id, freed, fun v => ⟨rfl, rfl, rfl, rfl, rfl⟩, hregistry⟩
  | takeOffline id =>
    refine Or.inr (Or.inr ⟨id, fun v => { v with state := .offline }, ?_, rfl⟩)
    exact fun v => ⟨rfl, rfl, rfl, rfl, rfl⟩
  | deliver id worker =>
    simp only [step, deliver]
    split
    · rename_i command _
      unfold handOver
      simp only
      split
      · refine Or.inr (Or.inr ⟨id, fun v => { v with state := .offline }, ?_, rfl⟩)
        exact fun v => ⟨rfl, rfl, rfl, rfl, rfl⟩
      · exact Or.inl rfl
    · exact Or.inl rfl

/-- Who is registered after an event was so before, and has kept id and radius. Unless it has
reported it is where it was. -/
theorem exists_get?_of_step {f : Fleet α} {event : FleetEvent α} {id : String} {v' : Vehicle α}
    (h : (f.step event).registry.get? id = some v') : ∃ v, f.registry.get? id = some v
      ∧ v'.id = v.id ∧ v'.radius = v.radius ∧ (v.SamePlace v'
        ∨ ∃ r, event = .report r ∧ r.vehicleId = id ∧ v' = r.update v) := by
  rcases f.registry_step_cases event with heq | ⟨r, hr, heq⟩ | ⟨id', g, hg, heq⟩
  · rw [heq] at h
    exact ⟨v', h, rfl, rfl, Or.inl ⟨rfl, rfl, rfl, rfl, rfl⟩⟩
  · rw [heq, Registry.get?_modify] at h
    split at h
    · rename_i hid
      obtain ⟨v, hv, rfl⟩ := Option.map_eq_some_iff.mp h
      exact ⟨v, hv, rfl, rfl, Or.inr ⟨r, hr, hid, rfl⟩⟩
    · exact ⟨v', h, rfl, rfl, Or.inl ⟨rfl, rfl, rfl, rfl, rfl⟩⟩
  · rw [heq, Registry.get?_modify] at h
    split at h
    · obtain ⟨v, hv, rfl⟩ := Option.map_eq_some_iff.mp h
      exact ⟨v, hv, (hg v).id_eq, (hg v).radius_eq, Or.inl (hg v)⟩
    · exact ⟨v', h, rfl, rfl, Or.inl ⟨rfl, rfl, rfl, rfl, rfl⟩⟩

theorem keyed_step {f : Fleet α} (h : f.registry.Keyed) (event : FleetEvent α) :
    (f.step event).registry.Keyed := by
  intro id v' hv'
  obtain ⟨v, hv, hid, -⟩ := exists_get?_of_step hv'
  exact hid.trans (h id v hv)

/-- Who is registered stays registered. -/
theorem isSome_get?_step (f : Fleet α) (event : FleetEvent α) (id : String) :
    ((f.step event).registry.get? id).isSome = (f.registry.get? id).isSome := by
  rcases f.registry_step_cases event with heq | ⟨r, -, heq⟩ | ⟨id', g, -, heq⟩
  · rw [heq]
  · rw [heq, Registry.get?_modify]
    split
    · rw [Option.isSome_map]
    · rfl
  · rw [heq, Registry.get?_modify]
    split
    · rw [Option.isSome_map]
    · rfl

end Fleet

end AgvDispatch
