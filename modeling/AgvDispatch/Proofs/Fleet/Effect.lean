import AgvDispatch.Proofs.Fleet.Operation
/-!
# What an event comes to for one vehicle

Besides the fleet that it leaves behind, an event has an outcome for each vehicle: a segment may
have been committed, a sub-task may have been handed back, and commands may have been emitted. The
outcome is read off the results of the operations (`Fleet.outcome`).

`Fleet.effect_step` goes through everything that an event can do to the queue of a vehicle, together
with the outcome in each case and with the condition under which it occurs.
-/

namespace AgvDispatch

variable {α : Type} [Scalar α]

/-- What an event has come to for one vehicle. -/
structure Outcome (α : Type) where
  /-- The segment that was committed. -/
  committed : Option Route := none
  /-- The sub-task that was handed back. -/
  handedBack : Option (SubTask α) := none
  /-- The commands that were emitted, in order. -/
  emitted : List VehicleCommand := []

namespace Outcome

/-- A plan sends the vehicle along what was committed. -/
def ofPlan (task : Option (SubTask α)) : PlanOutcome → Outcome α
  | .committed segment =>
    { committed := some segment, emitted := task.toList.map fun task => .move task.id segment }
  | .deferred | .noTask => {}

/-- Interrupting a sub-task or taking it up again is passed on as a command. -/
def ofChange (task : Option (SubTask α)) (command : String → VehicleCommand) :
    Except Fault (Fleet α) → Outcome α
  | .ok _ => { emitted := task.toList.map fun task => command task.id }
  | .error _ => {}

/-- A sub-task that is given up is handed back, and the vehicle is told. -/
def ofCancel : Except Fault (SubTask α × Fleet α) → Outcome α
  | .ok (task, _) => { handedBack := some task, emitted := [.cancel task.id] }
  | .error _ => {}

/-- A sub-task that is completed is handed back. -/
def ofFinish : Except Fault (SubTask α × Fleet α) → Outcome α
  | .ok (task, _) => { handedBack := some task }
  | .error _ => {}

omit [Scalar α] in
theorem ofPlan_of_skipped {result : PlanOutcome} (h : result = .noTask ∨ result = .deferred)
    (task : Option (SubTask α)) : ofPlan task result = {} := by
  rcases h with rfl | rfl <;> rfl

end Outcome

namespace Fleet

/-- What an event comes to for a vehicle. -/
def outcome (f : Fleet α) (event : FleetEvent α) (id : String) : Outcome α :=
  match event with
  | .plan owner candidate =>
    if owner = id then .ofPlan (f.backlog.head? owner) (f.plan owner candidate).1 else {}
  | .planRemaining owner =>
    if owner = id then .ofPlan (f.backlog.head? owner) (f.planRemaining owner).1 else {}
  | .pause owner =>
    if owner = id then .ofChange (f.backlog.head? owner) .pause (f.pause owner) else {}
  | .resume owner =>
    if owner = id then .ofChange (f.backlog.head? owner) .resume (f.resume owner) else {}
  | .cancel owner reason => if owner = id then .ofCancel (f.cancel owner reason) else {}
  | .finish owner => if owner = id then .ofFinish (f.finish owner) else {}
  | .assign _ | .report _ | .takeOffline _ | .deliver _ _ => {}

/-- **What an event can do to the queue of a vehicle**, with what it comes to for the vehicle. -/
inductive Effect (f : Fleet α) (event : FleetEvent α) (id : String) :
    List (SubTask α) → Outcome α → Prop
  /-- The queue is left alone. -/
  | idle : Effect f event id (f.backlog.queue id) {}
  /-- A new sub-task lines up. -/
  | assigned (order : TransportOrder) (is_assign : event = .assign order) :
    Effect f event id
      (f.backlog.queue id ++ [.ofOrder id order ((f.backlog.queue id).length + 1)]) {}
  /-- The head is interrupted or taken up again. -/
  | staged (task : SubTask α) (later : List (SubTask α)) (stage : Stage) (command : VehicleCommand)
    (is_stage : (event = .pause id ∧ stage = .pause ∧ command = .pause task.id)
      ∨ (event = .resume id ∧ stage = .run ∧ command = .resume task.id))
    (queue : f.backlog.queue id = task :: later) (may : task.stage.mayBecome stage = true) :
    Effect f event id (task.setStage stage :: later) { emitted := [command] }
  /-- A plan for the head is deferred. -/
  | deferred (task : SubTask α) (later : List (SubTask α)) (candidate : Route)
    (queue : f.backlog.queue id = task :: later) (needsPlan : task.stage.needsPlan = true) :
    Effect f event id ((task.propose candidate).defer :: later) {}
  /-- A plan for the head is committed. -/
  | planned (task : SubTask α) (later : List (SubTask α)) (candidate : Route)
    (queue : f.backlog.queue id = task :: later) (needsPlan : task.stage.needsPlan = true)
    (plannable : f.plannable id task candidate ≠ []) :
    Effect f event id (f.plannedTask id task candidate :: later)
      { committed := some (f.plannable id task candidate)
        emitted := [.move task.id (f.plannable id task candidate)] }
  /-- The vehicle has moved on. -/
  | passed (r : VehicleReport α) (task : SubTask α) (later : List (SubTask α))
    (queue : f.backlog.queue id = task :: later) :
    Effect f event id (r.passed task :: later) {}
  /-- The head is given up. -/
  | cancelled (reason : CancelReason) (task : SubTask α) (later : List (SubTask α))
    (queue : f.backlog.queue id = task :: later) (may : task.stage.mayBecome .cancel = true) :
    Effect f event id later
      { handedBack := some { task.setStage .cancel with cancelReason := some reason }
        emitted := [.cancel task.id] }
  /-- The head is completed. -/
  | finished (task : SubTask α) (later : List (SubTask α))
    (queue : f.backlog.queue id = task :: later) (may : task.stage.mayBecome .finish = true)
    (cost : α) :
    Effect f event id later
      { handedBack := some { task.setStage .finish with realizedCost := cost } }

/-- An event that is about one vehicle leaves the queues of the others alone and comes to nothing
for them. -/
theorem Effect.of_owner {f : Fleet α} {event : FleetEvent α} {owner id : String}
    {queue' : List (SubTask α)} {result : Outcome α}
    (hother : owner ≠ id → queue' = f.backlog.queue id)
    (hself : owner = id → f.Effect event id queue' result) :
    f.Effect event id queue' (if owner = id then result else {}) := by
  split
  · rename_i howner
    exact hself howner
  · rename_i howner
    rw [hother howner]
    exact .idle

theorem effect_plan (f : Fleet α) (event : FleetEvent α) (owner : String) (candidate : Route)
    (id : String) : f.Effect event id ((f.plan owner candidate).2.backlog.queue id)
      (if owner = id then .ofPlan (f.backlog.head? owner) (f.plan owner candidate).1 else {}) := by
  refine .of_owner (fun hne => (f.plan_of_ne hne.symm candidate).1) ?_
  rintro rfl
  rcases f.plan_cases owner candidate with
    ⟨hskip, heq⟩ | ⟨task, hhead, -, hneeds, -, ⟨-, heq⟩ | ⟨hne, heq⟩⟩
  · rw [heq, Outcome.ofPlan_of_skipped hskip]
    exact .idle
  · obtain ⟨later, hqueue⟩ := Backlog.head?_eq_some_iff.mp hhead
    rw [heq]
    show f.Effect event owner ((f.backlog.modifyHead owner _).queue owner) {}
    rw [Backlog.queue_modifyHead_self hqueue]
    exact .deferred task later candidate hqueue hneeds
  · obtain ⟨later, hqueue⟩ := Backlog.head?_eq_some_iff.mp hhead
    rw [heq, hhead]
    show f.Effect event owner ((f.backlog.modifyHead owner _).queue owner) _
    rw [Backlog.queue_modifyHead_self hqueue]
    exact .planned task later candidate hqueue hneeds hne

/-- Nothing is planned if there is nothing left to plan; otherwise it is a plan like any other. -/
theorem effect_planRemaining (f : Fleet α) (owner id : String) :
    f.Effect (.planRemaining owner) id ((f.planRemaining owner).2.backlog.queue id)
      (f.outcome (.planRemaining owner) id) := by
  simp only [outcome]
  rcases f.planRemaining_cases owner with ⟨-, heq⟩ | ⟨task, -, ⟨-, -, heq⟩ | ⟨-, heq⟩⟩
  · rw [heq]
    exact .of_owner (fun _ => rfl) fun _ => .idle
  · rw [heq]
    exact .of_owner (fun _ => rfl) fun _ => .idle
  · rw [heq]
    exact f.effect_plan _ owner task.pendingRoute id

/-- A change of stage is a change of the head of the queue of its vehicle. -/
theorem effect_staged {f : Fleet α} {event : FleetEvent α} {owner : String} {task : SubTask α}
    {stage : Stage} {command : VehicleCommand}
    (his : (event = .pause owner ∧ stage = .pause ∧ command = .pause task.id)
      ∨ (event = .resume owner ∧ stage = .run ∧ command = .resume task.id))
    (hhead : f.backlog.head? owner = some task) (hmay : task.stage.mayBecome stage = true)
    (id : String) : f.Effect event id
      ((f.backlog.modifyHead owner fun _ => task.setStage stage).queue id)
      (if owner = id then { emitted := [command] } else {}) := by
  refine .of_owner (fun hne => ?_) ?_
  · rw [Backlog.queue_modifyHead, if_neg hne]
  · rintro rfl
    obtain ⟨later, hqueue⟩ := Backlog.head?_eq_some_iff.mp hhead
    rw [Backlog.queue_modifyHead_self hqueue]
    exact .staged task later stage command his hqueue hmay

/-- **What an event does to the queue of a vehicle**, and what it comes to. -/
theorem effect_step (f : Fleet α) (event : FleetEvent α) (id : String) :
    f.Effect event id ((f.step event).backlog.queue id) (f.outcome event id) := by
  have hremoved : ∀ {owner : String}, owner ≠ id →
      (f.backlog.removeHead owner).queue id = f.backlog.queue id := by
    intro owner hne
    rw [Backlog.queue_removeHead, if_neg hne]
  cases event with
  | assign order =>
    simp only [step, outcome]
    rcases f.assign_cases order with ⟨hbacklog, -⟩ | ⟨v, -, -, hbacklog, -⟩
    · rw [hbacklog]
      exact .idle
    · rw [hbacklog, Backlog.queue_push]
      split
      · rename_i howner
        obtain rfl : v = id := howner
        exact .assigned order rfl
      · exact .idle
  | report r =>
    simp only [step, outcome]
    cases hv : f.registry.get? r.vehicleId with
    | none =>
      rw [report_unknown hv]
      exact .idle
    | some v =>
      rw [queue_report hv]
      split
      · cases hqueue : f.backlog.queue id with
        | nil =>
          -- There is no head to move on, so that the empty queue is left alone.
          have hidle : f.Effect (.report r) id (f.backlog.queue id) {} := .idle
          rwa [hqueue] at hidle
        | cons task later => exact .passed r task later hqueue
      · exact .idle
  | plan owner candidate => exact f.effect_plan _ owner candidate id
  | planRemaining owner => exact f.effect_planRemaining owner id
  | pause owner =>
    simp only [step, outcome]
    cases h : f.pause owner with
    | error fault => exact .of_owner (fun _ => rfl) fun _ => .idle
    | ok f' =>
      obtain ⟨task, hhead, hmay, rfl⟩ := pause_eq_ok_iff.mp h
      rw [hhead]
      exact effect_staged (Or.inl ⟨rfl, rfl, rfl⟩) hhead hmay id
  | resume owner =>
    simp only [step, outcome]
    cases h : f.resume owner with
    | error fault => exact .of_owner (fun _ => rfl) fun _ => .idle
    | ok f' =>
      obtain ⟨task, hhead, hmay, rfl⟩ := resume_eq_ok_iff.mp h
      rw [hhead]
      exact effect_staged (Or.inr ⟨rfl, rfl, rfl⟩) hhead hmay id
  | cancel owner reason =>
    simp only [step, outcome]
    cases h : f.cancel owner reason with
    | error fault => exact .of_owner (fun _ => rfl) fun _ => .idle
    | ok result =>
      obtain ⟨task, hhead, hmay, rfl⟩ := cancel_eq_ok_iff.mp h
      refine .of_owner hremoved ?_
      rintro rfl
      obtain ⟨later, hqueue⟩ := Backlog.head?_eq_some_iff.mp hhead
      show f.Effect _ owner ((f.backlog.removeHead owner).queue owner) _
      rw [Backlog.queue_removeHead, if_pos rfl, hqueue]
      exact .cancelled reason task later hqueue hmay
  | finish owner =>
    simp only [step, outcome]
    cases h : f.finish owner with
    | error fault => exact .of_owner (fun _ => rfl) fun _ => .idle
    | ok result =>
      obtain ⟨task, hhead, hmay, rfl⟩ := finish_eq_ok_iff.mp h
      refine .of_owner hremoved ?_
      rintro rfl
      obtain ⟨later, hqueue⟩ := Backlog.head?_eq_some_iff.mp hhead
      show f.Effect _ owner ((f.backlog.removeHead owner).queue owner) _
      rw [Backlog.queue_removeHead, if_pos rfl, hqueue]
      exact .finished task later hqueue hmay _
  | takeOffline owner => exact .idle
  | deliver owner worker =>
    simp only [step, deliver, outcome]
    split <;> exact .idle

end Fleet

end AgvDispatch
