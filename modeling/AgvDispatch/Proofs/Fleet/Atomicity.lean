import AgvDispatch.Proofs.Fleet.Operation
/-!
# Operations that fail

An operation such as `Fleet.cancel` is defined as a whole: it looks for everything that can go wrong
first, and the fleet that it fails on is not mentioned in its result. Carried out one write after
the other it has to take more care, for what has been written stays when a later step fails. A
**procedure** (`Procedure`) is an operation in this form, and `StageOperation.procedure` has the
writes of the four operations that change the stage of a sub-task in their order.

No procedure fails after its first write: the only step that can fail is the first one
(`StageOperation.exec_procedure_of_error`), and once it has succeeded there is a head to be taken.
So procedures come to the same as the operations (`StageOperation.exec_procedure_of_ok`). The maps
in which the queues are kept may be built differently, as a queue that is written to twice is
entered twice; they have the same entries (`Fleet.Alike`). Plans cannot fail, but a plan may be
given up after its first write; it has then written to the head of one queue only
(`Fleet.run_planning`, `Fleet.spared_plan`).

`Fleet.intact` gathers what an operation without success leaves as it was.
-/

namespace AgvDispatch

/-- Entering a queue twice comes to the same as entering it once. -/
theorem Backlog.queues_setQueue_setQueue {α : Type} (b : Backlog α) (id : String)
    (tasks tasks' : List (SubTask α)) :
    ((b.setQueue id tasks).setQueue id tasks').queues.Equiv (b.setQueue id tasks').queues := by
  refine .of_forall_constGet?_eq fun other => ?_
  have hfirst : ∀ other, other ≠ id → (b.setQueue id tasks).queues[other]? = b.queues[other]? := by
    intro other hne
    unfold setQueue
    cases tasks <;> simp [Std.TreeMap.getElem?_insert, Std.TreeMap.getElem?_erase, hne.symm]
  by_cases hother : other = id
  · subst hother
    cases tasks' <;> simp [setQueue]
  · have hrest : ∀ b : Backlog α, (b.setQueue id tasks').queues[other]? = b.queues[other]? := by
      intro b
      unfold setQueue
      cases tasks' <;>
        simp [Std.TreeMap.getElem?_insert, Std.TreeMap.getElem?_erase, Ne.symm hother]
    rw [hrest, hrest, hfirst other hother]

variable {α : Type} [Scalar α]

/-! ### Procedures -/

/-- What reads from a fleet and writes to it step by step. What has been written stays when it
fails. -/
abbrev Procedure (α β : Type) [Scalar α] := ExceptT Fault (StateM (Fleet α)) β

namespace Procedure

variable {β γ : Type}

/-- Carries a procedure out. -/
def exec (p : Procedure α β) (f : Fleet α) : Except Fault β × Fleet α :=
  p.run.run f

/-- A procedure that fails does so as it is. -/
theorem exec_bind_of_error {p : Procedure α β} {f f' : Fleet α} {fault : Fault}
    (h : p.exec f = (.error fault, f')) (next : β → Procedure α γ) :
    exec (p >>= next) f = (.error fault, f') := by
  show (ExceptT.bindCont next (p.exec f).1 : StateM (Fleet α) _) (p.exec f).2 = _
  rw [h]
  rfl

/-- A procedure that succeeds goes on with what it has written. -/
theorem exec_bind_of_ok {p : Procedure α β} {f f' : Fleet α} {b : β}
    (h : p.exec f = (.ok b, f')) (next : β → Procedure α γ) :
    exec (p >>= next) f = (next b).exec f' := by
  show (ExceptT.bindCont next (p.exec f).1 : StateM (Fleet α) _) (p.exec f).2 = _
  rw [h]
  rfl

end Procedure

namespace Fleet

/-- Has the head of a queue enter a stage. -/
def enterStage (id : String) (stage : Stage) : Procedure α String := do
  match (← get).backlog.head? id with
  | none => throw (.noActiveTask id)
  | some task =>
    match task.advance stage with
    | .error fault => throw fault
    | .ok task' =>
      modify fun f => f.edit id fun _ => task'
      return task'.id

/-- Removes the head of a queue, drops the reservation of the vehicle, and frees the vehicle if
nothing is left to do. -/
def takeHead (id : String) : Procedure α (SubTask α) := do
  match (← get).backlog.head? id with
  | none => throw (.noActiveTask id)
  | some task =>
    modify fun f => { f with backlog := f.backlog.removeHead id }
    modify fun f => { f with traffic := (f.traffic.reserve f.network id [] 0).2 }
    unless (← get).backlog.hasTask id do
      modify fun f => { f with registry := f.registry.modify id freed }
    return task

/-- **What is written when a stage is entered**: the head of the queue, or nothing if it cannot
enter the stage. -/
theorem exec_enterStage (f : Fleet α) (id : String) (stage : Stage) :
    (enterStage id stage).exec f = match f.advanceHead id stage with
      | .error fault => (.error fault, f)
      | .ok task' => (.ok task'.id, f.edit id fun _ => task') := by
  have hexec : (enterStage id stage).exec f = match f.backlog.head? id with
      | none => (.error (.noActiveTask id), f)
      | some task => match task.advance stage with
        | .error fault => (.error fault, f)
        | .ok task' => (.ok task'.id, f.edit id fun _ => task') := by
    unfold enterStage
    show Procedure.exec (match f.backlog.head? id with | none => _ | some task => _) f = _
    split
    · rfl
    · split <;> rfl
  rw [hexec]
  unfold advanceHead
  cases f.backlog.head? id <;> rfl

/-- If there is a head, it can be taken. -/
theorem exec_takeHead {f : Fleet α} {id : String} {task : SubTask α}
    (h : f.backlog.head? id = some task) : (takeHead id).exec f = (.ok task, f.closeHead id) := by
  unfold takeHead
  show Procedure.exec (match f.backlog.head? id with | none => _ | some task => _) f = _
  rw [h]
  -- The vehicle is freed if the queue is empty after the head has been removed.
  show Procedure.exec (do
    unless (f.backlog.removeHead id).hasTask id do
      modify fun f => { f with registry := f.registry.modify id freed }
    return task) { f with
      backlog := f.backlog.removeHead id
      traffic := f.traffic.dropReservation id } = _
  unfold closeHead
  cases hmore : (f.backlog.removeHead id).hasTask id
  · simp only [hmore]
    rfl
  · simp only [hmore]
    rfl

theorem advanceHead_eq_error_iff {f : Fleet α} {id : String} {stage : Stage} :
    (∃ fault, f.advanceHead id stage = .error fault)
      ↔ ∀ task ∈ f.backlog.head? id, task.stage.mayBecome stage = false := by
  unfold advanceHead SubTask.advance
  cases f.backlog.head? id with
  | none => simp
  | some task => by_cases hmay : task.stage.mayBecome stage = true <;> simp [hmay]

theorem advanceHead_eq_ok_iff {f : Fleet α} {id : String} {stage : Stage} {task' : SubTask α} :
    f.advanceHead id stage = .ok task' ↔ ∃ task, f.backlog.head? id = some task
      ∧ task.stage.mayBecome stage = true ∧ task.setStage stage = task' := by
  have hbind := @advanceHead_bind_eq_ok_iff α _ (SubTask α) f id stage .ok task'
  rw [show (f.advanceHead id stage >>= .ok) = f.advanceHead id stage from bind_pure _] at hbind
  simpa only [Except.ok.injEq] using hbind

/-! ### Fleets that are alike -/

/-- **Whether two fleets are alike**: they have the same queues, which may be kept in maps that are
built differently, and agree in everything else. -/
structure Alike (f f' : Fleet α) : Prop where
  queues : f.backlog.queues.Equiv f'.backlog.queues
  rest : { f with backlog := f'.backlog } = f'

theorem Alike.refl (f : Fleet α) : f.Alike f :=
  ⟨.rfl, rfl⟩

theorem Alike.emit {f f' : Fleet α} (h : f.Alike f') (id : String) (command : VehicleCommand) :
    (f.emit id command).Alike (f'.emit id command) := by
  obtain ⟨hqueues, hrest⟩ := h
  refine ⟨hqueues, ?_⟩
  rw [← hrest]
  rfl

/-- Writing to the head of a queue twice comes to the same as writing to it once. -/
theorem alike_edit_edit {f : Fleet α} {id : String} {task : SubTask α}
    (h : f.backlog.head? id = some task) (change change' : SubTask α → SubTask α) :
    ((f.edit id change).edit id change').Alike (f.edit id fun _ => change' (change task)) := by
  obtain ⟨later, hqueue⟩ := Backlog.head?_eq_some_iff.mp h
  refine ⟨?_, rfl⟩
  have honce : ∀ change, f.backlog.modifyHead id change
      = f.backlog.setQueue id (change task :: later) := by
    intro change
    unfold Backlog.modifyHead
    rw [hqueue]
  have htwice : (f.backlog.modifyHead id change).modifyHead id change'
      = (f.backlog.setQueue id (change task :: later)).setQueue id
        (change' (change task) :: later) := by
    rw [honce]
    unfold Backlog.modifyHead
    rw [Backlog.queue_setQueue, if_pos rfl]
  show ((f.backlog.modifyHead id change).modifyHead id change').queues.Equiv
    (f.backlog.modifyHead id fun _ => change' (change task)).queues
  rw [htwice, honce]
  exact f.backlog.queues_setQueue_setQueue id _ _

/-- What has been written to the head of a queue is gone when the head is. -/
theorem alike_closeHead_edit (f : Fleet α) (id : String) (change : SubTask α → SubTask α) :
    ((f.edit id change).closeHead id).Alike (f.closeHead id) := by
  cases hqueue : f.backlog.queue id with
  | nil =>
    have hsame : f.edit id change = f := by
      unfold edit Backlog.modifyHead
      rw [hqueue]
    rw [hsame]
    exact .refl _
  | cons task later =>
    have hedit : (f.backlog.modifyHead id change).removeHead id
        = (f.backlog.setQueue id (change task :: later)).setQueue id later := by
      unfold Backlog.modifyHead Backlog.removeHead
      rw [hqueue]
      simp only
      rw [Backlog.queue_setQueue, if_pos rfl, List.tail_cons]
    have hplain : f.backlog.removeHead id = f.backlog.setQueue id later := by
      unfold Backlog.removeHead
      rw [hqueue, List.tail_cons]
    have hmore : ((f.backlog.modifyHead id change).removeHead id).hasTask id
        = (f.backlog.removeHead id).hasTask id := by
      unfold Backlog.hasTask
      rw [hedit, hplain, Backlog.queue_setQueue, if_pos rfl, Backlog.queue_setQueue, if_pos rfl]
    refine ⟨?_, ?_⟩
    · show ((f.backlog.modifyHead id change).removeHead id).queues.Equiv
        (f.backlog.removeHead id).queues
      rw [hedit, hplain]
      exact f.backlog.queues_setQueue_setQueue id _ _
    · show ({ f with
        backlog := f.backlog.removeHead id
        traffic := f.traffic.dropReservation id
        registry := if ((f.backlog.modifyHead id change).removeHead id).hasTask id then f.registry
          else f.registry.modify id freed } : Fleet α) = _
      rw [hmore]
      rfl

end Fleet

/-! ### Changes of stage -/

/-- The operations that change the stage of the head of a queue. -/
inductive StageOperation where
  /-- The vehicle is to stop driving. -/
  | pause
  /-- The vehicle is to get ready to drive on. -/
  | resume
  /-- The sub-task is given up. -/
  | cancel (reason : CancelReason)
  /-- The sub-task is completed. -/
  | finish

namespace StageOperation

open Fleet

/-- The stage that the head enters. -/
def stage : StageOperation → Stage
  | pause => .pause
  | resume => .run
  | cancel _ => .cancel
  | finish => .finish

/-- The operation as a whole, with the sub-task that it hands back. -/
def perform (op : StageOperation) (f : Fleet α) (id : String) :
    Except Fault (Option (SubTask α) × Fleet α) :=
  match op with
  | pause => (f.pause id).map fun f => (none, f)
  | resume => (f.resume id).map fun f => (none, f)
  | cancel reason => (f.cancel id reason).map fun (task, f) => (some task, f)
  | finish => (f.finish id).map fun (task, f) => (some task, f)

/-- What comes of the operation when the head has entered the stage. -/
def conclude (op : StageOperation) (f : Fleet α) (id : String) (task' : SubTask α) :
    Option (SubTask α) × Fleet α :=
  match op with
  | pause => (none, (f.edit id fun _ => task').emit id (.pause task'.id))
  | resume => (none, (f.edit id fun _ => task').emit id (.resume task'.id))
  | cancel reason => (some { task' with cancelReason := some reason },
    (f.closeHead id).emit id (.cancel task'.id))
  | finish => (some { task' with
      realizedCost := f.network.routeLength (task'.traveled ++ task'.effectiveRoute.take 1) },
    f.closeHead id)

/-- The operation write by write. -/
def procedure (op : StageOperation) (id : String) : Procedure α (Option (SubTask α)) :=
  match op with
  | pause => do
    let taskId ← enterStage id .pause
    modify fun f => f.emit id (.pause taskId)
    return none
  | resume => do
    let taskId ← enterStage id .run
    modify fun f => f.emit id (.resume taskId)
    return none
  | cancel reason => do
    let taskId ← enterStage id .cancel
    let task ← takeHead id
    modify fun f => f.emit id (.cancel taskId)
    return some { task with cancelReason := some reason }
  | finish => do
    let _ ← enterStage id .finish
    let task ← takeHead id
    let driven := task.traveled ++ task.effectiveRoute.take 1
    return some { task with realizedCost := (← get).network.routeLength driven }

variable {f : Fleet α} {id : String}

/-- The only thing that can go wrong is that the head cannot enter the stage. -/
theorem perform_eq (op : StageOperation) (f : Fleet α) (id : String) :
    op.perform f id = (f.advanceHead id op.stage).map (op.conclude f id) := by
  cases op with
  | pause =>
    unfold perform Fleet.pause stage
    cases f.advanceHead id .pause <;> rfl
  | resume =>
    unfold perform Fleet.resume stage
    cases f.advanceHead id .run <;> rfl
  | cancel reason =>
    unfold perform Fleet.cancel stage
    cases f.advanceHead id .cancel <;> rfl
  | finish =>
    unfold perform Fleet.finish stage
    cases f.advanceHead id .finish <;> rfl

/-- **A procedure that fails has written nothing.** -/
theorem exec_procedure_of_error {op : StageOperation} {fault : Fault}
    (h : f.advanceHead id op.stage = .error fault) :
    (op.procedure id).exec f = (.error fault, f) := by
  have henter : (enterStage id op.stage).exec f = (.error fault, f) := by
    rw [exec_enterStage, h]
  cases op with
  | pause => exact Procedure.exec_bind_of_error henter _
  | resume => exact Procedure.exec_bind_of_error henter _
  | cancel reason => exact Procedure.exec_bind_of_error henter _
  | finish => exact Procedure.exec_bind_of_error henter _

/-- **A procedure that has entered the stage succeeds**, and it comes to the same as the
operation. -/
theorem exec_procedure_of_ok {op : StageOperation} {task' : SubTask α}
    (h : f.advanceHead id op.stage = .ok task') : ∃ f'',
      (op.procedure id).exec f = (.ok (op.conclude f id task').1, f'')
        ∧ f''.Alike (op.conclude f id task').2 := by
  have henter : (enterStage id op.stage).exec f = (.ok task'.id, f.edit id fun _ => task') := by
    rw [exec_enterStage, h]
  -- The head that has entered the stage is still there to be taken.
  have htake : (takeHead id).exec (f.edit id fun _ => task')
      = (.ok task', (f.edit id fun _ => task').closeHead id) := by
    obtain ⟨task, hhead, -, -⟩ := advanceHead_eq_ok_iff.mp h
    refine exec_takeHead ?_
    show (f.backlog.modifyHead id fun _ => task').head? id = some task'
    rw [Backlog.head?_modifyHead, if_pos rfl, hhead]
    rfl
  cases op with
  | pause => exact ⟨_, Procedure.exec_bind_of_ok henter _, .refl _⟩
  | resume => exact ⟨_, Procedure.exec_bind_of_ok henter _, .refl _⟩
  | cancel reason =>
    refine ⟨((f.edit id fun _ => task').closeHead id).emit id (.cancel task'.id), ?_,
      (f.alike_closeHead_edit id _).emit id _⟩
    refine (Procedure.exec_bind_of_ok henter _).trans ?_
    exact Procedure.exec_bind_of_ok htake _
  | finish =>
    refine ⟨(f.edit id fun _ => task').closeHead id, ?_, f.alike_closeHead_edit id _⟩
    refine (Procedure.exec_bind_of_ok henter _).trans ?_
    exact Procedure.exec_bind_of_ok htake _

end StageOperation

namespace Fleet

/-! ### Plans -/

/-- A write comes first, and what follows finds it done. -/
theorem run_modify_bind {β : Type} (write : Fleet α → Fleet α) (next : StateM (Fleet α) β)
    (f : Fleet α) :
    (do modify write; next : StateM (Fleet α) β).run f = next.run (write f) := rfl

theorem run_get_bind {β : Type} (next : Fleet α → StateM (Fleet α) β) (f : Fleet α) :
    (do next (← get) : StateM (Fleet α) β).run f = (next f).run f := rfl

/-- The writes of a plan once a segment has been committed to a sub-task. -/
def recording (id : String) (segment : Route) (planned : SubTask α) :
    StateM (Fleet α) PlanOutcome := do
  modify fun f => f.edit id fun _ => planned
  modify fun f => { f with traffic := (f.traffic.reserve f.network id planned.effectiveRoute
    f.settings.traffic.bufferRadius).2 }
  modify fun f => f.emit id (.move planned.id segment)
  return .committed segment

/-- The last part of a plan, write by write. The head of the queue is looked up again, as it might
have gone. -/
def committing (id : String) (segment : Route) : StateM (Fleet α) PlanOutcome := do
  match (← get).backlog.head? id with
  | none => return .noTask
  | some task =>
    recording id segment (task.commitPlan segment ((← get).network.routeLength segment))

/-- The part of a plan that writes anything, write by write. -/
def proposing (id : String) (candidate : Route) (current : SubTask α) :
    StateM (Fleet α) PlanOutcome := do
  modify fun f => f.edit id fun task => task.propose candidate
  let segment := (← get).plannable id current candidate
  if segment.isEmpty then
    modify fun f => f.edit id fun task => task.defer
    return .deferred
  else committing id segment

/-- A plan write by write. -/
def planning (id : String) (candidate : Route) : StateM (Fleet α) PlanOutcome := do
  match (← get).backlog.head? id with
  | none => return .noTask
  | some current =>
    if !current.isLive then return .noTask
    else if !current.stage.needsPlan || candidate.isEmpty then return .deferred
    else proposing id candidate current

theorem run_recording (f : Fleet α) (id : String) (segment : Route) (planned : SubTask α) :
    (recording id segment planned).run f = (.committed segment,
      ({ f.edit id fun _ => planned with
        traffic := (f.traffic.reserve f.network id planned.effectiveRoute
          f.settings.traffic.bufferRadius).2 } : Fleet α).emit id (.move planned.id segment)) := by
  unfold recording
  rw [run_modify_bind, run_modify_bind, run_modify_bind]
  rfl

theorem run_committing {f : Fleet α} {id : String} {task : SubTask α}
    (h : f.backlog.head? id = some task) (segment : Route) : (committing id segment).run f
      = (recording id segment
        (task.commitPlan segment (f.network.routeLength segment))).run f := by
  unfold committing
  rw [run_get_bind, h]
  exact run_get_bind _ f

/-- What is noted in a sub-task is not what the search for a safe part looks at. -/
theorem plannable_edit (f : Fleet α) (id : String) (change : SubTask α → SubTask α)
    (owner : String) (task : SubTask α) (candidate : Route) :
    (f.edit id change).plannable owner task candidate = f.plannable owner task candidate := rfl

theorem run_proposing (f : Fleet α) (id : String) (candidate : Route) (current : SubTask α) :
    (proposing id candidate current).run f
      = if f.plannable id current candidate = [] then
          (.deferred, (f.edit id fun task => task.propose candidate).edit id fun task => task.defer)
        else (committing id (f.plannable id current candidate)).run
          (f.edit id fun task => task.propose candidate) := by
  unfold proposing
  rw [run_modify_bind, run_get_bind, plannable_edit]
  by_cases hnone : f.plannable id current candidate = []
  · rw [if_pos hnone, if_pos (List.isEmpty_iff.mpr hnone)]
    rfl
  · rw [if_neg hnone, if_neg (by rwa [List.isEmpty_iff])]

/-- **A plan that is made write by write** comes to the same as one that is made as a whole. -/
theorem run_planning (f : Fleet α) (id : String) (candidate : Route) : ∃ f'',
    (planning id candidate).run f = ((f.plan id candidate).1, f'')
      ∧ f''.Alike (f.plan id candidate).2 := by
  have hrun : (planning id candidate).run f = match f.backlog.head? id with
      | none => (.noTask, f)
      | some current =>
        if !current.isLive then (.noTask, f)
        else if !current.stage.needsPlan || candidate.isEmpty then (.deferred, f)
        else (proposing id candidate current).run f := by
    unfold planning
    show StateT.run (match f.backlog.head? id with | none => _ | some current => _) f = _
    split
    · rfl
    · rename_i current _
      cases current.isLive
      · rfl
      · cases !current.stage.needsPlan || candidate.isEmpty <;> rfl
  rw [hrun]
  cases hhead : f.backlog.head? id with
  | none =>
    rw [plan_noTask hhead]
    exact ⟨f, rfl, .refl f⟩
  | some task =>
    unfold plan
    rw [hhead]
    simp only
    split
    · exact ⟨f, rfl, .refl f⟩
    · split
      · exact ⟨f, rfl, .refl f⟩
      · rw [run_proposing]
        by_cases hnone : f.plannable id task candidate = []
        · rw [if_pos hnone, if_pos (List.isEmpty_iff.mpr hnone)]
          exact ⟨_, rfl, alike_edit_edit hhead _ _⟩
        · have hhead' : (f.edit id fun task => task.propose candidate).backlog.head? id
              = some (task.propose candidate) := by
            show (f.backlog.modifyHead id fun task => task.propose candidate).head? id = _
            rw [Backlog.head?_modifyHead, if_pos rfl, hhead]
            rfl
          rw [if_neg hnone, if_neg (by rwa [List.isEmpty_iff]), run_committing hhead',
            run_recording]
          refine ⟨_, rfl, Alike.emit ⟨?_, rfl⟩ id _⟩
          exact (alike_edit_edit hhead (fun task => task.propose candidate) _).queues

/-! ### Without success -/

/-- **Whether at most the plan of the head of one queue differs** from what it was in the fleet
`f`. -/
structure Spared (f : Fleet α) (id : String) (f' : Fleet α) : Prop where
  settings_eq : f'.settings = f.settings
  registry_eq : f'.registry = f.registry
  network_eq : f'.network = f.network
  /-- Reservations, footprints and the count of corridors are as they were. -/
  traffic_eq : f'.traffic = f.traffic
  distributor_eq : f'.distributor = f.distributor
  dispatcher_eq : f'.dispatcher = f.dispatcher
  sink_eq : f'.sink = f.sink
  queue_of_ne : ∀ other, other ≠ id → f'.backlog.queue other = f.backlog.queue other
  /-- The expected route is only written to if there is none. -/
  queue_eq : f'.backlog.queue id = f.backlog.queue id
    ∨ ∃ task later expected candidate mark blocked, f.backlog.queue id = task :: later
      ∧ f'.backlog.queue id = { task with expected, candidate, mark, blocked } :: later
      ∧ (task.expected ≠ [] → expected = task.expected)

theorem Spared.refl (f : Fleet α) (id : String) : f.Spared id f :=
  ⟨rfl, rfl, rfl, rfl, rfl, rfl, rfl, fun _ _ => rfl, Or.inl rfl⟩

/-- A plan that is not committed spares everything but the plan of the head. -/
theorem spared_plan {f : Fleet α} {id : String} {candidate : Route}
    (h : ∀ segment, (f.plan id candidate).1 ≠ .committed segment) :
    f.Spared id (f.plan id candidate).2 := by
  rcases f.plan_cases id candidate with
    ⟨-, heq⟩ | ⟨task, hhead, -, -, -, ⟨-, heq⟩ | ⟨-, heq⟩⟩
  · rw [heq]
    exact .refl f id
  · obtain ⟨later, hqueue⟩ := Backlog.head?_eq_some_iff.mp hhead
    rw [heq]
    refine ⟨rfl, rfl, rfl, rfl, rfl, rfl, rfl, fun other hne => ?_, Or.inr ?_⟩
    · exact (Backlog.queue_modifyHead _ _ _ _).trans (if_neg hne.symm)
    · refine ⟨task, later, if task.expected.isEmpty then candidate else task.expected, candidate,
        .unplanned, true, hqueue, ?_, fun hexpected => ?_⟩
      · refine (Backlog.queue_modifyHead _ _ _ _).trans ?_
        rw [if_pos rfl, hqueue]
        rfl
      · rw [if_neg (by rwa [List.isEmpty_iff])]
  · exact absurd (congrArg Prod.fst heq) (h _)

theorem spared_planRemaining {f : Fleet α} {id : String}
    (h : ∀ segment, (f.planRemaining id).1 ≠ .committed segment) :
    f.Spared id (f.planRemaining id).2 := by
  rcases f.planRemaining_cases id with ⟨-, heq⟩ | ⟨task, -, ⟨-, -, heq⟩ | ⟨-, heq⟩⟩
  · rw [heq]
    exact .refl f id
  · rw [heq]
    exact .refl f id
  · rw [heq] at h ⊢
    exact spared_plan h

/-- An order for which no vehicle is found concerns no one but who looked for it. -/
theorem assign_of_none {f : Fleet α} {order : TransportOrder} (h : (f.assign order).1 = none) :
    (f.assign order).2 = { f with distributor := (f.assign order).2.distributor } := by
  unfold assign at h ⊢
  simp only at h ⊢
  cases hchosen : (f.distributor.distribute f.registry f.network f.backlog order).1 with
  | none => rfl
  | some v =>
    simp only [hchosen] at h
    split at h <;> cases h

theorem report_of_none {f : Fleet α} {r : VehicleReport α} (h : (f.report r).1 = none) :
    (f.report r).2 = f := by
  cases hv : f.registry.get? r.vehicleId with
  | none => rw [report_unknown hv]
  | some v =>
    unfold report at h
    rw [hv] at h
    cases h

/-- **What operations without success leave as it was.** -/
structure Intact (f : Fleet α) : Prop where
  /-- A change of stage fails exactly if there is no head that may enter the stage. -/
  error_iff : ∀ (op : StageOperation) id, (∃ fault, op.perform f id = .error fault)
    ↔ ∀ task ∈ f.backlog.head? id, task.stage.mayBecome op.stage = false
  /-- A change of stage that fails, made write by write, leaves the fleet as it is. -/
  exec_of_error : ∀ (op : StageOperation) id fault, op.perform f id = .error fault →
    (op.procedure id).exec f = (.error fault, f)
  /-- One that does not fail comes to the same when it is made write by write. -/
  exec_of_ok : ∀ (op : StageOperation) id result f', op.perform f id = .ok (result, f') →
    ∃ f'', (op.procedure id).exec f = (.ok result, f'') ∧ f''.Alike f'
  assign : ∀ order, (f.assign order).1 = none →
    (f.assign order).2 = { f with distributor := (f.assign order).2.distributor }
  report : ∀ r, (f.report r).1 = none → (f.report r).2 = f
  plan : ∀ id candidate, (f.plan id candidate).1 = .deferred ∨ (f.plan id candidate).1 = .noTask →
    f.Spared id (f.plan id candidate).2
  /-- A plan comes to the same when it is made write by write. -/
  run_planning : ∀ id candidate, ∃ f'',
    (planning id candidate).run f = ((f.plan id candidate).1, f'')
      ∧ f''.Alike (f.plan id candidate).2
  planRemaining : ∀ id, (f.planRemaining id).1 = .deferred ∨ (f.planRemaining id).1 = .noTask →
    f.Spared id (f.planRemaining id).2

/-- **No operation without success leaves anything half done.** -/
theorem intact (f : Fleet α) : f.Intact where
  error_iff := by
    intro op id
    rw [← advanceHead_eq_error_iff, op.perform_eq]
    cases f.advanceHead id op.stage <;> simp [Except.map]
  exec_of_error := by
    intro op id fault hperform
    rw [op.perform_eq] at hperform
    cases hadvance : f.advanceHead id op.stage with
    | error fault' =>
      rw [hadvance] at hperform
      obtain rfl : fault' = fault := Except.error.inj hperform
      exact StageOperation.exec_procedure_of_error hadvance
    | ok task' =>
      rw [hadvance] at hperform
      cases hperform
  exec_of_ok := by
    intro op id result f' hperform
    rw [op.perform_eq] at hperform
    cases hadvance : f.advanceHead id op.stage with
    | error fault =>
      rw [hadvance] at hperform
      cases hperform
    | ok task' =>
      rw [hadvance] at hperform
      have hconclude : op.conclude f id task' = (result, f') := Except.ok.inj hperform
      have hexec := StageOperation.exec_procedure_of_ok hadvance
      rwa [hconclude] at hexec
  assign := fun _ => assign_of_none
  report := fun _ => report_of_none
  plan := by
    intro id candidate hnone
    refine spared_plan fun segment hcommitted => ?_
    rw [hcommitted] at hnone
    rcases hnone with h | h <;> cases h
  run_planning := f.run_planning
  planRemaining := by
    intro id hnone
    refine spared_planRemaining fun segment hcommitted => ?_
    rw [hcommitted] at hnone
    rcases hnone with h | h <;> cases h

end Fleet

end AgvDispatch
