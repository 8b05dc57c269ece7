import AgvDispatch.Proofs.Fleet.Bookkeeping
import AgvDispatch.Proofs.Fleet.Commitment
import AgvDispatch.Proofs.Fleet.Effect
import Mathlib.Data.List.Forall2
/-!
# The life of a sub-task

A sub-task begins its life when an order lines up, and ends it when it is handed back. In between,
every event leaves it in its stage or takes it one step along the graph of stages, and the stage
that it comes from is kept (`SubTask.Evolves`). While a plan is in force (`SubTask.PlanInForce`) the
plan mark says so; whatever changes the stage withdraws the mark, and only a commitment sets it.

A fleet on record (`Chronicle`) keeps the records of each sub-task from the first to the last one.
`Chronicle.lifecycle_run` says what these lives look like, whatever happens to a fleet that begins
with empty queues. A life is told from the others by its place in the queue, as nothing but the head
ever leaves a queue; the ids of sub-tasks would not do, for two of them can be equal.
-/

namespace AgvDispatch

variable {α : Type}

namespace SubTask

/-- **Whether a sub-task may become another one in an event**: it is still the same sub-task, in the
same stage or one step further. -/
structure Evolves (t t' : SubTask α) : Prop where
  vehicleId_eq : t'.vehicleId = t.vehicleId
  id_eq : t'.id = t.id
  orderCode_eq : t'.orderCode = t.orderCode
  number_eq : t'.number = t.number
  stage_step : (t'.stage = t.stage ∧ t'.previousStage = t.previousStage)
    ∨ (t.stage.mayBecome t'.stage = true ∧ t'.previousStage = some t.stage)

/-- **What the plan mark stands for.** -/
structure PlanInForce (t : SubTask α) : Prop where
  stage_eq : t.stage = .run
  running_ne_nil : t.running ≠ []
  candidate_eq : t.candidate = []
  blocked_eq : t.blocked = false
  runningEnd_eq : t.runningEnd = t.planDestination

/-- Whether the plan mark of a sub-task tells the truth. -/
structure Marked (t : SubTask α) : Prop where
  /-- No plan is being made, as a plan is made within one event. -/
  mark_ne_planning : t.mark ≠ .planning
  planInForce : t.mark = .planned → t.PlanInForce

theorem Marked.of_unplanned {t : SubTask α} (h : t.mark = .unplanned) : t.Marked := by
  refine ⟨?_, fun hplanned => ?_⟩
  · rw [h]
    decide
  · rw [h] at hplanned
    cases hplanned

theorem Evolves.refl (t : SubTask α) : t.Evolves t :=
  ⟨rfl, rfl, rfl, rfl, Or.inl ⟨rfl, rfl⟩⟩

theorem evolves_setStage {t : SubTask α} {stage : Stage} (h : t.stage.mayBecome stage = true) :
    t.Evolves (t.setStage stage) :=
  ⟨rfl, rfl, rfl, rfl, Or.inr ⟨h, rfl⟩⟩

theorem evolves_defer (t : SubTask α) (candidate : Route) :
    t.Evolves (t.propose candidate).defer :=
  ⟨rfl, rfl, rfl, rfl, Or.inl ⟨rfl, rfl⟩⟩

/-- A sub-task is only started if its stage allows it. -/
theorem evolves_startRunning (t : SubTask α) : t.Evolves t.startRunning := by
  unfold startRunning
  split
  · rename_i hstart
    rw [Bool.and_eq_true] at hstart
    exact evolves_setStage hstart.2
  · exact .refl t

@[simp] theorem blocked_startRunning (t : SubTask α) : t.startRunning.blocked = t.blocked := by
  unfold startRunning
  split <;> rfl

@[simp] theorem planDestination_startRunning (t : SubTask α) :
    t.startRunning.planDestination = t.planDestination := by
  unfold startRunning
  split <;> rfl

/-- A report may move a vehicle on, and that is all. -/
theorem exists_passed_eq (r : VehicleReport α) (t : SubTask α) : ∃ traveled expectedNext,
    r.passed t = { t with traveled := traveled, expectedNext := expectedNext } := by
  unfold VehicleReport.passed
  split
  · exact ⟨t.traveled, t.expectedNext, rfl⟩
  · rename_i here _
    rcases t.reach_cases here with heq | ⟨i, -, heq⟩
    · exact ⟨t.traveled, t.expectedNext, heq⟩
    · exact ⟨_, _, heq⟩

theorem evolves_passed (r : VehicleReport α) (t : SubTask α) : t.Evolves (r.passed t) := by
  obtain ⟨traveled, expectedNext, heq⟩ := exists_passed_eq r t
  rw [heq]
  exact ⟨rfl, rfl, rfl, rfl, Or.inl ⟨rfl, rfl⟩⟩

theorem Marked.passed {t : SubTask α} (h : t.Marked) (r : VehicleReport α) :
    (r.passed t).Marked := by
  obtain ⟨traveled, expectedNext, heq⟩ := exists_passed_eq r t
  rw [heq]
  refine ⟨h.mark_ne_planning, fun hplanned => ?_⟩
  obtain ⟨hstage, hrunning, hcandidate, hblocked, hend⟩ := h.planInForce hplanned
  exact ⟨hstage, hrunning, hcandidate, hblocked, hend⟩

variable [Scalar α]

theorem evolves_commitPlan (t : SubTask α) (candidate segment : Route) (length : α) :
    t.Evolves ((t.propose candidate).commitPlan segment length) := by
  -- What is started has been given a candidate and a segment, which are no concern of its stage.
  have hstarted : ∀ u : SubTask α, u.vehicleId = t.vehicleId → u.id = t.id →
      u.orderCode = t.orderCode → u.number = t.number → u.stage = t.stage →
      u.previousStage = t.previousStage → t.Evolves (u.startRunning.setMark .planned) := by
    intro u hvehicle hid horder hnumber hstage hprevious
    have hevolves := evolves_startRunning u
    have hstep := hevolves.stage_step
    rw [hstage, hprevious] at hstep
    exact ⟨hevolves.vehicleId_eq.trans hvehicle, hevolves.id_eq.trans hid,
      hevolves.orderCode_eq.trans horder, hevolves.number_eq.trans hnumber, hstep⟩
  exact hstarted _ rfl rfl rfl rfl rfl rfl

/-- A route that a segment is joined to ends where the segment ends. -/
theorem getLast?_joinRoutes (route : Route) {segment : Route} (hne : segment ≠ []) :
    (joinRoutes route segment).getLast? = segment.getLast? := by
  obtain ⟨init, hinit⟩ := suffix_joinRoutes route segment
  rw [← hinit, List.getLast?_append_of_ne_nil init hne]

/-- **A plan is in force once it has been committed.** -/
theorem planInForce_commitPlan {t : SubTask α} (h : t.stage.needsPlan = true) {segment : Route}
    (hne : segment ≠ []) (length : α) : (t.commitPlan segment length).PlanInForce where
  stage_eq := stage_commitPlan_of_needsPlan t h segment length
  running_ne_nil := by
    rw [running_commitPlan]
    exact joinRoutes_ne_nil hne
  candidate_eq := candidate_commitPlan t segment length
  blocked_eq := by simp [commitPlan, setMark]
  runningEnd_eq := by
    have hdestination : (t.commitPlan segment length).planDestination = segment.getLast? := by
      simp [commitPlan, setMark]
    rw [runningEnd, running_commitPlan, getLast?_joinRoutes _ hne, hdestination]

/-- **Whether some records are the life of a sub-task** of a vehicle: they begin with what was made
for an order, and each of them may become the next one. -/
structure IsLife (id : String) (life : List (SubTask α)) : Prop where
  begins : ∃ order number, life.head? = some (.ofOrder id order number)
  evolves : life.IsChain Evolves

theorem isLife_ofOrder (id : String) (order : TransportOrder) (number : ℕ) :
    IsLife id [(ofOrder id order number : SubTask α)] :=
  ⟨⟨order, number, rfl⟩, .singleton _⟩

theorem IsLife.append {id : String} {life : List (SubTask α)} (h : IsLife id life)
    {t t' : SubTask α} (hlast : life.getLast? = some t) (hevolves : t.Evolves t') :
    IsLife id (life ++ [t']) := by
  obtain ⟨order, number, hhead⟩ := h.begins
  refine ⟨⟨order, number, ?_⟩, ?_⟩
  · rw [List.head?_append, hhead]
    rfl
  · refine h.evolves.append (.singleton t') fun x hx y hy => ?_
    obtain rfl : t = x := Option.some.inj (hlast.symm.trans hx)
    obtain rfl : t' = y := Option.some.inj hy
    exact hevolves

end SubTask

variable [Scalar α]

namespace Fleet

variable {f : Fleet α} {event : FleetEvent α} {id : String} {queue' : List (SubTask α)}
  {outcome : Outcome α}

/-- A sub-task that waits has not been planned. -/
theorem AsAssigned.mark_eq (h : f.AsAssigned) {task : SubTask α}
    (htask : task ∈ (f.backlog.queue id).tail) : task.mark = .unplanned := by
  obtain ⟨order, number, rfl⟩ := h id task htask
  rfl

namespace Effect

/-- What is left of a queue, once its head has been handed back if it is, evolves; further sub-tasks
have just been made for orders. -/
theorem forall₂_evolves (h : f.Effect event id queue' outcome) : ∃ kept new, queue' = kept ++ new
    ∧ List.Forall₂ SubTask.Evolves (if outcome.handedBack.isSome then (f.backlog.queue id).tail
      else f.backlog.queue id) kept
    ∧ ∀ task ∈ new, ∃ order number, task = .ofOrder id order number := by
  have hsame : ∀ tasks : List (SubTask α), List.Forall₂ SubTask.Evolves tasks tasks :=
    fun tasks => List.forall₂_same.mpr fun task _ => .refl task
  cases h with
  | idle => exact ⟨f.backlog.queue id, [], by simp, hsame _, by simp⟩
  | assigned order => exact ⟨f.backlog.queue id, [_], rfl, hsame _, by simp⟩
  | staged task later stage command _ hqueue hmay =>
    refine ⟨task.setStage stage :: later, [], by simp, ?_, by simp⟩
    rw [hqueue]
    exact .cons (SubTask.evolves_setStage hmay) (hsame later)
  | deferred task later candidate hqueue _ =>
    refine ⟨(task.propose candidate).defer :: later, [], by simp, ?_, by simp⟩
    rw [hqueue]
    exact .cons (task.evolves_defer candidate) (hsame later)
  | planned task later candidate hqueue _ _ =>
    refine ⟨f.plannedTask id task candidate :: later, [], by simp, ?_, by simp⟩
    rw [hqueue]
    exact .cons (task.evolves_commitPlan candidate _ _) (hsame later)
  | passed r task later hqueue =>
    refine ⟨r.passed task :: later, [], by simp, ?_, by simp⟩
    rw [hqueue]
    exact .cons (SubTask.evolves_passed r task) (hsame later)
  | cancelled _ task _ hqueue _ =>
    refine ⟨queue', [], by simp, ?_, by simp⟩
    rw [hqueue]
    exact hsame queue'
  | finished task _ hqueue _ _ =>
    refine ⟨queue', [], by simp, ?_, by simp⟩
    rw [hqueue]
    exact hsame queue'

/-- What is handed back is the head of the queue, in one of the two last stages. -/
theorem evolves_handedBack (h : f.Effect event id queue' outcome) {last : SubTask α}
    (hlast : outcome.handedBack = some last) : ∃ task later, f.backlog.queue id = task :: later
      ∧ task.Evolves last ∧ (last.stage = .cancel ∨ last.stage = .finish) := by
  cases h with
  | idle | assigned _ | staged _ _ _ _ _ _ _ | deferred _ _ _ _ _ | planned _ _ _ _ _ _
  | passed _ _ _ _ => cases hlast
  | cancelled reason task later hqueue hmay =>
    obtain rfl := Option.some.inj hlast
    obtain ⟨hvehicle, hid, horder, hnumber, hstage⟩ := SubTask.evolves_setStage hmay
    exact ⟨task, queue', hqueue, ⟨hvehicle, hid, horder, hnumber, hstage⟩, Or.inl rfl⟩
  | finished task later hqueue hmay cost =>
    obtain rfl := Option.some.inj hlast
    obtain ⟨hvehicle, hid, horder, hnumber, hstage⟩ := SubTask.evolves_setStage hmay
    exact ⟨task, queue', hqueue, ⟨hvehicle, hid, horder, hnumber, hstage⟩, Or.inr rfl⟩

/-- **The plan marks keep telling the truth.** -/
theorem marked (h : f.Effect event id queue' outcome)
    (hqueue : ∀ task ∈ f.backlog.queue id, task.Marked) : ∀ task ∈ queue', task.Marked := by
  cases h with
  | idle => exact hqueue
  | assigned order =>
    rw [List.forall_mem_append]
    exact ⟨hqueue, by simpa using .of_unplanned rfl⟩
  | staged task later stage command _ heq _ =>
    rw [heq, List.forall_mem_cons] at hqueue
    rw [List.forall_mem_cons]
    exact ⟨.of_unplanned rfl, hqueue.2⟩
  | deferred task later candidate heq _ =>
    rw [heq, List.forall_mem_cons] at hqueue
    rw [List.forall_mem_cons]
    exact ⟨.of_unplanned rfl, hqueue.2⟩
  | planned task later candidate heq hneeds hne =>
    rw [heq, List.forall_mem_cons] at hqueue
    rw [List.forall_mem_cons]
    have hforce : (f.plannedTask id task candidate).PlanInForce :=
      SubTask.planInForce_commitPlan (t := task.propose candidate) hneeds hne _
    have hmark : (f.plannedTask id task candidate).mark = .planned := rfl
    exact ⟨⟨by rw [hmark]; decide, fun _ => hforce⟩, hqueue.2⟩
  | passed r task later heq =>
    rw [heq, List.forall_mem_cons] at hqueue
    rw [List.forall_mem_cons]
    exact ⟨hqueue.1.passed r, hqueue.2⟩
  | cancelled _ task _ heq _ | finished task _ heq _ _ =>
    rw [heq, List.forall_mem_cons] at hqueue
    exact hqueue.2

/-- Only a commitment sets the plan mark. -/
theorem mark_ne_planned (h : f.Effect event id queue' outcome) (hnone : outcome.committed = none)
    (hqueue : ∀ task ∈ f.backlog.queue id, task.mark ≠ .planned) :
    ∀ task ∈ queue', task.mark ≠ .planned := by
  cases h with
  | idle => exact hqueue
  | assigned order =>
    rw [List.forall_mem_append]
    refine ⟨hqueue, fun task htask => ?_⟩
    obtain rfl := List.mem_singleton.mp htask
    exact PlanMark.noConfusion
  | staged task later stage command _ heq _ =>
    rw [heq, List.forall_mem_cons] at hqueue
    rw [List.forall_mem_cons]
    exact ⟨PlanMark.noConfusion, hqueue.2⟩
  | deferred task later candidate heq _ =>
    rw [heq, List.forall_mem_cons] at hqueue
    rw [List.forall_mem_cons]
    exact ⟨PlanMark.noConfusion, hqueue.2⟩
  | planned task later candidate heq hneeds hne => cases hnone
  | passed r task later heq =>
    rw [heq, List.forall_mem_cons] at hqueue
    rw [List.forall_mem_cons]
    obtain ⟨traveled, expectedNext, hpassed⟩ := SubTask.exists_passed_eq r task
    rw [hpassed]
    exact hqueue
  | cancelled _ task _ heq _ | finished task _ heq _ _ =>
    rw [heq, List.forall_mem_cons] at hqueue
    exact hqueue.2

end Effect

/-- Whether an event interrupts the sub-task of a vehicle, or takes it up again. -/
def Restages (f : Fleet α) (event : FleetEvent α) (id : String) : Prop :=
  (event = .pause id ∧ (f.pause id).isOk = true) ∨ (event = .resume id ∧ (f.resume id).isOk = true)

/-- A sub-task that is interrupted or taken up again has lost its plan, and the ones behind it never
had one. -/
theorem mark_step_of_restages (hassigned : f.AsAssigned) (h : f.Restages event id) :
    ∀ task ∈ (f.step event).backlog.queue id, task.mark ≠ .planned := by
  have hstaged : ∃ (task : SubTask α) (stage : Stage), (f.step event).backlog
      = f.backlog.modifyHead id fun _ => task.setStage stage := by
    rcases h with ⟨rfl, hok⟩ | ⟨rfl, hok⟩
    · cases hpause : f.pause id with
      | error fault =>
        rw [hpause] at hok
        cases hok
      | ok f' =>
        obtain ⟨task, -, -, rfl⟩ := pause_eq_ok_iff.mp hpause
        refine ⟨task, .pause, ?_⟩
        simp only [step, hpause]
        rfl
    · cases hresume : f.resume id with
      | error fault =>
        rw [hresume] at hok
        cases hok
      | ok f' =>
        obtain ⟨task, -, -, rfl⟩ := resume_eq_ok_iff.mp hresume
        refine ⟨task, .run, ?_⟩
        simp only [step, hresume]
        rfl
  obtain ⟨task, stage, hbacklog⟩ := hstaged
  rw [hbacklog, Backlog.queue_modifyHead, if_pos rfl]
  cases hqueue : f.backlog.queue id with
  | nil => simp
  | cons head later =>
    rw [List.modifyHead_cons, List.forall_mem_cons]
    refine ⟨PlanMark.noConfusion, fun waiting hwaiting => ?_⟩
    have hmem : waiting ∈ (f.backlog.queue id).tail := by rwa [hqueue]
    rw [hassigned.mark_eq hmem]
    decide

/-- A vehicle without a plan gets none as long as nothing is committed to it. -/
theorem mark_run_ne_planned {later : List (FleetEvent α)}
    (h : ∀ task ∈ f.backlog.queue id, task.mark ≠ .planned)
    (hlater : f.Along (fun f event => (f.outcome event id).committed = none) later) :
    ∀ task ∈ (f.run later).backlog.queue id, task.mark ≠ .planned :=
  hlater.invariant (I := fun f => ∀ task ∈ f.backlog.queue id, task.mark ≠ .planned)
    (fun f event hqueue hnone => (f.effect_step event id).mark_ne_planned hnone hqueue) h

end Fleet

/-! ### Fleets on record -/

/-- **A fleet on record**, with the lives of the sub-tasks of each vehicle. A life is the sequence
of the records of a sub-task, the latest one last. -/
structure Chronicle (α : Type) [Scalar α] where
  /-- The fleet. -/
  fleet : Fleet α
  /-- The lives of the sub-tasks in the queue of a vehicle, in the order of the queue. -/
  ongoing : String → List (List (SubTask α)) := fun _ => []
  /-- The lives of the sub-tasks that a vehicle has handed back. -/
  ended : String → List (List (SubTask α)) := fun _ => []

namespace Chronicle

/-- Continues each life by the present record of its sub-task, and begins a new one for each further
sub-task. -/
def continueLives : List (List (SubTask α)) → List (SubTask α) → List (List (SubTask α))
  | lives, [] => lives
  | [], task :: tasks => [task] :: continueLives [] tasks
  | life :: lives, task :: tasks => (life ++ [task]) :: continueLives lives tasks

/-- The record after an event. A sub-task that is handed back ends the first of the lives. -/
def step (c : Chronicle α) (event : FleetEvent α) : Chronicle α where
  fleet := c.fleet.step event
  ongoing := fun id =>
    let lives := if (c.fleet.outcome event id).handedBack.isSome then (c.ongoing id).tail
      else c.ongoing id
    continueLives lives ((c.fleet.step event).backlog.queue id)
  ended := fun id =>
    match (c.fleet.outcome event id).handedBack with
    | none => c.ended id
    | some last => c.ended id ++ (c.ongoing id).head?.toList.map (· ++ [last])

/-- The record after a sequence of events. -/
def run (c : Chronicle α) (events : List (FleetEvent α)) : Chronicle α :=
  events.foldl step c

theorem fleet_run (c : Chronicle α) (events : List (FleetEvent α)) :
    (c.run events).fleet = c.fleet.run events := by
  induction events generalizing c with
  | nil => rfl
  | cons event later ih => exact ih (c.step event)

/-- **Whether the lives of the sub-tasks of a queue are as they should be**: they are lives, one for
each sub-task, and the last record is what the sub-task is now. -/
structure Ongoing (id : String) (lives : List (List (SubTask α))) (queue : List (SubTask α)) :
    Prop where
  getLast?_eq : lives.map List.getLast? = queue.map some
  isLife : ∀ life ∈ lives, SubTask.IsLife id life

namespace Ongoing

variable {id : String} {lives : List (List (SubTask α))} {queue : List (SubTask α)}

theorem tail (h : Ongoing id lives queue) : Ongoing id lives.tail queue.tail := by
  refine ⟨?_, fun life hlife => h.isLife life (List.mem_of_mem_tail hlife)⟩
  rw [List.map_tail, List.map_tail, h.getLast?_eq]

/-- The sub-tasks evolve, and new ones line up behind them. -/
theorem continueLives (h : Ongoing id lives queue) {kept new : List (SubTask α)}
    (hkept : List.Forall₂ SubTask.Evolves queue kept)
    (hnew : ∀ task ∈ new, ∃ order number, task = .ofOrder id order number) :
    Ongoing id (Chronicle.continueLives lives (kept ++ new)) (kept ++ new) := by
  -- Over the queue and what has become of it; the lives follow it in step.
  induction hkept generalizing lives with
  | nil =>
    have hlives : lives = [] := List.map_eq_nil_iff.mp h.getLast?_eq
    subst hlives
    rw [List.nil_append]
    induction new with
    | nil => exact h
    | cons task tasks ih =>
      rw [List.forall_mem_cons] at hnew
      obtain ⟨⟨order, number, rfl⟩, htasks⟩ := hnew
      obtain ⟨hlast, hlives⟩ := ih htasks
      refine ⟨?_, ?_⟩
      · show [_].getLast? :: List.map List.getLast? _ = _
        rw [hlast]
        rfl
      · show ∀ life ∈ [_] :: Chronicle.continueLives [] tasks, _
        rw [List.forall_mem_cons]
        exact ⟨SubTask.isLife_ofOrder id order number, hlives⟩
  | @cons task task' tasks tasks' hevolves _ ih =>
    cases lives with
    | nil => cases h.getLast?_eq
    | cons life lives =>
      obtain ⟨hlast, hlives⟩ := h
      rw [List.map_cons, List.map_cons, List.cons.injEq] at hlast
      rw [List.forall_mem_cons] at hlives
      obtain ⟨hlast', hlives'⟩ := ih ⟨hlast.2, hlives.2⟩
      refine ⟨?_, ?_⟩
      · show (life ++ [task']).getLast?
          :: (Chronicle.continueLives lives (tasks' ++ new)).map List.getLast? = _
        rw [hlast', List.getLast?_concat]
        rfl
      · show ∀ l ∈ (life ++ [task']) :: Chronicle.continueLives lives (tasks' ++ new), _
        rw [List.forall_mem_cons]
        exact ⟨hlives.1.append hlast.1 hevolves, hlives'⟩

end Ongoing

/-- What every event keeps of a record. -/
structure Faithful (c : Chronicle α) : Prop where
  live : c.fleet.Live
  asAssigned : c.fleet.AsAssigned
  marked : ∀ id, ∀ task ∈ c.fleet.backlog.queue id, task.Marked
  ongoing : ∀ id, Ongoing id (c.ongoing id) (c.fleet.backlog.queue id)
  ended : ∀ id, ∀ life ∈ c.ended id, SubTask.IsLife id life
    ∧ ∃ last, life.getLast? = some last ∧ (last.stage = .cancel ∨ last.stage = .finish)

namespace Faithful

variable {c : Chronicle α}

theorem of_queues_empty {f : Fleet α} (h : ∀ id, f.backlog.queue id = []) :
    Faithful { fleet := f } where
  live := Fleet.live_of_queues_empty h
  asAssigned := by
    intro id task htask
    have htask : task ∈ (f.backlog.queue id).tail := htask
    rw [h] at htask
    exact absurd htask List.not_mem_nil
  marked := by
    intro id task htask
    have htask : task ∈ f.backlog.queue id := htask
    rw [h] at htask
    exact absurd htask List.not_mem_nil
  ongoing := by
    intro id
    show Ongoing id [] (f.backlog.queue id)
    rw [h]
    exact ⟨rfl, by simp⟩
  ended := by simp

/-- The first of the lives goes on to what is handed back. -/
theorem isLife_handedBack (h : c.Faithful) {event : FleetEvent α} {id : String} {last : SubTask α}
    (hlast : (c.fleet.outcome event id).handedBack = some last) :
    ∀ life ∈ (c.ongoing id).head?.toList.map (· ++ [last]), SubTask.IsLife id life
      ∧ ∃ last, life.getLast? = some last ∧ (last.stage = .cancel ∨ last.stage = .finish) := by
  obtain ⟨task, later, hqueue, hevolves, hstage⟩ :=
    (c.fleet.effect_step event id).evolves_handedBack hlast
  have hongoing := h.ongoing id
  rw [hqueue] at hongoing
  cases hlives : c.ongoing id with
  | nil => simp
  | cons life lives =>
    rw [hlives] at hongoing
    have hpresent := hongoing.getLast?_eq
    rw [List.map_cons, List.map_cons, List.cons.injEq] at hpresent
    intro life' hlife'
    obtain rfl : life' = life ++ [last] := by simpa using hlife'
    have hlife := hongoing.isLife life List.mem_cons_self
    exact ⟨hlife.append hpresent.1 hevolves, last, List.getLast?_concat, hstage⟩

/-- **Every event keeps a record faithful.** -/
theorem step (h : c.Faithful) (event : FleetEvent α) : (c.step event).Faithful where
  live := h.live.step event
  asAssigned := h.asAssigned.step event
  marked := fun id => (c.fleet.effect_step event id).marked (h.marked id)
  ongoing := by
    intro id
    obtain ⟨kept, new, hqueue, hkept, hnew⟩ := (c.fleet.effect_step event id).forall₂_evolves
    show Ongoing id (Chronicle.continueLives _ ((c.fleet.step event).backlog.queue id))
      ((c.fleet.step event).backlog.queue id)
    rw [hqueue]
    split at hkept
    · rename_i hsome
      rw [if_pos hsome]
      exact (h.ongoing id).tail.continueLives hkept hnew
    · rename_i hnone
      rw [if_neg hnone]
      exact (h.ongoing id).continueLives hkept hnew
  ended := by
    intro id
    show ∀ life ∈ (match (c.fleet.outcome event id).handedBack with
      | none => c.ended id
      | some last => c.ended id ++ (c.ongoing id).head?.toList.map (· ++ [last])), _
    split
    · exact h.ended id
    · rename_i last hlast
      rw [List.forall_mem_append]
      exact ⟨h.ended id, h.isLife_handedBack hlast⟩

theorem run (h : c.Faithful) (events : List (FleetEvent α)) : (c.run events).Faithful :=
  List.foldlRecOn events Chronicle.step h fun _ hc event _ => hc.step event

end Faithful

/-- **What the lives of sub-tasks look like.** -/
structure Lifecycle (c : Chronicle α) : Prop where
  /-- A sub-task in a queue is neither done nor given up. -/
  live : ∀ id, ∀ task ∈ c.fleet.backlog.queue id, task.stage.isTerminal = false
  mark_ne_planning : ∀ id, ∀ task ∈ c.fleet.backlog.queue id, task.mark ≠ .planning
  /-- A sub-task that has been planned is the head of its queue, and its plan is in force. -/
  planned : ∀ id i task, (c.fleet.backlog.queue id)[i]? = some task → task.mark = .planned →
    i = 0 ∧ task.PlanInForce
  /-- Every sub-task in a queue has a life so far. -/
  ongoing : ∀ id, Ongoing id (c.ongoing id) (c.fleet.backlog.queue id)
  /-- A life that has ended goes from the order to what was handed back. -/
  ended : ∀ id, ∀ life ∈ c.ended id, SubTask.IsLife id life
    ∧ ∃ last, life.getLast? = some last ∧ (last.stage = .cancel ∨ last.stage = .finish)
  /-- What is handed back next ends the life of the head of its queue. -/
  handedBack : ∀ event id last, (c.fleet.outcome event id).handedBack = some last →
    ∃ life lives, c.ongoing id = life :: lives ∧ (c.step event).ended id
      = c.ended id ++ [life ++ [last]]
  /-- Once a sub-task is interrupted or taken up again, its vehicle has no plan until the next
  commitment. -/
  replanned : ∀ event id later, c.fleet.Restages event id →
    (c.fleet.step event).Along (fun f event => (f.outcome event id).committed = none) later →
    ∀ task ∈ ((c.fleet.step event).run later).backlog.queue id, task.mark ≠ .planned

theorem Faithful.lifecycle {c : Chronicle α} (h : c.Faithful) : c.Lifecycle where
  live := by
    intro id task htask
    have hlive := h.live id task htask
    simpa [SubTask.isLive] using hlive
  mark_ne_planning := fun id task htask => (h.marked id task htask).mark_ne_planning
  planned := by
    intro id i task hget hmark
    have hmem := List.mem_of_getElem? hget
    refine ⟨?_, (h.marked id task hmem).planInForce hmark⟩
    cases i with
    | zero => rfl
    | succ i =>
      -- Further behind nothing has been planned.
      have hwaiting : task ∈ (c.fleet.backlog.queue id).tail := by
        rw [← List.getElem?_tail] at hget
        exact List.mem_of_getElem? hget
      rw [h.asAssigned.mark_eq hwaiting] at hmark
      cases hmark
  ongoing := h.ongoing
  ended := h.ended
  handedBack := by
    intro event id last hlast
    obtain ⟨task, later, hqueue, -, -⟩ := (c.fleet.effect_step event id).evolves_handedBack hlast
    have hpresent := (h.ongoing id).getLast?_eq
    rw [hqueue] at hpresent
    cases hlives : c.ongoing id with
    | nil =>
      rw [hlives] at hpresent
      cases hpresent
    | cons life lives =>
      refine ⟨life, lives, rfl, ?_⟩
      simp only [Chronicle.step, hlast, hlives]
      rfl
  replanned := fun event id later hrestages hlater =>
    Fleet.mark_run_ne_planned (Fleet.mark_step_of_restages h.asAssigned hrestages) hlater

/-- **The life of every sub-task** of a fleet that begins with empty queues, whatever happens. -/
theorem lifecycle_run {f : Fleet α} (hempty : ∀ id, f.backlog.queue id = [])
    (events : List (FleetEvent α)) :
    (({ fleet := f } : Chronicle α).run events).fleet = f.run events
      ∧ (({ fleet := f } : Chronicle α).run events).Lifecycle :=
  ⟨fleet_run _ events, ((Faithful.of_queues_empty hempty).run events).lifecycle⟩

/-- The sub-task of a vehicle is planned, interrupted, taken up again and given up. -/
theorem lifecycle_tour :
    (∀ id, (Fleet.tourStart [⟨1, 1⟩, ⟨1, 2⟩] : Fleet Float).backlog.queue id = [])
      ∧ (({ fleet := Fleet.tourStart [⟨1, 1⟩, ⟨1, 2⟩] } : Chronicle Float).run
        [.assign Fleet.tourOrder, .plan "a" [⟨1, 1⟩, ⟨1, 2⟩], .pause "a", .resume "a",
          .cancel "a" .client]).Lifecycle :=
  have hempty := Fleet.queue_start _ _ _ _ _
  ⟨hempty, (lifecycle_run hempty _).2⟩

end Chronicle

end AgvDispatch
