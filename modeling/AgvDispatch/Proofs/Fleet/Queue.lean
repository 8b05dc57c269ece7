import AgvDispatch.Proofs.Fleet.Effect
/-!
# The queues of a fleet

What one event does to the queue of one vehicle: nothing, or a new sub-task lines up at its end, or
its head takes a step (`SubTask.Step`), or its head is removed (`Fleet.queue_step_cases`).

So what every step of a sub-task keeps holds of every sub-task that has been at the head of its
queue, and the ones behind it are as they were when they lined up. `Fleet.OnTrack` says so of the
routes: whatever is done to a fleet, the routes of every sub-task fit together
(`Fleet.OnTrack.step`).
-/

namespace AgvDispatch

theorem forall_mem_modifyHead {β : Type} {P : β → Prop} {l : List β} {g : β → β}
    (h : ∀ x ∈ l, P x) (hhead : ∀ x ∈ l.head?, P (g x)) : ∀ x ∈ l.modifyHead g, P x := by
  cases l with
  | nil => simp
  | cons x l =>
    rw [List.forall_mem_cons] at h
    rw [List.modifyHead_cons, List.forall_mem_cons]
    exact ⟨hhead x rfl, h.2⟩

variable {α : Type} [Scalar α]

namespace SubTask

/-- **What may happen to the head of a queue** in one event. -/
inductive Step (t : SubTask α) : SubTask α → Prop
  /-- It is interrupted or taken up again. -/
  | staged (stage : Stage) (is_stage : stage = .pause ∨ stage = .run) : Step t (t.setStage stage)
  /-- A plan is deferred. -/
  | deferred (candidate : Route) : Step t (t.propose candidate).defer
  /-- A first part of a candidate route is committed. -/
  | planned (candidate segment : Route) (length : α) (segment_ne_nil : segment ≠ [])
    (isPrefix : segment <+: candidate) :
    Step t ((t.propose candidate).commitPlan segment length)
  /-- A report is taken in. -/
  | passed (r : VehicleReport α) : Step t (r.passed t)

/-- Whether nothing has been done with a sub-task since it was made for an order. -/
structure Unbegun (t : SubTask α) : Prop where
  /-- It is in the first stage. -/
  stage_eq : t.stage = .new
  /-- It has no expected route. -/
  expected_eq : t.expected = []
  /-- Nothing has been committed. -/
  running_eq : t.running = []
  /-- Nothing is being planned. -/
  candidate_eq : t.candidate = []
  /-- Nothing lies behind the vehicle. -/
  traveled_eq : t.traveled = []

theorem unbegun_ofOrder (id : String) (order : TransportOrder) (number : Nat) :
    (ofOrder id order number : SubTask α).Unbegun :=
  ⟨rfl, rfl, rfl, rfl, rfl⟩

omit [Scalar α] in
theorem Unbegun.onTrack {t : SubTask α} (h : t.Unbegun) : t.OnTrack :=
  .of_running_eq_nil h.running_eq h.traveled_eq

omit [Scalar α] in
@[simp] theorem running_passed (r : VehicleReport α) (t : SubTask α) :
    (r.passed t).running = t.running := by
  unfold VehicleReport.passed
  split
  · rfl
  · exact running_reach t _

omit [Scalar α] in
@[simp] theorem expected_passed (r : VehicleReport α) (t : SubTask α) :
    (r.passed t).expected = t.expected := by
  unfold VehicleReport.passed
  split
  · rfl
  · exact expected_reach t _

omit [Scalar α] in
@[simp] theorem mapId_passed (r : VehicleReport α) (t : SubTask α) :
    (r.passed t).mapId = t.mapId := by
  unfold VehicleReport.passed
  split
  · rfl
  · exact mapId_reach t _

omit [Scalar α] in
@[simp] theorem ends_passed (r : VehicleReport α) (t : SubTask α) :
    (r.passed t).ends = t.ends := by
  unfold VehicleReport.passed
  split
  · rfl
  · exact ends_reach t _

omit [Scalar α] in
theorem effectiveRoute_passed_suffix (r : VehicleReport α) (t : SubTask α) :
    (r.passed t).effectiveRoute <:+ t.effectiveRoute := by
  unfold VehicleReport.passed
  split
  · exact List.suffix_refl _
  · exact effectiveRoute_reach_suffix t _

omit [Scalar α] in
theorem OnTrack.passed {t : SubTask α} (h : t.OnTrack) (r : VehicleReport α) :
    (r.passed t).OnTrack := by
  unfold VehicleReport.passed
  split
  · exact h
  · exact h.reach _

theorem OnTrack.step {t t' : SubTask α} (h : t.OnTrack) (hstep : t.Step t') : t'.OnTrack := by
  cases hstep with
  | staged stage _ => exact h.of_eq rfl rfl
  | deferred candidate => exact h.of_eq rfl rfl
  | planned candidate segment length hne _ =>
    have hproposed : (t.propose candidate).OnTrack :=
      h.of_eq (running_propose t candidate) (traveled_propose t candidate)
    exact hproposed.commitPlan hne length
  | passed r => exact h.passed r

theorem mapId_step {t t' : SubTask α} (hstep : t.Step t') : t'.mapId = t.mapId := by
  cases hstep with
  | staged stage _ => rfl
  | deferred candidate => rfl
  | planned candidate segment length _ _ => exact mapId_commitPlan _ _ _
  | passed r => exact mapId_passed r t

omit [Scalar α] in
@[simp] theorem stage_passed (r : VehicleReport α) (t : SubTask α) :
    (r.passed t).stage = t.stage := by
  unfold VehicleReport.passed
  split
  · rfl
  · exact stage_reach t _

/-- No step ends the life of a sub-task. -/
theorem isLive_step {t t' : SubTask α} (h : t.isLive = true) (hstep : t.Step t') :
    t'.isLive = true := by
  unfold isLive at h ⊢
  cases hstep with
  | staged stage his =>
    rw [stage_setStage]
    rcases his with rfl | rfl <;> rfl
  | deferred candidate => exact h
  | planned candidate segment length _ _ =>
    rcases stage_commitPlan (t.propose candidate) segment length with hstage | hstage
    · rw [hstage]
      exact h
    · rw [hstage]
      rfl
  | passed r =>
    rw [stage_passed]
    exact h

end SubTask

namespace Fleet

theorem queue_start (settings : Settings α) (registry : Registry α) (n : Network α)
    (hook : Option (AllocationHook α)) (sink : Sink) (id : String) :
    (start settings registry n hook sink).backlog.queue id = [] :=
  Backlog.queue_empty id

/-- **What an event does to the queue of a vehicle.** -/
theorem queue_step_cases (f : Fleet α) (event : FleetEvent α) (id : String) :
    (f.step event).backlog.queue id = f.backlog.queue id
      ∨ (∃ order, event = .assign order ∧ (f.step event).backlog.queue id
          = f.backlog.queue id ++ [.ofOrder id order ((f.backlog.queue id).length + 1)])
      ∨ (∃ task rest task', f.backlog.queue id = task :: rest
          ∧ (f.step event).backlog.queue id = task' :: rest ∧ task.Step task')
      ∨ (f.step event).backlog.queue id = (f.backlog.queue id).tail := by
  have heffect := f.effect_step event id
  generalize (f.step event).backlog.queue id = queue' at heffect ⊢
  generalize f.outcome event id = outcome at heffect
  cases heffect with
  | idle => exact Or.inl rfl
  | assigned order his => exact Or.inr (Or.inl ⟨order, his, rfl⟩)
  | staged task later stage command his hqueue _ =>
    have hstage : stage = .pause ∨ stage = .run :=
      his.imp (fun h => h.2.1) fun h => h.2.1
    exact Or.inr (Or.inr (Or.inl ⟨task, later, _, hqueue, rfl, .staged stage hstage⟩))
  | deferred task later candidate hqueue _ =>
    exact Or.inr (Or.inr (Or.inl ⟨task, later, _, hqueue, rfl, .deferred candidate⟩))
  | planned task later candidate hqueue _ hne =>
    have hstep : task.Step (f.plannedTask id task candidate) :=
      .planned candidate _ _ hne (f.plannable_isPrefix id task candidate)
    exact Or.inr (Or.inr (Or.inl ⟨task, later, _, hqueue, rfl, hstep⟩))
  | passed r task later hqueue =>
    exact Or.inr (Or.inr (Or.inl ⟨task, later, _, hqueue, rfl, .passed r⟩))
  | cancelled _ task later hqueue _ | finished task later hqueue _ _ =>
    -- What is left is what came behind the head.
    refine Or.inr (Or.inr (Or.inr ?_))
    rw [hqueue]
    rfl

theorem queue_edit (f : Fleet α) (id : String) (change : SubTask α → SubTask α) (other : String) :
    (f.edit id change).backlog.queue other = if id = other
      then (f.backlog.queue other).modifyHead change else f.backlog.queue other :=
  Backlog.queue_modifyHead _ _ _ _

theorem queue_expect (f : Fleet α) (id : String) (route : Route) (other : String) :
    (f.expect id route).backlog.queue other = if id = other
      then (f.backlog.queue other).modifyHead (fun task => { task with expected := route })
      else f.backlog.queue other :=
  Backlog.queue_modifyHead _ _ _ _

/-- Laying down an expected route changes no more than the expected route of a sub-task. -/
theorem mem_queue_expect {f : Fleet α} {id : String} {route : Route} {other : String}
    {task' : SubTask α} (h : task' ∈ (f.expect id route).backlog.queue other) :
    ∃ task ∈ f.backlog.queue other, task' = { task with expected := task'.expected } := by
  rw [queue_expect] at h
  split at h
  · cases hcons : f.backlog.queue other with
    | nil => simp [hcons] at h
    | cons task rest =>
      rw [hcons, List.modifyHead_cons, List.mem_cons] at h
      rcases h with rfl | h
      · exact ⟨task, List.mem_cons_self, rfl⟩
      · exact ⟨task', List.mem_cons_of_mem task h, rfl⟩
  · exact ⟨task', h, rfl⟩

/-- **Whether the routes of all sub-tasks fit together**, and those of the ones that wait are still
empty. -/
structure OnTrack (f : Fleet α) : Prop where
  /-- Every sub-task is on track. -/
  tasks : ∀ id, ∀ task ∈ f.backlog.queue id, task.OnTrack
  /-- Nothing has been done with the sub-tasks behind the head of a queue. -/
  waiting : ∀ id, ∀ task ∈ (f.backlog.queue id).tail, task.Unbegun

namespace OnTrack

variable {f : Fleet α}

theorem of_queues_empty (h : ∀ id, f.backlog.queue id = []) : f.OnTrack := by
  refine ⟨fun id task htask => ?_, fun id task htask => ?_⟩
  · rw [h] at htask
    exact absurd htask List.not_mem_nil
  · rw [h] at htask
    exact absurd htask List.not_mem_nil

theorem head {id : String} {task : SubTask α} (h : f.OnTrack)
    (hhead : f.backlog.head? id = some task) : task.OnTrack := by
  obtain ⟨rest, hqueue⟩ := Backlog.head?_eq_some_iff.mp hhead
  exact h.tasks id task (hqueue ▸ List.mem_cons_self)

/-- **No event takes a fleet off the track.** -/
theorem step (h : f.OnTrack) (event : FleetEvent α) : (f.step event).OnTrack := by
  have hqueue : ∀ id, (∀ task ∈ (f.step event).backlog.queue id, task.OnTrack)
      ∧ ∀ task ∈ ((f.step event).backlog.queue id).tail, task.Unbegun := by
    intro id
    have htasks := h.tasks id
    have hwaiting := h.waiting id
    rcases f.queue_step_cases event id with
      heq | ⟨order, -, heq⟩ | ⟨task, rest, task', hcons, heq, hstep⟩ | heq
    · rw [heq]
      exact ⟨htasks, hwaiting⟩
    · rw [heq]
      have hnew : (SubTask.ofOrder id order ((f.backlog.queue id).length + 1) :
          SubTask α).Unbegun := SubTask.unbegun_ofOrder _ _ _
      refine ⟨?_, fun task htask => ?_⟩
      · rw [List.forall_mem_append]
        exact ⟨htasks, by simpa using hnew.onTrack⟩
      · -- The new sub-task waits, unless it is the only one.
        cases hcons : f.backlog.queue id with
        | nil => simp [hcons] at htask
        | cons first rest =>
          rw [hcons, List.cons_append, List.tail_cons, List.mem_append,
            List.mem_singleton] at htask
          rcases htask with htask | rfl
          · exact hwaiting task (by rw [hcons]; exact htask)
          · exact SubTask.unbegun_ofOrder _ _ _
    · rw [hcons, List.forall_mem_cons] at htasks
      rw [hcons] at hwaiting
      rw [heq, List.forall_mem_cons]
      exact ⟨⟨htasks.1.step hstep, htasks.2⟩, hwaiting⟩
    · rw [heq]
      refine ⟨fun task htask => htasks task (List.mem_of_mem_tail htask), fun task htask => ?_⟩
      exact hwaiting task (List.mem_of_mem_tail htask)
  exact ⟨fun id => (hqueue id).1, fun id => (hqueue id).2⟩

/-- Whoever writes to the head of a queue keeps the fleet on track by leaving the running and the
traveled route alone. -/
theorem edit (h : f.OnTrack) (id : String) {change : SubTask α → SubTask α}
    (hrunning : ∀ task, (change task).running = task.running)
    (htraveled : ∀ task, (change task).traveled = task.traveled) : (f.edit id change).OnTrack := by
  refine ⟨fun other => ?_, fun other => ?_⟩
  · rw [queue_edit]
    split
    · refine forall_mem_modifyHead (h.tasks other) fun task htask => ?_
      have hmem : task ∈ f.backlog.queue other := List.mem_of_head? htask
      exact (h.tasks other task hmem).of_eq (hrunning task) (htraveled task)
    · exact h.tasks other
  · rw [queue_edit]
    split
    · rw [List.tail_modifyHead]
      exact h.waiting other
    · exact h.waiting other

theorem expect (h : f.OnTrack) (id : String) (route : Route) : (f.expect id route).OnTrack :=
  h.edit id (fun _ => rfl) fun _ => rfl

end OnTrack

/-- **Whether every sub-task in a queue is alive.** -/
def Live (f : Fleet α) : Prop :=
  ∀ id, ∀ task ∈ f.backlog.queue id, task.isLive = true

theorem live_of_queues_empty {f : Fleet α} (h : ∀ id, f.backlog.queue id = []) : f.Live := by
  intro id task htask
  rw [h] at htask
  exact absurd htask List.not_mem_nil

theorem Live.head {f : Fleet α} (h : f.Live) {id : String} {task : SubTask α}
    (hhead : f.backlog.head? id = some task) : task.isLive = true := by
  obtain ⟨rest, hqueue⟩ := Backlog.head?_eq_some_iff.mp hhead
  exact h id task (hqueue ▸ List.mem_cons_self)

/-- **Sub-tasks in queues stay alive**, as the end of a sub-task removes it from its queue. -/
theorem Live.step {f : Fleet α} (h : f.Live) (event : FleetEvent α) : (f.step event).Live := by
  intro id task htask
  have hall := h id
  rcases f.queue_step_cases event id with
    heq | ⟨order, -, heq⟩ | ⟨head, rest, head', hcons, heq, hstep⟩ | heq
  · rw [heq] at htask
    exact hall task htask
  · rw [heq, List.mem_append, List.mem_singleton] at htask
    rcases htask with htask | rfl
    · exact hall task htask
    · rfl
  · rw [hcons, List.forall_mem_cons] at hall
    rw [heq] at htask
    rcases List.mem_cons.mp htask with rfl | htask
    · exact SubTask.isLive_step hall.1 hstep
    · exact hall.2 task htask
  · rw [heq] at htask
    exact hall task (List.mem_of_mem_tail htask)

theorem Live.expect {f : Fleet α} (h : f.Live) (id : String) (route : Route) :
    (f.expect id route).Live := by
  intro other task' htask'
  obtain ⟨task, htask, heq⟩ := mem_queue_expect htask'
  rw [heq]
  exact h other task htask

end Fleet

end AgvDispatch
