import AgvDispatch.Proofs.Fleet.Queue
import AgvDispatch.Proofs.Traffic.Claim
/-!
# What is committed can be reserved

A fleet is not alone with its events: anyone may write to the registry, and to the sub-task at the
head of a queue (`Fleet.Reachable`). As long as the running and the traveled routes are left to the
fleet, it stays **grounded** (`Fleet.Grounded`): all that is committed leads over waypoints with a
position, so that a skeleton can be built for what lies ahead of a vehicle.

A commitment adds a safe segment, and a safe segment has a skeleton (`Fleet.resolves_plannable`).
-/

namespace AgvDispatch

variable {α : Type} [Scalar α]

namespace Fleet

/-! ### Reachable fleets -/

/-- **The fleets that can be reached from a given one** by its events and by writes of others, who
leave the network and the committed and the traveled routes alone. -/
inductive Reachable (f₀ : Fleet α) : Fleet α → Prop
  | refl : Reachable f₀ f₀
  /-- Something happens to the fleet. -/
  | step {f : Fleet α} (h : Reachable f₀ f) (event : FleetEvent α) : Reachable f₀ (f.step event)
  /-- The registry is written to. -/
  | register {f : Fleet α} (h : Reachable f₀ f) (registry : Registry α) :
    Reachable f₀ { f with registry }
  /-- The head of a queue is written to. -/
  | edit {f : Fleet α} (h : Reachable f₀ f) (id : String) (change : SubTask α → SubTask α)
    (running_eq : ∀ task, (change task).running = task.running)
    (traveled_eq : ∀ task, (change task).traveled = task.traveled) : Reachable f₀ (f.edit id change)

/-! ### Committed routes -/

/-- What is planned leads over waypoints with a position. -/
theorem resolves_plannable (f : Fleet α) (id : String) (task : SubTask α) (candidate : Route) :
    f.network.Resolves (f.plannable id task candidate) := by
  by_cases hne : f.plannable id task candidate = []
  · rw [hne]
    exact fun w hw => absurd hw List.not_mem_nil
  · obtain ⟨path, hpath, -⟩ :=
      Traffic.exists_path_of_isSafe (f.isSafe_plannable id task candidate) hne
    exact (Network.exists_skeleton?_iff.mp ⟨path, hpath⟩).2

/-- **Whether all that is committed can be reserved.** -/
structure Grounded (f : Fleet α) : Prop where
  /-- The routes of the sub-tasks fit together. -/
  onTrack : f.OnTrack
  /-- The reservations are what they say. -/
  fits : f.traffic.Holds fun _ r => r.Fits f.network f.settings.traffic.bufferRadius
  /-- What is committed leads over waypoints with a position. -/
  resolves : ∀ id, ∀ task ∈ f.backlog.queue id, f.network.Resolves task.running

namespace Grounded

theorem start (settings : Settings α) (registry : Registry α) (n : Network α)
    (hook : Option (AllocationHook α)) (sink : Sink) :
    (Fleet.start settings registry n hook sink).Grounded := by
  have hempty := queue_start settings registry n hook sink
  refine ⟨OnTrack.of_queues_empty hempty, fun id r hr => ?_, fun id task htask => ?_⟩
  · have hnone : (Fleet.start settings registry n hook sink).traffic.reservation? id = none :=
      Traffic.reservation?_ofIndex _ id
    rw [hnone] at hr
    cases hr
  · rw [hempty] at htask
    exact absurd htask List.not_mem_nil

variable {f : Fleet α}

theorem head (h : f.Grounded) {id : String} {task : SubTask α}
    (hhead : f.backlog.head? id = some task) : f.network.Resolves task.running :=
  h.resolves id task (List.mem_of_head? hhead)

theorem resolves_plannedTask (h : f.Grounded) {id : String} {task : SubTask α}
    (hhead : f.backlog.head? id = some task) (candidate : Route) :
    f.network.Resolves (f.plannedTask id task candidate).running := by
  rw [running_plannedTask]
  exact (h.head hhead).joinRoutes (f.resolves_plannable id task candidate)

theorem resolves_step (h : f.Grounded) (event : FleetEvent α) (id : String) :
    ∀ task ∈ (f.step event).backlog.queue id, f.network.Resolves task.running := by
  have hall := h.resolves id
  -- An event that replaces the head of a queue leaves the sub-tasks behind it alone.
  have hreplace : ∀ {owner : String} {task' : SubTask α},
      (f.step event).backlog = f.backlog.modifyHead owner (fun _ => task') →
      f.network.Resolves task'.running →
      ∀ task ∈ (f.step event).backlog.queue id, f.network.Resolves task.running := by
    intro owner task' hbacklog htask'
    rw [hbacklog, Backlog.queue_modifyHead]
    split
    · exact forall_mem_modifyHead hall fun _ _ => htask'
    · exact hall
  cases f.change_step event with
  | idle hbacklog _ | released _ _ hbacklog _ =>
    rw [hbacklog]
    exact hall
  | assigned owner order _ hbacklog _ =>
    rw [hbacklog, Backlog.queue_push]
    split
    · rw [List.forall_mem_append, List.forall_mem_singleton]
      exact ⟨hall, fun w hw => absurd hw List.not_mem_nil⟩
    · exact hall
  | staged owner task stage _ hhead _ hbacklog _ =>
    have hrunning : f.network.Resolves task.running := h.head hhead
    exact hreplace hbacklog hrunning
  | deferred owner task candidate _ hhead _ _ _ _ hbacklog _ =>
    have hrunning : f.network.Resolves task.running := h.head hhead
    exact hreplace hbacklog hrunning
  | planned owner task candidate _ hhead _ _ _ hbacklog _ =>
    exact hreplace hbacklog (h.resolves_plannedTask hhead candidate)
  | reported r v _ _ hqueue _ =>
    rw [hqueue]
    split
    · refine forall_mem_modifyHead hall fun task htask => ?_
      rw [SubTask.running_passed]
      exact hall task (List.mem_of_head? htask)
    · exact hall
  | closed owner task _ _ hbacklog _ =>
    rw [hbacklog, Backlog.queue_removeHead]
    split
    · exact fun task htask => hall task (List.mem_of_mem_tail htask)
    · exact hall

theorem step (h : f.Grounded) (event : FleetEvent α) : (f.step event).Grounded := by
  refine ⟨h.onTrack.step event, fits_step h.fits event, fun id => ?_⟩
  rw [network_step]
  exact h.resolves_step event id

theorem edit (h : f.Grounded) (id : String) {change : SubTask α → SubTask α}
    (hrunning : ∀ task, (change task).running = task.running)
    (htraveled : ∀ task, (change task).traveled = task.traveled) :
    (f.edit id change).Grounded := by
  refine ⟨h.onTrack.edit id hrunning htraveled, h.fits, fun other => ?_⟩
  have hall := h.resolves other
  show ∀ task ∈ (f.edit id change).backlog.queue other, f.network.Resolves task.running
  rw [queue_edit]
  split
  · refine forall_mem_modifyHead hall fun task htask => ?_
    rw [hrunning]
    exact hall task (List.mem_of_head? htask)
  · exact hall

/-- **A fleet stays grounded**, whatever happens to it and whoever writes to it. -/
theorem of_reachable {f₀ : Fleet α} (h : f₀.Grounded) (hreach : f₀.Reachable f) : f.Grounded := by
  induction hreach with
  | refl => exact h
  | step _ event ih => exact ih.step event
  | register _ registry ih => exact ⟨⟨ih.onTrack.tasks, ih.onTrack.waiting⟩, ih.fits, ih.resolves⟩
  | edit _ id change hrunning htraveled ih => exact ih.edit id hrunning htraveled

end Grounded

end Fleet

end AgvDispatch
