import AgvDispatch.Proofs.Fleet.Detour
import AgvDispatch.Proofs.Network.Length
/-!
# What a sub-task costs

The expected cost of a sub-task is counted up: every committed segment adds its own length. A
segment that begins where the committed route ends shares that waypoint with it, so that the lengths
add up over the joint (`SubTask.routeLength_joinRoutes`). If the vehicle is never planned from
anywhere else, the expected cost is therefore the length of the committed route at all times
(`Fleet.Costed.step`), in all fleets that can be reached (`Fleet.DrivenOn`).

What a completed sub-task has cost is the length of the committed route up to the waypoint that the
vehicle stands on, because what lies behind the vehicle is the beginning of the committed route. So
it is not more than expected (`Fleet.costsAddUp`).
-/

namespace AgvDispatch

namespace SubTask

/-! ### Costs of one sub-task -/

/-- **Lengths add up** when a segment is joined to a route that is empty or ends where it begins. -/
theorem routeLength_joinRoutes (n : Network ℝ) {route segment : Route}
    (h : route ≠ [] → segment ≠ [] → segment.head? = route.getLast?) :
    n.routeLength (joinRoutes route segment) = n.routeLength route + n.routeLength segment := by
  cases segment with
  | nil => rw [joinRoutes_nil_right, Network.routeLength_nil, add_zero]
  | cons w rest =>
    by_cases hroute : route = []
    · rw [hroute, joinRoutes_nil_left, Network.routeLength_nil, zero_add]
    · have hlast : route.getLast? = some w := (h hroute (List.cons_ne_nil w rest)).symm
      obtain ⟨init, rfl⟩ := List.getLast?_eq_some_iff.mp hlast
      rw [joinRoutes_of_getLast? hlast, List.append_assoc, List.singleton_append]
      exact n.routeLength_append init w rest

section

variable {α : Type} [Scalar α] (t : SubTask α)

@[simp] theorem expectedCost_commitPlan (segment : Route) (length : α) :
    (t.commitPlan segment length).expectedCost = t.expectedCost + length := by
  unfold commitPlan setMark startRunning
  simp only
  split <;> rfl

omit [Scalar α] in
@[simp] theorem expectedCost_passed (r : VehicleReport α) :
    (r.passed t).expectedCost = t.expectedCost := by
  unfold VehicleReport.passed
  split
  · rfl
  · rename_i here _
    rcases t.reach_cases here with h | ⟨i, -, h⟩ <;> rw [h]
    rfl

/-- Whether a route goes on from where the committed route ends. Anything does while nothing is
committed, and a route without waypoints always does. -/
def GoesOn (t : SubTask α) (candidate : Route) : Prop :=
  t.running ≠ [] → candidate ≠ [] → candidate.head? = t.runningEnd

omit [Scalar α] in
theorem goesOn_pendingRoute : t.GoesOn t.pendingRoute := head?_pendingRoute

omit [Scalar α] in
variable {t} in
/-- A first part of a route that goes on goes on. -/
theorem GoesOn.of_prefix {segment candidate : Route} (h : t.GoesOn candidate)
    (hbegins : segment <+: candidate) : t.GoesOn segment := by
  intro hrunning hsegment
  obtain ⟨w, segment, rfl⟩ := List.exists_cons_of_ne_nil hsegment
  obtain ⟨rest, rfl⟩ := hbegins
  exact h hrunning (List.cons_ne_nil _ _)

end

/-- **What is driven of a committed route**: what lies behind the vehicle and the waypoint it stands
on. -/
theorem OnTrack.take_running {α : Type} {t : SubTask α} (h : t.OnTrack) :
    t.running.take (t.traveled.length + 1) = t.traveled ++ t.effectiveRoute.take 1 := by
  conv_lhs => rw [h.running_eq]
  rw [List.take_length_add_append]

/-- Whether the expected cost of a sub-task is the length of what has been committed. -/
def Costed (t : SubTask ℝ) (n : Network ℝ) : Prop := t.expectedCost = n.routeLength t.running

theorem Costed.of_eq {t t' : SubTask ℝ} {n : Network ℝ} (h : t.Costed n)
    (hcost : t'.expectedCost = t.expectedCost) (hrunning : t'.running = t.running) :
    t'.Costed n := by
  unfold Costed
  rw [hcost, hrunning]
  exact h

theorem Costed.commitPlan {t : SubTask ℝ} {n : Network ℝ} (h : t.Costed n) {segment : Route}
    (hon : t.GoesOn segment) : (t.commitPlan segment (n.routeLength segment)).Costed n := by
  unfold Costed
  rw [expectedCost_commitPlan, running_commitPlan, routeLength_joinRoutes n hon]
  exact congrArg (· + n.routeLength segment) h

/-- **The costs of a completed sub-task.** -/
structure Settled (t : SubTask ℝ) (n : Network ℝ) : Prop where
  /-- The expected cost is the length of what has been committed. -/
  expectedCost_eq : t.expectedCost = n.routeLength t.running
  /-- The committed route up to the waypoint that the vehicle stands on is what lies behind the
  vehicle and that waypoint. -/
  driven_eq : t.running.take (t.traveled.length + 1) = t.traveled ++ t.effectiveRoute.take 1
  /-- The realized cost is the length of that part of the committed route. -/
  realizedCost_eq : t.realizedCost = n.routeLength (t.running.take (t.traveled.length + 1))
  /-- The realized cost is not negative. -/
  realizedCost_nonneg : 0 ≤ t.realizedCost
  /-- It is not more than was expected. -/
  realizedCost_le : t.realizedCost ≤ t.expectedCost

/-- A sub-task is settled by the length of what was driven. -/
theorem Costed.settled {t : SubTask ℝ} {n : Network ℝ} (h : t.Costed n) (htrack : t.OnTrack)
    (hrealized : t.realizedCost = n.routeLength (t.traveled ++ t.effectiveRoute.take 1)) :
    t.Settled n := by
  have hcut : t.realizedCost = n.routeLength (t.running.take (t.traveled.length + 1)) := by
    rw [htrack.take_running]
    exact hrealized
  refine ⟨h, htrack.take_running, hcut, ?_, ?_⟩
  · rw [hcut]
    exact n.routeLength_nonneg _
  · rw [hcut, show t.expectedCost = n.routeLength t.running from h]
    exact n.routeLength_le_of_prefix (List.take_prefix _ _)

end SubTask

namespace Fleet

/-! ### Planning on -/

section

variable {α : Type} [Scalar α]

/-- Whether an event plans a vehicle, if at all, on from where its committed route ends. -/
def PlansOn (f : Fleet α) (id : String) : FleetEvent α → Prop
  | .plan owner candidate =>
    owner = id → ∀ task, f.backlog.head? id = some task → task.GoesOn candidate
  | _ => True

/-- **The fleets that can be reached from a given one without planning a vehicle from elsewhere**,
by events, by writes to the registry, and by writes to the sub-task at the head of a queue that
leave what has been committed, what lies behind the vehicle and the expected cost alone. -/
inductive DrivenOn (id : String) (f₀ : Fleet α) : Fleet α → Prop
  | refl : DrivenOn id f₀ f₀
  /-- Something happens to the fleet. -/
  | step {f : Fleet α} (h : DrivenOn id f₀ f) (event : FleetEvent α)
    (plansOn : f.PlansOn id event) : DrivenOn id f₀ (f.step event)
  /-- The registry is written to. -/
  | register {f : Fleet α} (h : DrivenOn id f₀ f) (registry : Registry α) :
    DrivenOn id f₀ { f with registry }
  /-- The head of a queue is written to. -/
  | edit {f : Fleet α} (h : DrivenOn id f₀ f) (owner : String) (change : SubTask α → SubTask α)
    (running_eq : ∀ task, (change task).running = task.running)
    (traveled_eq : ∀ task, (change task).traveled = task.traveled)
    (expectedCost_eq : ∀ task, (change task).expectedCost = task.expectedCost) :
    DrivenOn id f₀ (f.edit owner change)

/-- What is committed goes on from where the committed route ends. -/
theorem goesOn_plannable {f : Fleet α} {id : String} {event : FleetEvent α}
    (hevent : f.PlansOn id event) {task : SubTask α} {candidate : Route}
    (hplan : event = .plan id candidate
      ∨ (event = .planRemaining id ∧ candidate = task.pendingRoute))
    (hhead : f.backlog.head? id = some task) : task.GoesOn (f.plannable id task candidate) := by
  refine SubTask.GoesOn.of_prefix ?_ (f.plannable_isPrefix id task candidate)
  rcases hplan with rfl | ⟨-, rfl⟩
  · exact hevent rfl task hhead
  · exact task.goesOn_pendingRoute

end

/-- Whether the expected cost of every sub-task of a vehicle is the length of what has been
committed. -/
structure Costed (f : Fleet ℝ) (n : Network ℝ) (id : String) : Prop where
  /-- The network is the given one. -/
  network_eq : f.network = n
  /-- The routes of the sub-tasks fit together. -/
  onTrack : f.OnTrack
  /-- The costs are the lengths. -/
  tasks : ∀ task ∈ f.backlog.queue id, task.Costed n

namespace Costed

variable {f : Fleet ℝ} {n : Network ℝ} {id : String}

theorem start (settings : Settings ℝ) (registry : Registry ℝ) (n : Network ℝ)
    (hook : Option (AllocationHook ℝ)) (sink : Sink) (id : String) :
    (Fleet.start settings registry n hook sink).Costed n id := by
  have hempty := queue_start settings registry n hook sink
  refine ⟨rfl, OnTrack.of_queues_empty hempty, fun task htask => ?_⟩
  rw [hempty] at htask
  exact absurd htask List.not_mem_nil

theorem costed_plannedTask (h : f.Costed n id) {event : FleetEvent ℝ}
    (hevent : f.PlansOn id event) {task : SubTask ℝ} {candidate : Route}
    (hplan : event = .plan id candidate
      ∨ (event = .planRemaining id ∧ candidate = task.pendingRoute))
    (hhead : f.backlog.head? id = some task) : (f.plannedTask id task candidate).Costed n := by
  have htask : task.Costed n := h.tasks task (List.mem_of_head? hhead)
  have hon : task.GoesOn (f.plannable id task candidate) := goesOn_plannable hevent hplan hhead
  have hproposed : (task.propose candidate).Costed n := htask.of_eq rfl rfl
  unfold plannedTask
  rw [h.network_eq]
  exact hproposed.commitPlan hon

/-- **What one event does to the costs of a vehicle**: the cost of a committed segment is its
length, and no other event changes a cost or a committed route. -/
theorem tasks_step (h : f.Costed n id) {event : FleetEvent ℝ} (hevent : f.PlansOn id event) :
    ∀ task ∈ (f.step event).backlog.queue id, task.Costed n := by
  have hall := h.tasks
  have hhead : ∀ {task : SubTask ℝ}, f.backlog.head? id = some task → task.Costed n :=
    fun hhead => hall _ (List.mem_of_head? hhead)
  -- An event that replaces the head of a queue leaves the sub-tasks behind it alone.
  have hreplace : ∀ {owner : String} {task' : SubTask ℝ},
      (f.step event).backlog = f.backlog.modifyHead owner (fun _ => task') →
      (owner = id → task'.Costed n) →
      ∀ task ∈ (f.step event).backlog.queue id, task.Costed n := by
    intro owner task' hbacklog htask'
    rw [hbacklog, Backlog.queue_modifyHead]
    split
    · rename_i howner
      exact forall_mem_modifyHead hall fun _ _ => htask' howner
    · exact hall
  cases f.change_step event with
  | idle hbacklog _ | released _ _ hbacklog _ =>
    rw [hbacklog]
    exact hall
  | assigned owner order _ hbacklog _ =>
    rw [hbacklog, Backlog.queue_push]
    split
    · rw [List.forall_mem_append, List.forall_mem_singleton]
      exact ⟨hall, (Network.routeLength_nil n).symm⟩
    · exact hall
  | staged owner task stage _ howner _ hbacklog _ =>
    refine hreplace hbacklog ?_
    rintro rfl
    exact (hhead howner).of_eq rfl rfl
  | deferred owner task candidate _ howner _ _ _ _ hbacklog _ =>
    refine hreplace hbacklog ?_
    rintro rfl
    exact (hhead howner).of_eq rfl rfl
  | planned owner task candidate hplan howner _ _ _ hbacklog _ =>
    refine hreplace hbacklog ?_
    rintro rfl
    exact h.costed_plannedTask hevent hplan howner
  | reported r v _ _ hqueue _ =>
    rw [hqueue]
    split
    · exact forall_mem_modifyHead hall fun task htask =>
        (hhead htask).of_eq (task.expectedCost_passed r) (task.running_passed r)
    · exact hall
  | closed owner task _ _ hbacklog _ =>
    rw [hbacklog, Backlog.queue_removeHead]
    split
    · exact fun task htask => hall task (List.mem_of_mem_tail htask)
    · exact hall

theorem step (h : f.Costed n id) {event : FleetEvent ℝ} (hevent : f.PlansOn id event) :
    (f.step event).Costed n id :=
  ⟨(network_step f event).trans h.network_eq, h.onTrack.step event, h.tasks_step hevent⟩

theorem edit (h : f.Costed n id) (owner : String) {change : SubTask ℝ → SubTask ℝ}
    (hrunning : ∀ task, (change task).running = task.running)
    (htraveled : ∀ task, (change task).traveled = task.traveled)
    (hcost : ∀ task, (change task).expectedCost = task.expectedCost) :
    (f.edit owner change).Costed n id := by
  refine ⟨h.network_eq, h.onTrack.edit owner hrunning htraveled, ?_⟩
  rw [queue_edit]
  split
  · exact forall_mem_modifyHead h.tasks fun task htask =>
      (h.tasks task (List.mem_of_head? htask)).of_eq (hcost task) (hrunning task)
  · exact h.tasks

/-- **Costs stay what they should be** as long as the vehicle is planned on from where it is. -/
theorem of_drivenOn {f₀ : Fleet ℝ} (h : f₀.Costed n id) (hreach : f₀.DrivenOn id f) :
    f.Costed n id := by
  induction hreach with
  | refl => exact h
  | step _ event hevent ih => exact ih.step hevent
  | register _ registry ih =>
    exact ⟨ih.network_eq, ⟨ih.onTrack.tasks, ih.onTrack.waiting⟩, ih.tasks⟩
  | edit _ owner change hrunning htraveled hcost ih =>
    exact ih.edit owner hrunning htraveled hcost

end Costed

/-! ### Costs of a fleet -/

/-- **What the sub-tasks of a vehicle cost.** -/
structure CostsAddUp (f : Fleet ℝ) (n : Network ℝ) (id : String) : Prop where
  /-- The expected cost of every sub-task is the length of what has been committed. -/
  queued : ∀ task ∈ f.backlog.queue id, task.expectedCost = n.routeLength task.running
  /-- The sub-task that is handed back when it is completed is the head of the queue, and it is
  settled. -/
  finished : ∀ done f', f.finish id = .ok (done, f') → done.Settled n
    ∧ ∃ task, f.backlog.head? id = some task
      ∧ done = { task.setStage .finish with realizedCost := done.realizedCost }

theorem Costed.addUp {f : Fleet ℝ} {n : Network ℝ} {id : String} (h : f.Costed n id) :
    f.CostsAddUp n id where
  queued := h.tasks
  finished := by
    intro done f' hfinish
    obtain ⟨task, hhead, -, heq⟩ := finish_eq_ok_iff.mp hfinish
    obtain ⟨rfl, -⟩ := Prod.mk.inj heq
    have htask : task.Costed n := h.tasks task (List.mem_of_head? hhead)
    refine ⟨SubTask.Costed.settled htask ((h.onTrack.head hhead).of_eq rfl rfl) ?_,
      task, hhead, rfl⟩
    rw [← h.network_eq]
    rfl

/-- **Costs add up** for every vehicle that is planned on from where its committed route ends,
whatever else happens to the fleet. -/
theorem costsAddUp (settings : Settings ℝ) (registry : Registry ℝ) (n : Network ℝ)
    (hook : Option (AllocationHook ℝ)) (sink : Sink) {id : String} {f : Fleet ℝ}
    (h : (start settings registry n hook sink).DrivenOn id f) : f.CostsAddUp n id :=
  ((Costed.start settings registry n hook sink id).of_drivenOn h).addUp

/-! ### A journey -/

/-- A straight edge that declares its length. -/
noncomputable def toll (length : ℝ) : Edge ℝ := { Edge.straight with distance := length }

/-- Three waypoints in a row, three and four apart. -/
noncomputable def tollRoad : Network ℝ :=
  ((spots [⟨1, 1⟩, ⟨1, 2⟩, ⟨1, 3⟩]).addEdge ⟨1, 1⟩ ⟨1, 2⟩ (toll 3)).addEdge ⟨1, 2⟩ ⟨1, 3⟩ (toll 4)

theorem resolves_tollRoad : tollRoad.Resolves [⟨1, 1⟩, ⟨1, 2⟩, ⟨1, 3⟩] :=
  fun w hw => ⟨_, (position_spots [⟨1, 1⟩, ⟨1, 2⟩, ⟨1, 3⟩] w).trans (if_pos hw)⟩

theorem stepLength_tollRoad : tollRoad.stepLength ⟨1, 1⟩ ⟨1, 2⟩ = 3
    ∧ tollRoad.stepLength ⟨1, 2⟩ ⟨1, 3⟩ = 4 := by
  have hfirst : tollRoad.edge? ⟨1, 1⟩ ⟨1, 2⟩ = some (toll 3) := by
    unfold tollRoad
    rw [Network.edge?_addEdge, if_neg (by decide), Network.edge?_addEdge, if_pos (by decide)]
  have hsecond : tollRoad.edge? ⟨1, 2⟩ ⟨1, 3⟩ = some (toll 4) := by
    unfold tollRoad
    rw [Network.edge?_addEdge, if_pos (by decide)]
  exact ⟨Network.stepLength_of_declared hfirst three_pos,
    Network.stepLength_of_declared hsecond four_pos⟩

/-- The report of the vehicle on the second waypoint. -/
noncomputable def halfway : VehicleReport ℝ :=
  { VehicleReport.ofPosition "a" 1 ⟨0, 0⟩ with currentPoint := some 2 }

/-- The vehicle is given an order, is planned to the second and then to the third waypoint, and
reports to stand on the second one. -/
noncomputable def tollJourney : Fleet ℝ :=
  ((((solo tollRoad).step (.assign tourOrder)).step (.plan "a" [⟨1, 1⟩, ⟨1, 2⟩])).step
    (.plan "a" [⟨1, 2⟩, ⟨1, 3⟩])).step (.report halfway)

/-- Where the journey leads: two segments are committed, and one waypoint lies behind. -/
theorem drivenOn_tollJourney : (solo tollRoad).DrivenOn "a" tollJourney
    ∧ ∃ task, tollJourney.backlog.head? "a" = some task ∧ task.stage = .run
      ∧ task.running = [⟨1, 1⟩, ⟨1, 2⟩, ⟨1, 3⟩] ∧ task.traveled = [⟨1, 1⟩] := by
  -- Facts that carry over from step to step are kept apart from how the fleet has been built.
  have hassigned : (solo tollRoad).DrivenOn "a" ((solo tollRoad).step (.assign tourOrder)) :=
    .step .refl _ trivial
  have halone := alone_solo tollRoad
  have hnetwork : ((solo tollRoad).step (.assign tourOrder)).network = tollRoad := network_step _ _
  have hregistered :
      (((solo tollRoad).step (.assign tourOrder)).registry.get? "a").isSome = true :=
    isSome_get?_step _ _ _
  unfold tollJourney
  generalize (solo tollRoad).step (.assign tourOrder) = f at *
  have hfirst : f.network.Resolves [⟨1, 1⟩, ⟨1, 2⟩] := by
    rw [hnetwork]
    exact resolves_tollRoad.mono (by simp)
  obtain ⟨task₁, halone₁, -, hrunning₁, htraveled₁⟩ := halone.plan_whole hfirst le_rfl
  have hdriven₁ : (solo tollRoad).DrivenOn "a" (f.step (.plan "a" [⟨1, 1⟩, ⟨1, 2⟩])) := by
    refine hassigned.step _ fun _ task hhead hrunning => ?_
    obtain rfl : _ = task := Option.some.inj (halone.head.symm.trans hhead)
    exact absurd rfl hrunning
  have hsecond : (f.step (.plan "a" [⟨1, 1⟩, ⟨1, 2⟩])).network.Resolves [⟨1, 2⟩, ⟨1, 3⟩] := by
    rw [network_step, hnetwork]
    exact resolves_tollRoad.mono (by simp)
  obtain ⟨task₂, halone₂, hstage₂, hrunning₂, htraveled₂⟩ := halone₁.plan_whole hsecond le_rfl
  have hdriven₂ := hdriven₁.step (.plan "a" [⟨1, 2⟩, ⟨1, 3⟩]) (by
    intro _ task hhead _ _
    obtain rfl : task₁ = task := Option.some.inj (halone₁.head.symm.trans hhead)
    rw [SubTask.runningEnd, hrunning₁]
    rfl)
  have hrunning : task₂.running = [⟨1, 1⟩, ⟨1, 2⟩, ⟨1, 3⟩] := by
    rw [hrunning₂, hrunning₁]
    rfl
  have htraveled : task₂.traveled = [] := htraveled₂.trans htraveled₁
  have hahead : task₂.effectiveRoute = [⟨1, 1⟩, ⟨1, 2⟩, ⟨1, 3⟩] := by
    rw [SubTask.effectiveRoute, hrunning, htraveled]
    rfl
  refine ⟨hdriven₂.step (.report halfway) trivial, halfway.passed task₂, ?_, ?_, ?_, ?_⟩
  · refine head?_report (r := halfway) halone₂.head ?_
    rw [isSome_get?_step, isSome_get?_step]
    exact hregistered
  · rw [SubTask.stage_passed, hstage₂]
  · rw [SubTask.running_passed, hrunning]
  · change (task₂.reach ⟨1, 2⟩).traveled = _
    rw [SubTask.reach, hahead]
    change task₂.traveled ++ _ = _
    rw [htraveled]
    rfl

/-- **A journey is paid for**: seven is expected, and three is due at the second waypoint. -/
theorem costsAddUp_toll : (solo tollRoad).DrivenOn "a" tollJourney
    ∧ ∃ done f', tollJourney.finish "a" = .ok (done, f')
      ∧ done.expectedCost = 7 ∧ done.realizedCost = 3 := by
  obtain ⟨hdriven, task, hhead, hstage, hrunning, htraveled⟩ := drivenOn_tollJourney
  have hcosts := costsAddUp .standard (.ofList [guide]) tollRoad none {} hdriven
  obtain ⟨hfirst, hsecond⟩ := stepLength_tollRoad
  have hmay : task.stage.mayBecome .finish = true := by
    rw [hstage]
    rfl
  refine ⟨hdriven, _, _, finish_eq_ok_iff.mpr ⟨task, hhead, hmay, rfl⟩, ?_⟩
  obtain ⟨hsettled, -⟩ := hcosts.finished _ _ (finish_eq_ok_iff.mpr ⟨task, hhead, hmay, rfl⟩)
  constructor
  · rw [hsettled.expectedCost_eq, SubTask.running_setStage, hrunning, Network.routeLength_eq_sum]
    simp [Route.steps, hfirst, hsecond]
    norm_num
  · rw [hsettled.realizedCost_eq, SubTask.running_setStage, SubTask.traveled_setStage, hrunning,
      htraveled, Network.routeLength_eq_sum]
    simp [Route.steps, hfirst]

end Fleet

end AgvDispatch
