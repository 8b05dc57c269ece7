import AgvDispatch.Proofs.Fleet.Following
import AgvDispatch.Proofs.Network.Lattice
import AgvDispatch.Scalar.Double
/-!
# Routes that return to a waypoint

An expected route that visits a waypoint twice can be left. A vehicle that is alone on its map is
planned up to its last return, because what follows has no position; the second plan then resumes at
the first visit and takes the vehicle around the same loop once more
(`Fleet.Alone.running_planRemaining_twice`).

So the routes that are followed whatever happens are those that visit no waypoint twice, and no
others (`Fleet.follows_iff_nodup`).
-/

namespace AgvDispatch

variable {α : Type} [Scalar α]

namespace Fleet

/-! ### The second plan -/

/-- A route that visits a waypoint twice has a last return: from there on it goes to a waypoint that
it has not visited before, or ends. -/
theorem exists_last_return {route : Route} (h : ¬route.Nodup) : ∃ before w between after,
    route = before ++ w :: (between ++ w :: after) ∧ w ∉ before
      ∧ ∀ x ∈ after.head?, x ∉ before ++ w :: (between ++ [w]) := by
  induction route using List.reverseRecOn with
  | nil => exact absurd List.nodup_nil h
  | append_singleton route x ih =>
    by_cases hx : x ∈ route
    · obtain ⟨before, between, rfl, hfirst⟩ := List.eq_append_cons_of_mem hx
      exact ⟨before, x, between, [], by simp, hfirst, by simp⟩
    · have hroute : ¬route.Nodup := by
        intro hnodup
        apply h
        rw [List.nodup_append]
        refine ⟨hnodup, List.nodup_singleton x, ?_⟩
        rintro a ha b hb rfl
        rw [List.mem_singleton] at hb
        exact hx (hb ▸ ha)
      obtain ⟨before, w, between, after, rfl, hfirst, hafter⟩ := ih hroute
      refine ⟨before, w, between, after ++ [x], by simp, hfirst, ?_⟩
      cases after with
      | nil =>
        intro y hy
        obtain rfl : x = y := by simpa using hy
        exact hx
      | cons y after => simpa using hafter

/-- Whether a vehicle that can be planned has its map to itself. -/
structure Alone (f : Fleet α) (id : String) (task : SubTask α) : Prop where
  /-- The sub-task is at the head of its queue. -/
  head : f.backlog.head? id = some task
  /-- It can take a new route. -/
  needsPlan : task.stage.needsPlan = true
  /-- There are no other vehicles. -/
  others_eq : Traffic.others f.registry task.mapId id = []

/-- For a vehicle on its own all of a candidate can be planned up to the first waypoint without a
position. -/
theorem Alone.plannable_eq {f : Fleet α} {id : String} {task : SubTask α} (h : f.Alone id task)
    {part rest : Route} (hpart : f.network.Resolves part)
    (hrest : ∀ x ∈ rest.head?, f.network.position x = none) (hlength : 2 ≤ part.length) :
    f.plannable id task (part ++ rest) = part := by
  unfold plannable
  simp only [Traffic.safePart_of_others_eq_nil h.others_eq hpart hrest]
  rw [if_neg]
  rw [Bool.and_eq_true, decide_eq_true_eq]
  omega

/-- What is left of an expected route is planned if it leads anywhere. -/
theorem planRemaining_of_two_le {f : Fleet α} {id : String} {task : SubTask α}
    (hhead : f.backlog.head? id = some task) (hlong : 2 ≤ task.pendingRoute.length) :
    f.planRemaining id = f.plan id task.pendingRoute := by
  rcases f.planRemaining_cases id with ⟨hnone, -⟩ | ⟨task', hhead', ⟨hshort, -⟩ | ⟨-, heq⟩⟩
  · rw [hhead] at hnone
    cases hnone
  · obtain rfl : task = task' := Option.some.inj (hhead.symm.trans hhead')
    omega
  · obtain rfl : task = task' := Option.some.inj (hhead.symm.trans hhead')
    exact heq

/-- A vehicle on its own is planned along a candidate route up to the first waypoint without a
position. -/
theorem Alone.plan {f : Fleet α} {id : String} {task : SubTask α} (h : f.Alone id task)
    {part rest : Route} (hpart : f.network.Resolves part)
    (hrest : ∀ x ∈ rest.head?, f.network.position x = none) (hlength : 2 ≤ part.length) :
    (f.step (.plan id (part ++ rest))).Alone id (f.plannedTask id task (part ++ rest))
      ∧ f.plannable id task (part ++ rest) = part := by
  have hsegment : f.plannable id task (part ++ rest) = part := h.plannable_eq hpart hrest hlength
  have hpart_ne : part ≠ [] := by
    rintro rfl
    simp at hlength
  have hne : f.plannable id task (part ++ rest) ≠ [] := by
    rw [hsegment]
    exact hpart_ne
  have hstep : f.step (.plan id (part ++ rest)) = f.plannedFleet id task (part ++ rest) :=
    congrArg Prod.snd
      (plan_committed h.head (SubTask.isLive_of_needsPlan h.needsPlan) h.needsPlan hne)
  refine ⟨⟨?_, ?_, ?_⟩, hsegment⟩
  · rw [hstep]
    change (f.backlog.modifyHead id _).head? id = _
    rw [Backlog.head?_modifyHead, if_pos rfl, h.head]
    rfl
  · unfold plannedTask
    rw [SubTask.stage_commitPlan_of_needsPlan]
    · rfl
    · exact h.needsPlan
  · have hregistry : (f.step (.plan id (part ++ rest))).registry = f.registry :=
      (f.frame_plan id (part ++ rest)).2.2
    unfold plannedTask
    rw [hregistry, SubTask.mapId_commitPlan, SubTask.mapId_propose]
    exact h.others_eq

/-- A vehicle on its own is planned to the end of a route whose waypoints all have a position. -/
theorem Alone.plan_whole {f : Fleet α} {id : String} {task : SubTask α} (h : f.Alone id task)
    {candidate : Route} (hknown : f.network.Resolves candidate) (hlength : 2 ≤ candidate.length) :
    ∃ task', (f.step (.plan id candidate)).Alone id task' ∧ task'.stage = .run
      ∧ task'.running = SubTask.joinRoutes task.running candidate
      ∧ task'.traveled = task.traveled := by
  have hnone : ∀ w ∈ ([] : Route).head?, f.network.position w = none := fun w hw => by cases hw
  obtain ⟨halone, hsegment⟩ := h.plan hknown hnone hlength
  rw [List.append_nil] at halone hsegment
  refine ⟨_, halone, ?_, ?_, ?_⟩
  · exact SubTask.stage_commitPlan_of_needsPlan (t := task.propose candidate) h.needsPlan _ _
  · rw [running_plannedTask, hsegment]
  · rw [plannedTask, SubTask.traveled_commitPlan, SubTask.traveled_propose]

/-- A vehicle on its own is planned along its expected route up to the first waypoint without a
position. -/
theorem Alone.planRemaining {f : Fleet α} {id : String} {task : SubTask α} (h : f.Alone id task)
    {part rest : Route} (hpending : task.pendingRoute = part ++ rest)
    (hpart : f.network.Resolves part) (hrest : ∀ x ∈ rest.head?, f.network.position x = none)
    (hlength : 2 ≤ part.length) : ∃ task', (f.step (.planRemaining id)).Alone id task'
      ∧ task'.expected = task.expected
      ∧ task'.running = SubTask.joinRoutes task.running part := by
  obtain ⟨halone, hsegment⟩ := h.plan hpart hrest hlength
  rw [← hpending] at halone hsegment
  have hlong : 2 ≤ task.pendingRoute.length := by
    rw [hpending, List.length_append]
    omega
  have hpending_ne : task.pendingRoute ≠ [] := List.ne_nil_of_length_pos (by omega)
  have hstep : f.step (.planRemaining id) = f.step (.plan id task.pendingRoute) :=
    congrArg Prod.snd (planRemaining_of_two_le h.head hlong)
  rw [hstep]
  refine ⟨f.plannedTask id task task.pendingRoute, halone, ?_, ?_⟩
  · unfold plannedTask
    rw [SubTask.expected_commitPlan]
    exact SubTask.expected_propose_pendingRoute hpending_ne
  · rw [running_plannedTask, hsegment]

/-- **A vehicle on its own goes around in a loop.** Its expected route returns to a waypoint, and
what follows has no position yet. The first plan takes the vehicle to the return, and the second one
around the loop once more. -/
theorem Alone.running_planRemaining_twice {f : Fleet α} {id : String} {task : SubTask α}
    (h : f.Alone id task) {before between after : Route} {w : Waypoint}
    (hexpected : task.expected = before ++ w :: (between ++ w :: after))
    (hrunning : task.running = []) (hfirst : w ∉ before)
    (hknown : f.network.Resolves (before ++ w :: (between ++ [w])))
    (hafter : ∀ x ∈ after.head?, f.network.position x = none) :
    ∃ task', (f.run [.planRemaining id, .planRemaining id]).backlog.head? id = some task'
      ∧ task'.running = before ++ w :: (between ++ w :: (between ++ [w])) := by
  have hpending : task.pendingRoute = (before ++ w :: (between ++ [w])) ++ after := by
    rw [SubTask.pendingRoute_of_running_eq_nil hrunning, hexpected]
    simp
  obtain ⟨task₁, h₁, hexpected₁, hrunning₁⟩ :=
    h.planRemaining hpending hknown hafter (by simp; omega)
  rw [hrunning, SubTask.joinRoutes_nil_left] at hrunning₁
  rw [hexpected] at hexpected₁
  -- The committed route ends at the return, and the first visit is where planning resumes.
  have hend : task₁.runningEnd = some w := by
    have hlast : before ++ w :: (between ++ [w]) = (before ++ w :: between) ++ [w] := by simp
    rw [SubTask.runningEnd, hrunning₁, hlast, List.getLast?_concat]
  have hpending₁ : task₁.pendingRoute = (w :: (between ++ [w])) ++ after := by
    rw [SubTask.pendingRoute_of_expected_eq hend hexpected₁ hfirst]
    simp
  have hknown₁ : (f.step (.planRemaining id)).network.Resolves (w :: (between ++ [w])) := by
    rw [network_step]
    exact hknown.mono (List.subset_append_right _ _)
  obtain ⟨task₂, h₂, -, hrunning₂⟩ := h₁.planRemaining hpending₁ hknown₁
    (by rw [network_step]; exact hafter) (by simp)
  refine ⟨task₂, h₂.head, ?_⟩
  rw [hrunning₂, SubTask.joinRoutes_of_getLast? hend, hrunning₁]
  simp

/-! ### A tour -/

/-- Waypoints on one spot. -/
def spots (known : Route) : Network α :=
  known.foldl (fun n w => n.addPoint w ⟨0, 0⟩) {}

theorem position_spots (known : Route) (w : Waypoint) :
    (spots known : Network α).position w = if w ∈ known then some ⟨0, 0⟩ else none := by
  have hfold : ∀ n : Network α, (known.foldl (fun n w => n.addPoint w ⟨0, 0⟩) n).position w
      = if w ∈ known then some ⟨0, 0⟩ else n.position w := by
    induction known with
    | nil => exact fun n => rfl
    | cons v known ih =>
      intro n
      rw [List.foldl_cons, ih, Network.position_addPoint]
      by_cases hw : w ∈ known
      · rw [if_pos hw, if_pos (List.mem_cons_of_mem v hw)]
      · by_cases hv : v = w
        · rw [if_neg hw, if_pos hv, if_pos (hv ▸ List.mem_cons_self)]
        · have hnot : w ∉ v :: known := by
            rw [List.mem_cons, not_or]
            exact ⟨fun heq => hv heq.symm, hw⟩
          rw [if_neg hw, if_neg hv, if_neg hnot]
  exact hfold {}

/-- The only vehicle of a tour. -/
def guide : Vehicle α := .ready "a" 1 ⟨0, 0⟩ 0

/-- An order for the only vehicle of a tour. -/
def tourOrder : TransportOrder :=
  { TransportOrder.ofRoute "tour" ⟨1, 1⟩ ⟨1, 1⟩ with vehicleId := some "a" }

/-- One vehicle on a network. -/
def solo (n : Network α) : Fleet α :=
  start .standard (.ofList [guide]) n none {}

/-- One vehicle on a network where only some waypoints are known. -/
def tourStart (known : Route) : Fleet α :=
  start .standard (.ofList [guide]) (spots known) none {}

/-- The vehicle has been given an order and is expected to take a route. -/
def tour (known route : Route) : Fleet α :=
  ((tourStart known).step (.assign tourOrder)).expect "a" route

theorem idle?_solo (n : Network α) : (solo n).registry.idle? "a" = some guide := by
  simp [solo, start, Registry.ofList, Registry.idle?, Registry.get?_upsert, guide,
    Vehicle.ready, Vehicle.isIdle]

theorem idle?_tourStart (known : Route) :
    (tourStart known : Fleet α).registry.idle? "a" = some guide :=
  idle?_solo (spots known)

theorem distribute_solo (n : Network α) :
    ((solo n).distributor.distribute (solo n).registry (solo n).network (solo n).backlog
      tourOrder).1 = some guide := by
  unfold Distributor.distribute
  have hnew : tourOrder.stage = .new := rfl
  have hrequested : tourOrder.requestedVehicle = some "a" := rfl
  rw [if_pos hnew, hrequested]
  simp only [Distributor.requested]
  rw [idle?_solo]
  rfl

theorem head?_solo (n : Network α) : ((solo n).step (.assign tourOrder)).backlog.head? "a"
    = some (.ofOrder "a" tourOrder 1) := by
  have hbacklog : ((solo n).step (.assign tourOrder)).backlog
      = (solo n).backlog.push (.ofOrder "a" tourOrder 1) := by
    simp only [step, assign]
    rw [distribute_solo]
    rfl
  rw [hbacklog, Backlog.head?_push]
  rfl

theorem others_solo (n : Network α) (event : FleetEvent α) (mapId : Int) :
    Traffic.others ((solo n).step event).registry mapId "a" = [] := by
  rw [List.eq_nil_iff_forall_not_mem]
  intro v hv
  obtain ⟨⟨id, hid⟩, -, hne⟩ := Traffic.mem_others.mp hv
  obtain ⟨u, hu, hkey, -⟩ := exists_get?_of_step hid
  change ((({} : Registry α).upsert guide).get? id) = some u at hu
  rw [Registry.get?_upsert, Registry.get?_empty] at hu
  split at hu
  · rw [Option.some.injEq] at hu
    rw [← hu] at hkey
    exact hne hkey
  · cases hu

/-- The only vehicle has an order. -/
theorem alone_solo (n : Network α) :
    ((solo n).step (.assign tourOrder)).Alone "a" (.ofOrder "a" tourOrder 1) :=
  ⟨head?_solo n, rfl, others_solo n _ _⟩

theorem head?_assigned (known : Route) :
    ((tourStart known : Fleet α).step (.assign tourOrder)).backlog.head? "a"
      = some (.ofOrder "a" tourOrder 1) :=
  head?_solo (spots known)

theorem head?_tour (known route : Route) : (tour known route : Fleet α).backlog.head? "a"
    = some { (.ofOrder "a" tourOrder 1 : SubTask α) with expected := route } := by
  unfold tour expect
  rw [Backlog.head?_modifyHead, if_pos rfl, head?_assigned]
  rfl

theorem expects_tour (known route : Route) : (tour known route : Fleet α).Expects "a" route :=
  ⟨⟨_, head?_tour known route, rfl⟩, _, _, head?_assigned known, rfl, Or.inl rfl⟩

theorem live_tour (known route : Route) : (tour known route : Fleet α).Live :=
  ((live_of_queues_empty Backlog.queue_empty).step _).expect "a" route

theorem alone_tour (known route : Route) : (tour known route : Fleet α).Alone "a"
    { (.ofOrder "a" tourOrder 1 : SubTask α) with expected := route } :=
  ⟨head?_tour known route, rfl, others_solo (spots known) _ _⟩

/-- **Planning follows the expected route, whatever happens to the fleet, if and only if the route
visits no waypoint twice.** -/
theorem follows_iff_nodup (route : Route) :
    (∀ (f : Fleet α) (id : String) (events : List (FleetEvent α)), f.Live → f.Expects id route →
        Along (Undisturbed id) f events → (f.run events).Follows id route)
      ↔ route.Nodup := by
  constructor
  · intro hfollows
    by_contra hnodup
    obtain ⟨before, w, between, after, rfl, hfirst, hafter⟩ := exists_last_return hnodup
    -- Only the waypoints up to the last return are known.
    have hnetwork : (tour (before ++ w :: (between ++ [w]))
        (before ++ w :: (between ++ w :: after)) : Fleet α).network
          = spots (before ++ w :: (between ++ [w])) :=
      network_step _ _
    obtain ⟨task, hhead, hrunning⟩ := (alone_tour (α := α) (before ++ w :: (between ++ [w]))
      (before ++ w :: (between ++ w :: after))).running_planRemaining_twice rfl rfl hfirst (by
        rw [hnetwork]
        intro x hx
        exact ⟨_, (position_spots _ x).trans (if_pos hx)⟩) (by
        rw [hnetwork]
        intro x hx
        exact (position_spots _ x).trans (if_neg (hafter x hx)))
    obtain ⟨task', hhead', hpre, -⟩ := hfollows (tour (before ++ w :: (between ++ [w])) _) "a"
      [.planRemaining "a", .planRemaining "a"] (live_tour _ _) (expects_tour _ _)
      ⟨trivial, trivial, trivial⟩
    obtain rfl : task = task' := Option.some.inj (hhead.symm.trans hhead')
    rw [hrunning, List.prefix_append_right_inj, List.cons_prefix_cons,
      List.prefix_append_right_inj, List.cons_prefix_cons] at hpre
    -- The second loop would have to begin with the waypoint after the last return.
    obtain ⟨rest, hrest⟩ := hpre.2.2
    obtain ⟨x, loop, hloop⟩ := List.exists_cons_of_ne_nil
      (List.append_ne_nil_of_right_ne_nil between (List.cons_ne_nil w []))
    refine hafter x ?_ ?_
    · rw [← hrest, hloop]
      rfl
    · rw [hloop]
      simp
  · intro hnodup f id events hlive hexpects hevents
    exact follows_of_nodup hnodup hlive hexpects hevents

/-- **There and back again**: a vehicle that has been planned to the end of its expected route is
planned along all of it once more. -/
theorem running_there_and_back : ∃ task, ((tour [⟨1, 1⟩, ⟨1, 2⟩] [⟨1, 1⟩, ⟨1, 2⟩, ⟨1, 1⟩] :
      Fleet Float).run [.planRemaining "a", .planRemaining "a"]).backlog.head? "a" = some task
    ∧ task.running = [⟨1, 1⟩, ⟨1, 2⟩, ⟨1, 1⟩, ⟨1, 2⟩, ⟨1, 1⟩] := by
  have hnetwork : (tour [⟨1, 1⟩, ⟨1, 2⟩] [⟨1, 1⟩, ⟨1, 2⟩, ⟨1, 1⟩] : Fleet Float).network
      = spots [⟨1, 1⟩, ⟨1, 2⟩] := network_step _ _
  have hexpected : [⟨1, 1⟩, ⟨1, 2⟩, ⟨1, 1⟩]
      = [] ++ (⟨1, 1⟩ : Waypoint) :: ([⟨1, 2⟩] ++ ⟨1, 1⟩ :: []) := rfl
  refine (alone_tour [⟨1, 1⟩, ⟨1, 2⟩] _).running_planRemaining_twice hexpected rfl List.not_mem_nil
    ?_ ?_
  · rw [hnetwork]
    intro w hw
    refine ⟨_, (position_spots _ w).trans (if_pos ?_)⟩
    simpa [or_comm] using hw
  · exact fun w hw => by cases hw

end Fleet

end AgvDispatch
