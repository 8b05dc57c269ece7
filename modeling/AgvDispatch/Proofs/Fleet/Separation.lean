import AgvDispatch.Proofs.Fleet.OnMap
/-!
# Vehicles under way keep apart

A plan is held against the corridors of the other vehicles once, when it is made, and only from the
side of the vehicle that is planned. Nevertheless any two corridors stay apart as long as they are
held: by the buffer of a corridor, the safety buffer and the smaller of the two radii
(`Fleet.le_distance_of_coherent_run`).

The argument does not look at corridors but at the points that a vehicle **claims**, those of the
skeleton it has reserved (`Traffic.claimed`).

* What lies ahead of a vehicle is claimed by it (`Fleet.Reserved`). So a segment that is planned
  adds to the claim of its vehicle what the segment covers, and nothing else: the old part of the
  route was claimed before.
* A report and the end of a sub-task only take something away from a claim.

Both rest on routes that are coherent (`Fleet.Coherent`): a candidate begins where the committed
route ends, and a vehicle reports the route that the fleet believes to lie ahead of it.
-/

namespace AgvDispatch.Fleet

/-! ### The steps -/

/-- **What holds of a fleet all the time**: it stays on its map and on track, what lies ahead of a
vehicle is claimed by it, and claims keep apart. -/
structure Separated (f : Fleet ℝ) (mapId : ℤ) : Prop where
  /-- Everything is on the map. -/
  onMap : f.OnMap mapId
  /-- The routes of the sub-tasks fit together. -/
  onTrack : f.OnTrack
  /-- What lies ahead is claimed. -/
  reserved : f.Reserved
  /-- Claims keep apart. -/
  apart : f.Apart

namespace Separated

variable {f f' : Fleet ℝ} {mapId : ℤ}

theorem mapId_head (h : f.Separated mapId) {id : String} {task : SubTask ℝ}
    (hhead : f.backlog.head? id = some task) : task.mapId = mapId := by
  obtain ⟨rest, hqueue⟩ := Backlog.head?_eq_some_iff.mp hhead
  exact h.onMap.tasks id task (hqueue ▸ List.mem_cons_self)

/-- A route that is safe for a vehicle keeps clear of what the others claim. -/
theorem clearance_le_of_isSafe (h : f.Separated mapId) {id : String} {candidate : Route}
    (hsafe : f.traffic.isSafe f.registry f.network mapId id candidate
      f.settings.traffic.safetyBuffer = true)
    {other : String} (hne : other ≠ id) {a b : Vehicle ℝ} (hb : f.registry.get? other = some b)
    {p q : Point ℝ} (hp : p ∈ f.network.covered candidate) (hq : q ∈ f.traffic.claimed other) :
    f.clearance a b ≤ p.distance q := by
  have hcandidate : candidate ≠ [] := by
    rintro rfl
    rw [Network.covered_nil] at hp
    exact absurd hp (Set.notMem_empty p)
  obtain ⟨path, hpath, -⟩ := Traffic.exists_path_of_isSafe hsafe hcandidate
  rw [← Network.region_eq_covered hpath] at hp
  obtain ⟨r, hr, hq⟩ := hq
  have hfits := h.reserved.fits other r hr
  have hkey : b.id = other := h.onMap.keyed other b hb
  have hother : b ∈ Traffic.others f.registry mapId id :=
    Traffic.mem_others.mpr ⟨⟨other, hb⟩, h.onMap.vehicles other b hb, by rw [hkey]; exact hne⟩
  -- The route of the other vehicle begins on the map, as all its waypoints have a position.
  have hmap : r.mapId = mapId := by
    obtain ⟨w, hw, hwmap⟩ := Option.map_eq_some_iff.mp hfits.mapId_eq
    obtain ⟨-, hresolves⟩ := Network.exists_skeleton?_iff.mp ⟨_, hfits.skeleton_eq⟩
    obtain ⟨position, hposition⟩ := hresolves w (List.mem_of_mem_head? hw)
    rw [← hwmap]
    exact h.onMap.waypoints w position hposition
  have hradius := h.onMap.radii other b hb
  have hdistance := Traffic.le_distance_of_isSafe hsafe hpath hother (by rw [hkey]; exact hr) hmap
    (by linarith [h.onMap.safetyBuffer_nonneg])
  rw [hfits.radius_eq, max_eq_left h.onMap.bufferRadius_nonneg] at hdistance
  have hpoints := Skeleton.le_distance_iff.mp hdistance q hq p hp
  rw [Point.distance_comm] at hpoints
  have hmin : min a.radius b.radius ≤ b.radius := min_le_right _ _
  unfold clearance
  linarith

/-- An event that leaves all claims alone, and what lies ahead of each vehicle. -/
theorem of_claimed_eq (h : f.Separated mapId) {event : FleetEvent ℝ}
    (hcoherent : f.Coherent mapId event) (hclaims : (f.step event).traffic = f.traffic)
    (hheads : ∀ id task', (f.step event).backlog.head? id = some task' → task'.Unbegun
      ∨ ∃ task, f.backlog.head? id = some task ∧ task'.effectiveRoute = task.effectiveRoute) :
    (f.step event).Separated mapId := by
  refine ⟨h.onMap.step_of_coherent hcoherent, h.onTrack.step event, ?_, ?_⟩
  · refine h.reserved.of_heads (f.network_step event) (fits_step h.reserved.fits event) ?_
    intro id task' hhead'
    rcases hheads id task' hhead' with hunbegun | ⟨task, hhead, hroute⟩
    · exact Or.inl (resolves_of_unbegun hunbegun _)
    · exact Or.inr ⟨task, hhead, hroute, by rw [hclaims]⟩
  · refine h.apart.of_step fun id => ?_
    rw [hclaims]

/-- A head that is replaced by one with the same route ahead. -/
theorem heads_modifyHead {id : String} {head head' : SubTask ℝ}
    (hhead : f.backlog.head? id = some head)
    (hroute : head'.effectiveRoute = head.effectiveRoute)
    (hbacklog : f'.backlog = f.backlog.modifyHead id fun _ => head') {other : String}
    {task' : SubTask ℝ} (hhead' : f'.backlog.head? other = some task') : task'.Unbegun
      ∨ ∃ task, f.backlog.head? other = some task ∧ task'.effectiveRoute = task.effectiveRoute := by
  rw [hbacklog, Backlog.head?_modifyHead] at hhead'
  split at hhead'
  · rename_i hid
    subst hid
    rw [hhead, Option.map_some, Option.some.injEq] at hhead'
    rw [← hhead']
    exact Or.inr ⟨head, hhead, hroute⟩
  · exact Or.inr ⟨task', hhead', rfl⟩

/-- What lies ahead of a vehicle once it has been planned: what lay ahead before, and the segment.
-/
theorem covered_plannedTask (h : f.Separated mapId) {id : String} {task : SubTask ℝ}
    {candidate : Route} (hhead : f.backlog.head? id = some task)
    (hsegment : f.plannable id task candidate ≠ [])
    (hcandidate : task.running ≠ [] → candidate.head? = task.runningEnd) :
    f.network.Resolves (f.plannedTask id task candidate).effectiveRoute
      ∧ f.network.covered (f.plannedTask id task candidate).effectiveRoute
        = f.network.covered task.effectiveRoute
          ∪ f.network.covered (f.plannable id task candidate) := by
  have htask : task.OnTrack := h.onTrack.head hhead
  have hproposed : (task.propose candidate).OnTrack := htask.of_eq rfl rfl
  have hahead : (f.plannedTask id task candidate).effectiveRoute
      = SubTask.joinRoutes task.effectiveRoute (f.plannable id task candidate) :=
    hproposed.effectiveRoute_commitPlan _ _
  have hresolves : f.network.Resolves (f.plannable id task candidate) := by
    obtain ⟨path, hpath, -⟩ :=
      Traffic.exists_path_of_isSafe (f.isSafe_plannable id task candidate) hsegment
    exact (Network.exists_skeleton?_iff.mp ⟨path, hpath⟩).2
  -- The segment begins where the route ahead ends.
  have hjoint : task.effectiveRoute = []
      ∨ task.effectiveRoute.getLast? = (f.plannable id task candidate).head? := by
    by_cases hrunning : task.running = []
    · exact Or.inl (htask.effectiveRoute_eq_nil_iff.mpr hrunning)
    · obtain ⟨rest, hrest⟩ := f.plannable_isPrefix id task candidate
      have hfirst : candidate.head? = (f.plannable id task candidate).head? := by
        nth_rewrite 1 [← hrest]
        exact List.head?_append_of_ne_nil _ hsegment
      rw [htask.getLast?_effectiveRoute, ← hcandidate hrunning, hfirst]
      exact Or.inr rfl
  rw [hahead]
  exact ⟨(h.reserved.resolves id task hhead).joinRoutes hresolves,
    f.network.covered_joinRoutes hjoint⟩

/-- **A committed plan.** The claim of the vehicle grows by what the segment covers. -/
theorem of_planned (h : f.Separated mapId) {event : FleetEvent ℝ}
    (hcoherent : f.Coherent mapId event) {id : String} {task : SubTask ℝ} {candidate : Route}
    (hregistry : (f.step event).registry = f.registry)
    (hhead : f.backlog.head? id = some task) (hsegment : f.plannable id task candidate ≠ [])
    (hcandidate : task.running ≠ [] → candidate.head? = task.runningEnd)
    (hbacklog : (f.step event).backlog
      = f.backlog.modifyHead id fun _ => f.plannedTask id task candidate)
    (htraffic : (f.step event).traffic = (f.traffic.reserve f.network id
      (f.plannedTask id task candidate).effectiveRoute f.settings.traffic.bufferRadius).2) :
    (f.step event).Separated mapId := by
  obtain ⟨hresolves, hcovered⟩ := h.covered_plannedTask hhead hsegment hcandidate
  -- What lies ahead is reserved as a whole, though only the segment has been checked.
  have hself : (f.step event).traffic.claimed id
      = f.network.covered (f.plannedTask id task candidate).effectiveRoute := by
    rw [htraffic]
    exact Traffic.claimed_reserve_self h.reserved.fits id hresolves
  have hothers : ∀ other, other ≠ id →
      (f.step event).traffic.claimed other = f.traffic.claimed other := by
    intro other hne
    rw [htraffic]
    exact Traffic.claimed_reserve_of_ne _ _ hne _ _
  refine ⟨h.onMap.step_of_coherent hcoherent, h.onTrack.step event, ?_, ?_⟩
  · refine h.reserved.of_heads (f.network_step event) (fits_step h.reserved.fits event) ?_
    intro other task' hhead'
    rw [hbacklog, Backlog.head?_modifyHead] at hhead'
    split at hhead'
    · rename_i hid
      subst hid
      rw [hhead, Option.map_some, Option.some.injEq] at hhead'
      subst hhead'
      exact Or.inl ⟨hresolves, hself.superset⟩
    · rename_i hid
      exact Or.inr ⟨task', hhead', rfl, hothers other (fun heq => hid heq.symm)⟩
  · refine h.apart.of_added (f.settings_step event) hregistry
      (f.network.covered (f.plannable id task candidate)) ?_ hothers ?_
    · rw [hself, hcovered]
      exact Set.union_subset_union_left _ (h.reserved.covered_subset id task hhead)
    · have hsafe := f.isSafe_plannable id task candidate
      rw [h.mapId_head hhead] at hsafe
      intro other a b hne _ hb p hp q hq
      exact h.clearance_le_of_isSafe hsafe hne hb hp hq

/-- **A report.** What the vehicle claims afterwards it claimed before, and what lies ahead of it
then is part of what it has reported. -/
theorem of_report (h : f.Separated mapId) {r : VehicleReport ℝ} (hmap : r.mapId = mapId)
    (hresolves : f.network.Resolves r.remaining)
    (hclaimed : f.network.covered r.remaining ⊆ f.traffic.claimed r.vehicleId)
    (hahead : ∀ task, f.backlog.head? r.vehicleId = some task →
      f.network.covered (r.passed task).effectiveRoute ⊆ f.network.covered r.remaining) :
    (f.step (.report r)).Separated mapId := by
  cases hv : f.registry.get? r.vehicleId with
  | none =>
    have hsame : f.step (.report r) = f := congrArg Prod.snd (report_unknown hv)
    rw [hsame]
    exact h
  | some v =>
    have hself : (f.step (.report r)).traffic.claimed r.vehicleId
        = f.network.covered r.remaining := by
      rw [claimed_report h.reserved.fits hv hresolves, if_pos rfl]
    have hothers : ∀ other, other ≠ r.vehicleId →
        (f.step (.report r)).traffic.claimed other = f.traffic.claimed other := by
      intro other hne
      rw [claimed_report h.reserved.fits hv hresolves, if_neg hne.symm]
    refine ⟨h.onMap.report hmap, h.onTrack.step _, ?_, ?_⟩
    · refine h.reserved.of_heads (f.network_step _) (fits_step h.reserved.fits _) ?_
      intro id task' hhead'
      have hqueue : (f.step (.report r)).backlog.queue id = _ := queue_report hv id
      unfold Backlog.head? at hhead'
      rw [hqueue] at hhead'
      split at hhead'
      · rename_i hid
        subst hid
        rw [List.head?_modifyHead] at hhead'
        obtain ⟨task, hhead, rfl⟩ := Option.map_eq_some_iff.mp hhead'
        refine Or.inl ⟨?_, ?_⟩
        · exact (h.reserved.resolves _ task hhead).mono
            (SubTask.effectiveRoute_passed_suffix r task).subset
        · rw [hself]
          exact hahead task hhead
      · rename_i hid
        exact Or.inr ⟨task', hhead', rfl, hothers id (fun heq => hid heq.symm)⟩
    · refine h.apart.of_step fun id => ?_
      by_cases hid : id = r.vehicleId
      · subst hid
        rw [hself]
        exact hclaimed
      · rw [hothers id hid]

/-- **The end of a sub-task.** The vehicle claims nothing, and nothing lies ahead of it. -/
theorem of_closed (h : f.Separated mapId) {event : FleetEvent ℝ} {id : String}
    (hend : event = .finish id ∨ ∃ reason, event = .cancel id reason)
    (hbacklog : (f.step event).backlog = f.backlog.removeHead id)
    (htraffic : (f.step event).traffic = f.traffic.dropReservation id) :
    (f.step event).Separated mapId := by
  refine ⟨h.onMap.of_closed hend, h.onTrack.step event, ?_, ?_⟩
  · refine h.reserved.of_heads (f.network_step event) (fits_step h.reserved.fits event) ?_
    intro other task' hhead'
    rw [hbacklog, Backlog.head?_removeHead] at hhead'
    split at hhead'
    · rename_i hid
      subst hid
      -- The sub-task that comes to the head has waited behind it.
      refine Or.inl (resolves_of_unbegun ?_ _)
      exact h.onTrack.waiting id task' (List.mem_of_mem_head? hhead')
    · rename_i hid
      refine Or.inr ⟨task', hhead', rfl, ?_⟩
      rw [htraffic, Traffic.claimed_dropReservation, if_neg hid]
  · refine h.apart.of_step fun other => ?_
    rw [htraffic, Traffic.claimed_dropReservation]
    split
    · exact Set.empty_subset _
    · exact subset_rfl

/-- Laying down an expected route changes neither what lies ahead nor a claim. -/
theorem expect (h : f.Separated mapId) (id : String) (route : Route) :
    (f.expect id route).Separated mapId := by
  have hheads : ∀ other task', (f.expect id route).backlog.head? other = some task' →
      ∃ task, f.backlog.head? other = some task ∧ task'.effectiveRoute = task.effectiveRoute := by
    intro other task' hhead'
    have hmodify : (f.expect id route).backlog.head? other = _ := Backlog.head?_modifyHead _ _ _ _
    rw [hmodify] at hhead'
    split at hhead'
    · obtain ⟨task, hhead, rfl⟩ := Option.map_eq_some_iff.mp hhead'
      exact ⟨task, hhead, rfl⟩
    · exact ⟨task', hhead', rfl⟩
  refine ⟨⟨h.onMap.keyed, h.onMap.vehicles, h.onMap.radii, h.onMap.waypoints, ?_,
    h.onMap.bufferRadius_nonneg, h.onMap.safetyBuffer_nonneg⟩, h.onTrack.expect id route, ?_,
    h.apart⟩
  · intro other task' htask'
    obtain ⟨task, htask, heq⟩ := mem_queue_expect htask'
    rw [heq]
    exact h.onMap.tasks other task htask
  · refine h.reserved.of_heads rfl h.reserved.fits fun other task' hhead' => ?_
    obtain ⟨task, hhead, hroute⟩ := hheads other task' hhead'
    exact Or.inr ⟨task, hhead, hroute, rfl⟩

/-- A candidate that is planned in a coherent event begins where the committed route ends. -/
theorem head?_candidate {event : FleetEvent ℝ} (hcoherent : f.Coherent mapId event) {id : String}
    {task : SubTask ℝ} {candidate : Route}
    (hplan : event = .plan id candidate
      ∨ (event = .planRemaining id ∧ candidate = task.pendingRoute))
    (hhead : f.backlog.head? id = some task) (hsegment : f.plannable id task candidate ≠ [])
    (hrunning : task.running ≠ []) : candidate.head? = task.runningEnd := by
  rcases hplan with rfl | ⟨-, rfl⟩
  · exact hcoherent task hhead hrunning
  · apply SubTask.head?_pendingRoute hrunning
    intro hnil
    rw [hnil] at hsegment
    exact hsegment (List.prefix_nil.mp (f.plannable_isPrefix id task []))

/-- The remaining route of a coherent report is what lies ahead after it, and was claimed before. -/
theorem remaining_of_coherent (h : f.Separated mapId) {r : VehicleReport ℝ}
    (hcoherent : f.Coherent mapId (.report r)) :
    f.network.Resolves r.remaining
      ∧ f.network.covered r.remaining ⊆ f.traffic.claimed r.vehicleId
      ∧ ∀ task, f.backlog.head? r.vehicleId = some task →
        r.remaining = (r.passed task).effectiveRoute := by
  have hremaining : r.remaining = f.routeAfter r := hcoherent.2
  cases hhead : f.backlog.head? r.vehicleId with
  | none =>
    have hnil : r.remaining = [] := by
      rw [hremaining, routeAfter, hhead]
      rfl
    rw [hnil]
    refine ⟨fun w hw => absurd hw List.not_mem_nil, ?_, fun task htask => by cases htask⟩
    rw [Network.covered_nil]
    exact Set.empty_subset _
  | some task =>
    have hroute : r.remaining = (r.passed task).effectiveRoute := by
      rw [hremaining, routeAfter, hhead]
      rfl
    have hsuffix := SubTask.effectiveRoute_passed_suffix r task
    refine ⟨?_, ?_, ?_⟩
    · rw [hroute]
      exact (h.reserved.resolves _ task hhead).mono hsuffix.subset
    · rw [hroute]
      exact (Network.covered_subset_of_infix hsuffix.isInfix).trans
        (h.reserved.covered_subset _ task hhead)
    · intro task' htask'
      rw [Option.some.injEq] at htask'
      rw [← htask', hroute]

/-- **Every coherent event keeps the vehicles apart.** -/
theorem step (h : f.Separated mapId) {event : FleetEvent ℝ} (hcoherent : f.Coherent mapId event) :
    (f.step event).Separated mapId := by
  cases f.change_step event with
  | idle hbacklog htraffic =>
    refine h.of_claimed_eq hcoherent htraffic fun id task' hhead' => ?_
    rw [hbacklog] at hhead'
    exact Or.inr ⟨task', hhead', rfl⟩
  | assigned owner order his hbacklog htraffic =>
    refine h.of_claimed_eq hcoherent htraffic fun id task' hhead' => ?_
    rw [hbacklog, Backlog.head?_push] at hhead'
    split at hhead'
    · -- The new sub-task is the head only if there was none.
      rcases Option.or_eq_some_iff.mp hhead' with hhead | ⟨-, hnew⟩
      · exact Or.inr ⟨task', hhead, rfl⟩
      · rw [Option.some.injEq] at hnew
        rw [← hnew]
        exact Or.inl (SubTask.unbegun_ofOrder _ _ _)
    · exact Or.inr ⟨task', hhead', rfl⟩
  | staged owner task stage _ hhead _ hbacklog htraffic =>
    have hroute : (task.setStage stage).effectiveRoute = task.effectiveRoute := rfl
    exact h.of_claimed_eq hcoherent htraffic fun _ _ => heads_modifyHead hhead hroute hbacklog
  | deferred owner task candidate _ hhead _ _ _ _ hbacklog htraffic =>
    have hroute : (task.propose candidate).defer.effectiveRoute = task.effectiveRoute := rfl
    exact h.of_claimed_eq hcoherent htraffic fun _ _ => heads_modifyHead hhead hroute hbacklog
  | planned id task candidate his hhead _ _ hsegment hbacklog htraffic =>
    have hregistry : (f.step event).registry = f.registry := by
      rcases his with rfl | ⟨rfl, -⟩
      · exact (f.frame_plan id candidate).2.2
      · exact (f.frame_planRemaining id).2.2
    exact h.of_planned hcoherent hregistry hhead hsegment
      (head?_candidate hcoherent his hhead hsegment) hbacklog htraffic
  | reported r v his _ _ _ =>
    subst his
    obtain ⟨hresolves, hclaimed, hahead⟩ := h.remaining_of_coherent hcoherent
    refine h.of_report hcoherent.1 hresolves hclaimed fun task hhead => ?_
    rw [hahead task hhead]
  | closed id task his _ hbacklog htraffic => exact h.of_closed his hbacklog htraffic
  | released id his _ _ =>
    subst his
    exact absurd hcoherent not_false

/-- **What a coherent event adds to a claim** is covered by a route that is safe for the vehicle. -/
theorem mem_claimed_step (h : f.Separated mapId) {event : FleetEvent ℝ}
    (hcoherent : f.Coherent mapId event) {id : String} {p : Point ℝ}
    (hp : p ∈ (f.step event).traffic.claimed id) : p ∈ f.traffic.claimed id
      ∨ ∃ route, f.traffic.isSafe f.registry f.network mapId id route
          f.settings.traffic.safetyBuffer = true ∧ p ∈ f.network.covered route := by
  cases f.change_step event with
  | idle _ htraffic | assigned _ _ _ _ htraffic | staged _ _ _ _ _ _ _ htraffic
  | deferred _ _ _ _ _ _ _ _ _ _ htraffic =>
    rw [htraffic] at hp
    exact Or.inl hp
  | planned owner task candidate his hhead _ _ hsegment _ htraffic =>
    obtain ⟨hresolves, hcovered⟩ := h.covered_plannedTask hhead hsegment
      (head?_candidate hcoherent his hhead hsegment)
    by_cases hid : id = owner
    · subst hid
      rw [htraffic, Traffic.claimed_reserve_self h.reserved.fits id hresolves, hcovered] at hp
      rcases hp with hp | hp
      · exact Or.inl (h.reserved.covered_subset id task hhead hp)
      · refine Or.inr ⟨f.plannable id task candidate, ?_, hp⟩
        rw [← h.mapId_head hhead]
        exact f.isSafe_plannable id task candidate
    · rw [htraffic, Traffic.claimed_reserve_of_ne _ _ hid] at hp
      exact Or.inl hp
  | reported r v his hv _ _ =>
    subst his
    obtain ⟨hresolves, hclaimed, -⟩ := h.remaining_of_coherent hcoherent
    rw [claimed_report h.reserved.fits hv hresolves] at hp
    split at hp
    · rename_i hid
      subst hid
      exact Or.inl (hclaimed hp)
    · exact Or.inl hp
  | closed owner _ _ _ _ htraffic =>
    rw [htraffic, Traffic.claimed_dropReservation] at hp
    split at hp
    · exact absurd hp (Set.notMem_empty p)
    · exact Or.inl hp
  | released owner his _ _ =>
    subst his
    exact absurd hcoherent not_false

/-- **A report that completes a sub-task.** The vehicle reports that nothing lies ahead, although
the sub-task still lists the waypoint where it stands, and then the sub-task ends. -/
theorem of_report_finish (h : f.Separated mapId) {r : VehicleReport ℝ} (hmap : r.mapId = mapId)
    (hresolves : f.network.Resolves r.remaining) {result : SubTask ℝ × Fleet ℝ}
    (hfinish : (f.step (.report r)).finish r.vehicleId = .ok result) :
    result.2.Separated mapId := by
  have hstep : result.2 = (f.step (.report r)).step (.finish r.vehicleId) := by
    change _ = (((f.step (.report r)).finish r.vehicleId).toOption.map Prod.snd).getD _
    rw [hfinish]
    rfl
  cases hv : f.registry.get? r.vehicleId with
  | none =>
    have hsame : f.step (.report r) = f := congrArg Prod.snd (report_unknown hv)
    rw [hstep, hsame]
    exact h.step trivial
  | some v =>
    obtain ⟨_, -, -, hresult⟩ := finish_eq_ok_iff.mp hfinish
    have hclose : result.2 = (f.step (.report r)).closeHead r.vehicleId := by rw [← hresult]
    have hclaimed : ∀ id, result.2.traffic.claimed id
        = if r.vehicleId = id then ∅ else f.traffic.claimed id := by
      intro id
      rw [hclose]
      refine (Traffic.claimed_dropReservation _ _ _).trans ?_
      split
      · rfl
      · rename_i hid
        rw [claimed_report h.reserved.fits hv hresolves, if_neg hid]
    have hqueue : ∀ id, (f.step (.report r)).backlog.queue id = _ := queue_report hv
    refine ⟨?_, ?_, ?_, ?_⟩
    · rw [hstep]
      exact (h.onMap.report hmap).of_closed (Or.inl rfl)
    · rw [hstep]
      exact (h.onTrack.step _).step _
    · refine h.reserved.of_heads ?_ ?_ ?_
      · rw [hstep, network_step, network_step]
      · rw [hstep]
        exact fits_step (fits_step h.reserved.fits _) _
      · intro id task' hhead'
        have hremoved : result.2.backlog = (f.step (.report r)).backlog.removeHead r.vehicleId := by
          rw [hclose]
          rfl
        rw [hremoved, Backlog.head?_removeHead, hqueue] at hhead'
        rw [hclaimed]
        split at hhead'
        · -- The next sub-task comes to the head.
          rename_i hid
          subst hid
          rw [List.tail_modifyHead] at hhead'
          refine Or.inl (resolves_of_unbegun ?_ _)
          exact h.onTrack.waiting r.vehicleId task' (List.mem_of_mem_head? hhead')
        · rename_i hid
          rw [Backlog.head?, hqueue, if_neg hid] at hhead'
          exact Or.inr ⟨task', hhead', rfl, if_neg hid⟩
    · refine h.apart.of_subset ?_ ?_ ?_
      · rw [hstep, settings_step, settings_step]
      · intro id v' hv'
        rw [hstep] at hv'
        obtain ⟨v, hv, -, hradius, -⟩ := exists_get?_of_step hv'
        obtain ⟨u, hu, -, hradius', -⟩ := exists_get?_of_step hv
        exact ⟨u, hu, hradius.trans hradius'⟩
      · intro id
        rw [hclaimed]
        split
        · exact Set.empty_subset _
        · exact subset_rfl

/-- A fleet without sub-tasks and reservations. -/
theorem of_empty (hmap : f.OnMap mapId) (hqueues : ∀ id, f.backlog.queue id = [])
    (hreservations : ∀ id, f.traffic.reservation? id = none) : f.Separated mapId := by
  refine ⟨hmap, .of_queues_empty hqueues, ⟨?_, ?_, ?_⟩, ?_⟩
  · intro id r hr
    rw [hreservations] at hr
    cases hr
  · intro id task hhead
    rw [Backlog.head?, hqueues] at hhead
    cases hhead
  · intro id task hhead
    rw [Backlog.head?, hqueues] at hhead
    cases hhead
  · intro v w a b _ _ _ p hp
    rw [Traffic.claimed_eq_empty (hreservations v)] at hp
    exact absurd hp (Set.notMem_empty p)

end Separated

theorem settings_run (f : Fleet ℝ) (events : List (FleetEvent ℝ)) :
    (f.run events).settings = f.settings := by
  unfold run
  induction events generalizing f with
  | nil => rfl
  | cons event later ih => exact (ih (f.step event)).trans (f.settings_step event)

/-- **Vehicles under way keep apart.** Start from a fleet on one map that has neither sub-tasks nor
reservations. After every run of coherent events, the skeletons that two different vehicles have
reserved are at least as far apart as the buffer of a corridor, the safety buffer and the smaller of
the two radii together. -/
theorem le_distance_of_coherent_run {f : Fleet ℝ} {mapId : ℤ} (hmap : f.OnMap mapId)
    (hqueues : ∀ id, f.backlog.queue id = [])
    (hreservations : ∀ id, f.traffic.reservation? id = none)
    {events : List (FleetEvent ℝ)} (hevents : Along (Coherent mapId) f events) :
    ∀ v w a b r s, v ≠ w →
      (f.run events).registry.get? v = some a → (f.run events).registry.get? w = some b →
      (f.run events).traffic.reservation? v = some r →
      (f.run events).traffic.reservation? w = some s →
      f.settings.traffic.bufferRadius + f.settings.traffic.safetyBuffer + min a.radius b.radius
        ≤ r.corridor.skeleton.distance s.corridor.skeleton := by
  have hseparated : (f.run events).Separated mapId := by
    refine hevents.invariant (I := fun f' => f'.Separated mapId) ?_
      (.of_empty hmap hqueues hreservations)
    intro f' event h hcoherent
    exact h.step hcoherent
  intro v w a b r s hne ha hb hr hs
  rw [Skeleton.le_distance_iff, ← f.settings_run events]
  intro p hp q hq
  refine hseparated.apart v w a b hne ha hb p ?_ q ?_
  · rw [Traffic.claimed_eq_region hr]
    exact hp
  · rw [Traffic.claimed_eq_region hs]
    exact hq

/-! ### Two vehicles -/

/-- Two waypoints, ten metres apart. -/
def pairNetwork : Network ℝ :=
  (({} : Network ℝ).addPoint ⟨1, 1⟩ ⟨0, 0⟩).addPoint ⟨1, 2⟩ ⟨10000, 0⟩

/-- Two vehicles, one on each waypoint. -/
noncomputable def pairFleet : Fleet ℝ :=
  start .standard (.ofList [.ready "a" 1 ⟨0, 0⟩ 300, .ready "b" 1 ⟨10000, 0⟩ 300]) pairNetwork none
    {}

/-- The order that has a vehicle stay on a waypoint. -/
def stay (id : String) (w : Waypoint) : TransportOrder :=
  { TransportOrder.ofRoute id w w with vehicleId := some id }

/-- Each of the two vehicles gets an order. -/
noncomputable def pairAssigned : Fleet ℝ :=
  pairFleet.run [.assign (stay "a" ⟨1, 1⟩), .assign (stay "b" ⟨1, 2⟩)]

/-- Each of the two vehicles gets an order and is planned. -/
def pairEvents : List (FleetEvent ℝ) :=
  [.assign (stay "a" ⟨1, 1⟩), .assign (stay "b" ⟨1, 2⟩), .plan "a" [⟨1, 1⟩], .plan "b" [⟨1, 2⟩]]

theorem onMap_pairFleet : pairFleet.OnMap 1 := by
  have hvehicles : ∀ id v, pairFleet.registry.get? id = some v →
      v.id = id ∧ v.mapId = 1 ∧ v.radius = 300 := by
    intro id v hv
    change ((({} : Registry ℝ).upsert (.ready "a" 1 ⟨0, 0⟩ 300)).upsert
      (.ready "b" 1 ⟨10000, 0⟩ 300)).get? id = some v at hv
    rw [Registry.get?_upsert, Registry.get?_upsert, Registry.get?_empty] at hv
    split at hv
    · rename_i hid
      cases hv
      exact ⟨hid, rfl, rfl⟩
    · split at hv
      · rename_i hid
        cases hv
        exact ⟨hid, rfl, rfl⟩
      · cases hv
  refine ⟨fun id v hv => (hvehicles id v hv).1, fun id v hv => (hvehicles id v hv).2.1,
    fun id v hv => ?_, fun w p hp => ?_, fun id task htask => ?_, ?_, ?_⟩
  · change 0 < v.radius
    rw [(hvehicles id v hv).2.2]
    norm_num
  · change (({} : Network ℝ).addPoint ⟨1, 1⟩ ⟨0, 0⟩ |>.addPoint ⟨1, 2⟩ ⟨10000, 0⟩).points.get? w
      = some p at hp
    simp only [Network.addPoint, Std.TreeMap.get?_eq_getElem?, Std.TreeMap.getElem?_insert,
      Std.LawfulEqCmp.compare_eq_iff_eq] at hp
    split at hp
    · rename_i hw
      rw [← hw]
    · split at hp
      · rename_i hw
        rw [← hw]
      · simp at hp
  · change task ∈ ({} : Backlog ℝ).queue id at htask
    rw [Backlog.queue_empty] at htask
    exact absurd htask List.not_mem_nil
  · exact Nat.cast_nonneg _
  · exact Nat.cast_nonneg _

/-- The sub-tasks of the two vehicles before they are planned. -/
noncomputable def pairTask (id : String) (w : Waypoint) : SubTask ℝ :=
  .ofOrder id (stay id w) 1

/-- A single waypoint that is safe for a vehicle without a committed route is planned and reserved.
-/
theorem exists_reservation_of_plan {f : Fleet ℝ} {mapId : ℤ} (h : f.Separated mapId) {id : String}
    {task : SubTask ℝ} (hhead : f.backlog.head? id = some task) (hunbegun : task.Unbegun)
    {w : Waypoint} (hsafe : f.traffic.isSafe f.registry f.network task.mapId id [w]
      f.settings.traffic.safetyBuffer = true) :
    ∃ r, (f.step (.plan id [w])).traffic.reservation? id = some r ∧ r.route = [w] := by
  have hplannable : f.plannable id task [w] = [w] := by
    apply plannable_eq_self hsafe
    rw [SubTask.runningEnd, hunbegun.running_eq]
    simp
  have hplan : f.plan id [w] = (.committed [w], f.plannedFleet id task [w]) := by
    have hcommitted := plan_committed hhead (by simp [SubTask.isLive, hunbegun.stage_eq,
      Stage.isTerminal]) (by rw [hunbegun.stage_eq]; rfl) (by rw [hplannable]; simp)
    rwa [hplannable] at hcommitted
  have hahead : (f.plannedTask id task [w]).effectiveRoute = [w] := by
    unfold plannedTask
    rw [hplannable]
    simp [SubTask.effectiveRoute, hunbegun.running_eq, hunbegun.traveled_eq,
      SubTask.joinRoutes_nil_left]
  obtain ⟨path, hpath, -⟩ := Traffic.exists_path_of_isSafe hsafe (List.cons_ne_nil w [])
  have hroute := Traffic.reservedRoute?_reserve_self h.reserved.fits id [w]
  rw [hpath, Option.isSome_some, if_pos rfl] at hroute
  obtain ⟨r, hr, hrroute⟩ := Option.map_eq_some_iff.mp hroute
  refine ⟨r, ?_, hrroute⟩
  have hstep : f.step (.plan id [w]) = f.plannedFleet id task [w] := congrArg Prod.snd hplan
  rw [hstep]
  change (f.traffic.reserve f.network id (f.plannedTask id task [w]).effectiveRoute
    f.settings.traffic.bufferRadius).2.reservation? id = some r
  rw [hahead]
  exact hr

/-- The point of one waypoint and the position of a vehicle on the other one are ten metres apart.
-/
theorem hitsPosition_eq_false {x y : ℝ} (h : 10000 ≤ |x - y|) {v : Vehicle ℝ}
    (hradius : v.radius = 300) (hposition : v.position = ⟨y, 0⟩) :
    Traffic.hitsPosition (Skeleton.ofPoint ⟨x, 0⟩) 300 v = false := by
  rw [Bool.eq_false_iff, Traffic.hitsPosition, Ne, Skeleton.collides_iff]
  apply not_lt.mpr
  change 300 + v.radius ≤ (Skeleton.ofPoint ⟨x, 0⟩).distanceToPoint v.position
  rw [Skeleton.le_distanceToPoint_iff, Skeleton.region_ofPoint]
  rintro q rfl
  rw [hposition, hradius, Point.distance_comm]
  have hdistance := Point.abs_sub_x_le_distance ⟨x, 0⟩ ⟨y, 0⟩
  linarith

theorem separated_pairFleet : pairFleet.Separated 1 :=
  .of_empty onMap_pairFleet Backlog.queue_empty fun id => Traffic.reservation?_ofIndex _ id

theorem coherent_plan_of_unbegun {f : Fleet ℝ} {mapId : ℤ} {id : String} {task : SubTask ℝ}
    (hhead : f.backlog.head? id = some task) (hunbegun : task.Unbegun) (candidate : Route) :
    f.Coherent mapId (.plan id candidate) := by
  intro task' hhead' hrunning
  rw [hhead, Option.some.injEq] at hhead'
  rw [← hhead'] at hrunning
  exact absurd hunbegun.running_eq hrunning

/-- The first of the two vehicles can be planned. -/
theorem isSafe_pair_first : pairAssigned.traffic.isSafe pairAssigned.registry pairAssigned.network 1
    "a" [⟨1, 1⟩] pairAssigned.settings.traffic.safetyBuffer = true := by
  have hothers : Traffic.others pairAssigned.registry 1 "a"
      = [{ Vehicle.ready "b" 1 ⟨10000, 0⟩ 300 with
        state := .busy, taskId := some "b-1", progress := .underway }] := rfl
  have hbuffer : pairAssigned.settings.traffic.safetyBuffer = 300 := Nat.cast_ofNat
  have hpath : pairAssigned.network.skeleton? [⟨1, 1⟩] = some (Skeleton.ofPoint ⟨0, 0⟩) := rfl
  rw [hbuffer]
  refine Traffic.isSafe_of_forall hpath ?_ ?_
  · rw [hothers, List.forall_mem_singleton]
    rfl
  · rw [hothers, List.forall_mem_singleton]
    exact hitsPosition_eq_false (by norm_num) rfl rfl

/-- The second of the two vehicles can be planned after the first one. -/
theorem isSafe_pair_second {f : Fleet ℝ} (h : f.Separated 1)
    (hregistry : f.registry = pairAssigned.registry) (hnetwork : f.network = pairNetwork)
    (hsettings : f.settings = .standard) {r : Reservation ℝ}
    (hr : f.traffic.reservation? "a" = some r) (hroute : r.route = [⟨1, 1⟩]) :
    f.traffic.isSafe f.registry f.network 1 "b" [⟨1, 2⟩] f.settings.traffic.safetyBuffer
      = true := by
  have hothers : Traffic.others f.registry 1 "b"
      = [{ Vehicle.ready "a" 1 ⟨0, 0⟩ 300 with
        state := .busy, taskId := some "a-1", progress := .underway }] := by
    rw [hregistry]
    rfl
  have hbuffer : f.settings.traffic.safetyBuffer = 300 := by
    rw [hsettings]
    exact Nat.cast_ofNat
  have hpath : f.network.skeleton? [⟨1, 2⟩] = some (Skeleton.ofPoint ⟨10000, 0⟩) := by
    rw [hnetwork]
    rfl
  have hfits := h.reserved.fits "a" r hr
  have hskeleton : r.corridor.skeleton = Skeleton.ofPoint ⟨0, 0⟩ := by
    have hself := hfits.skeleton_eq
    rw [hroute, hnetwork] at hself
    exact (Option.some.inj hself).symm
  rw [hbuffer]
  refine Traffic.isSafe_of_forall hpath ?_ ?_
  · rw [hothers, List.forall_mem_singleton]
    unfold Traffic.hitsReservation
    simp only [Vehicle.ready]
    rw [hr]
    simp only [Bool.and_eq_false_iff]
    refine Or.inr ?_
    have hradius : r.corridor.radius = 300 := by
      rw [hfits.radius_eq, hsettings]
      exact (max_eq_left (Nat.cast_nonneg _)).trans Nat.cast_ofNat
    rw [Bool.eq_false_iff, Ne, Skeleton.collides_iff,
      Traffic.clearance_corridor_lt_iff (by norm_num), hskeleton, hradius]
    apply not_lt.mpr
    rw [Skeleton.le_distance_iff, Skeleton.region_ofPoint, Skeleton.region_ofPoint]
    rintro p rfl q rfl
    have hdistance := Point.abs_sub_x_le_distance ⟨0, 0⟩ ⟨10000, 0⟩
    norm_num at hdistance ⊢
    linarith
  · rw [hothers, List.forall_mem_singleton]
    exact hitsPosition_eq_false (by norm_num) rfl rfl

/-- **Both vehicles are under way** in the end, and their corridors keep apart. -/
theorem pair_keeps_apart : ∃ r s, (pairFleet.run pairEvents).traffic.reservation? "a" = some r
    ∧ (pairFleet.run pairEvents).traffic.reservation? "b" = some s
    ∧ (900 : ℝ) ≤ r.corridor.skeleton.distance s.corridor.skeleton := by
  have hassign : ∀ f id w, w.mapId = 1 → Coherent 1 f (.assign (stay id w)) := fun _ _ _ h => h
  have hassigned : pairAssigned.Separated 1 :=
    (separated_pairFleet.step (hassign _ "a" ⟨1, 1⟩ rfl)).step (hassign _ "b" ⟨1, 2⟩ rfl)
  -- The first vehicle is planned.
  have hfirst : pairAssigned.backlog.head? "a" = some (pairTask "a" ⟨1, 1⟩) := rfl
  have hplanFirst : pairAssigned.Coherent 1 (.plan "a" [⟨1, 1⟩]) :=
    coherent_plan_of_unbegun hfirst (SubTask.unbegun_ofOrder _ _ _) _
  obtain ⟨r, hr, hroute⟩ :=
    exists_reservation_of_plan hassigned hfirst (SubTask.unbegun_ofOrder _ _ _) isSafe_pair_first
  have hplanned := hassigned.step hplanFirst
  -- The second vehicle is planned.
  have hsecond : (pairAssigned.step (.plan "a" [⟨1, 1⟩])).backlog.head? "b"
      = some (pairTask "b" ⟨1, 2⟩) :=
    congrArg List.head? (pairAssigned.plan_of_ne (by decide) [⟨1, 1⟩]).1
  have hplanSecond : (pairAssigned.step (.plan "a" [⟨1, 1⟩])).Coherent 1 (.plan "b" [⟨1, 2⟩]) :=
    coherent_plan_of_unbegun hsecond (SubTask.unbegun_ofOrder _ _ _) _
  have hsafe := isSafe_pair_second hplanned (pairAssigned.frame_plan "a" _).2.2
    (pairAssigned.network_step _) (pairAssigned.settings_step _) hr hroute
  obtain ⟨s, hs, -⟩ :=
    exists_reservation_of_plan hplanned hsecond (SubTask.unbegun_ofOrder _ _ _) hsafe
  have hkept : (pairFleet.run pairEvents).traffic.reservation? "a" = some r :=
    ((pairAssigned.step (.plan "a" [⟨1, 1⟩])).plan_of_ne (by decide) [⟨1, 2⟩]).2.trans hr
  have hevents : Along (Coherent 1) pairFleet pairEvents :=
    ⟨hassign _ "a" ⟨1, 1⟩ rfl, hassign _ "b" ⟨1, 2⟩ rfl, hplanFirst, hplanSecond, trivial⟩
  have hregistry : (pairFleet.run pairEvents).registry = pairAssigned.registry :=
    (frame_plan _ "b" [⟨1, 2⟩]).2.2.trans (pairAssigned.frame_plan "a" [⟨1, 1⟩]).2.2
  have hdistance := le_distance_of_coherent_run onMap_pairFleet Backlog.queue_empty
    (fun id => Traffic.reservation?_ofIndex _ id) hevents "a" "b"
    { Vehicle.ready "a" 1 ⟨0, 0⟩ 300 with
      state := .busy, taskId := some "a-1", progress := .underway }
    { Vehicle.ready "b" 1 ⟨10000, 0⟩ 300 with
      state := .busy, taskId := some "b-1", progress := .underway }
    r s (by decide) (by rw [hregistry]; rfl) (by rw [hregistry]; rfl) hkept hs
  refine ⟨r, s, hkept, hs, ?_⟩
  have hbuffers : pairFleet.settings.traffic.bufferRadius = 300
      ∧ pairFleet.settings.traffic.safetyBuffer = 300 := ⟨Nat.cast_ofNat, Nat.cast_ofNat⟩
  rw [hbuffers.1, hbuffers.2] at hdistance
  simp only [Vehicle.ready, min_self] at hdistance
  linarith

end AgvDispatch.Fleet
