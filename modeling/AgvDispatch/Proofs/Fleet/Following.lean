import AgvDispatch.Proofs.Fleet.Queue
/-!
# Following the expected route

`Fleet.planRemaining` takes up the expected route at the waypoint where the committed route ends. It
looks for the first visit of that waypoint, so it resumes where it stopped if the expected route
visits no waypoint twice. Then the committed route is a beginning of the expected one all the time,
and once it is all of it nothing is planned any more (`Fleet.follows_of_nodup`). This goes for all
vehicles at once as long as they are planned along their expected routes (`Fleet.Faithful.step`).
-/

namespace AgvDispatch

variable {α : Type} [Scalar α]

/-! ### Routes that visit no waypoint twice -/

omit [Scalar α] in
/-- What is planned along the expected route continues the committed route on it. -/
theorem SubTask.joinRoutes_isPrefix {task : SubTask α} (hnodup : task.expected.Nodup)
    (hrunning : task.running <+: task.expected) {segment : Route} (hne : segment ≠ [])
    (hsegment : segment <+: task.pendingRoute) :
    joinRoutes task.running segment <+: task.expected := by
  cases hend : task.runningEnd with
  | none =>
    have hnil : task.running = [] := List.getLast?_eq_none_iff.mp hend
    rw [pendingRoute_of_running_eq_nil hnil] at hsegment
    rw [hnil, joinRoutes_nil_left]
    exact hsegment
  | some w =>
    obtain ⟨before, hbefore⟩ := List.getLast?_eq_some_iff.mp hend
    obtain ⟨after, hafter⟩ := hrunning
    have hexpected : task.expected = before ++ w :: after := by
      rw [← hafter, hbefore, List.append_assoc, List.singleton_append]
    -- The committed route ends at the only visit of its last waypoint.
    have hfirst : w ∉ before := by
      rw [hexpected, List.nodup_append] at hnodup
      exact fun hw => hnodup.2.2 w hw w List.mem_cons_self rfl
    rw [pendingRoute_of_expected_eq hend hexpected hfirst] at hsegment
    obtain ⟨first, rest, rfl⟩ := List.exists_cons_of_ne_nil hne
    obtain ⟨rfl, hrest⟩ := List.cons_prefix_cons.mp hsegment
    rw [joinRoutes_of_getLast? hend, ← hafter]
    exact (List.prefix_append_right_inj _).mpr hrest

omit [Scalar α] in
/-- Proposing what is left of the expected route leaves the expected route as it is. -/
theorem SubTask.expected_propose_pendingRoute {task : SubTask α} (hne : task.pendingRoute ≠ []) :
    (task.propose task.pendingRoute).expected = task.expected := by
  have hroute : task.expected ≠ [] := by
    intro hnil
    have hsuffix := task.pendingRoute_suffix
    rw [hnil] at hsuffix
    exact hne (List.suffix_nil.mp hsuffix)
  rw [expected_propose, if_neg (by simpa using hroute)]

/-- Whether a sub-task is still for the same goods and has its expected route, and still follows it
if it did so before and the route visits no waypoint twice. -/
structure SubTask.Continues (t t' : SubTask α) : Prop where
  ends_eq : t'.ends = t.ends
  expected_eq : t'.expected = t.expected
  isPrefix : t.expected.Nodup → t.running <+: t.expected → t'.running <+: t.expected

omit [Scalar α] in
theorem SubTask.Continues.of_eq {t t' : SubTask α} (hends : t'.ends = t.ends)
    (hexpected : t'.expected = t.expected) (hrunning : t'.running = t.running) :
    t.Continues t' := by
  refine ⟨hends, hexpected, fun _ hpre => ?_⟩
  rw [hrunning]
  exact hpre

namespace Fleet

/-- Whether the head of the queue of a vehicle has been given an expected route before anything was
committed to it, or by its first plan. -/
def Expects (f : Fleet α) (id : String) (route : Route) : Prop :=
  (∃ task, f.backlog.head? id = some task ∧ task.expected = route)
    ∧ ∃ g : Fleet α, ∃ task, g.backlog.head? id = some task ∧ task.running = []
      ∧ (f = g.expect id route ∨ (task.expected = [] ∧ f = (g.plan id route).2))

/-- Whether an event leaves the head of the queue of a vehicle where it is and plans it, if at all,
along its expected route. -/
def Undisturbed (id : String) (_ : Fleet α) : FleetEvent α → Prop
  | .plan other _ | .cancel other _ | .finish other => other ≠ id
  | _ => True

/-- **Whether a vehicle follows a route**: what has been committed is a beginning of the route, and
once it is all of it a plan is deferred and changes nothing. -/
def Follows (f : Fleet α) (id : String) (route : Route) : Prop :=
  ∃ task, f.backlog.head? id = some task ∧ task.running <+: route
    ∧ (task.running = route → f.planRemaining id = (.deferred, f))

/-- A candidate that is not given is what has yet to be committed of the expected route. -/
theorem candidate_eq {f : Fleet α} {id owner : String} {event : FleetEvent α}
    (hevent : ∀ candidate, event ≠ .plan id candidate) {task head : SubTask α} {candidate : Route}
    (hplan : event = .plan owner candidate
      ∨ (event = .planRemaining owner ∧ candidate = head.pendingRoute))
    (howner : owner = id) (hhead : f.backlog.head? id = some task)
    (hhead' : f.backlog.head? owner = some head) :
    head = task ∧ candidate = task.pendingRoute := by
  subst howner
  obtain rfl : task = head := Option.some.inj (hhead.symm.trans hhead')
  rcases hplan with hplan | ⟨-, hpending⟩
  · exact absurd hplan (hevent candidate)
  · exact ⟨rfl, hpending⟩

/-- **A plan along the expected route** follows it. -/
theorem running_plannedTask_isPrefix (f : Fleet α) (id : String) {task : SubTask α}
    (hnodup : task.expected.Nodup) (hrunning : task.running <+: task.expected)
    (hsegment : f.plannable id task task.pendingRoute ≠ []) :
    (f.plannedTask id task task.pendingRoute).running <+: task.expected := by
  unfold plannedTask
  rw [SubTask.running_commitPlan, SubTask.running_propose]
  exact SubTask.joinRoutes_isPrefix hnodup hrunning hsegment (f.plannable_isPrefix id task _)

/-- **Every head that is not planned along another route continues**, unless it ends and the next
one takes its place. -/
theorem continues_step (f : Fleet α) {id : String} {event : FleetEvent α}
    (hevent : ∀ candidate, event ≠ .plan id candidate) {task : SubTask α}
    (hhead : f.backlog.head? id = some task) :
    (∃ task', (f.step event).backlog.head? id = some task' ∧ task.Continues task')
      ∨ ((event = .finish id ∨ ∃ reason, event = .cancel id reason)
        ∧ (f.step event).backlog.head? id = (f.backlog.queue id).tail.head?) := by
  cases f.change_step event with
  | idle hbacklog _ | released _ _ hbacklog _ =>
    rw [hbacklog]
    exact Or.inl ⟨task, hhead, .of_eq rfl rfl rfl⟩
  | assigned owner order _ hbacklog _ =>
    rw [hbacklog, Backlog.head?_push, hhead, Option.some_or, ite_self]
    exact Or.inl ⟨task, rfl, .of_eq rfl rfl rfl⟩
  | staged owner head stage _ hhead' _ hbacklog _ =>
    rw [hbacklog, Backlog.head?_modifyHead, hhead]
    split
    · rename_i howner
      subst howner
      obtain rfl : task = head := Option.some.inj (hhead.symm.trans hhead')
      exact Or.inl ⟨_, rfl, .of_eq rfl rfl rfl⟩
    · exact Or.inl ⟨task, rfl, .of_eq rfl rfl rfl⟩
  | deferred owner head candidate his hhead' _ _ hne _ hbacklog _ =>
    rw [hbacklog, Backlog.head?_modifyHead, hhead]
    split
    · rename_i howner
      obtain ⟨rfl, rfl⟩ := candidate_eq hevent his howner hhead hhead'
      exact Or.inl ⟨_, rfl, .of_eq rfl (SubTask.expected_propose_pendingRoute hne) rfl⟩
    · exact Or.inl ⟨task, rfl, .of_eq rfl rfl rfl⟩
  | planned owner head candidate his hhead' _ _ hsegment hbacklog _ =>
    rw [hbacklog, Backlog.head?_modifyHead, hhead]
    split
    · rename_i howner
      obtain ⟨rfl, rfl⟩ := candidate_eq hevent his howner hhead hhead'
      have hne : head.pendingRoute ≠ [] := by
        intro hnil
        have hpre := f.plannable_isPrefix owner head head.pendingRoute
        rw [hnil] at hpre hsegment
        exact hsegment (List.prefix_nil.mp hpre)
      refine Or.inl ⟨f.plannedTask owner head head.pendingRoute, rfl, ?_, ?_, ?_⟩
      · unfold plannedTask
        rw [SubTask.ends_commitPlan]
        rfl
      · unfold plannedTask
        rw [SubTask.expected_commitPlan]
        exact SubTask.expected_propose_pendingRoute hne
      · intro hnodup hrunning
        exact f.running_plannedTask_isPrefix owner hnodup hrunning hsegment
    · exact Or.inl ⟨task, rfl, .of_eq rfl rfl rfl⟩
  | reported r v _ _ hqueue _ =>
    obtain ⟨rest, hcons⟩ := Backlog.head?_eq_some_iff.mp hhead
    refine Or.inl ?_
    rw [Backlog.head?, hqueue, hcons]
    split
    · exact ⟨r.passed task, rfl, .of_eq (SubTask.ends_passed r task)
        (SubTask.expected_passed r task) (SubTask.running_passed r task)⟩
    · exact ⟨task, rfl, .of_eq rfl rfl rfl⟩
  | closed owner head his _ hbacklog _ =>
    rw [hbacklog, Backlog.head?_removeHead]
    split
    · rename_i howner
      subst howner
      exact Or.inr ⟨his, rfl⟩
    · exact Or.inl ⟨task, hhead, .of_eq rfl rfl rfl⟩

/-- **Who is at the head of a queue** after an event that does not plan along another route: who was
there before, or a sub-task that has just been made, or one that has waited. -/
theorem head_step_cases (f : Fleet α) {id : String} {event : FleetEvent α}
    (hevent : ∀ candidate, event ≠ .plan id candidate) {task' : SubTask α}
    (hhead' : (f.step event).backlog.head? id = some task') :
    (∃ task, f.backlog.head? id = some task ∧ task.Continues task')
      ∨ (f.backlog.queue id = [] ∧ ∃ order number, event = .assign order
        ∧ task' = .ofOrder id order number)
      ∨ task' ∈ (f.backlog.queue id).tail := by
  cases hhead : f.backlog.head? id with
  | none =>
    have hempty : f.backlog.queue id = [] := List.head?_eq_none_iff.mp hhead
    obtain ⟨later, hqueue'⟩ := Backlog.head?_eq_some_iff.mp hhead'
    rcases f.queue_step_cases event id with
      heq | ⟨order, his, heq⟩ | ⟨task, rest, -, hcons, -⟩ | heq
    · rw [heq, hempty] at hqueue'
      cases hqueue'
    · rw [heq, hempty] at hqueue'
      obtain ⟨rfl, -⟩ := List.cons.inj hqueue'
      exact Or.inr (Or.inl ⟨hempty, order, _, his, rfl⟩)
    · rw [hempty] at hcons
      cases hcons
    · rw [heq, hempty] at hqueue'
      cases hqueue'
  | some task =>
    rcases f.continues_step hevent hhead with ⟨next, hnext, hcontinues⟩ | ⟨-, hnext⟩
    · obtain rfl : task' = next := Option.some.inj (hhead'.symm.trans hnext)
      exact Or.inl ⟨task, rfl, hcontinues⟩
    · exact Or.inr (Or.inr (List.mem_of_head? (hnext.symm.trans hhead')))

/-- **What each event keeps**: the expected route, and that what has been committed is a beginning
of it. -/
theorem follows_step {f : Fleet α} {id : String} {route : Route} (hnodup : route.Nodup)
    {event : FleetEvent α} (hevent : f.Undisturbed id event) {task : SubTask α}
    (hhead : f.backlog.head? id = some task) (hexpected : task.expected = route)
    (hrunning : task.running <+: route) : ∃ task', (f.step event).backlog.head? id = some task'
      ∧ task'.expected = route ∧ task'.running <+: route := by
  subst hexpected
  have hplan : ∀ candidate, event ≠ .plan id candidate := by
    rintro candidate rfl
    exact hevent rfl
  rcases f.continues_step hplan hhead with ⟨task', hhead', hcontinues⟩ | ⟨rfl | ⟨reason, rfl⟩, -⟩
  · exact ⟨task', hhead', hcontinues.expected_eq, hcontinues.isPrefix hnodup hrunning⟩
  · exact absurd rfl hevent
  · exact absurd rfl hevent

/-- **Whether all vehicles follow** the expected routes of their sub-tasks, apart from routes that
visit a waypoint twice. -/
structure Faithful (f : Fleet α) : Prop extends f.OnTrack where
  follows : ∀ id task, f.backlog.head? id = some task → task.expected.Nodup →
    task.running <+: task.expected

namespace Faithful

variable {f : Fleet α}

/-- **Vehicles follow as long as they are planned along their expected routes.** -/
theorem step (h : f.Faithful) (event : FleetEvent α)
    (hevent : ∀ id candidate, event ≠ .plan id candidate) : (f.step event).Faithful := by
  refine ⟨h.toOnTrack.step event, fun id task' hhead' hnodup => ?_⟩
  rcases f.head_step_cases (hevent id) hhead' with
    ⟨task, hhead, hcontinues⟩ | ⟨-, order, number, -, rfl⟩ | hwaiting
  · rw [hcontinues.expected_eq] at hnodup ⊢
    exact hcontinues.isPrefix hnodup (h.follows id task hhead hnodup)
  · exact List.nil_prefix
  · rw [(h.waiting id task' hwaiting).running_eq]
    exact List.nil_prefix

/-- An expected route may be laid down before anything has been committed. -/
theorem expect (h : f.Faithful) {id : String}
    (hnil : ∀ task, f.backlog.head? id = some task → task.running = []) (route : Route) :
    (f.expect id route).Faithful := by
  refine ⟨h.toOnTrack.expect id route, fun other task' hhead' hnodup => ?_⟩
  change (f.backlog.modifyHead id _).head? other = some task' at hhead'
  rw [Backlog.head?_modifyHead] at hhead'
  split at hhead'
  · rename_i hid
    subst hid
    obtain ⟨task, hhead, rfl⟩ := Option.map_eq_some_iff.mp hhead'
    show task.running <+: route
    rw [hnil task hhead]
    exact List.nil_prefix
  · exact h.follows other task' hhead' hnodup

end Faithful

/-- A sub-task whose committed route is all of its expected route is not planned any more. -/
theorem planRemaining_of_running_eq {f : Fleet α} {id : String} {task : SubTask α}
    (hhead : f.backlog.head? id = some task) (hlive : task.isLive = true)
    (hnodup : task.expected.Nodup) (hrunning : task.running = task.expected) :
    f.planRemaining id = (.deferred, f) := by
  have hpending : task.pendingRoute.length < 2 := by
    cases hend : task.runningEnd with
    | none =>
      have hnil : task.running = [] := List.getLast?_eq_none_iff.mp hend
      rw [SubTask.pendingRoute_of_running_eq_nil hnil, ← hrunning, hnil]
      decide
    | some w =>
      obtain ⟨before, hbefore⟩ := List.getLast?_eq_some_iff.mp hend
      have hexpected : task.expected = before ++ w :: [] := hrunning ▸ hbefore
      have hfirst : w ∉ before := by
        rw [hexpected, List.nodup_append] at hnodup
        exact fun hw => hnodup.2.2 w hw w List.mem_cons_self rfl
      rw [SubTask.pendingRoute_of_expected_eq hend hexpected hfirst]
      exact Nat.one_lt_two
  rcases f.planRemaining_cases id with
    ⟨hnone, -⟩ | ⟨task', hhead', ⟨-, -, heq⟩ | ⟨hlong, heq⟩⟩
  · rw [hhead] at hnone
    cases hnone
  · exact heq
  · obtain rfl : task = task' := Option.some.inj (hhead.symm.trans hhead')
    -- Nothing is expected, and an empty candidate is deferred.
    have hnil : task.running = [] := by
      by_contra hne
      have hlength := hlong hne
      omega
    have hempty : task.pendingRoute = [] := by
      rw [SubTask.pendingRoute_of_running_eq_nil hnil, ← hrunning, hnil]
    rw [heq, hempty]
    unfold plan
    rw [hhead]
    simp [hlive]

theorem Expects.running_isPrefix {f : Fleet α} {id : String} {route : Route}
    (h : f.Expects id route) : ∃ task, f.backlog.head? id = some task ∧ task.expected = route
      ∧ task.running <+: route := by
  obtain ⟨⟨task, hhead, hexpected⟩, g, task₀, hhead₀, hnil, rfl | ⟨hnone, rfl⟩⟩ := h
  · have hmodify : (g.expect id route).backlog.head? id = _ := Backlog.head?_modifyHead _ _ _ _
    rw [hmodify, if_pos rfl, hhead₀, Option.map_some, Option.some.injEq] at hhead
    refine ⟨task, ?_, hexpected, ?_⟩
    · rw [hmodify, if_pos rfl, hhead₀, Option.map_some, hhead]
    · rw [← hhead]
      change task₀.running <+: route
      rw [hnil]
      exact List.nil_prefix
  · refine ⟨task, hhead, hexpected, ?_⟩
    rcases g.plan_cases id route with ⟨-, heq⟩ | ⟨task₁, hhead₁, -, -, -, ⟨-, heq⟩ | ⟨-, heq⟩⟩
    · rw [heq, hhead₀, Option.some.injEq] at hhead
      rw [← hhead, hnil]
      exact List.nil_prefix
    · rw [heq] at hhead
      change (g.backlog.modifyHead id _).head? id = some task at hhead
      rw [Backlog.head?_modifyHead, if_pos rfl, hhead₀, Option.map_some, Option.some.injEq] at hhead
      obtain rfl : task₀ = task₁ := Option.some.inj (hhead₀.symm.trans hhead₁)
      rw [← hhead, SubTask.running_defer, SubTask.running_propose, hnil]
      exact List.nil_prefix
    · rw [heq] at hhead
      change (g.backlog.modifyHead id _).head? id = some task at hhead
      rw [Backlog.head?_modifyHead, if_pos rfl, hhead₀, Option.map_some, Option.some.injEq] at hhead
      obtain rfl : task₀ = task₁ := Option.some.inj (hhead₀.symm.trans hhead₁)
      rw [← hhead]
      unfold plannedTask
      rw [SubTask.running_commitPlan, SubTask.running_propose, hnil, SubTask.joinRoutes_nil_left]
      exact g.plannable_isPrefix id task₀ route

/-- **A vehicle follows an expected route that visits no waypoint twice.** -/
theorem follows_of_nodup {f : Fleet α} {id : String} {route : Route} (hnodup : route.Nodup)
    (hlive : f.Live) (hexpects : f.Expects id route) {events : List (FleetEvent α)}
    (hevents : Along (Undisturbed id) f events) : (f.run events).Follows id route := by
  have hinvariant : (f.run events).Live ∧ ∃ task, (f.run events).backlog.head? id = some task
      ∧ task.expected = route ∧ task.running <+: route := by
    refine hevents.invariant (I := fun g => g.Live ∧ ∃ task, g.backlog.head? id = some task
      ∧ task.expected = route ∧ task.running <+: route) ?_ ⟨hlive, hexpects.running_isPrefix⟩
    rintro g event ⟨hlive, task, hhead, hexpected, hrunning⟩ hevent
    exact ⟨hlive.step event, follows_step hnodup hevent hhead hexpected hrunning⟩
  obtain ⟨hlive, task, hhead, hexpected, hrunning⟩ := hinvariant
  refine ⟨task, hhead, hrunning, fun heq => ?_⟩
  rw [← hexpected] at hnodup heq
  exact planRemaining_of_running_eq hhead (hlive.head hhead) hnodup heq

end Fleet

end AgvDispatch
