import AgvDispatch.Fleet.Planning
import Mathlib.Data.List.Basic
/-!
# The routes of a sub-task

A sub-task is **on track** (`SubTask.OnTrack`) when what lies behind the vehicle is the beginning of
what has been committed, and the waypoint that the vehicle stands on is not behind it. Every step of
a sub-task keeps it on track, and says what becomes of the route that lies ahead:

* a committed segment is joined to it (`SubTask.OnTrack.effectiveRoute_commitPlan`);
* a vehicle that reaches a waypoint of it moves to its first visit
  (`SubTask.effectiveRoute_reach`);
* a plan that is deferred and a change of stage leave it as it is.
-/

namespace AgvDispatch.SubTask

variable {α : Type}

/-- Where the goods are and where they go. -/
def ends (t : SubTask α) : Waypoint × Waypoint := (t.origin, t.destination)

/-! ### What the steps leave alone -/

section

variable (t : SubTask α)

@[simp] theorem running_setStage (stage : Stage) : (t.setStage stage).running = t.running := rfl

@[simp] theorem traveled_setStage (stage : Stage) : (t.setStage stage).traveled = t.traveled := rfl

@[simp] theorem expected_setStage (stage : Stage) : (t.setStage stage).expected = t.expected := rfl

@[simp] theorem mapId_setStage (stage : Stage) : (t.setStage stage).mapId = t.mapId := rfl

@[simp] theorem running_propose (candidate : Route) :
    (t.propose candidate).running = t.running := rfl

@[simp] theorem traveled_propose (candidate : Route) :
    (t.propose candidate).traveled = t.traveled := rfl

@[simp] theorem mapId_propose (candidate : Route) : (t.propose candidate).mapId = t.mapId := rfl

@[simp] theorem expected_propose (candidate : Route) :
    (t.propose candidate).expected = if t.expected.isEmpty then candidate else t.expected := rfl

@[simp] theorem running_defer : t.defer.running = t.running := rfl

@[simp] theorem traveled_defer : t.defer.traveled = t.traveled := rfl

@[simp] theorem expected_defer : t.defer.expected = t.expected := rfl

@[simp] theorem mapId_defer : t.defer.mapId = t.mapId := rfl

@[simp] theorem running_startRunning : t.startRunning.running = t.running := by
  unfold startRunning
  split <;> rfl

@[simp] theorem traveled_startRunning : t.startRunning.traveled = t.traveled := by
  unfold startRunning
  split <;> rfl

@[simp] theorem expected_startRunning : t.startRunning.expected = t.expected := by
  unfold startRunning
  split <;> rfl

@[simp] theorem mapId_startRunning : t.startRunning.mapId = t.mapId := by
  unfold startRunning
  split <;> rfl

@[simp] theorem ends_startRunning : t.startRunning.ends = t.ends := by
  unfold startRunning
  split <;> rfl

@[simp] theorem id_startRunning : t.startRunning.id = t.id := by
  unfold startRunning
  split <;> rfl

@[simp] theorem candidate_startRunning : t.startRunning.candidate = t.candidate := by
  unfold startRunning
  split <;> rfl

@[simp] theorem stage_setStage (stage : Stage) : (t.setStage stage).stage = stage := rfl

/-- A sub-task that can take a new route is alive. -/
theorem isLive_of_needsPlan {t : SubTask α} (h : t.stage.needsPlan = true) : t.isLive = true := by
  unfold isLive
  cases hstage : t.stage <;> rw [hstage] at h <;> first | rfl | simp [Stage.needsPlan] at h

variable [Scalar α]

@[simp] theorem running_commitPlan (segment : Route) (length : α) :
    (t.commitPlan segment length).running = joinRoutes t.running segment := by
  simp [commitPlan, setMark, commit]

@[simp] theorem traveled_commitPlan (segment : Route) (length : α) :
    (t.commitPlan segment length).traveled = t.traveled := by
  simp [commitPlan, setMark, commit]

@[simp] theorem expected_commitPlan (segment : Route) (length : α) :
    (t.commitPlan segment length).expected = t.expected := by
  simp [commitPlan, setMark, commit]

@[simp] theorem mapId_commitPlan (segment : Route) (length : α) :
    (t.commitPlan segment length).mapId = t.mapId := by
  simp [commitPlan, setMark, commit]

@[simp] theorem ends_commitPlan (segment : Route) (length : α) :
    (t.commitPlan segment length).ends = t.ends :=
  ends_startRunning _

@[simp] theorem id_commitPlan (segment : Route) (length : α) :
    (t.commitPlan segment length).id = t.id := by
  simp [commitPlan, setMark, commit]

@[simp] theorem candidate_commitPlan (segment : Route) (length : α) :
    (t.commitPlan segment length).candidate = [] := by
  simp [commitPlan, setMark, commit]

@[simp] theorem mark_commitPlan (segment : Route) (length : α) :
    (t.commitPlan segment length).mark = .planned := rfl

/-- A committed segment leaves a sub-task in its stage or has it run. -/
theorem stage_commitPlan (segment : Route) (length : α) :
    (t.commitPlan segment length).stage = t.stage ∨ (t.commitPlan segment length).stage = .run := by
  unfold commitPlan setMark startRunning
  simp only
  split
  · exact Or.inr rfl
  · exact Or.inl rfl

/-- A sub-task that can take a new route runs once a segment has been committed. -/
theorem stage_commitPlan_of_needsPlan (h : t.stage.needsPlan = true) (segment : Route)
    (length : α) : (t.commitPlan segment length).stage = .run := by
  unfold commitPlan setMark startRunning
  simp only
  split
  · rfl
  · rename_i hnot
    change t.stage = .run
    change ¬(t.stage != .run && t.stage.mayBecome .run) = true at hnot
    cases hstage : t.stage <;> rw [hstage] at h hnot <;>
      simp_all [Stage.needsPlan, Stage.mayBecome, Stage.isTerminal]

end

section Reach

variable (t : SubTask α) (here : Waypoint)

/-- A waypoint that does not lie ahead changes nothing, nor does the one that comes first; any other
one leaves what comes before it behind. -/
theorem reach_cases : t.reach here = t ∨ ∃ i, t.effectiveRoute.idxOf? here = some i
    ∧ t.reach here = { t.travel (t.effectiveRoute.take i) with
        expectedNext := t.effectiveRoute[i + 1]? } := by
  unfold reach
  simp only
  cases h : t.effectiveRoute.idxOf? here with
  | none => exact Or.inl rfl
  | some i =>
    cases i with
    | zero => exact Or.inl rfl
    | succ i => exact Or.inr ⟨i + 1, rfl, rfl⟩

@[simp] theorem running_reach : (t.reach here).running = t.running := by
  rcases t.reach_cases here with h | ⟨i, -, h⟩ <;> rw [h]
  rfl

@[simp] theorem expected_reach : (t.reach here).expected = t.expected := by
  rcases t.reach_cases here with h | ⟨i, -, h⟩ <;> rw [h]
  rfl

@[simp] theorem mapId_reach : (t.reach here).mapId = t.mapId := by
  rcases t.reach_cases here with h | ⟨i, -, h⟩ <;> rw [h]
  rfl

@[simp] theorem ends_reach : (t.reach here).ends = t.ends := by
  rcases t.reach_cases here with h | ⟨i, -, h⟩ <;> rw [h]
  rfl

@[simp] theorem stage_reach : (t.reach here).stage = t.stage := by
  rcases t.reach_cases here with h | ⟨i, -, h⟩ <;> rw [h]
  rfl

end Reach

/-! ### Joining routes -/

theorem joinRoutes_nil_left (segment : Route) : joinRoutes [] segment = segment := by
  cases segment <;> rfl

theorem joinRoutes_nil_right (route : Route) : joinRoutes route [] = route := rfl

/-- A segment that begins where the route ends overlaps with it in that waypoint. -/
theorem joinRoutes_of_getLast? {route : Route} {w : Waypoint} (h : route.getLast? = some w)
    (rest : Route) : joinRoutes route (w :: rest) = route ++ rest := by
  simp [joinRoutes, h]

theorem prefix_joinRoutes (route segment : Route) : route <+: joinRoutes route segment := by
  unfold joinRoutes
  split
  · exact List.prefix_refl route
  · exact List.prefix_append _ _

/-- A segment is appended, without its first waypoint if the route ends on it. -/
theorem joinRoutes_eq_append (route : Route) {segment : Route} (h : segment ≠ []) :
    joinRoutes route segment
      = route ++ if route.getLast? = segment.head? then segment.tail else segment := by
  cases segment with
  | nil => exact absurd rfl h
  | cons w rest => rfl

theorem suffix_joinRoutes (route segment : Route) : segment <:+ joinRoutes route segment := by
  cases segment with
  | nil => exact List.nil_suffix
  | cons w rest =>
    by_cases hlast : route.getLast? = some w
    · -- The first waypoint of the segment is the last one of the route.
      obtain ⟨init, rfl⟩ := List.getLast?_eq_some_iff.mp hlast
      rw [joinRoutes_of_getLast? hlast, List.append_assoc]
      exact List.suffix_append init (w :: rest)
    · rw [joinRoutes_eq_append route (List.cons_ne_nil w rest), List.head?_cons, if_neg hlast]
      exact List.suffix_append route (w :: rest)

/-- A segment adds to a route unless it is no more than the end of the route. -/
theorem length_lt_joinRoutes {route segment : Route} (hne : segment ≠ [])
    (hnew : ¬(segment.length = 1 ∧ route.getLast? = segment.head?)) :
    route.length < (joinRoutes route segment).length := by
  have hlength : 0 < segment.length := List.length_pos_iff.mpr hne
  rw [joinRoutes_eq_append route hne, List.length_append]
  split
  · rename_i hlast
    have hlong : segment.length ≠ 1 := fun h => hnew ⟨h, hlast⟩
    rw [List.length_tail]
    omega
  · omega

theorem joinRoutes_ne_nil {route segment : Route} (h : segment ≠ []) :
    joinRoutes route segment ≠ [] := by
  cases route with
  | nil => rwa [joinRoutes_nil_left]
  | cons w route =>
    intro hnil
    have hpre := prefix_joinRoutes (w :: route) segment
    rw [hnil] at hpre
    exact List.cons_ne_nil _ _ (List.prefix_nil.mp hpre)

/-- Cutting off a beginning before or after a segment is joined comes to the same, unless it takes
all of the route. -/
theorem drop_joinRoutes {route : Route} {k : ℕ} (h : k < route.length) (segment : Route) :
    (joinRoutes route segment).drop k = joinRoutes (route.drop k) segment := by
  cases segment with
  | nil => rfl
  | cons w rest =>
    -- Whether the first waypoint is left out depends on where the route ends only.
    have hlast : (route.drop k).getLast? = route.getLast? := by
      rw [List.getLast?_drop, if_neg (by omega)]
    unfold joinRoutes
    simp only [hlast]
    exact List.drop_append_of_le_length (Nat.le_of_lt h)

/-! ### Reaching a waypoint -/

/-- **A vehicle that reaches a waypoint** moves to its first visit if it lies ahead, and stays where
it is otherwise. -/
theorem effectiveRoute_reach (t : SubTask α) (here : Waypoint) : (t.reach here).effectiveRoute
    = t.effectiveRoute.drop ((t.effectiveRoute.idxOf? here).getD 0) := by
  unfold reach
  simp only
  cases hindex : t.effectiveRoute.idxOf? here with
  | none => rfl
  | some i =>
    cases i with
    | zero => rfl
    | succ i =>
      -- What has been passed is added to what lies behind, so the two are dropped together.
      have hlt : i + 1 < t.effectiveRoute.length := (List.idxOf?_eq_some_iff.mp hindex).1
      change t.running.drop (t.traveled ++ t.effectiveRoute.take (i + 1)).length = _
      rw [List.length_append, List.length_take, Nat.min_eq_left (Nat.le_of_lt hlt),
        Option.getD_some]
      unfold effectiveRoute
      rw [List.drop_drop]

theorem effectiveRoute_reach_suffix (t : SubTask α) (here : Waypoint) :
    (t.reach here).effectiveRoute <:+ t.effectiveRoute := by
  rw [effectiveRoute_reach]
  exact List.drop_suffix _ _

theorem traveled_isPrefix_reach (t : SubTask α) (here : Waypoint) :
    t.traveled <+: (t.reach here).traveled := by
  rcases t.reach_cases here with heq | ⟨i, -, heq⟩
  · simp [heq]
  · rw [heq]
    exact List.prefix_append _ _

/-- The route ahead begins with the first visit of a waypoint once the vehicle has reached it. -/
theorem effectiveRoute_reach_of_eq_append {t : SubTask α} {here : Waypoint} {before after : Route}
    (hahead : t.effectiveRoute = before ++ here :: after) (hfirst : here ∉ before) :
    (t.reach here).effectiveRoute = here :: after := by
  have hindex : t.effectiveRoute.idxOf? here = some before.length := by
    rw [List.idxOf?_eq_some_iff, hahead]
    refine ⟨by simp, by simp, fun j hj => ?_⟩
    rw [List.getElem_append_left hj]
    exact fun heq => hfirst (heq ▸ List.getElem_mem hj)
  rw [effectiveRoute_reach, hindex, Option.getD_some, hahead, List.drop_left]

theorem reach_of_notMem {t : SubTask α} {here : Waypoint} (h : here ∉ t.effectiveRoute) :
    t.reach here = t := by
  rcases t.reach_cases here with heq | ⟨i, hindex, -⟩
  · exact heq
  · obtain ⟨hi, hget, -⟩ := List.idxOf?_eq_some_iff.mp hindex
    exact absurd (hget ▸ List.getElem_mem hi) h

/-! ### Being on track -/

/-- **Whether the routes of a sub-task fit together.** -/
structure OnTrack (t : SubTask α) : Prop where
  /-- What lies behind the vehicle is the beginning of what has been committed. -/
  traveled_isPrefix : t.traveled <+: t.running
  /-- Something lies ahead once something has been committed. -/
  effectiveRoute_ne_nil : t.running ≠ [] → t.effectiveRoute ≠ []

namespace OnTrack

variable {t : SubTask α}

theorem of_running_eq_nil (hrunning : t.running = []) (htraveled : t.traveled = []) :
    t.OnTrack :=
  ⟨by rw [htraveled]; exact List.nil_prefix, fun h => absurd hrunning h⟩

theorem of_eq {t' : SubTask α} (h : t.OnTrack) (hrunning : t'.running = t.running)
    (htraveled : t'.traveled = t.traveled) : t'.OnTrack := by
  refine ⟨by rw [hrunning, htraveled]; exact h.traveled_isPrefix, ?_⟩
  unfold effectiveRoute
  rw [hrunning, htraveled]
  exact h.effectiveRoute_ne_nil

/-- What has been committed is what lies behind followed by what lies ahead. -/
theorem running_eq (h : t.OnTrack) : t.running = t.traveled ++ t.effectiveRoute :=
  (List.prefix_iff_eq_append.mp h.traveled_isPrefix).symm

theorem length_traveled_lt (h : t.OnTrack) (hne : t.running ≠ []) :
    t.traveled.length < t.running.length := by
  have hahead := List.length_pos_iff.mpr (h.effectiveRoute_ne_nil hne)
  rw [effectiveRoute, List.length_drop] at hahead
  omega

/-- What lies behind a vehicle is never all of what has been committed. -/
theorem length_lt_or_empty (h : t.OnTrack) :
    t.traveled.length < t.running.length ∨ (t.traveled = [] ∧ t.running = []) := by
  by_cases hne : t.running = []
  · have hpre := h.traveled_isPrefix
    rw [hne] at hpre
    exact Or.inr ⟨List.prefix_nil.mp hpre, hne⟩
  · exact Or.inl (h.length_traveled_lt hne)

theorem effectiveRoute_eq_nil_iff (h : t.OnTrack) : t.effectiveRoute = [] ↔ t.running = [] := by
  constructor
  · intro hnil
    by_contra hne
    exact h.effectiveRoute_ne_nil hne hnil
  · intro hnil
    rw [effectiveRoute, hnil, List.drop_nil]

/-- What lies ahead ends where what has been committed ends. -/
theorem getLast?_effectiveRoute (h : t.OnTrack) : t.effectiveRoute.getLast? = t.runningEnd := by
  by_cases hne : t.running = []
  · rw [h.effectiveRoute_eq_nil_iff.mpr hne, runningEnd, hne]
  · rw [effectiveRoute, List.getLast?_drop, if_neg (Nat.not_le.mpr (h.length_traveled_lt hne)),
      runningEnd]

/-- **A committed segment is joined to what lies ahead.** -/
theorem effectiveRoute_commitPlan [Scalar α] (h : t.OnTrack) (segment : Route) (length : α) :
    (t.commitPlan segment length).effectiveRoute = joinRoutes t.effectiveRoute segment := by
  unfold effectiveRoute
  rw [running_commitPlan, traveled_commitPlan]
  by_cases hne : t.running = []
  · have htraveled : t.traveled = [] := by
      have hpre := h.traveled_isPrefix
      rw [hne] at hpre
      exact List.prefix_nil.mp hpre
    rw [hne, htraveled]
    rfl
  · exact drop_joinRoutes (h.length_traveled_lt hne) segment

theorem commitPlan [Scalar α] (h : t.OnTrack) {segment : Route} (hne : segment ≠ [])
    (length : α) : (t.commitPlan segment length).OnTrack := by
  refine ⟨?_, fun _ => ?_⟩
  · rw [running_commitPlan, traveled_commitPlan]
    exact h.traveled_isPrefix.trans (prefix_joinRoutes _ _)
  · rw [h.effectiveRoute_commitPlan]
    exact joinRoutes_ne_nil hne

theorem reach (h : t.OnTrack) (here : Waypoint) : (t.reach here).OnTrack := by
  refine ⟨?_, fun hrunning => ?_⟩
  · rw [running_reach]
    rcases t.reach_cases here with heq | ⟨i, -, heq⟩
    · rw [heq]
      exact h.traveled_isPrefix
    · rw [heq, h.running_eq]
      exact List.prefix_append_right_inj t.traveled |>.mpr (List.take_prefix i _)
  · rw [running_reach] at hrunning
    rw [effectiveRoute_reach, Ne, List.drop_eq_nil_iff, Nat.not_le]
    cases hindex : t.effectiveRoute.idxOf? here with
    | none => exact List.length_pos_iff.mpr (h.effectiveRoute_ne_nil hrunning)
    | some i => exact (List.idxOf?_eq_some_iff.mp hindex).1

end OnTrack

/-! ### What has yet to be committed -/

/-- What has yet to be committed is the end of the expected route. -/
theorem pendingRoute_suffix (t : SubTask α) : t.pendingRoute <:+ t.expected := by
  unfold pendingRoute
  split
  · exact List.suffix_refl _
  · exact List.dropWhile_suffix _

/-- What has yet to be committed begins where the committed route ends, or there is nothing of
it. -/
theorem head?_pendingRoute {t : SubTask α} (hne : t.running ≠ []) (hpending : t.pendingRoute ≠ []) :
    t.pendingRoute.head? = t.runningEnd := by
  unfold pendingRoute at hpending ⊢
  cases hlast : t.runningEnd with
  | none => exact absurd (List.getLast?_eq_none_iff.mp hlast) hne
  | some last =>
    simp only [hlast] at hpending ⊢
    obtain ⟨w, rest, hcons⟩ := List.exists_cons_of_ne_nil hpending
    have hhead := List.head?_dropWhile_not (· != last) t.expected
    rw [hcons] at hhead ⊢
    simpa using hhead

/-- Nothing has been committed yet, so all of the expected route has yet to be. -/
theorem pendingRoute_of_running_eq_nil {t : SubTask α} (h : t.running = []) :
    t.pendingRoute = t.expected := by
  rw [pendingRoute, runningEnd, h]
  rfl

/-- **What has yet to be committed begins with the first visit** of the waypoint where the committed
route ends. -/
theorem pendingRoute_of_expected_eq {t : SubTask α} {w : Waypoint} {before after : Route}
    (hend : t.runningEnd = some w) (hexpected : t.expected = before ++ w :: after)
    (hfirst : w ∉ before) : t.pendingRoute = w :: after := by
  have hbefore : ∀ x ∈ before, (x != w) = true := by
    intro x hx
    rw [bne_iff_ne]
    rintro rfl
    exact hfirst hx
  rw [pendingRoute, hend, hexpected]
  simp only
  rw [List.dropWhile_append_of_pos hbefore]
  simp

end AgvDispatch.SubTask
