import AgvDispatch.Proofs.Network.Route
import AgvDispatch.Proofs.Network.Search
/-!
# Breadth-first routing is correct

A **way** from a start to a goal follows an edge at each step, visits no waypoint twice, and enters
no waypoint to be avoided (`Network.IsWay`). If start and goal differ, `Network.shortestRoute` finds
a way with the fewest waypoints, and finds nothing only if there is no way
(`Network.routesBreadthFirst`).

The bounds on the numbers of rounds play no part in it: `Network.Searches` and `Network.Retraces`
are the two loops without them, and the search with its bounds is a run of these
(`Network.Layered.searches_search`).

The invariant of the search is that it proceeds by layers (`Network.Layered`): the waypoints that
have been reached have depths, the queue is in order of depth, and nothing that has been reached is
more than one layer below anything in the queue. So as long as the goal has not been reached, every
walk to it leaves what has been looked around from at a waypoint of the queue
(`Network.Layered.reached_or_queued`), and no walk is shorter than the next depth. Where a waypoint
was reached from lies one layer above it, which makes the way back end, at the start, and without
repetition (`Network.Layered.of_retraces`).
-/

namespace AgvDispatch

open Std (TreeMap)

/-! ### Steps and chains -/

namespace Route

theorem map_snd_steps (route : Route) : route.steps.map Prod.snd = route.tail :=
  List.map_snd_zip (by simp)

theorem isChain_iff_steps {R : Waypoint → Waypoint → Prop} {route : Route} :
    route.IsChain R ↔ ∀ step ∈ route.steps, R step.1 step.2 := by
  induction route with
  | nil => simp
  | cons a rest ih =>
    cases rest with
    | nil => simp
    | cons b rest => simp [ih]

end Route

namespace Network

variable {α : Type} {n : Network α} {start goal here : Waypoint} {avoid : Waypoint → Bool}
  {queue : List Waypoint} {cameFrom : TreeMap Waypoint Waypoint} {depth : Waypoint → ℕ}

/-! ### Ways -/

/-- **A way** from one waypoint to another that enters nothing to be avoided. -/
structure IsWay (n : Network α) (avoid : Waypoint → Bool) (start goal : Waypoint)
    (route : Route) : Prop where
  head : route.head? = some start
  last : route.getLast? = some goal
  edges : ∀ step ∈ route.steps, (n.edge? step.1 step.2).isSome = true
  nodup : route.Nodup
  entered : ∀ w ∈ route.tail, avoid w = false

/-- Edges and the waypoints they enter, taken together. -/
theorem isChain_leads_iff {route : Route} : route.IsChain (n.Leads avoid)
    ↔ (∀ step ∈ route.steps, (n.edge? step.1 step.2).isSome = true)
      ∧ ∀ w ∈ route.tail, avoid w = false := by
  rw [Route.isChain_iff_steps, ← Route.map_snd_steps, List.forall_mem_map, ← forall₂_and]
  simp only [Leads, mem_neighbours_iff]

theorem IsWay.isChain {route : Route} (h : n.IsWay avoid start goal route) :
    route.IsChain (n.Leads avoid) :=
  isChain_leads_iff.mpr ⟨h.edges, h.entered⟩

/-! ### The loops of the search -/

/-- What has been reached after looking around from a waypoint, and where it was reached from. -/
abbrev reachedAfter (n : Network α) (start : Waypoint) (avoid : Waypoint → Bool)
    (cameFrom : TreeMap Waypoint Waypoint) (here : Waypoint) : TreeMap Waypoint Waypoint :=
  (n.newlyReached start avoid cameFrom here).foldl (fun reached w => reached.insert w here) cameFrom

/-- The way back from a waypoint, in front of what follows, step by step until there is no step to
make. -/
inductive Retraces (cameFrom : TreeMap Waypoint Waypoint) : Waypoint → Route → Route → Prop where
  /-- Nothing leads further back. -/
  | stop (w : Waypoint) (rest : Route) (hget : cameFrom.get? w = none) :
    Retraces cameFrom w rest (w :: rest)
  /-- One step back. -/
  | back (w before : Waypoint) (rest route : Route) (hget : cameFrom.get? w = some before)
    (hlater : Retraces cameFrom before (w :: rest) route) : Retraces cameFrom w rest route

/-- The search from a queue and the waypoints reached, round by round until it ends. -/
inductive Searches (n : Network α) (start goal : Waypoint) (avoid : Waypoint → Bool) :
    List Waypoint → TreeMap Waypoint Waypoint → Option Route → Prop where
  /-- There is nowhere left to look around from. -/
  | exhausted (cameFrom : TreeMap Waypoint Waypoint) : Searches n start goal avoid [] cameFrom none
  /-- The goal has been reached. -/
  | found (here : Waypoint) (queue : List Waypoint) (cameFrom : TreeMap Waypoint Waypoint)
    (route : Route) (hgoal : goal ∈ n.newlyReached start avoid cameFrom here)
    (hroute : Retraces (n.reachedAfter start avoid cameFrom here) goal [] route) :
    Searches n start goal avoid (here :: queue) cameFrom (some route)
  /-- The goal has not been reached from here. -/
  | next (here : Waypoint) (queue : List Waypoint) (cameFrom : TreeMap Waypoint Waypoint)
    (result : Option Route) (hgoal : goal ∉ n.newlyReached start avoid cameFrom here)
    (hlater : Searches n start goal avoid (queue ++ n.newlyReached start avoid cameFrom here)
      (n.reachedAfter start avoid cameFrom here) result) :
    Searches n start goal avoid (here :: queue) cameFrom result

/-! ### A round -/

theorem mem_of_get?_eq_some {w before : Waypoint} (h : cameFrom.get? w = some before) :
    w ∈ cameFrom := by
  rw [TreeMap.get?_eq_getElem?] at h
  exact TreeMap.mem_iff_isSome_getElem?.mpr (by rw [h]; rfl)

theorem get?_foldl_insert_of_not_mem {found : List Waypoint} {w : Waypoint} (here : Waypoint)
    (cameFrom : TreeMap Waypoint Waypoint) (hw : w ∉ found) :
    (found.foldl (fun reached w => reached.insert w here) cameFrom).get? w = cameFrom.get? w := by
  induction found generalizing cameFrom with
  | nil => rfl
  | cons first found ih =>
    rw [List.mem_cons, not_or] at hw
    rw [List.foldl_cons, ih _ hw.2, TreeMap.get?_eq_getElem?, TreeMap.getElem?_insert, if_neg]
    · rw [TreeMap.get?_eq_getElem?]
    · rw [Std.LawfulEqCmp.compare_eq_iff_eq]
      exact Ne.symm hw.1

theorem size_reachedAfter (n : Network α) (start : Waypoint) (avoid : Waypoint → Bool)
    (cameFrom : TreeMap Waypoint Waypoint) (here : Waypoint) :
    (n.reachedAfter start avoid cameFrom here).size
      = cameFrom.size + (n.newlyReached start avoid cameFrom here).length :=
  size_foldl_insert _ _ _ ((n.nodup_neighbours here).filter _) fun _ hw =>
    (mem_newlyReached.mp hw).2.2

/-- After a round, what has been reached has been reached in this round or before. -/
theorem reachedAfter_iff {w : Waypoint} :
    w = start ∨ w ∈ n.reachedAfter start avoid cameFrom here
      ↔ w ∈ n.newlyReached start avoid cameFrom here ∨ w = start ∨ w ∈ cameFrom := by
  rw [mem_foldl_insert]
  exact or_left_comm

/-- The layers after a round: what is newly reached lies one below where it was reached from. -/
def deepened (n : Network α) (start : Waypoint) (avoid : Waypoint → Bool)
    (cameFrom : TreeMap Waypoint Waypoint) (here : Waypoint) (depth : Waypoint → ℕ)
    (w : Waypoint) : ℕ :=
  if w ∈ n.newlyReached start avoid cameFrom here then depth here + 1 else depth w

theorem deepened_of_mem {w : Waypoint} (hw : w ∈ n.newlyReached start avoid cameFrom here) :
    n.deepened start avoid cameFrom here depth w = depth here + 1 :=
  if_pos hw

/-- The layers of what had been reached before a round stay as they are. -/
theorem deepened_of_reached {w : Waypoint} (hw : w = start ∨ w ∈ cameFrom) :
    n.deepened start avoid cameFrom here depth w = depth w := by
  refine if_neg fun hmem => ?_
  obtain ⟨-, hne, hnew⟩ := mem_newlyReached.mp hmem
  exact hw.elim hne hnew

/-! ### Layers -/

/-- **Whether a search proceeds by layers**, given the layer of each waypoint reached. -/
structure Layered (n : Network α) (start : Waypoint) (avoid : Waypoint → Bool)
    (queue : List Waypoint) (cameFrom : TreeMap Waypoint Waypoint) (depth : Waypoint → ℕ) : Prop
    extends n.Exploring start avoid queue cameFrom where
  start_not_mem : start ∉ cameFrom
  depth_start : depth start = 0
  queued : ∀ w ∈ queue, w = start ∨ w ∈ cameFrom
  /-- Where a waypoint was reached from lies one layer above it. -/
  above : ∀ w before, cameFrom.get? w = some before → (before = start ∨ before ∈ cameFrom)
    ∧ n.Leads avoid before w ∧ depth w = depth before + 1
  sorted : queue.Pairwise fun w x => depth w ≤ depth x
  /-- Nothing is more than one layer below the queue. -/
  depth_le_queue : ∀ w, w = start ∨ w ∈ cameFrom → ∀ q ∈ queue, depth w ≤ depth q + 1
  /-- Nothing is more than one layer below a waypoint from which it can be entered. -/
  depth_le_leads : ∀ w, w = start ∨ w ∈ cameFrom → w ∉ queue → ∀ x, n.Leads avoid w x →
    depth x ≤ depth w + 1
  /-- There are no more layers than waypoints reached. -/
  depth_le_size : ∀ w, w = start ∨ w ∈ cameFrom → depth w ≤ cameFrom.size

namespace Layered

theorem of_start (n : Network α) (start : Waypoint) (avoid : Waypoint → Bool) :
    n.Layered start avoid [start] {} fun _ => 0 where
  toExploring := Exploring.of_start n start avoid
  start_not_mem := TreeMap.not_mem_emptyc
  depth_start := rfl
  queued := fun _ hw => Or.inl (List.mem_singleton.mp hw)
  above := fun _ _ h => absurd (mem_of_get?_eq_some h) TreeMap.not_mem_emptyc
  sorted := List.pairwise_singleton _ _
  depth_le_queue := fun _ _ _ _ => Nat.zero_le _
  depth_le_leads := fun _ _ _ _ _ => Nat.zero_le _
  depth_le_size := fun _ _ => Nat.zero_le _

section Round

variable (h : n.Layered start avoid (here :: queue) cameFrom depth)
include h

theorem reached_here : here = start ∨ here ∈ cameFrom :=
  h.queued here List.mem_cons_self

theorem reached_queue {w : Waypoint} (hw : w ∈ queue) : w = start ∨ w ∈ cameFrom :=
  h.queued w (List.mem_cons_of_mem _ hw)

theorem depth_le_here {w : Waypoint} (hw : w = start ∨ w ∈ cameFrom) : depth w ≤ depth here + 1 :=
  h.depth_le_queue w hw here List.mem_cons_self

theorem depth_here_le {w : Waypoint} (hw : w ∈ queue) : depth here ≤ depth w :=
  (List.pairwise_cons.mp h.sorted).1 w hw

theorem above_step {w before : Waypoint}
    (hget : (n.reachedAfter start avoid cameFrom here).get? w = some before) :
    (before = start ∨ before ∈ n.reachedAfter start avoid cameFrom here) ∧ n.Leads avoid before w
      ∧ n.deepened start avoid cameFrom here depth w
        = n.deepened start avoid cameFrom here depth before + 1 := by
  rw [reachedAfter_iff]
  by_cases hw : w ∈ n.newlyReached start avoid cameFrom here
  · rw [get?_foldl_insert _ _ _ hw, Option.some.injEq] at hget
    subst hget
    rw [deepened_of_mem hw, deepened_of_reached h.reached_here]
    exact ⟨Or.inr h.reached_here, (mem_newlyReached.mp hw).1, rfl⟩
  · rw [get?_foldl_insert_of_not_mem here cameFrom hw] at hget
    obtain ⟨hreached, hleads, hdepth⟩ := h.above w before hget
    rw [deepened_of_reached (Or.inr (mem_of_get?_eq_some hget)), deepened_of_reached hreached]
    exact ⟨Or.inr hreached, hleads, hdepth⟩

/-- What is newly reached lies below all of the queue, and goes behind it. -/
theorem sorted_step : (queue ++ n.newlyReached start avoid cameFrom here).Pairwise fun w x =>
    n.deepened start avoid cameFrom here depth w
      ≤ n.deepened start avoid cameFrom here depth x := by
  refine List.pairwise_append.mpr ⟨?_, ?_, fun w hw x hx => ?_⟩
  · refine (List.pairwise_cons.mp h.sorted).2.imp_of_mem fun hw hx hle => ?_
    rwa [deepened_of_reached (h.reached_queue hw), deepened_of_reached (h.reached_queue hx)]
  · refine List.pairwise_of_forall_mem_list fun w hw x hx => ?_
    rw [deepened_of_mem hw, deepened_of_mem hx]
  · rw [deepened_of_reached (h.reached_queue hw), deepened_of_mem hx]
    exact h.depth_le_here (h.reached_queue hw)

theorem depth_le_queue_step {w q : Waypoint}
    (hw : w = start ∨ w ∈ n.reachedAfter start avoid cameFrom here)
    (hq : q ∈ queue ++ n.newlyReached start avoid cameFrom here) :
    n.deepened start avoid cameFrom here depth w
      ≤ n.deepened start avoid cameFrom here depth q + 1 := by
  rcases List.mem_append.mp hq with hq | hq
  · rw [deepened_of_reached (h.reached_queue hq)]
    rcases reachedAfter_iff.mp hw with hw | hw
    · rw [deepened_of_mem hw]
      exact Nat.succ_le_succ (h.depth_here_le hq)
    · rw [deepened_of_reached hw]
      exact h.depth_le_queue w hw q (List.mem_cons_of_mem _ hq)
  · rw [deepened_of_mem hq]
    rcases reachedAfter_iff.mp hw with hw | hw
    · rw [deepened_of_mem hw]
      exact Nat.le_succ _
    · rw [deepened_of_reached hw]
      exact (h.depth_le_here hw).trans (Nat.le_succ _)

theorem depth_le_leads_step {w x : Waypoint}
    (hw : w = start ∨ w ∈ n.reachedAfter start avoid cameFrom here)
    (hnot : w ∉ queue ++ n.newlyReached start avoid cameFrom here) (hx : n.Leads avoid w x) :
    n.deepened start avoid cameFrom here depth x
      ≤ n.deepened start avoid cameFrom here depth w + 1 := by
  rw [List.mem_append, not_or] at hnot
  have hw := (reachedAfter_iff.mp hw).resolve_left hnot.2
  rw [deepened_of_reached hw]
  by_cases hhere : w = here
  · -- From here, what had not been reached before has been reached now.
    subst hhere
    by_cases hnew : x ∈ n.newlyReached start avoid cameFrom w
    · exact (deepened_of_mem hnew).le
    · have hreached : x = start ∨ x ∈ cameFrom := by
        rw [mem_newlyReached] at hnew
        tauto
      rw [deepened_of_reached hreached]
      exact h.depth_le_here hreached
  · have hqueue : w ∉ here :: queue := by
      rw [List.mem_cons, not_or]
      exact ⟨hhere, hnot.1⟩
    rw [deepened_of_reached (h.explored w hw hqueue x hx)]
    exact h.depth_le_leads w hw hqueue x hx

theorem depth_le_size_step {w : Waypoint}
    (hw : w = start ∨ w ∈ n.reachedAfter start avoid cameFrom here) :
    n.deepened start avoid cameFrom here depth w
      ≤ (n.reachedAfter start avoid cameFrom here).size := by
  rw [size_reachedAfter]
  rcases reachedAfter_iff.mp hw with hw | hw
  · rw [deepened_of_mem hw]
    exact Nat.add_le_add (h.depth_le_size here h.reached_here) (List.length_pos_of_mem hw)
  · rw [deepened_of_reached hw]
    exact (h.depth_le_size w hw).trans (Nat.le_add_right _ _)

/-- **A round proceeds by layers.** -/
theorem step : n.Layered start avoid (queue ++ n.newlyReached start avoid cameFrom here)
    (n.reachedAfter start avoid cameFrom here) (n.deepened start avoid cameFrom here depth) where
  toExploring := h.toExploring.step
  start_not_mem := by
    rw [mem_foldl_insert, not_or]
    exact ⟨fun hmem => (mem_newlyReached.mp hmem).2.1 rfl, h.start_not_mem⟩
  depth_start := by rw [deepened_of_reached (Or.inl rfl), h.depth_start]
  queued := by
    intro w hw
    rw [reachedAfter_iff]
    exact (List.mem_append.mp hw).symm.imp_right h.reached_queue
  above := fun _ _ hget => h.above_step hget
  sorted := h.sorted_step
  depth_le_queue := fun _ hw _ hq => h.depth_le_queue_step hw hq
  depth_le_leads := fun _ hw hnot _ hx => h.depth_le_leads_step hw hnot hx
  depth_le_size := fun _ hw => h.depth_le_size_step hw

end Round

/-! ### The bounds are enough -/

/-- The way back is no longer than the layers are deep. -/
theorem retraces_retrace (h : n.Layered start avoid queue cameFrom depth) {fuel : ℕ} {w : Waypoint}
    (hfuel : depth w ≤ fuel) (rest : Route) :
    Retraces cameFrom w rest (retrace cameFrom fuel w rest) := by
  -- Each step back leads one layer up, and nothing leads back from the first layer.
  induction fuel generalizing w rest with
  | zero =>
    refine .stop w rest (Option.eq_none_iff_forall_ne_some.mpr fun before hbefore => ?_)
    have hdepth := (h.above w before hbefore).2.2
    omega
  | succ fuel ih =>
    unfold retrace
    cases hget : cameFrom.get? w with
    | none => exact .stop w rest hget
    | some before =>
      have hdepth := (h.above w before hget).2.2
      exact .back w before rest _ hget (ih (by omega) (w :: rest))

/-- **A search that has rounds enough left runs to its end.** -/
theorem searches_search (h : n.Layered start avoid queue cameFrom depth) {fuel : ℕ}
    (hfuel : queue.length + n.edgeCount ≤ fuel + cameFrom.size) :
    n.Searches start goal avoid queue cameFrom (search n start goal avoid fuel queue cameFrom) := by
  induction fuel generalizing queue cameFrom depth with
  | zero =>
    have hsize := h.size_le
    obtain rfl : queue = [] := List.length_eq_zero_iff.mp (by omega)
    exact .exhausted cameFrom
  | succ fuel ih =>
    cases queue with
    | nil => exact .exhausted cameFrom
    | cons here queue =>
      unfold search
      simp only
      split
      · rename_i hfound
        have hfound : goal ∈ n.newlyReached start avoid cameFrom here := by simpa using hfound
        refine .found here queue cameFrom _ hfound (h.step.retraces_retrace ?_ [])
        exact h.step.depth_le_size goal (reachedAfter_iff.mpr (Or.inl hfound))
      · rename_i hmiss
        have hmiss : goal ∉ n.newlyReached start avoid cameFrom here := by simpa using hmiss
        refine .next here queue cameFrom _ hmiss (ih h.step ?_)
        rw [size_reachedAfter, List.length_append]
        rw [List.length_cons] at hfuel
        omega

/-! ### The way back -/

/-- **The way back from a waypoint** begins at the start and descends layer by layer. -/
theorem of_retraces (h : n.Layered start avoid queue cameFrom depth) {w : Waypoint}
    {rest route : Route} (hback : Retraces cameFrom w rest route)
    (hw : w = start ∨ w ∈ cameFrom)
    (hrest : (w :: rest).IsChain fun a b => n.Leads avoid a b ∧ depth a < depth b) :
    route.head? = some start ∧ route.getLast? = (w :: rest).getLast?
      ∧ (route.IsChain fun a b => n.Leads avoid a b ∧ depth a < depth b)
      ∧ route.length = depth w + (w :: rest).length := by
  -- The chain grows at its front, one layer up at each step, and ends where nothing leads back.
  induction hback with
  | stop w rest hget =>
    have hstart : w = start := by
      refine hw.resolve_right fun hmem => ?_
      rw [TreeMap.mem_iff_isSome_getElem?, ← TreeMap.get?_eq_getElem?, hget] at hmem
      cases hmem
    subst hstart
    exact ⟨rfl, rfl, hrest, by rw [h.depth_start, Nat.zero_add]⟩
  | back w before rest route hget _ ih =>
    obtain ⟨hreached, hleads, hdepth⟩ := h.above w before hget
    have hlt : depth before < depth w := hdepth ▸ Nat.lt_succ_self _
    obtain ⟨hhead, hlast, hchain, hlength⟩ :=
      ih hreached (List.isChain_cons_cons.mpr ⟨⟨hleads, hlt⟩, hrest⟩)
    refine ⟨hhead, hlast.trans List.getLast?_cons_cons, hchain, ?_⟩
    rw [hlength, hdepth, List.length_cons, List.length_cons]
    omega

/-- What descends layer by layer repeats nothing. -/
theorem nodup_of_isChain {route : Route} (h : route.IsChain fun a b => depth a < depth b) :
    route.Nodup := by
  have hpairwise : (route.map depth).Pairwise (· < ·) :=
    List.isChain_iff_pairwise.mp ((List.isChain_map depth).mpr h)
  exact List.Nodup.of_map depth (hpairwise.imp fun hlt => ne_of_lt hlt)

/-- **The way back from the goal is a way**, with one waypoint for each layer. -/
theorem isWay_of_retraces (h : n.Layered start avoid queue cameFrom depth) {route : Route}
    (hback : Retraces cameFrom goal [] route) (hgoal : goal ∈ cameFrom) :
    n.IsWay avoid start goal route ∧ route.length = depth goal + 1 := by
  obtain ⟨hhead, hlast, hchain, hlength⟩ :=
    h.of_retraces hback (Or.inr hgoal) (List.isChain_singleton _)
  obtain ⟨hedges, hentered⟩ := isChain_leads_iff.mp (hchain.imp fun _ _ hstep => hstep.1)
  have hnodup := nodup_of_isChain (hchain.imp fun _ _ hstep => hstep.2)
  exact ⟨⟨hhead, hlast, hedges, hnodup, hentered⟩, hlength⟩

/-! ### No way is shorter -/

/-- **Where a walk ends** has been reached, or the walk passes a waypoint of the queue. -/
theorem reached_or_queued (h : n.Layered start avoid queue cameFrom depth) {w x : Waypoint}
    {rest : Route} {k : ℕ} (hwalk : (w :: rest).IsChain (n.Leads avoid))
    (hlast : (w :: rest).getLast? = some x)
    (hw : (w = start ∨ w ∈ cameFrom) ∧ depth w ≤ k ∨ ∃ q ∈ queue, depth q < k) :
    (x = start ∨ x ∈ cameFrom) ∧ depth x ≤ k + rest.length
      ∨ ∃ q ∈ queue, depth q < k + rest.length := by
  -- The bound moves down one layer with each step of the walk, until the walk is in the queue.
  induction rest generalizing w k with
  | nil =>
    obtain rfl : w = x := Option.some.inj hlast
    exact hw
  | cons y rest ih =>
    obtain ⟨hleads, hwalk⟩ := List.isChain_cons_cons.mp hwalk
    rw [List.getLast?_cons_cons] at hlast
    rw [List.length_cons, ← Nat.succ_add_eq_add_succ]
    refine ih hwalk hlast ?_
    rcases hw with ⟨hreached, hdepth⟩ | ⟨q, hq, hlt⟩
    · by_cases hqueued : w ∈ queue
      · exact Or.inr ⟨w, hqueued, Nat.lt_succ_of_le hdepth⟩
      · exact Or.inl ⟨h.explored w hreached hqueued y hleads,
          (h.depth_le_leads w hreached hqueued y hleads).trans (Nat.succ_le_succ hdepth)⟩
    · exact Or.inr ⟨q, hq, hlt.trans (Nat.lt_succ_self k)⟩

/-- As long as the goal has not been reached, a way to it passes the queue. -/
theorem exists_queued_of_isWay (h : n.Layered start avoid queue cameFrom depth)
    (hne : goal ≠ start) (hnew : goal ∉ cameFrom) {route : Route}
    (hway : n.IsWay avoid start goal route) : ∃ q ∈ queue, depth q + 1 < route.length := by
  obtain ⟨rest, rfl⟩ := List.head?_eq_some_iff.mp hway.head
  have hstart : depth start ≤ 0 := h.depth_start.le
  have hends := h.reached_or_queued hway.isChain hway.last (Or.inl ⟨Or.inl rfl, hstart⟩)
  rw [Nat.zero_add] at hends
  rcases hends with ⟨hreached, -⟩ | ⟨q, hq, hlt⟩
  · exact absurd hreached (not_or.mpr ⟨hne, hnew⟩)
  · exact ⟨q, hq, Nat.succ_lt_succ hlt⟩

/-- What lies below the first of the queue is as near as the goal can be. -/
theorem depth_add_two_le_of_isWay (h : n.Layered start avoid (here :: queue) cameFrom depth)
    (hne : goal ≠ start) (hnew : goal ∉ cameFrom) {route : Route}
    (hway : n.IsWay avoid start goal route) : depth here + 2 ≤ route.length := by
  obtain ⟨q, hq, hlt⟩ := h.exists_queued_of_isWay hne hnew hway
  have hfirst : depth here ≤ depth q := by
    rcases List.mem_cons.mp hq with rfl | hq
    · exact le_rfl
    · exact (List.pairwise_cons.mp h.sorted).1 q hq
  omega

end Layered

/-! ### The answer -/

/-- What a search between two different waypoints should answer. -/
def IsAnswer (n : Network α) (avoid : Waypoint → Bool) (start goal : Waypoint) :
    Option Route → Prop
  | none => ∀ route, ¬n.IsWay avoid start goal route
  | some route => n.IsWay avoid start goal route
    ∧ ∀ other, n.IsWay avoid start goal other → route.length ≤ other.length

/-- **A search that ends has the answer.** -/
theorem Searches.isAnswer {result : Option Route}
    (hrun : n.Searches start goal avoid queue cameFrom result)
    (h : n.Layered start avoid queue cameFrom depth) (hne : goal ≠ start)
    (hnew : goal ∉ cameFrom) : n.IsAnswer avoid start goal result := by
  -- A round changes the layers, so they are found anew for the rest of the run.
  induction hrun generalizing depth with
  | exhausted cameFrom =>
    intro route hway
    obtain ⟨q, hq, -⟩ := h.exists_queued_of_isWay hne hnew hway
    exact absurd hq List.not_mem_nil
  | found here queue cameFrom route hgoal hroute =>
    obtain ⟨hway, hlength⟩ := h.step.isWay_of_retraces hroute
      ((mem_foldl_insert _ _ _).mpr (Or.inl hgoal))
    refine ⟨hway, fun other hother => ?_⟩
    calc route.length = depth here + 1 + 1 := by
          rw [hlength, deepened_of_mem hgoal]
      _ ≤ other.length := h.depth_add_two_le_of_isWay hne hnew hother
  | next here queue cameFrom result hgoal _ ih =>
    refine ih h.step ?_
    rw [mem_foldl_insert, not_or]
    exact ⟨hgoal, hnew⟩

/-- The bounded search between two different waypoints has the answer. -/
theorem isAnswer_shortestRoute (hne : start ≠ goal) :
    n.IsAnswer avoid start goal (n.shortestRoute start goal avoid) := by
  have hlayered := Layered.of_start n start avoid
  rw [shortestRoute, if_neg hne]
  refine (hlayered.searches_search ?_).isAnswer hlayered (Ne.symm hne) TreeMap.not_mem_emptyc
  rw [List.length_singleton, Nat.add_comm]
  exact Nat.le_add_right _ _

/-- **What breadth-first routing from one waypoint to another is worth.** -/
structure RoutesBreadthFirst (n : Network α) (start goal : Waypoint) (avoid : Waypoint → Bool) :
    Prop where
  /-- A waypoint is its own route. -/
  self : start = goal → n.shortestRoute start goal avoid = some [start]
  /-- The search ends by itself, however many rounds it takes. -/
  terminates : start ≠ goal →
    n.Searches start goal avoid [start] {} (n.shortestRoute start goal avoid)
  /-- A route that is found is a way, and no way has fewer waypoints. -/
  shortest : start ≠ goal → ∀ route, n.shortestRoute start goal avoid = some route →
    n.IsWay avoid start goal route
      ∧ ∀ other, n.IsWay avoid start goal other → route.length ≤ other.length
  /-- Nothing is found exactly if there is no way. -/
  none_iff : start ≠ goal →
    (n.shortestRoute start goal avoid = none ↔ ¬∃ route, n.IsWay avoid start goal route)

/-- **Breadth-first routing is correct.** -/
theorem routesBreadthFirst (n : Network α) (start goal : Waypoint) (avoid : Waypoint → Bool) :
    n.RoutesBreadthFirst start goal avoid := by
  have hrun : start ≠ goal →
      n.Searches start goal avoid [start] {} (n.shortestRoute start goal avoid) := by
    intro hne
    rw [shortestRoute, if_neg hne]
    refine (Layered.of_start n start avoid).searches_search ?_
    rw [List.length_singleton, Nat.add_comm]
    exact Nat.le_add_right _ _
  have hanswer : start ≠ goal → n.IsAnswer avoid start goal (n.shortestRoute start goal avoid) :=
    fun hne => (hrun hne).isAnswer (Layered.of_start n start avoid) (Ne.symm hne)
      TreeMap.not_mem_emptyc
  refine ⟨fun heq => if_pos heq, hrun, fun hne route hroute => ?_, fun hne => ?_⟩
  · have h := hanswer hne
    rwa [hroute] at h
  · have h := hanswer hne
    constructor
    · rintro hnone ⟨route, hway⟩
      rw [hnone] at h
      exact h route hway
    · intro hnot
      cases hroute : n.shortestRoute start goal avoid with
      | none => rfl
      | some route =>
        rw [hroute] at h
        exact absurd ⟨route, h.1⟩ hnot

end Network

end AgvDispatch
