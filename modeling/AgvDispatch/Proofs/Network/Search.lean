import AgvDispatch.Network.Search
import Mathlib.Data.List.Perm.Subperm
import Mathlib.Logic.Relation
/-!
# Breadth-first routing finds a way

If the goal can be reached from the start over waypoints that may be entered, a search finds a route
to it (`Network.isSome_shortestRoute`).

A search misses nothing (`Network.Exploring`): whatever can be entered from a waypoint that has been
reached has been reached as well, unless the waypoint is still in the queue. So an empty queue means
that all that can be reached has been. It is empty in time because every round takes one waypoint
out of the queue, and a waypoint only gets into it over an edge that leads to it.
-/

namespace AgvDispatch.Network

open Std (TreeMap)

variable {α : Type}

/-! ### Edges -/

/-- The waypoints that edges lead to, one for each edge. -/
def edgeEnds (n : Network α) : List Waypoint :=
  n.links.toList.flatMap fun entry => entry.2.keys

theorem length_edgeEnds (n : Network α) : n.edgeEnds.length = n.edgeCount := by
  have hcount : ∀ (entries : List (Waypoint × TreeMap Waypoint (Edge α))) (count : ℕ),
      entries.foldl (fun count entry => count + entry.2.size) count
        = count + (entries.flatMap fun entry => entry.2.keys).length := by
    intro entries
    induction entries with
    | nil => exact fun count => rfl
    | cons entry entries ih =>
      intro count
      rw [List.foldl_cons, ih, List.flatMap_cons, List.length_append, TreeMap.length_keys,
        Nat.add_assoc]
  unfold edgeCount edgeEnds
  rw [TreeMap.foldl_eq_foldl_toList, hcount, Nat.zero_add]

theorem mem_edgeEnds {n : Network α} {w x : Waypoint} (h : x ∈ n.neighbours w) :
    x ∈ n.edgeEnds := by
  unfold neighbours at h
  cases hout : n.links.get? w with
  | none =>
    rw [hout] at h
    exact absurd h List.not_mem_nil
  | some out =>
    rw [hout] at h
    rw [TreeMap.get?_eq_getElem?] at hout
    exact List.mem_flatMap.mpr
      ⟨(w, out), TreeMap.mem_toList_iff_getElem?_eq_some.mpr hout, h⟩

theorem nodup_neighbours (n : Network α) (w : Waypoint) : (n.neighbours w).Nodup := by
  unfold neighbours
  cases n.links.get? w with
  | none => exact List.nodup_nil
  | some out => exact out.nodup_keys

theorem mem_neighbours_iff {n : Network α} {w x : Waypoint} :
    x ∈ n.neighbours w ↔ (n.edge? w x).isSome = true := by
  unfold neighbours edge?
  cases n.links.get? w with
  | none => simp
  | some out =>
    simp only [Option.map_some, Option.getD_some, Option.bind_some, TreeMap.mem_keys,
      TreeMap.get?_eq_getElem?]
    exact TreeMap.mem_iff_isSome_getElem?

/-- Whether an edge leads from a waypoint to one that may be entered. -/
def Leads (n : Network α) (avoid : Waypoint → Bool) (w x : Waypoint) : Prop :=
  x ∈ n.neighbours w ∧ avoid x = false

/-! ### Waypoints reached -/

section

variable (found : List Waypoint) (here : Waypoint) (cameFrom : TreeMap Waypoint Waypoint)

theorem mem_foldl_insert {w : Waypoint} :
    w ∈ found.foldl (fun reached w => reached.insert w here) cameFrom
      ↔ w ∈ found ∨ w ∈ cameFrom := by
  induction found generalizing cameFrom with
  | nil => simp
  | cons first found ih =>
    rw [List.foldl_cons, ih, TreeMap.mem_insert, Std.LawfulEqCmp.compare_eq_iff_eq, List.mem_cons,
      eq_comm, or_left_comm, or_assoc]

theorem size_foldl_insert (hnodup : found.Nodup) (hnew : ∀ w ∈ found, w ∉ cameFrom) :
    (found.foldl (fun reached w => reached.insert w here) cameFrom).size
      = cameFrom.size + found.length := by
  induction found generalizing cameFrom with
  | nil => rfl
  | cons first found ih =>
    rw [List.nodup_cons] at hnodup
    rw [List.forall_mem_cons] at hnew
    have hlater : ∀ w ∈ found, w ∉ cameFrom.insert first here := by
      intro w hw hmem
      rw [TreeMap.mem_insert, Std.LawfulEqCmp.compare_eq_iff_eq] at hmem
      rcases hmem with rfl | hmem
      · exact hnodup.1 hw
      · exact hnew.2 w hw hmem
    have hfirst : (cameFrom.insert first here).size = cameFrom.size + 1 := by
      rw [TreeMap.size_insert, if_neg]
      exact hnew.1
    rw [List.foldl_cons, ih _ hnodup.2 hlater, hfirst, List.length_cons]
    omega

theorem get?_foldl_insert {w : Waypoint} (hw : w ∈ found) :
    (found.foldl (fun reached w => reached.insert w here) cameFrom).get? w = some here := by
  have hkept : ∀ (later : List Waypoint) (reached : TreeMap Waypoint Waypoint),
      reached.get? w = some here →
      (later.foldl (fun reached w => reached.insert w here) reached).get? w = some here := by
    intro later
    induction later with
    | nil => exact fun _ h => h
    | cons first later ih =>
      intro reached h
      refine ih _ ?_
      rw [TreeMap.get?_eq_getElem?, TreeMap.getElem?_insert]
      split
      · rfl
      · exact h
  obtain ⟨before, after, rfl⟩ := List.append_of_mem hw
  rw [List.foldl_append, List.foldl_cons]
  refine hkept after _ ?_
  rw [TreeMap.get?_eq_getElem?, TreeMap.getElem?_insert_self]

end

variable {n : Network α} {start goal here : Waypoint} {avoid : Waypoint → Bool}
  {queue : List Waypoint} {cameFrom : TreeMap Waypoint Waypoint}

theorem mem_newlyReached {w : Waypoint} : w ∈ n.newlyReached start avoid cameFrom here
    ↔ n.Leads avoid here w ∧ w ≠ start ∧ w ∉ cameFrom := by
  unfold newlyReached Leads
  rw [← TreeMap.contains_iff_mem, List.mem_filter]
  simp only [Bool.not_eq_true', Bool.or_eq_false_iff, beq_eq_false_iff_ne, Bool.not_eq_true]
  tauto

/-! ### Exploring -/

/-- **Whether a search has missed nothing so far.** -/
structure Exploring (n : Network α) (start : Waypoint) (avoid : Waypoint → Bool)
    (queue : List Waypoint) (cameFrom : TreeMap Waypoint Waypoint) : Prop where
  /-- Whoever has been reached and is not in the queue has been looked around from. -/
  explored : ∀ w, w = start ∨ w ∈ cameFrom → w ∉ queue → ∀ x, n.Leads avoid w x →
    x = start ∨ x ∈ cameFrom
  /-- What has been reached has been reached over an edge. -/
  mem_edgeEnds : ∀ w ∈ cameFrom, w ∈ n.edgeEnds

namespace Exploring

theorem of_start (n : Network α) (start : Waypoint) (avoid : Waypoint → Bool) :
    n.Exploring start avoid [start] {} := by
  refine ⟨fun w hw hnot => ?_, fun w hw => absurd hw TreeMap.not_mem_emptyc⟩
  rcases hw with rfl | hw
  · exact absurd (List.mem_singleton_self w) hnot
  · exact absurd hw TreeMap.not_mem_emptyc

/-- No more waypoints are reached than there are edges. -/
theorem size_le (h : n.Exploring start avoid queue cameFrom) : cameFrom.size ≤ n.edgeCount := by
  have hsubset : cameFrom.keys ⊆ n.edgeEnds := fun w hw =>
    h.mem_edgeEnds w (TreeMap.mem_keys.mp hw)
  rw [← TreeMap.length_keys, ← length_edgeEnds]
  exact (cameFrom.nodup_keys.subperm hsubset).length_le

/-- **A round misses nothing.** -/
theorem step (h : n.Exploring start avoid (here :: queue) cameFrom) :
    n.Exploring start avoid (queue ++ n.newlyReached start avoid cameFrom here)
      ((n.newlyReached start avoid cameFrom here).foldl (fun reached w => reached.insert w here)
        cameFrom) := by
  refine ⟨fun w hw hnot x hx => ?_, fun w hw => ?_⟩
  · rw [List.mem_append, not_or] at hnot
    rw [mem_foldl_insert] at hw ⊢
    by_cases hseen : x = start ∨ x ∈ cameFrom
    · exact hseen.imp_right Or.inr
    · rw [not_or] at hseen
      refine Or.inr (Or.inl ?_)
      -- Only the waypoint of this round may lead to one that had not been reached.
      by_cases hhere : w = here
      · subst hhere
        exact mem_newlyReached.mpr ⟨hx, hseen⟩
      · have hreached : w = start ∨ w ∈ cameFrom := by
          rcases hw with hw | hw | hw
          · exact Or.inl hw
          · exact absurd hw hnot.2
          · exact Or.inr hw
        have hqueue : w ∉ here :: queue := by
          rw [List.mem_cons, not_or]
          exact ⟨hhere, hnot.1⟩
        rcases h.explored w hreached hqueue x hx with hstart | hmem
        · exact absurd hstart hseen.1
        · exact absurd hmem hseen.2
  · rw [mem_foldl_insert] at hw
    rcases hw with hw | hw
    · exact Network.mem_edgeEnds (mem_newlyReached.mp hw).1.1
    · exact h.mem_edgeEnds w hw

/-- Once the queue is empty all that can be reached has been. -/
theorem reached_of_queue_eq_nil (h : n.Exploring start avoid [] cameFrom) {w : Waypoint}
    (hreach : Relation.ReflTransGen (n.Leads avoid) start w) : w = start ∨ w ∈ cameFrom := by
  induction hreach with
  | refl => exact Or.inl rfl
  | tail _ hleads ih => exact h.explored _ ih List.not_mem_nil _ hleads

/-- **A search that has rounds enough left finds what can be reached.** -/
theorem isSome_search {fuel : ℕ} (h : n.Exploring start avoid queue cameFrom)
    (hreach : Relation.ReflTransGen (n.Leads avoid) start goal) (hne : goal ≠ start)
    (hnew : goal ∉ cameFrom) (hfuel : queue.length + n.edgeCount ≤ fuel + cameFrom.size) :
    (search n start goal avoid fuel queue cameFrom).isSome = true := by
  induction fuel generalizing queue cameFrom with
  | zero =>
    have hsize := h.size_le
    obtain rfl : queue = [] := List.length_eq_zero_iff.mp (by omega)
    exact absurd (h.reached_of_queue_eq_nil hreach) (not_or.mpr ⟨hne, hnew⟩)
  | succ fuel ih =>
    cases queue with
    | nil => exact absurd (h.reached_of_queue_eq_nil hreach) (not_or.mpr ⟨hne, hnew⟩)
    | cons here queue =>
      unfold search
      simp only
      split
      · rfl
      · rename_i hmiss
        have hmiss : goal ∉ n.newlyReached start avoid cameFrom here := by simpa using hmiss
        have hsize := size_foldl_insert (n.newlyReached start avoid cameFrom here) here cameFrom
          ((n.nodup_neighbours here).filter _) fun w hw => (mem_newlyReached.mp hw).2.2
        refine ih h.step ?_ ?_
        · rw [mem_foldl_insert, not_or]
          exact ⟨hmiss, hnew⟩
        · rw [hsize, List.length_append]
          rw [List.length_cons] at hfuel
          omega

end Exploring

/-- **What can be reached is found.** -/
theorem isSome_shortestRoute (h : Relation.ReflTransGen (n.Leads avoid) start goal) :
    (n.shortestRoute start goal avoid).isSome = true := by
  unfold shortestRoute
  split
  · rfl
  · rename_i hne
    refine (Exploring.of_start n start avoid).isSome_search h (Ne.symm hne)
      TreeMap.not_mem_emptyc ?_
    rw [List.length_singleton, Nat.add_comm]
    exact Nat.le_add_right _ _

end AgvDispatch.Network
