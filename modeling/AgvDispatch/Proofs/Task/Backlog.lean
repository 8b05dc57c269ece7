import AgvDispatch.Proofs.Vehicle.Registry
import AgvDispatch.Task.Backlog
import Mathlib.Algebra.BigOperators.Group.Finset.Basic
import Mathlib.Logic.Basic
/-!
# Queues of the backlog

What each operation of the backlog does to the queues. A queue is never touched by an operation on
the queue of another vehicle.

The size of the backlog is the sum of the lengths of its queues (`Backlog.size_eq_sum`). So it only
changes with the length of a queue, and by as much (`Backlog.size_add_length`).
-/

namespace AgvDispatch.Backlog

variable {α : Type}

@[simp] theorem queue_empty (id : String) : ({} : Backlog α).queue id = [] := by
  simp [queue]

theorem queue_setQueue (b : Backlog α) (id : String) (tasks : List (SubTask α)) (other : String) :
    (b.setQueue id tasks).queue other = if id = other then tasks else b.queue other := by
  unfold setQueue queue
  cases tasks with
  | nil =>
    simp only [List.isEmpty_nil, if_true, Std.TreeMap.get?_eq_getElem?, Std.TreeMap.getElem?_erase,
      Std.LawfulEqCmp.compare_eq_iff_eq]
    split <;> rfl
  | cons task tasks =>
    simp only [List.isEmpty_cons, Bool.false_eq_true, if_false, Std.TreeMap.get?_eq_getElem?,
      Std.TreeMap.getElem?_insert, Std.LawfulEqCmp.compare_eq_iff_eq]
    split <;> rfl

theorem queue_appendAll (b : Backlog α) (id : String) (tasks : List (SubTask α)) (other : String) :
    (b.appendAll id tasks).queue other
      = if id = other then b.queue other ++ tasks else b.queue other := by
  unfold appendAll
  rw [queue_setQueue]
  split
  · rename_i h
    rw [h]
  · rfl

theorem queue_push (b : Backlog α) (task : SubTask α) (other : String) : (b.push task).queue other
    = if task.vehicleId = other then b.queue other ++ [task] else b.queue other :=
  queue_appendAll b task.vehicleId [task] other

theorem queue_modifyHead (b : Backlog α) (id : String) (f : SubTask α → SubTask α)
    (other : String) : (b.modifyHead id f).queue other
      = if id = other then (b.queue other).modifyHead f else b.queue other := by
  unfold modifyHead
  split
  · rename_i h
    split
    · rename_i heq
      rw [← heq, h]
      rfl
    · rfl
  · rename_i head rest h
    rw [queue_setQueue]
    split
    · rename_i heq
      rw [← heq, h]
      rfl
    · rfl

theorem queue_modifyHead_self {b : Backlog α} {id : String} {task : SubTask α}
    {later : List (SubTask α)} (h : b.queue id = task :: later) (f : SubTask α → SubTask α) :
    (b.modifyHead id f).queue id = f task :: later := by
  rw [queue_modifyHead, if_pos rfl, h]
  rfl

theorem queue_removeHead (b : Backlog α) (id other : String) :
    (b.removeHead id).queue other = if id = other then (b.queue other).tail else b.queue other := by
  unfold removeHead
  rw [queue_setQueue]
  split
  · rename_i h
    rw [h]
  · rfl

theorem queue_remove (b : Backlog α) (id taskId other : String) :
    (b.remove id taskId).queue other
      = if id = other then (b.queue other).eraseP (·.id == taskId) else b.queue other := by
  unfold remove
  rw [queue_setQueue]
  split
  · rename_i h
    rw [h]
  · rfl

theorem queue_clear (b : Backlog α) (id other : String) :
    (b.clear id).queue other = if id = other then [] else b.queue other :=
  queue_setQueue b id [] other

theorem head?_eq_some_iff {b : Backlog α} {id : String} {task : SubTask α} :
    b.head? id = some task ↔ ∃ rest, b.queue id = task :: rest := by
  unfold head?
  constructor
  · intro h
    obtain ⟨rest, hrest⟩ := List.head?_eq_some_iff.mp h
    exact ⟨rest, hrest⟩
  · rintro ⟨rest, h⟩
    rw [h]
    rfl

theorem head?_push (b : Backlog α) (task : SubTask α) (other : String) : (b.push task).head? other
    = if task.vehicleId = other then (b.head? other).or (some task) else b.head? other := by
  unfold head?
  rw [queue_push]
  split
  · rw [List.head?_append]
    rfl
  · rfl

theorem head?_modifyHead (b : Backlog α) (id : String) (f : SubTask α → SubTask α)
    (other : String) : (b.modifyHead id f).head? other
      = if id = other then (b.head? other).map f else b.head? other := by
  unfold head?
  rw [queue_modifyHead]
  split
  · exact List.head?_modifyHead
  · rfl

theorem head?_removeHead (b : Backlog α) (id other : String) : (b.removeHead id).head? other
    = if id = other then (b.queue other).tail.head? else b.head? other := by
  unfold head?
  rw [queue_removeHead]
  split <;> rfl

/-! ### The size -/

theorem mem_keys_of_queue_ne_nil {b : Backlog α} {id : String} (h : b.queue id ≠ []) :
    id ∈ b.queues.keys := by
  rw [Std.TreeMap.mem_keys]
  by_contra hnot
  apply h
  rw [queue, Std.TreeMap.get?_eq_getElem?, Std.TreeMap.getElem?_eq_none hnot, Option.getD_none]

/-- **The size is the sum of the lengths of the queues**, taken over all vehicles that have one. -/
theorem size_eq_sum {b : Backlog α} (ids : Finset String) (h : ∀ id, b.queue id ≠ [] → id ∈ ids) :
    b.size = ∑ id ∈ ids, (b.queue id).length := by
  have hkeys : b.size = ∑ id ∈ b.queues.keys.toFinset, (b.queue id).length := by
    rw [List.sum_toFinset _ b.queues.nodup_keys]
    unfold size
    rw [values_eq_map_toList, List.length_flatten, List.map_map,
      ← Std.TreeMap.map_fst_toList_eq_keys, List.map_map]
    refine congrArg List.sum (List.map_congr_left fun entry hentry => ?_)
    have hget := Std.TreeMap.mem_toList_iff_getElem?_eq_some.mp hentry
    simp only [Function.comp_apply, queue, Std.TreeMap.get?_eq_getElem?, hget, Option.getD_some]
  -- Whoever is left out of one of the sums has an empty queue.
  have hids : ∀ id ∉ ids, (b.queue id).length = 0 := fun id hid =>
    List.length_eq_zero_iff.mpr (not_not.mp (mt (h id) hid))
  have hrest : ∀ id ∉ b.queues.keys.toFinset, (b.queue id).length = 0 := fun id hid =>
    List.length_eq_zero_iff.mpr
      (not_not.mp (mt (fun hne => List.mem_toFinset.mpr (mem_keys_of_queue_ne_nil hne)) hid))
  calc b.size = ∑ id ∈ b.queues.keys.toFinset, (b.queue id).length := hkeys
    _ = ∑ id ∈ ids ∪ b.queues.keys.toFinset, (b.queue id).length :=
      Finset.sum_subset Finset.subset_union_right fun id _ => hrest id
    _ = ∑ id ∈ ids, (b.queue id).length :=
      (Finset.sum_subset Finset.subset_union_left fun id _ => hids id).symm

/-- There are vehicles enough to take the sizes of two backlogs over. -/
theorem exists_sizes_eq_sum (b b' : Backlog α) (id : String) : ∃ ids : Finset String, id ∈ ids
    ∧ b.size = ∑ id ∈ ids, (b.queue id).length ∧ b'.size = ∑ id ∈ ids, (b'.queue id).length := by
  refine ⟨insert id (b.queues.keys.toFinset ∪ b'.queues.keys.toFinset),
    Finset.mem_insert_self _ _, size_eq_sum _ fun other hne => ?_,
    size_eq_sum _ fun other hne => ?_⟩
  · exact Finset.mem_insert_of_mem
      (Finset.mem_union_left _ (List.mem_toFinset.mpr (mem_keys_of_queue_ne_nil hne)))
  · exact Finset.mem_insert_of_mem
      (Finset.mem_union_right _ (List.mem_toFinset.mpr (mem_keys_of_queue_ne_nil hne)))

/-- Backlogs with queues of the same lengths are of the same size. -/
theorem size_congr {b b' : Backlog α} (h : ∀ id, (b'.queue id).length = (b.queue id).length) :
    b'.size = b.size := by
  obtain ⟨ids, -, hb, hb'⟩ := exists_sizes_eq_sum b b' ""
  rw [hb, hb']
  exact Finset.sum_congr rfl fun id _ => h id

/-- **The size changes with the length of a queue**, if no other queue changes. -/
theorem size_add_length {b b' : Backlog α} (id : String)
    (h : ∀ other, other ≠ id → b'.queue other = b.queue other) :
    b'.size + (b.queue id).length = b.size + (b'.queue id).length := by
  obtain ⟨ids, hid, hb, hb'⟩ := exists_sizes_eq_sum b b' id
  have hothers : ∑ other ∈ ids.erase id, (b'.queue other).length
      = ∑ other ∈ ids.erase id, (b.queue other).length :=
    Finset.sum_congr rfl fun other hother => by rw [h other (Finset.ne_of_mem_erase hother)]
  have hsum := Finset.add_sum_erase ids (fun other => (b.queue other).length) hid
  have hsum' := Finset.add_sum_erase ids (fun other => (b'.queue other).length) hid
  omega

theorem size_push (b : Backlog α) (task : SubTask α) : (b.push task).size = b.size + 1 := by
  have hothers : ∀ other, other ≠ task.vehicleId → (b.push task).queue other = b.queue other :=
    fun other hne => by rw [queue_push, if_neg hne.symm]
  have hadd := size_add_length task.vehicleId hothers
  rw [queue_push, if_pos rfl, List.length_append, List.length_singleton] at hadd
  omega

theorem size_removeHead {b : Backlog α} {id : String} {task : SubTask α}
    (h : b.head? id = some task) : (b.removeHead id).size + 1 = b.size := by
  obtain ⟨later, hqueue⟩ := head?_eq_some_iff.mp h
  have hothers : ∀ other, other ≠ id → (b.removeHead id).queue other = b.queue other :=
    fun other hne => by rw [queue_removeHead, if_neg hne.symm]
  have hadd := size_add_length id hothers
  rw [queue_removeHead, if_pos rfl, hqueue, List.length_cons, List.tail_cons] at hadd
  omega

@[simp] theorem size_modifyHead (b : Backlog α) (id : String) (f : SubTask α → SubTask α) :
    (b.modifyHead id f).size = b.size := by
  refine size_congr fun other => ?_
  rw [queue_modifyHead]
  split
  · rw [List.length_modifyHead]
  · rfl

theorem size_empty : ({} : Backlog α).size = 0 := by
  rw [size_eq_sum ∅ fun id hne => absurd (queue_empty id) hne, Finset.sum_empty]

end AgvDispatch.Backlog
