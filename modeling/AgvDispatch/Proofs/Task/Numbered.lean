import AgvDispatch.Proofs.ListParts
import AgvDispatch.Proofs.Task.Backlog
/-!
# The backlog as a table of numbered queues

A run of the backlog is any sequence of the calls that change it (`BacklogEvent`), on any vehicles.
Beside it runs a plain table: a function from vehicles to lists, which never drops a list and knows
no clean-up (`QueueTable`). The table numbers the sub-tasks in the order in which they are put, so
that two sub-tasks that look alike stay apart, and files what each call hands back.

The backlog is the table with the numbers forgotten, whatever the calls
(`Backlog.isLosslessAfter_run`). What is to be said about the fate of a sub-task is said of its
number:

* the numbers in the queues and in what was handed back are those of the sub-tasks put, each once;
* the numbers in a queue ascend, so that a queue is first in, first out;
* a sub-task is never found at another vehicle than the one it was put for, and keeps whatever the
  changes made to heads let it keep.

A run starts from the empty backlog.
-/

namespace AgvDispatch

variable {α : Type}

/-- A call that changes the backlog: one sub-task or several are lined up, the head of a queue is
changed in place, or a queue gives up its head, its first sub-task with an id or all of them. -/
inductive BacklogEvent (α : Type) where
  | push (task : SubTask α)
  | appendAll (vehicleId : String) (tasks : List (SubTask α))
  | modifyHead (vehicleId : String) (change : SubTask α → SubTask α)
  | removeHead (vehicleId : String)
  | remove (vehicleId taskId : String)
  | clear (vehicleId : String)

/-- A sub-task with the number under which it was put. -/
structure Numbered (α : Type) where
  number : ℕ
  task : SubTask α

namespace BacklogEvent

/-- The vehicle whose queue a call is for. -/
def owner : BacklogEvent α → String
  | push task => task.vehicleId
  | appendAll vehicleId _ | modifyHead vehicleId _ | removeHead vehicleId | remove vehicleId _
  | clear vehicleId => vehicleId

/-- The sub-tasks that a call lines up. -/
def puts : BacklogEvent α → List (SubTask α)
  | push task => [task]
  | appendAll _ tasks => tasks
  | modifyHead .. | removeHead _ | remove .. | clear _ => []

/-- What a call takes out of the queue of its vehicle. -/
def takes (event : BacklogEvent α) (queue : List (Numbered α)) : List (Numbered α) :=
  match event with
  | push _ | appendAll .. | modifyHead .. => []
  | removeHead _ => queue.head?.toList
  | remove _ taskId => (queue.find? (·.task.id == taskId)).toList
  | clear _ => queue

/-- What a call leaves of the queue of its vehicle. -/
def leaves (event : BacklogEvent α) (queue : List (Numbered α)) : List (Numbered α) :=
  match event with
  | push _ | appendAll .. => queue
  | modifyHead _ change => queue.modifyHead fun entry => { entry with task := change entry.task }
  | removeHead _ => queue.tail
  | remove _ taskId => queue.eraseP (·.task.id == taskId)
  | clear _ => []

/-- Whether the change that a call makes to a head, if any, keeps something of every sub-task. -/
def Keeps {κ : Type} (key : SubTask α → κ) : BacklogEvent α → Prop
  | modifyHead _ change => ∀ task, key (change task) = key task
  | push _ | appendAll .. | removeHead _ | remove .. | clear _ => True

end BacklogEvent

namespace Backlog

/-- The backlog after a call. -/
def step (b : Backlog α) : BacklogEvent α → Backlog α
  | .push task => b.push task
  | .appendAll vehicleId tasks => b.appendAll vehicleId tasks
  | .modifyHead vehicleId change => b.modifyHead vehicleId change
  | .removeHead vehicleId => b.removeHead vehicleId
  | .remove vehicleId taskId => b.remove vehicleId taskId
  | .clear vehicleId => b.clear vehicleId

/-- The backlog after a sequence of calls. -/
def run (b : Backlog α) (events : List (BacklogEvent α)) : Backlog α := events.foldl step b

/-- The sub-tasks that a call hands back. -/
def handsBack (b : Backlog α) : BacklogEvent α → List (SubTask α)
  | .push _ | .appendAll .. | .modifyHead .. => []
  | .removeHead vehicleId => (b.head? vehicleId).toList
  | .remove vehicleId taskId => (b.find? vehicleId taskId).toList
  | .clear vehicleId => b.queue vehicleId

/-- The vehicle of each call of a sequence, with the sub-tasks that the call hands back. -/
def handedBack (b : Backlog α) : List (BacklogEvent α) → List (String × List (SubTask α))
  | [] => []
  | event :: later => (event.owner, b.handsBack event) :: (b.step event).handedBack later

end Backlog

/-- A queue of numbered sub-tasks for every vehicle. -/
structure QueueTable (α : Type) where
  /-- The queues, most of them empty. -/
  queue : String → List (Numbered α) := fun _ => []
  /-- The sub-tasks put so far with their vehicles, in the order of their numbers. -/
  put : List (String × SubTask α) := []
  /-- The vehicle of each call so far, with what the call handed back. -/
  handedBack : List (String × List (Numbered α)) := []

namespace QueueTable

/-- Sub-tasks with the numbers that come next. -/
def numbered (t : QueueTable α) (tasks : List (SubTask α)) : List (Numbered α) :=
  (tasks.zipIdx t.put.length).map fun (task, number) => ⟨number, task⟩

/-- The table after a call. Only the queue of the vehicle that the call is for is replaced. -/
def step (t : QueueTable α) (event : BacklogEvent α) : QueueTable α where
  queue := Function.update t.queue event.owner
    (event.leaves (t.queue event.owner) ++ t.numbered event.puts)
  put := t.put ++ event.puts.map (event.owner, ·)
  handedBack := t.handedBack ++ [(event.owner, event.takes (t.queue event.owner))]

/-- The table after a sequence of calls. -/
def run (t : QueueTable α) (events : List (BacklogEvent α)) : QueueTable α := events.foldl step t

/-- What the queues of some vehicles hold, and all that was handed back. -/
def everywhere (t : QueueTable α) (ids : List String) : List (Numbered α) :=
  ids.flatMap t.queue ++ t.handedBack.flatMap Prod.snd

/-- Whether a sub-task was put for a vehicle under its number, as one with the same key. -/
def Records {κ : Type} (t : QueueTable α) (key : SubTask α → κ) (id : String)
    (entry : Numbered α) : Prop :=
  ∃ task, t.put[entry.number]? = some (id, task) ∧ key entry.task = key task

end QueueTable

/-! ### The backlog is the table with the numbers forgotten -/

/-- Whether the queues of a backlog are those of a table. -/
def Backlog.Shows (b : Backlog α) (t : QueueTable α) : Prop :=
  ∀ id, b.queue id = (t.queue id).map Numbered.task

namespace QueueTable

theorem map_task_numbered (t : QueueTable α) (tasks : List (SubTask α)) :
    (t.numbered tasks).map Numbered.task = tasks := by
  unfold numbered
  rw [List.map_map]
  exact List.zipIdx_map_fst _ _

theorem map_number_numbered (t : QueueTable α) (tasks : List (SubTask α)) :
    (t.numbered tasks).map Numbered.number = List.range' t.put.length tasks.length := by
  unfold numbered
  rw [List.map_map]
  exact List.zipIdx_map_snd _ _

theorem queue_step (t : QueueTable α) (event : BacklogEvent α) (id : String) :
    (t.step event).queue id = if event.owner = id
      then event.leaves (t.queue id) ++ t.numbered event.puts else t.queue id := by
  simp only [step, Function.update_apply, eq_comm (a := id)]
  split
  · rename_i h
    rw [h]
  · rfl

end QueueTable

namespace Backlog

/-- A call does to the queue of its vehicle what it does to the numbered one, and touches no other
queue. -/
theorem queue_step (b : Backlog α) (event : BacklogEvent α) {queue : List (Numbered α)}
    (id : String) (h : b.queue id = queue.map Numbered.task) : (b.step event).queue id
      = if event.owner = id then (event.leaves queue).map Numbered.task ++ event.puts
        else b.queue id := by
  cases event with
  | push task =>
    simp only [step, queue_push, BacklogEvent.owner, BacklogEvent.leaves, BacklogEvent.puts, h]
  | appendAll vehicleId tasks =>
    simp only [step, queue_appendAll, BacklogEvent.owner, BacklogEvent.leaves, BacklogEvent.puts, h]
  | modifyHead vehicleId change =>
    simp only [step, queue_modifyHead, BacklogEvent.owner, BacklogEvent.leaves, BacklogEvent.puts,
      h, List.append_nil]
    cases queue <;> rfl
  | removeHead vehicleId =>
    simp only [step, queue_removeHead, BacklogEvent.owner, BacklogEvent.leaves, BacklogEvent.puts,
      h, List.append_nil, List.map_tail]
  | remove vehicleId taskId =>
    simp only [step, queue_remove, BacklogEvent.owner, BacklogEvent.leaves, BacklogEvent.puts, h,
      List.append_nil, List.eraseP_map]
    rfl
  | clear vehicleId =>
    simp only [step, queue_clear, BacklogEvent.owner, BacklogEvent.leaves, BacklogEvent.puts,
      List.append_nil, List.map_nil]

theorem handsBack_eq (b : Backlog α) (event : BacklogEvent α) {queue : List (Numbered α)}
    (h : b.queue event.owner = queue.map Numbered.task) :
    b.handsBack event = (event.takes queue).map Numbered.task := by
  cases event with
  | push task => rfl
  | appendAll vehicleId tasks => rfl
  | modifyHead vehicleId change => rfl
  | removeHead vehicleId =>
    change (b.queue vehicleId).head?.toList = _
    rw [show b.queue vehicleId = queue.map Numbered.task from h, List.head?_map]
    cases queue <;> rfl
  | remove vehicleId taskId =>
    change ((b.queue vehicleId).find? _).toList = _
    rw [show b.queue vehicleId = queue.map Numbered.task from h, List.find?_map]
    exact Option.toList_map
  | clear vehicleId => exact h

namespace Shows

variable {b : Backlog α} {t : QueueTable α}

theorem step (h : b.Shows t) (event : BacklogEvent α) : (b.step event).Shows (t.step event) := by
  intro id
  rw [queue_step b event id (h id), QueueTable.queue_step]
  split
  · rw [List.map_append, t.map_task_numbered]
  · exact h id

theorem run (h : b.Shows t) (events : List (BacklogEvent α)) :
    (b.run events).Shows (t.run events) := by
  induction events generalizing b t with
  | nil => exact h
  | cons event later ih => exact ih (h.step event)

theorem handedBack_run (h : b.Shows t) (events : List (BacklogEvent α)) :
    (t.run events).handedBack.map (Prod.map id (List.map Numbered.task))
      = t.handedBack.map (Prod.map id (List.map Numbered.task)) ++ b.handedBack events := by
  induction events generalizing b t with
  | nil => exact (List.append_nil _).symm
  | cons event later ih =>
    have hhead : (event.owner, b.handsBack event)
        = Prod.map id (List.map Numbered.task) (event.owner, event.takes (t.queue event.owner)) :=
      Prod.ext rfl (handsBack_eq b event (h event.owner))
    calc ((t.step event).run later).handedBack.map (Prod.map id (List.map Numbered.task))
        = (t.step event).handedBack.map (Prod.map id (List.map Numbered.task))
          ++ (b.step event).handedBack later := ih (h.step event)
      _ = t.handedBack.map (Prod.map id (List.map Numbered.task))
          ++ b.handedBack (event :: later) := by
        simp only [QueueTable.step, List.map_append, List.map_singleton, List.append_assoc,
          handedBack, hhead, List.singleton_append]

end Shows

end Backlog

/-! ### Where the numbers are -/

namespace BacklogEvent

/-- Nothing of a queue is lost or doubled by a call. -/
theorem map_number_leaves_append_takes (event : BacklogEvent α) (queue : List (Numbered α)) :
    ((event.leaves queue ++ event.takes queue).map Numbered.number).Perm
      (queue.map Numbered.number) := by
  cases event with
  | push task => simp only [leaves, takes, List.append_nil, List.Perm.refl]
  | appendAll vehicleId tasks => simp only [leaves, takes, List.append_nil, List.Perm.refl]
  | modifyHead vehicleId change =>
    rw [takes, List.append_nil]
    cases queue <;> exact List.Perm.refl _
  | removeHead vehicleId =>
    cases queue with
    | nil => exact List.Perm.refl _
    | cons head later => exact (List.perm_append_singleton head later).map _
  | remove vehicleId taskId => exact (eraseP_append_find?_perm _ queue).map _
  | clear vehicleId => exact List.Perm.refl _

theorem map_number_leaves_sublist (event : BacklogEvent α) (queue : List (Numbered α)) :
    ((event.leaves queue).map Numbered.number).Sublist (queue.map Numbered.number) := by
  cases event with
  | push task => exact List.Sublist.refl _
  | appendAll vehicleId tasks => exact List.Sublist.refl _
  | modifyHead vehicleId change => cases queue <;> exact List.Sublist.refl _
  | removeHead vehicleId => exact (List.tail_sublist queue).map _
  | remove vehicleId taskId => exact List.eraseP_sublist.map _
  | clear vehicleId => exact List.nil_sublist _

/-- What a call leaves was in the queue before, under the same number and with the same key. -/
theorem exists_of_mem_leaves {κ : Type} {key : SubTask α → κ} {event : BacklogEvent α}
    (hkeeps : event.Keeps key) {queue : List (Numbered α)} {entry : Numbered α}
    (h : entry ∈ event.leaves queue) :
    ∃ old ∈ queue, old.number = entry.number ∧ key old.task = key entry.task := by
  cases event with
  | push task => exact ⟨entry, h, rfl, rfl⟩
  | appendAll vehicleId tasks => exact ⟨entry, h, rfl, rfl⟩
  | modifyHead vehicleId change =>
    cases queue with
    | nil => exact absurd h List.not_mem_nil
    | cons head later =>
      obtain rfl | hlater := List.mem_cons.mp h
      · exact ⟨head, List.mem_cons_self, rfl, (hkeeps head.task).symm⟩
      · exact ⟨entry, List.mem_cons_of_mem _ hlater, rfl, rfl⟩
  | removeHead vehicleId => exact ⟨entry, List.mem_of_mem_tail h, rfl, rfl⟩
  | remove vehicleId taskId => exact ⟨entry, List.mem_of_mem_eraseP h, rfl, rfl⟩
  | clear vehicleId => exact absurd h List.not_mem_nil

theorem mem_of_mem_takes {event : BacklogEvent α} {queue : List (Numbered α)}
    {entry : Numbered α} (h : entry ∈ event.takes queue) : entry ∈ queue := by
  cases event with
  | push task => exact absurd h List.not_mem_nil
  | appendAll vehicleId tasks => exact absurd h List.not_mem_nil
  | modifyHead vehicleId change => exact absurd h List.not_mem_nil
  | removeHead vehicleId => exact List.mem_of_mem_head? (Option.mem_toList.mp h)
  | remove vehicleId taskId => exact List.mem_of_find?_eq_some (Option.mem_toList.mp h)
  | clear vehicleId => exact h

end BacklogEvent

namespace QueueTable

variable {t : QueueTable α}

@[simp] theorem length_put_step (t : QueueTable α) (event : BacklogEvent α) :
    (t.step event).put.length = t.put.length + event.puts.length := by
  rw [step, List.length_append, List.length_map]

/-- **A call moves numbers and issues the next ones**: among some vehicles with the one that the
call is for, and all that was handed back. -/
theorem everywhere_step (t : QueueTable α) (event : BacklogEvent α) {ids : List String}
    (hnodup : ids.Nodup) (hmem : event.owner ∈ ids) :
    (((t.step event).everywhere ids).map Numbered.number).Perm
      ((t.everywhere ids).map Numbered.number
        ++ List.range' t.put.length event.puts.length) := by
  have hothers : ∀ id, id ≠ event.owner → (t.step event).queue id = t.queue id :=
    fun id hne => by rw [queue_step, if_neg hne.symm]
  obtain ⟨before, after, hold, hnew⟩ := exists_flatMap_eq_append hnodup hmem hothers
  have hqueue : (t.step event).queue event.owner
      = event.leaves (t.queue event.owner) ++ t.numbered event.puts := by
    rw [queue_step, if_pos rfl]
  have htaken : (t.step event).handedBack.flatMap Prod.snd
      = t.handedBack.flatMap Prod.snd ++ event.takes (t.queue event.owner) := by
    rw [step, List.flatMap_append, List.flatMap_singleton]
  -- Both sides are compared number by number.
  rw [List.perm_iff_count]
  intro number
  have hsplit := (event.map_number_leaves_append_takes (t.queue event.owner)).count_eq number
  have hissued := congrArg (List.count number) (t.map_number_numbered event.puts)
  simp only [everywhere, hold, hnew, hqueue, htaken, List.map_append,
    List.count_append] at hsplit hissued ⊢
  omega

/-- **Every number that was issued is in exactly one place**, in a queue or among what was handed
back. -/
theorem everywhere_run {ids : List String} (hnodup : ids.Nodup) (events : List (BacklogEvent α))
    (hids : ∀ event ∈ events, event.owner ∈ ids)
    (h : ((t.everywhere ids).map Numbered.number).Perm (List.range t.put.length)) :
    (((t.run events).everywhere ids).map Numbered.number).Perm
      (List.range (t.run events).put.length) := by
  induction events generalizing t with
  | nil => exact h
  | cons event later ih =>
    refine ih (fun e he => hids e (List.mem_cons_of_mem _ he)) ?_
    have hstep := t.everywhere_step event hnodup (hids event List.mem_cons_self)
    refine hstep.trans ((h.append_right _).trans ?_)
    rw [length_put_step, List.range_eq_range', List.range_eq_range', ← List.range'_append_1,
      Nat.zero_add]

theorem put_run (t : QueueTable α) (events : List (BacklogEvent α)) : (t.run events).put
    = t.put ++ events.flatMap fun event => event.puts.map (event.owner, ·) := by
  induction events generalizing t with
  | nil => exact (List.append_nil _).symm
  | cons event later ih =>
    change ((t.step event).run later).put = _
    rw [ih, List.flatMap_cons, ← List.append_assoc]
    rfl

theorem everywhere_empty (ids : List String) : ({} : QueueTable α).everywhere ids = [] :=
  List.append_eq_nil_iff.mpr ⟨List.flatMap_eq_nil_iff.mpr fun _ _ => rfl, rfl⟩

/-- Whether the numbers in every queue ascend, and have all been issued. -/
def Ascends (t : QueueTable α) : Prop :=
  ∀ id, ((t.queue id).map Numbered.number).Pairwise (· < ·)
    ∧ ∀ number ∈ (t.queue id).map Numbered.number, number < t.put.length

theorem ascends_empty : ({} : QueueTable α).Ascends := fun _ =>
  ⟨List.Pairwise.nil, fun _ h => absurd h List.not_mem_nil⟩

theorem Ascends.step (h : t.Ascends) (event : BacklogEvent α) : (t.step event).Ascends := by
  intro id
  obtain ⟨hpairwise, hissued⟩ := h id
  rw [length_put_step, queue_step]
  split
  · have hsub := event.map_number_leaves_sublist (t.queue id)
    rw [List.map_append, map_number_numbered]
    refine ⟨List.pairwise_append.mpr ⟨hpairwise.sublist hsub, List.pairwise_lt_range', ?_⟩, ?_⟩
    -- The next numbers are above all that were issued before.
    · intro old hold new hnew
      exact (hissued old (hsub.subset hold)).trans_le (List.mem_range'_1.mp hnew).1
    · intro number hnumber
      obtain hold | hnew := List.mem_append.mp hnumber
      · exact Nat.lt_add_right _ (hissued number (hsub.subset hold))
      · exact (List.mem_range'_1.mp hnew).2
  · exact ⟨hpairwise, fun number hnumber => Nat.lt_add_right _ (hissued number hnumber)⟩

theorem Ascends.run (h : t.Ascends) (events : List (BacklogEvent α)) : (t.run events).Ascends := by
  induction events generalizing t with
  | nil => exact h
  | cons event later ih => exact ih (h.step event)

/-! ### Whose the numbers are -/

variable {κ : Type} {key : SubTask α → κ}

theorem Records.step {id : String} {entry : Numbered α} (h : t.Records key id entry)
    (event : BacklogEvent α) : (t.step event).Records key id entry := by
  obtain ⟨task, hput, hkey⟩ := h
  refine ⟨task, ?_, hkey⟩
  have hlt := (List.getElem?_eq_some_iff.mp hput).1
  rw [QueueTable.step, List.getElem?_append_left hlt, hput]

theorem records_numbered (t : QueueTable α) (key : SubTask α → κ) (event : BacklogEvent α)
    {entry : Numbered α} (h : entry ∈ t.numbered event.puts) :
    (t.step event).Records key event.owner entry := by
  obtain ⟨⟨task, number⟩, hmem, rfl⟩ := List.mem_map.mp h
  obtain ⟨hle, hget⟩ := List.mk_mem_zipIdx_iff_le_and_getElem?_sub.mp hmem
  refine ⟨task, ?_, rfl⟩
  rw [QueueTable.step, List.getElem?_append_right hle, List.getElem?_map, hget]
  rfl

/-- Whether all sub-tasks, queued or handed back, were put for their vehicles and have kept what
the changes keep. -/
structure Tracks (t : QueueTable α) (key : SubTask α → κ) : Prop where
  queued : ∀ id, ∀ entry ∈ t.queue id, t.Records key id entry
  handedBack : ∀ call ∈ t.handedBack, ∀ entry ∈ call.2, t.Records key call.1 entry

theorem tracks_empty : ({} : QueueTable α).Tracks key where
  queued := fun _ _ h => absurd h List.not_mem_nil
  handedBack := fun _ h => absurd h List.not_mem_nil

theorem Tracks.step (h : t.Tracks key) {event : BacklogEvent α} (hkeeps : event.Keeps key) :
    (t.step event).Tracks key where
  queued := by
    intro id entry hentry
    rw [queue_step] at hentry
    split at hentry
    · rename_i howner
      obtain hold | hnew := List.mem_append.mp hentry
      · obtain ⟨old, hmem, hnumber, hkey⟩ := BacklogEvent.exists_of_mem_leaves hkeeps hold
        obtain ⟨task, hput, htask⟩ := (h.queued id old hmem).step event
        exact ⟨task, hnumber ▸ hput, hkey.symm.trans htask⟩
      -- A sub-task that is new was put for the owner of the call.
      · exact howner ▸ t.records_numbered key event hnew
    · exact (h.queued id entry hentry).step event
  handedBack := by
    intro call hcall entry hentry
    obtain hold | hnew := List.mem_append.mp hcall
    · exact (h.handedBack call hold entry hentry).step event
    · obtain rfl := List.mem_singleton.mp hnew
      exact (h.queued _ entry (BacklogEvent.mem_of_mem_takes hentry)).step event

theorem Tracks.run (h : t.Tracks key) {events : List (BacklogEvent α)}
    (hkeeps : ∀ event ∈ events, event.Keeps key) : (t.run events).Tracks key := by
  induction events generalizing t with
  | nil => exact h
  | cons event later ih =>
    exact ih (h.step (hkeeps event List.mem_cons_self))
      fun e he => hkeeps e (List.mem_cons_of_mem _ he)

end QueueTable

/-! ### No queue is kept empty -/

namespace Backlog

/-- Whether no vehicle has an empty queue. -/
def Tidy (b : Backlog α) : Prop := ∀ id queue, b.queues.get? id = some queue → queue ≠ []

variable {b : Backlog α}

theorem Tidy.setQueue (h : b.Tidy) (id : String) (tasks : List (SubTask α)) :
    (b.setQueue id tasks).Tidy := by
  intro other queue hget
  unfold Backlog.setQueue at hget
  split at hget
  · rw [Std.TreeMap.get?_eq_getElem?, Std.TreeMap.getElem?_erase] at hget
    split at hget
    · exact absurd hget (by simp)
    · exact h other queue hget
  · rename_i hne
    rw [Std.TreeMap.get?_eq_getElem?, Std.TreeMap.getElem?_insert] at hget
    split at hget
    · obtain rfl := Option.some.inj hget
      exact fun hnil => hne (List.isEmpty_iff.mpr hnil)
    · exact h other queue hget

theorem Tidy.step (h : b.Tidy) (event : BacklogEvent α) : (b.step event).Tidy := by
  cases event with
  | push task => exact h.setQueue _ _
  | appendAll vehicleId tasks => exact h.setQueue _ _
  | modifyHead vehicleId change =>
    change (b.modifyHead vehicleId change).Tidy
    unfold modifyHead
    split
    · exact h
    · exact h.setQueue _ _
  | removeHead vehicleId => exact h.setQueue _ _
  | remove vehicleId taskId => exact h.setQueue _ _
  | clear vehicleId => exact h.setQueue _ _

theorem Tidy.run (h : b.Tidy) (events : List (BacklogEvent α)) : (b.run events).Tidy := by
  induction events generalizing b with
  | nil => exact h
  | cons event later ih => exact ih (h.step event)

theorem tidy_empty : ({} : Backlog α).Tidy := by
  intro id queue hget
  simp at hget

theorem mem_vehicles (h : b.Tidy) {id : String} : id ∈ b.vehicles ↔ b.hasTask id = true := by
  have hiff : b.hasTask id = true ↔ b.queue id ≠ [] := by
    rw [hasTask, Bool.not_eq_true', List.isEmpty_eq_false_iff]
  rw [hiff]
  constructor
  · intro hmem
    obtain ⟨queue, hget⟩ := Option.isSome_iff_exists.mp
      (Std.TreeMap.isSome_getElem?_iff_mem.mpr (Std.TreeMap.mem_keys.mp hmem))
    rw [Backlog.queue, Std.TreeMap.get?_eq_getElem?, hget]
    exact h id queue hget
  · exact mem_keys_of_queue_ne_nil

theorem nodup_vehicles (b : Backlog α) : b.vehicles.Nodup := b.queues.nodup_keys

/-- The vehicles that have no sub-task add nothing to all that is queued. -/
theorem everywhere_vehicles {t : QueueTable α} (hshows : b.Shows t) (ids : List String) :
    t.everywhere (b.vehicles ++ ids.filter (· ∉ b.vehicles)) = t.everywhere b.vehicles := by
  have hrest : (ids.filter (· ∉ b.vehicles)).flatMap t.queue = [] := by
    rw [List.flatMap_eq_nil_iff]
    intro id hid
    have hnot : id ∉ b.vehicles := of_decide_eq_true (List.mem_filter.mp hid).2
    have hqueue : b.queue id = [] := not_not.mp (mt mem_keys_of_queue_ne_nil hnot)
    rw [hshows id] at hqueue
    exact List.map_eq_nil_iff.mp hqueue
  rw [QueueTable.everywhere, List.flatMap_append, hrest, List.append_nil, QueueTable.everywhere]

theorem shows_empty : ({} : Backlog α).Shows {} := queue_empty

/-- Every number is in exactly one place when only the vehicles listed are asked. -/
theorem perm_everywhere_vehicles (events : List (BacklogEvent α)) :
    (((({} : QueueTable α).run events).everywhere (({} : Backlog α).run events).vehicles).map
      Numbered.number).Perm (List.range (({} : QueueTable α).run events).put.length) := by
  -- With the owners of all calls there are vehicles enough; those without a sub-task drop out.
  rw [← everywhere_vehicles (shows_empty.run events) (events.map BacklogEvent.owner).dedup]
  apply QueueTable.everywhere_run
  · refine List.nodup_append'.mpr ⟨nodup_vehicles _, (List.nodup_dedup _).filter _, ?_⟩
    intro id hmem hrest
    exact of_decide_eq_true (List.mem_filter.mp hrest).2 hmem
  · intro event hevent
    have howner : event.owner ∈ (events.map BacklogEvent.owner).dedup :=
      List.mem_dedup.mpr (List.mem_map_of_mem hevent)
    by_cases hmem : event.owner ∈ (({} : Backlog α).run events).vehicles
    · exact List.mem_append_left _ hmem
    · exact List.mem_append_right _ (List.mem_filter.mpr ⟨howner, decide_eq_true hmem⟩)
  · rw [QueueTable.everywhere_empty]
    exact List.Perm.refl _

/-- The backlog after a sequence of calls is the plain table, which loses nothing. -/
structure IsLosslessAfter (events : List (BacklogEvent α)) (b : Backlog α) (t : QueueTable α) :
    Prop where
  /-- The queues are those of the table, which lines up at the end and takes out at the front, by
  id, or all. -/
  queue_eq : ∀ id, b.queue id = (t.queue id).map Numbered.task
  /-- The calls hand back what the table files. -/
  handedBack_eq : ({} : Backlog α).handedBack events
    = t.handedBack.map (Prod.map id (List.map Numbered.task))
  /-- The table has numbered the sub-tasks that were put, in order. -/
  put_eq : t.put = events.flatMap fun event => event.puts.map (event.owner, ·)
  /-- Every sub-task put is queued or was handed back by a call, in exactly one place. -/
  once : ((t.everywhere b.vehicles).map Numbered.number).Perm (List.range t.put.length)
  /-- A queue is in the order in which its sub-tasks were put. -/
  ascending : ∀ id, ((t.queue id).map Numbered.number).Pairwise (· < ·)
  /-- Every sub-task is the one put under its number, for the same vehicle, as far as the changes
  made to heads keep what it is. -/
  tracks : ∀ (κ : Type) (key : SubTask α → κ), (∀ event ∈ events, event.Keeps key) → t.Tracks key
  /-- A call for one vehicle leaves the queues of the others as they are. -/
  others : ∀ event id, event.owner ≠ id → (b.step event).queue id = b.queue id
  /-- No queue is kept empty. -/
  tidy : b.Tidy
  /-- The vehicles listed are those that have sub-tasks, each once. -/
  mem_vehicles : ∀ id, id ∈ b.vehicles ↔ b.hasTask id = true
  nodup_vehicles : b.vehicles.Nodup
  /-- The size is that of all queues together. -/
  size_eq : b.size = ∑ id ∈ b.vehicles.toFinset, (b.queue id).length

/-- **The queues are lossless**, after any sequence of calls. -/
theorem isLosslessAfter_run (events : List (BacklogEvent α)) :
    IsLosslessAfter events (({} : Backlog α).run events) (({} : QueueTable α).run events) := by
  have hshows := shows_empty.run events
  have htidy := tidy_empty.run events
  constructor
  case queue_eq => exact hshows
  case handedBack_eq => exact (shows_empty.handedBack_run events).symm
  case put_eq => exact QueueTable.put_run {} events
  case once => exact perm_everywhere_vehicles events
  case ascending => exact fun id => (QueueTable.ascends_empty.run events id).1
  case tracks => exact fun κ key hkeeps => QueueTable.tracks_empty.run hkeeps
  case others =>
    intro event id hne
    rw [queue_step _ event id (hshows id), if_neg hne]
  case tidy => exact htidy
  case mem_vehicles => exact fun id => mem_vehicles htidy
  case nodup_vehicles => exact nodup_vehicles _
  case size_eq =>
    exact size_eq_sum _ fun id hne => List.mem_toFinset.mpr (mem_keys_of_queue_ne_nil hne)

end Backlog

end AgvDispatch
