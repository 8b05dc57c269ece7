import AgvDispatch.Task.SubTask
import Std.Data.TreeMap
/-!
# The backlog

The sub-tasks that wait or are being executed, in one queue per vehicle. The **head** of a queue is
the sub-task being executed; new ones line up behind. A vehicle without sub-tasks has no queue.
-/

namespace AgvDispatch

open Std (TreeMap)

/-- The queue of sub-tasks of each vehicle. -/
structure Backlog (α : Type) where
  /-- The queues by vehicle, none of them empty. -/
  queues : TreeMap String (List (SubTask α)) := {}
  deriving Inhabited

namespace Backlog

variable {α : Type}

/-- The queue of a vehicle, its head first. -/
def queue (b : Backlog α) (vehicleId : String) : List (SubTask α) :=
  (b.queues.get? vehicleId).getD []

/-- Replaces the queue of a vehicle. -/
def setQueue (b : Backlog α) (vehicleId : String) (tasks : List (SubTask α)) : Backlog α :=
  if tasks.isEmpty then ⟨b.queues.erase vehicleId⟩ else ⟨b.queues.insert vehicleId tasks⟩

/-- Lines sub-tasks up behind those of a vehicle. -/
def appendAll (b : Backlog α) (vehicleId : String) (tasks : List (SubTask α)) : Backlog α :=
  b.setQueue vehicleId (b.queue vehicleId ++ tasks)

/-- Lines a sub-task up behind those of its vehicle. -/
def push (b : Backlog α) (task : SubTask α) : Backlog α :=
  b.appendAll task.vehicleId [task]

/-- The sub-task that a vehicle executes. -/
def head? (b : Backlog α) (vehicleId : String) : Option (SubTask α) :=
  (b.queue vehicleId).head?

/-- Whether a vehicle has a sub-task. -/
def hasTask (b : Backlog α) (vehicleId : String) : Bool :=
  !(b.queue vehicleId).isEmpty

/-- A vehicle that has a sub-task of an order, the first one by id. -/
def vehicleFor? (b : Backlog α) (orderCode : String) : Option String :=
  (b.queues.toList.find? fun (_, tasks) => tasks.any (·.orderCode == orderCode)).map (·.1)

/-- Changes the head of a queue. -/
def modifyHead (b : Backlog α) (vehicleId : String) (f : SubTask α → SubTask α) : Backlog α :=
  match b.queue vehicleId with
  | [] => b
  | head :: rest => b.setQueue vehicleId (f head :: rest)

/-- Removes the head of a queue. -/
def removeHead (b : Backlog α) (vehicleId : String) : Backlog α :=
  b.setQueue vehicleId (b.queue vehicleId).tail

/-- A sub-task in the queue of a vehicle, by id. -/
def find? (b : Backlog α) (vehicleId taskId : String) : Option (SubTask α) :=
  (b.queue vehicleId).find? (·.id == taskId)

/-- Removes the first sub-task with an id from the queue of a vehicle. -/
def remove (b : Backlog α) (vehicleId taskId : String) : Backlog α :=
  b.setQueue vehicleId ((b.queue vehicleId).eraseP (·.id == taskId))

/-- Removes every sub-task of a vehicle. -/
def clear (b : Backlog α) (vehicleId : String) : Backlog α :=
  b.setQueue vehicleId []

/-- The vehicles that have sub-tasks, in ascending order. -/
def vehicles (b : Backlog α) : List String :=
  b.queues.keys

/-- How many sub-tasks there are. -/
def size (b : Backlog α) : Nat :=
  b.queues.values.flatten.length

/-- Whether there is no sub-task. -/
def isEmpty (b : Backlog α) : Bool :=
  b.size == 0

end Backlog

end AgvDispatch
