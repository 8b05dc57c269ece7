import AgvDispatch.Dispatch.Lane
import Std.Data.TreeMap
/-!
# The ordered dispatcher

Jobs are submitted under keys. The jobs of one key run one after the other in the order of
submission, on the lane of that key; jobs of different keys do not wait for each other. A lane is
opened by the first job of its key and closed on request, provided that it is not busy. A lane that
was closed while one of its workers had yet to end goes on apart from the others.

Besides, a job may be run without a key. The dispatcher does not hold such a job but counts how it
ended.
-/

namespace AgvDispatch

open Std (TreeMap)

/-- How many jobs have ended, and how. -/
structure JobTally where
  /-- Jobs that succeeded. -/
  executed : Nat := 0
  /-- Jobs that returned a fault. -/
  failed : Nat := 0
  /-- Jobs that were torn down. -/
  panicked : Nat := 0
  deriving DecidableEq, Repr, Inhabited

/-- The tally with one more job. -/
def JobTally.count (tally : JobTally) : JobOutcome → JobTally
  | .done => { tally with executed := tally.executed + 1 }
  | .failed => { tally with failed := tally.failed + 1 }
  | .panicked => { tally with panicked := tally.panicked + 1 }

/-- Jobs run in order of submission, key by key. -/
structure Dispatcher (J : Type) where
  /-- The open lanes by key. -/
  lanes : TreeMap String (Lane J) := {}
  /-- Closed lanes that still have a worker. -/
  detached : List (Lane J) := []
  /-- How the jobs so far have ended. -/
  tally : JobTally := {}
  deriving Inhabited

namespace Dispatcher

variable {J : Type}

/-- The lane of a key; a key without one has an empty lane. -/
def lane (d : Dispatcher J) (key : String) : Lane J :=
  (d.lanes.get? key).getD {}

/-- Submits a job under a key. -/
def submit (d : Dispatcher J) (key : String) (job : J) : Dispatcher J :=
  { d with lanes := d.lanes.insert key ((d.lane key).submit job) }

/-- Whether the lane of a key is open and not busy, so that it can be closed. -/
def isIdle (d : Dispatcher J) (key : String) : Bool :=
  match d.lanes.get? key with
  | none => false
  | some lane => !lane.isBusy

/-- Closes the lane of a key, unless it is busy. -/
def unregister (d : Dispatcher J) (key : String) : Dispatcher J :=
  if d.isIdle key then
    let lane := d.lane key
    { d with
      lanes := d.lanes.erase key
      detached := if lane.workers.isEmpty then d.detached else lane :: d.detached }
  else d

/-- The keys whose lanes are open, in ascending order. -/
def keys (d : Dispatcher J) : List String :=
  d.lanes.keys

/-- How many jobs of a key have not started. -/
def pending (d : Dispatcher J) (key : String) : Nat :=
  (d.lane key).waiting.length

/-- Whether an open lane is busy. The lanes are looked at all at once, as when tasks take turns and
nothing comes between. -/
def isBusy (d : Dispatcher J) : Bool :=
  d.lanes.any fun _ lane => lane.isBusy

/-- Changes the lane of a key, if it is open. -/
def modifyLane (d : Dispatcher J) (key : String) (f : Lane J → Lane J) : Dispatcher J :=
  match d.lanes.get? key with
  | none => d
  | some lane => { d with lanes := d.lanes.insert key (f lane) }

/-- Lets a worker of a key take its next step, unless it runs a job. -/
def wake (d : Dispatcher J) (key : String) (i : Nat) : Dispatcher J :=
  d.modifyLane key (·.wake i)

/-- Counts the end of a job. -/
def count (d : Dispatcher J) (outcome : JobOutcome) : Dispatcher J :=
  { d with tally := d.tally.count outcome }

/-- Ends the job that a worker of a key runs. -/
def finish (d : Dispatcher J) (key : String) (i : Nat) (outcome : JobOutcome) : Dispatcher J :=
  match (d.lane key).running? i with
  | none => d
  | some _ => (d.modifyLane key (·.finish i)).count outcome

/-- Replaces a closed lane, which is given up once it has no worker. -/
def setDetached (d : Dispatcher J) (n : Nat) (lane : Lane J) : Dispatcher J :=
  { d with
    detached := if lane.workers.isEmpty then d.detached.eraseIdx n else d.detached.set n lane }

/-- Lets a worker of a closed lane take its next step, unless it runs a job. -/
def wakeDetached (d : Dispatcher J) (n i : Nat) : Dispatcher J :=
  match d.detached[n]? with
  | none => d
  | some lane => d.setDetached n (lane.wake i)

/-- Ends the job that a worker of a closed lane runs. -/
def finishDetached (d : Dispatcher J) (n i : Nat) (outcome : JobOutcome) : Dispatcher J :=
  match d.detached[n]? with
  | none => d
  | some lane =>
    match lane.running? i with
    | none => d
    | some _ => (d.setDetached n (lane.finish i)).count outcome

/-- The summary of a dispatcher in one line. -/
def summary (d : Dispatcher J) : String :=
  "keys=" ++ toString d.lanes.size ++ " executed=" ++ toString d.tally.executed
    ++ " failed=" ++ toString d.tally.failed ++ " panicked=" ++ toString d.tally.panicked

end Dispatcher

end AgvDispatch
