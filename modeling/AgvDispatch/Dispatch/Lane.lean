/-!
# Lanes

A **lane** runs its jobs one at a time, in the order in which they were submitted. It has no thread
of its own. Instead it counts **signals**: every submission adds one, and whoever finds the count at
zero starts a worker. A worker owes the signals it has been woken for; when it finds no job waiting,
it takes what it owes off the count, and it ends if nothing is left. What is left came in meanwhile,
is owed from then on, and makes the worker look again.

The steps of a worker are separate operations, so that anything may happen in between:

* `Lane.wake` lets a worker that is not running a job take its next step;
* `Lane.finish` ends the job that a worker runs.
-/

namespace AgvDispatch

/-- How a job ended. -/
inductive JobOutcome where
  /-- It succeeded. -/
  | done
  /-- It returned a fault. -/
  | failed
  /-- It was torn down in the middle. -/
  | panicked
  deriving DecidableEq, Repr, Inhabited

/-- What a worker is at. -/
inductive WorkerPhase (J : Type) where
  /-- It looks for a waiting job. -/
  | polling
  /-- It runs a job. -/
  | running (job : J)
  /-- It has found no job and settles what it owes. -/
  | settling
  deriving Repr, Inhabited

/-- What runs the jobs of a lane. -/
structure Worker (J : Type) where
  /-- The signals that the worker has been woken for. -/
  owed : Nat
  /-- What the worker is at. -/
  phase : WorkerPhase J
  deriving Repr, Inhabited

/-- Jobs in line, and what runs them. -/
structure Lane (J : Type) where
  /-- The jobs that have not started, the oldest first. -/
  waiting : List J := []
  /-- The count of signals that have not been settled. -/
  signals : Nat := 0
  /-- The workers, the oldest first. -/
  workers : List (Worker J) := []
  deriving Repr, Inhabited

namespace Lane

variable {J : Type}

/-- Whether a signal has not been settled. -/
def isBusy (lane : Lane J) : Bool :=
  decide (0 < lane.signals)

/-- Puts a job in line and gives a signal. The first signal starts a worker. -/
def submit (lane : Lane J) (job : J) : Lane J where
  waiting := lane.waiting ++ [job]
  signals := lane.signals + 1
  workers := if lane.signals = 0 then lane.workers ++ [⟨1, .polling⟩] else lane.workers

/-- The step of a worker that is not running a job: it takes a job, or it turns to settling, or it
settles. A worker that runs a job does nothing. -/
def wake (lane : Lane J) (i : Nat) : Lane J :=
  match lane.workers[i]? with
  | none => lane
  | some worker =>
    match worker.phase with
    | .running _ => lane
    | .polling =>
      match lane.waiting with
      | [] => { lane with workers := lane.workers.set i { worker with phase := .settling } }
      | job :: waiting =>
        { lane with waiting, workers := lane.workers.set i { worker with phase := .running job } }
    | .settling =>
      let left := lane.signals - worker.owed
      if left = 0 then { lane with signals := left, workers := lane.workers.eraseIdx i }
      else { lane with signals := left, workers := lane.workers.set i ⟨left, .polling⟩ }

/-- The job that a worker runs. -/
def running? (lane : Lane J) (i : Nat) : Option J :=
  match lane.workers[i]? with
  | some ⟨_, .running job⟩ => some job
  | _ => none

/-- Replaces the job that a worker runs by what is left of it. -/
def continueWith (lane : Lane J) (i : Nat) (job : J) : Lane J :=
  match lane.workers[i]? with
  | some ⟨owed, .running _⟩ => { lane with workers := lane.workers.set i ⟨owed, .running job⟩ }
  | _ => lane

/-- Ends the job that a worker runs, which then looks for another one. -/
def finish (lane : Lane J) (i : Nat) : Lane J :=
  match lane.workers[i]? with
  | some ⟨owed, .running _⟩ => { lane with workers := lane.workers.set i ⟨owed, .polling⟩ }
  | _ => lane

end Lane

end AgvDispatch
