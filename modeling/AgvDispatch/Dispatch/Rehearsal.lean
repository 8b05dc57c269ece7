import AgvDispatch.Dispatch.Dispatcher
/-!
# Rehearsals

A rehearsal runs **scripts** as the jobs of a dispatcher, under a cooperative schedule: one task
runs at a time, and it runs until it yields, waits at a gate that has not been opened, or ends. The
tasks that are ready run in turn. A task that yields is ready again once all others have had their
turn, and a task at a gate once the gate is opened.

A script writes lines to the log of its key; so the log shows in which order the jobs ran.
-/

namespace AgvDispatch

open Std (TreeMap)

/-- What a job does, step by step. -/
inductive Script where
  /-- Writes a line to the log of a key and goes on. -/
  | log (key line : String) (rest : Script)
  /-- Lets the other tasks run and goes on. -/
  | yield (rest : Script)
  /-- Waits until a gate has been opened and goes on. -/
  | await (gate : String) (rest : Script)
  /-- Submits a script under a key and goes on. -/
  | submit (key : String) (job rest : Script)
  /-- Ends. -/
  | stop (outcome : JobOutcome)
  deriving Repr, Inhabited

namespace Script

/-- The number of steps of a script, those of the scripts it submits included. -/
def size : Script → Nat
  | log _ _ rest | yield rest | await _ rest => rest.size + 1
  | submit _ job rest => job.size + rest.size + 1
  | stop _ => 1

/-- Whether a script waits at a gate, now or later. -/
def uses (gate : String) : Script → Bool
  | log _ _ rest | yield rest | submit _ _ rest => rest.uses gate
  | await g rest => g == gate || rest.uses gate
  | stop _ => false

/-- Yields a number of times before a script. -/
def yields : Nat → Script → Script
  | 0, rest => rest
  | n + 1, rest => yield (yields n rest)

/-- The script of a job that logs its beginning, yields, waits at a gate, submits another script,
logs its end and ends. A job that is torn down does not log its end. -/
def ofJob (key label : String) (pauses : Nat) (gate : Option String)
    (next : Option (String × Script)) (outcome : JobOutcome) : Script :=
  let ending := if outcome = .panicked then stop outcome else log key (label ++ "-") (stop outcome)
  let submission := match next with
    | none => ending
    | some (nextKey, job) => submit nextKey job ending
  let gated := match gate with
    | none => submission
    | some gate => await gate submission
  log key (label ++ "+") (yields pauses gated)

/-- The script of a job that logs one line and ends. -/
def ofCall (key label : String) (outcome : JobOutcome) : Script :=
  log key (label ++ "!") (stop outcome)

end Script

/-- What can take a turn. -/
inductive RehearsalTask where
  /-- The worker of a key. -/
  | worker (key : String)
  /-- A script without a key, and its number. -/
  | loose (number : Nat)
  deriving DecidableEq, Repr, Inhabited

/-- A dispatcher whose jobs are scripts, and the schedule that runs them. -/
structure Rehearsal where
  /-- The dispatcher. -/
  dispatcher : Dispatcher Script := {}
  /-- The scripts without a key that have not ended, by number. -/
  loose : TreeMap Nat Script := {}
  /-- The number of the next script without a key. -/
  nextLoose : Nat := 0
  /-- The tasks that are ready, in the order of their turns. -/
  ready : List RehearsalTask := []
  /-- The tasks that have yielded. -/
  yielded : List RehearsalTask := []
  /-- The tasks that wait at a gate. -/
  parked : List (String × RehearsalTask) := []
  /-- The gates that have been opened. -/
  opened : List String := []
  /-- The lines logged under each key, the latest first. -/
  lines : TreeMap String (List String) := {}
  deriving Inhabited

namespace Rehearsal

/-- Submits a script under a key. A worker that this starts is ready after all others. -/
def submit (r : Rehearsal) (key : String) (script : Script) : Rehearsal :=
  let starts := !(r.dispatcher.lane key).isBusy
  { r with
    dispatcher := r.dispatcher.submit key script
    ready := if starts then r.ready ++ [.worker key] else r.ready }

/-- Starts a script without a key. -/
def start (r : Rehearsal) (script : Script) : Rehearsal :=
  { r with
    loose := r.loose.insert r.nextLoose script
    nextLoose := r.nextLoose + 1
    ready := r.ready ++ [.loose r.nextLoose] }

/-- Writes a line to the log of a key. -/
def note (r : Rehearsal) (key line : String) : Rehearsal :=
  { r with lines := r.lines.insert key (line :: (r.lines.get? key).getD []) }

/-- The log of each key that has one, the earliest line first. -/
def log (r : Rehearsal) : List (String × List String) :=
  r.lines.toList.map fun (key, lines) => (key, lines.reverse)

/-- The scripts that have not ended: in line, running under a key, or without one. -/
def scripts (r : Rehearsal) : List Script :=
  (r.dispatcher.lanes.values.flatMap fun lane =>
    lane.waiting ++ (List.range lane.workers.length).filterMap lane.running?) ++ r.loose.values

/-- Whether opening a gate would let a script go on, now or later. -/
def awaits (r : Rehearsal) (gate : String) : Bool :=
  !r.opened.contains gate && r.scripts.any (·.uses gate)

/-- Opens a gate, if there is a script that waits for it. The tasks at the gate are ready after all
others. -/
def release (r : Rehearsal) (gate : String) : Rehearsal :=
  if r.awaits gate then
    let (freed, parked) := r.parked.partition (·.1 == gate)
    { r with opened := gate :: r.opened, ready := r.ready ++ freed.map (·.2), parked }
  else r

/-- Takes the task whose turn it is off the list of those that are ready. -/
def endTurn (r : Rehearsal) : Rehearsal :=
  { r with ready := r.ready.tail }

/-- The first step of a script, taken on behalf of the task whose turn it is. The operation `keep`
stores what is left of the script, and `stop` records its end. -/
def takeStep (r : Rehearsal) (task : RehearsalTask) (script : Script)
    (keep : Rehearsal → Script → Rehearsal) (stop : Rehearsal → JobOutcome → Rehearsal) :
    Rehearsal :=
  match script with
  | .log key line rest => keep (r.note key line) rest
  | .yield rest => keep { r.endTurn with yielded := r.yielded ++ [task] } rest
  | .await gate rest =>
    if r.opened.contains gate then keep r rest
    else { r.endTurn with parked := r.parked ++ [(gate, task)] }
  | .submit key job rest => keep (r.submit key job) rest
  | .stop outcome => stop r outcome

/-- One step of the task whose turn it is. If no task is ready, the ones that have yielded are. -/
def step (r : Rehearsal) : Rehearsal :=
  match r.ready with
  | [] => { r with ready := r.yielded, yielded := [] }
  | task :: _ =>
    match task with
    | .worker key =>
      let lane := r.dispatcher.lane key
      match lane.running? 0 with
      | some script =>
        r.takeStep task script
          (fun r rest => { r with
            dispatcher := r.dispatcher.modifyLane key (·.continueWith 0 rest) })
          (fun r outcome => { r with dispatcher := r.dispatcher.finish key 0 outcome })
      | none =>
        if lane.workers.isEmpty then r.endTurn
        else { r with dispatcher := r.dispatcher.wake key 0 }
    | .loose number =>
      match r.loose.get? number with
      | none => r.endTurn
      | some script =>
        r.takeStep task script
          (fun r rest => { r with loose := r.loose.insert number rest })
          (fun r outcome => { r.endTurn with
            dispatcher := r.dispatcher.count outcome
            loose := r.loose.erase number })

/-- Whether no task can take a turn. -/
def isSettled (r : Rehearsal) : Bool :=
  r.ready.isEmpty && r.yielded.isEmpty

/-- Takes steps until no task can take a turn, at most the given number of them. -/
def run : Nat → Rehearsal → Rehearsal
  | 0, r => r
  | fuel + 1, r => if r.isSettled then r else run fuel r.step

/-- Enough steps for everything that can still happen: each step of a script is followed by at most
a handful of steps of its worker and of the schedule. -/
def budget (r : Rehearsal) : Nat :=
  let steps := r.scripts.foldl (fun n script => n + script.size) 0
  8 * (steps + r.ready.length + r.yielded.length + r.parked.length + 1)

/-- Runs until no task can take a turn. -/
def settle (r : Rehearsal) : Rehearsal :=
  r.run r.budget

/-- Runs until no key has unfinished work, which is at once the case if there is none, and tells
whether that was reached. Without `patience` it does not run anything. No task has its turn while
the lanes are looked at. -/
def flush (r : Rehearsal) (patience : Bool) : Bool × Rehearsal :=
  if !r.dispatcher.isBusy then (true, r)
  else if !patience then (false, r)
  else
    let r := r.settle
    (!r.dispatcher.isBusy, r)

end Rehearsal

end AgvDispatch
