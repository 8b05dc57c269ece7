import AgvDispatch.Text.Upper
/-!
# Stages of a task

The life of a task or sub-task runs through **stages**. `Stage.mayBecome` is the graph of the steps
allowed: anything alive can be cancelled, and the two terminal stages are never left. A `PlanMark`
tells whether the route of the present stage has been planned.
-/

namespace AgvDispatch

/-- Where a task is in its life. -/
inductive Stage where
  /-- Checks before anything is dispatched. -/
  | check
  /-- Waiting for a lift, a door or a conveyor. -/
  | dockDevice
  /-- Just assigned, without a route. -/
  | new
  /-- The route has to be planned again. -/
  | againPlan
  /-- Planned; the vehicle has yet to start. -/
  | waitStart
  /-- The vehicle drives the committed route. -/
  | run
  /-- Driving is interrupted. -/
  | pause
  /-- The action at the destination is under way. -/
  | action
  /-- Given up. -/
  | cancel
  /-- Done. -/
  | finish
  deriving DecidableEq, Repr, Inhabited

namespace Stage

/-- Every stage, in the order of the codes. -/
def all : List Stage :=
  [check, dockDevice, new, againPlan, waitStart, run, pause, action, cancel, finish]

/-- The name of a stage. -/
def text : Stage → String
  | check => "CHECK"
  | dockDevice => "DOCK_DEVICE"
  | new => "NEW"
  | againPlan => "AGAIN_PLAN"
  | waitStart => "WAIT_START"
  | run => "RUN"
  | pause => "PAUSE"
  | action => "ACTION"
  | cancel => "CANCEL"
  | finish => "FINISH"

/-- The number that stands for a stage. -/
def code : Stage → Int
  | check => 0
  | dockDevice => 5
  | new => 10
  | againPlan => 20
  | waitStart => 30
  | run => 40
  | pause => 50
  | action => 60
  | cancel => 80
  | finish => 100

/-- The stage with a code. -/
def ofCode? (code : Int) : Option Stage :=
  all.find? fun s => s.code == code

/-- The stage with a name, which may be written in any case. -/
def parse? (text : String) : Option Stage :=
  let name := Text.upper text
  all.find? fun s => s.text == name

/-- The complaint about a name that no stage has. -/
def unknownName (text : String) : String :=
  "Unknown plan state: " ++ text

/-- Whether a stage ends the life of a task. -/
def isTerminal : Stage → Bool
  | cancel | finish => true
  | _ => false

/-- Whether the life of a task may go on from one stage to another. -/
def mayBecome (s t : Stage) : Bool :=
  !s.isTerminal &&
    match s, t with
    | _, cancel
    | check, dockDevice | check, new
    | dockDevice, new
    | new, againPlan | new, waitStart | new, run
    | againPlan, waitStart | againPlan, run
    | waitStart, againPlan | waitStart, run
    | run, pause | run, againPlan | run, action | run, finish
    | pause, run | pause, againPlan
    | action, run | action, finish => true
    | _, _ => false

/-- The stages that may follow a stage. -/
def successors (s : Stage) : List Stage :=
  all.filter s.mayBecome

/-- Whether a task in a stage can take a new route. -/
def needsPlan : Stage → Bool
  | new | againPlan | waitStart | run => true
  | _ => false

end Stage

/-- Whether the present stage of a sub-task has been planned. -/
inductive PlanMark where
  /-- There is no plan. -/
  | unplanned
  /-- A plan has been committed. -/
  | planned
  /-- A plan is being made. -/
  | planning
  deriving DecidableEq, Repr, Inhabited

namespace PlanMark

/-- Every mark, in the order of the codes. -/
def all : List PlanMark := [unplanned, planned, planning]

/-- The number that stands for a mark. -/
def code : PlanMark → Nat
  | unplanned => 0
  | planned => 1
  | planning => 2

/-- The name of a mark in records. -/
def name : PlanMark → String
  | unplanned => "Unplanned"
  | planned => "Planned"
  | planning => "Planning"

end PlanMark

end AgvDispatch
