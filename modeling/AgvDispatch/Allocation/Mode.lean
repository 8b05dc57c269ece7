/-!
# Allocation modes

The ways in which a task that names no vehicle can be given one.
-/

namespace AgvDispatch

/-- How the vehicle for a task is chosen. -/
inductive AllocationMode where
  /-- By a rule supplied from outside. -/
  | customize
  /-- By the distance to the origin of the task. -/
  | distancePriority
  /-- By the charge of the battery. -/
  | powerPriority
  /-- From the standby point closest to the origin of the task. -/
  | recentPark
  /-- Among the vehicles configured for the origin of the task. -/
  | originSpecify
  deriving DecidableEq, Repr, Inhabited

namespace AllocationMode

/-- Every mode. -/
def all : List AllocationMode :=
  [customize, distancePriority, powerPriority, recentPark, originSpecify]

/-- The name of a mode. -/
def text : AllocationMode → String
  | customize => "customize"
  | distancePriority => "distance_priority"
  | powerPriority => "power_priority"
  | recentPark => "recent_park"
  | originSpecify => "origin_specify"

/-- The number that stands for a mode. -/
def code : AllocationMode → Int
  | customize => -1
  | distancePriority => 0
  | powerPriority => 1
  | recentPark => 2
  | originSpecify => 3

/-- The mode with a code; an unknown code means `distancePriority`. -/
def ofCode (code : Int) : AllocationMode :=
  (all.find? fun mode => mode.code == code).getD distancePriority

/-- The mode with a name. -/
def ofText? (text : String) : Option AllocationMode :=
  all.find? fun mode => mode.text == text

end AllocationMode

end AgvDispatch
