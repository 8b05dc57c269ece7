import AgvDispatch.Network.Waypoint
/-!
# Commands

What the fleet tells a vehicle to do.
-/

namespace AgvDispatch

/-- A command to one vehicle. -/
inductive VehicleCommand where
  /-- Drive a committed segment. -/
  | move (taskId : String) (route : Route)
  /-- Stop driving. -/
  | pause (taskId : String)
  /-- Get ready to drive on. -/
  | resume (taskId : String)
  /-- Give up the sub-task. -/
  | cancel (taskId : String)
  deriving DecidableEq, Repr, Inhabited

namespace VehicleCommand

/-- The name of the kind of a command. -/
def kind : VehicleCommand → String
  | move .. => "move"
  | pause _ => "pause"
  | resume _ => "resume"
  | cancel _ => "cancel"

/-- The sub-task that a command is about. -/
def taskId : VehicleCommand → String
  | move taskId _ | pause taskId | resume taskId | cancel taskId => taskId

end VehicleCommand

end AgvDispatch
