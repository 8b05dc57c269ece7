import AgvDispatch.Vehicle.Basic
/-!
# Reports of vehicles

What a vehicle tells about itself. Position, map and waypoint are always part of a report; what else
it leaves out stays as it was.
-/

namespace AgvDispatch

/-- One message of a vehicle. -/
structure VehicleReport (α : Type) where
  /-- The vehicle. -/
  vehicleId : String
  /-- The map it drives on. -/
  mapId : Int
  /-- Where it stands. -/
  position : Point α
  /-- The number of the waypoint it stands on. -/
  currentPoint : Option Int
  /-- The waypoints it still has to drive. -/
  remaining : Route
  /-- The charge of its battery in per cent. -/
  battery : Option Nat
  /-- What it is doing. -/
  state : Option VehicleState
  /-- The sub-task it executes. -/
  taskId : Option String
  /-- How far it is with its task. -/
  progress : Option Progress
  deriving BEq, Repr, Inhabited

namespace VehicleReport

variable {α : Type}

/-- A report of a position and nothing else. -/
def ofPosition (vehicleId : String) (mapId : Int) (position : Point α) : VehicleReport α where
  vehicleId
  mapId
  position
  currentPoint := none
  remaining := []
  battery := none
  state := none
  taskId := none
  progress := none

/-- The waypoint that a vehicle reports to stand on. -/
def waypoint (r : VehicleReport α) : Option Waypoint :=
  r.currentPoint.map (Waypoint.mk r.mapId)

/-- The record of a vehicle brought up to date by a report. -/
def update (r : VehicleReport α) (v : Vehicle α) : Vehicle α :=
  { v with
    mapId := r.mapId
    position := r.position
    currentPoint := r.currentPoint
    battery := r.battery.getD v.battery
    state := r.state.getD v.state
    progress := r.progress.getD v.progress
    taskId := r.taskId.or v.taskId }

end VehicleReport

end AgvDispatch
