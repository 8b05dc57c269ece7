import AgvDispatch.Fleet.Basic
/-!
# Snapshots

A view of the whole fleet for diagnostics.
-/

namespace AgvDispatch

/-- The line of a vehicle in a snapshot. -/
structure VehicleLine (α : Type) where
  /-- The vehicle. -/
  vehicleId : String
  /-- What it is doing. -/
  state : VehicleState
  /-- Where it stands. -/
  position : Point α
  /-- How many sub-tasks it has. -/
  liveTasks : Nat
  /-- How many waypoints it has reserved. -/
  reservedWaypoints : Nat
  deriving Repr

/-- A view of the whole fleet. -/
structure FleetSnapshot (α : Type) where
  /-- A line for each vehicle, in ascending order of the ids. -/
  vehicles : List (VehicleLine α)
  /-- How many sub-tasks there are. -/
  liveTasks : Nat
  /-- The traffic. -/
  traffic : TrafficNumbers
  /-- How many commands were delivered. -/
  dispatched : Nat
  /-- How many commands were not. -/
  failedCommands : Nat
  deriving Repr

variable {α : Type} [Scalar α]

namespace Fleet

/-- The line of a vehicle. -/
def line (f : Fleet α) (v : Vehicle α) : VehicleLine α where
  vehicleId := v.id
  state := v.state
  position := v.position
  liveTasks := (f.backlog.queue v.id).length
  reservedWaypoints := ((f.traffic.reservation? v.id).map (·.route.length)).getD 0

/-- A view of the fleet as it is. -/
def snapshot (f : Fleet α) : FleetSnapshot α where
  vehicles := f.registry.all.map f.line
  liveTasks := f.backlog.size
  traffic := f.traffic.numbers
  dispatched := f.dispatcher.tally.executed
  failedCommands := f.dispatcher.tally.failed + f.dispatcher.tally.panicked

end Fleet

end AgvDispatch
