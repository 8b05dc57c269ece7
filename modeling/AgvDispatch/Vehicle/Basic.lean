import AgvDispatch.Geometry.Point
import AgvDispatch.Network.Waypoint
import AgvDispatch.Text.Listing
/-!
# Vehicles

What the controller knows of a vehicle: its own last report together with the task that the
controller has bound to it. `Vehicle.isIdle` says when it is free for a new task and
`Vehicle.mayLeaveCharger` when its charge may be interrupted for one.
-/

namespace AgvDispatch

/-- What a vehicle is doing. -/
inductive VehicleState where
  /-- The vehicle is not connected. -/
  | offline
  /-- The vehicle waits for work. -/
  | idle
  /-- The vehicle executes a sub-task. -/
  | busy
  /-- The vehicle stands on a charger. -/
  | charging
  /-- The vehicle reports a failure. -/
  | error
  deriving DecidableEq, Repr, Inhabited

namespace VehicleState

/-- Every state. -/
def all : List VehicleState := [offline, idle, busy, charging, error]

/-- The name of a state. -/
def text : VehicleState → String
  | offline => "OFFLINE"
  | idle => "IDLE"
  | busy => "BUSY"
  | charging => "CHARGING"
  | error => "ERROR"

/-- Whether the vehicle is connected. -/
def isOnline (s : VehicleState) : Bool := s != offline

end VehicleState

/-- Who may command a vehicle. -/
inductive ControlMode where
  /-- The dispatcher commands it. -/
  | dispatcher
  /-- A person commands it. -/
  | manual
  deriving DecidableEq, Repr, Inhabited

/-- The name of a control mode in records. -/
def ControlMode.name : ControlMode → String
  | dispatcher => "dispatcher"
  | manual => "manual"

/-- Who drives a vehicle. -/
inductive DriveMode where
  /-- It drives itself. -/
  | auto
  /-- A person drives it. -/
  | manual
  deriving DecidableEq, Repr, Inhabited

/-- The name of a drive mode in records. -/
def DriveMode.name : DriveMode → String
  | auto => "auto"
  | manual => "manual"

/-- How far a vehicle says it is with its task. -/
inductive Progress where
  /-- It has no task. -/
  | none
  /-- It executes a task. -/
  | underway
  /-- It has finished its task. -/
  | finished
  /-- It has given up its task. -/
  | cancelled
  deriving DecidableEq, Repr, Inhabited

/-- The name of a progress in records. -/
def Progress.name : Progress → String
  | none => "none"
  | underway => "have"
  | finished => "finish"
  | cancelled => "cancel"

/-- Whether a vehicle carries goods. -/
inductive Load where
  /-- It is empty. -/
  | none
  /-- It is loaded. -/
  | loaded
  deriving DecidableEq, Repr, Inhabited

/-- The name of a load in records. -/
def Load.name : Load → String
  | none => "none"
  | loaded => "loaded"

/-- What is known of one vehicle. -/
structure Vehicle (α : Type) where
  /-- The id under which the vehicle is registered. -/
  id : String
  /-- The type of equipment; an order that asks for type `0` takes any. -/
  kind : Int
  /-- The listing of what the vehicle is capable of. -/
  labels : String
  /-- The map the vehicle drives on. -/
  mapId : Int
  /-- Where the vehicle stands. -/
  position : Point α
  /-- The number of the waypoint the vehicle stands on. -/
  currentPoint : Option Int
  /-- How far the vehicle reaches around its position. -/
  radius : α
  /-- The charge of the battery in per cent. -/
  battery : Nat
  /-- What the vehicle is doing. -/
  state : VehicleState
  /-- Who may command the vehicle. -/
  control : ControlMode
  /-- Who drives the vehicle. -/
  drive : DriveMode
  /-- Whether the emergency stop is pressed. -/
  emergencyStop : Bool
  /-- Whether the vehicle is taken out of service. -/
  isolated : Bool
  /-- Whether the vehicle has confirmed its map. -/
  mapChecked : Bool
  /-- The sub-task bound to the vehicle. -/
  taskId : Option String
  /-- How far the vehicle is with its task. -/
  progress : Progress
  /-- Whether the vehicle carries goods. -/
  load : Load
  deriving BEq, Repr, Inhabited

namespace Vehicle

variable {α : Type}

/-- A vehicle that is ready to take work. -/
def ready (id : String) (mapId : Int) (position : Point α) (radius : α) : Vehicle α where
  id
  mapId
  position
  radius
  kind := 0
  labels := ""
  currentPoint := none
  battery := 100
  state := .idle
  control := .dispatcher
  drive := .auto
  emergencyStop := false
  isolated := false
  mapChecked := true
  taskId := none
  progress := .none
  load := .none

/-- The waypoint a vehicle stands on. -/
def waypoint (v : Vehicle α) : Option Waypoint :=
  v.currentPoint.map (Waypoint.mk v.mapId)

/-- Whether a vehicle is free for a new task. -/
def isIdle (v : Vehicle α) : Bool :=
  v.state == .idle && v.mapChecked && !v.isolated && v.control == .dispatcher && v.drive == .auto
    && !v.emergencyStop && v.progress != .underway && v.load == .none

/-- Whether a vehicle is charging but holds enough charge to be sent to work. -/
def mayLeaveCharger (v : Vehicle α) (lowestBattery : Nat) : Bool :=
  v.mapChecked && !v.isolated && v.state == .charging && decide (lowestBattery ≤ v.battery)

/-- Whether every entry of a required listing occurs within the labels of a vehicle. -/
def matchesLabels (v : Vehicle α) (required : String) : Bool :=
  (Text.entries required).all fun label => Text.occursIn label v.labels.toList

/-- Whether a vehicle is of the required type, where `0` stands for any. -/
def matchesKind (v : Vehicle α) (required : Int) : Bool :=
  required == 0 || required == v.kind

end Vehicle

end AgvDispatch
