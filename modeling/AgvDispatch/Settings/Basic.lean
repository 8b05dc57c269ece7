import AgvDispatch.Allocation.Mode
import AgvDispatch.Scalar.Basic
import Std.Data.TreeMap
/-!
# Settings

What can be configured, in four sections: the floor and its index, the clearances kept in traffic,
the allocation of tasks, and the log.
-/

namespace AgvDispatch

open Std (TreeMap)

/-- The extent of the floor and the grid of its index. -/
structure FloorSettings (α : Type) where
  /-- The western border. -/
  minX : α
  /-- The southern border. -/
  minY : α
  /-- The extent on the first axis. -/
  width : α
  /-- The extent on the second axis. -/
  height : α
  /-- The number of cells on each axis. -/
  gridSize : Nat
  deriving BEq, Repr, Inhabited

/-- The clearances kept in traffic. -/
structure TrafficSettings (α : Type) where
  /-- How far a reserved corridor reaches beyond its route. -/
  bufferRadius : α
  /-- What is added to the radius of another vehicle. -/
  safetyBuffer : α
  deriving BEq, Repr, Inhabited

/-- How tasks are given to vehicles. -/
structure AllocationSettings where
  /-- How the vehicle for a task is chosen. -/
  mode : AllocationMode
  /-- The charge from which on a vehicle may leave its charger. -/
  lowestBattery : Nat
  /-- For each origin, written as map and point, the listing of the vehicles that may start there.
  -/
  originVehicles : TreeMap String String
  /-- Whether a vehicle bound to a task must report progress that fits the task. -/
  revalidate : Bool

/-- What is logged, and in which form. -/
structure LogSettings where
  /-- The least severe level that is logged. -/
  level : String
  /-- Whether log lines are records. -/
  json : Bool
  deriving BEq, Repr, Inhabited

/-- All settings. -/
structure Settings (α : Type) where
  /-- The floor. -/
  floor : FloorSettings α
  /-- The traffic. -/
  traffic : TrafficSettings α
  /-- The allocation of tasks. -/
  allocation : AllocationSettings
  /-- The log. -/
  log : LogSettings

section Defaults

variable {α : Type} [Scalar α]

/-- A floor of a hundred metres each way with sixteen cells. -/
def FloorSettings.standard : FloorSettings α where
  minX := 0
  minY := 0
  width := ((100000 : Nat) : α)
  height := ((100000 : Nat) : α)
  gridSize := 4

/-- Thirty centimetres for both clearances. -/
def TrafficSettings.standard : TrafficSettings α where
  bufferRadius := ((300 : Nat) : α)
  safetyBuffer := ((300 : Nat) : α)

/-- By distance, with a charge of forty per cent, and with progress checked. -/
def AllocationSettings.standard : AllocationSettings where
  mode := .distancePriority
  lowestBattery := 40
  originVehicles := {}
  revalidate := true

/-- Plain lines of level `info`. -/
def LogSettings.standard : LogSettings where
  level := "info"
  json := false

/-- The settings that hold where nothing is configured. -/
def Settings.standard : Settings α where
  floor := .standard
  traffic := .standard
  allocation := .standard
  log := .standard

end Defaults

end AgvDispatch
