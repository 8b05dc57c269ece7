import AgvDispatch.Vehicle.Basic
/-!
# The registry of vehicles

Every vehicle the controller knows, by id. Listings are in ascending order of the ids.
-/

namespace AgvDispatch

open Std (TreeMap)

/-- The known vehicles by id. -/
structure Registry (α : Type) where
  /-- The record of each vehicle. -/
  vehicles : TreeMap String (Vehicle α) := {}
  deriving Inhabited

namespace Registry

variable {α : Type}

/-- Registers a vehicle, or replaces its record. -/
def upsert (r : Registry α) (v : Vehicle α) : Registry α :=
  ⟨r.vehicles.insert v.id v⟩

/-- A registry with the given vehicles, of which a later one replaces an earlier one. -/
def ofList (vs : List (Vehicle α)) : Registry α :=
  vs.foldl upsert {}

/-- The record of a vehicle. -/
def get? (r : Registry α) (id : String) : Option (Vehicle α) :=
  r.vehicles.get? id

/-- Whether a vehicle is registered. -/
def contains (r : Registry α) (id : String) : Bool :=
  r.vehicles.contains id

/-- Changes the record of a vehicle, if it is registered. -/
def modify (r : Registry α) (id : String) (f : Vehicle α → Vehicle α) : Registry α :=
  match r.get? id with
  | none => r
  | some v => ⟨r.vehicles.insert id (f v)⟩

/-- Forgets a vehicle. -/
def erase (r : Registry α) (id : String) : Registry α :=
  ⟨r.vehicles.erase id⟩

/-- Marks a vehicle as offline, if it is registered. -/
def markOffline (r : Registry α) (id : String) : Registry α :=
  r.modify id fun v => { v with state := .offline }

/-- How many vehicles are registered. -/
def size (r : Registry α) : Nat := r.vehicles.size

/-- Every vehicle, in ascending order of the ids under which they are registered. A record that has
been given another id in place (`Registry.modify`) stays where it is. -/
def all (r : Registry α) : List (Vehicle α) := r.vehicles.values

/-- The vehicles of a map. -/
def onMap (r : Registry α) (mapId : Int) : List (Vehicle α) :=
  r.all.filter (·.mapId == mapId)

/-- A vehicle, if it is free for a new task. -/
def idle? (r : Registry α) (id : String) : Option (Vehicle α) :=
  (r.get? id).filter Vehicle.isIdle

/-- The vehicles that are free for a new task. -/
def idleVehicles (r : Registry α) : List (Vehicle α) :=
  r.all.filter Vehicle.isIdle

/-- A vehicle, if it may leave its charger for a task. -/
def leavingCharger? (r : Registry α) (id : String) (lowestBattery : Nat) : Option (Vehicle α) :=
  (r.get? id).filter (·.mayLeaveCharger lowestBattery)

/-- The vehicles that may leave their charger for a task. -/
def chargingVehicles (r : Registry α) (lowestBattery : Nat) : List (Vehicle α) :=
  r.all.filter (·.mayLeaveCharger lowestBattery)

end Registry

end AgvDispatch
