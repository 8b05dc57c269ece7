import AgvDispatch.Fleet.Planning
import AgvDispatch.Fleet.Snapshot
import AgvDispatch.Network.Lattice
import AgvDispatch.Network.Search
import AgvDispatch.Simulation.Demand
import AgvDispatch.Simulation.GridSide
/-!
# Simulated operation

A fleet is run over a square lattice. In each tick a transport that is wanted becomes an order,
every vehicle with a sub-task is planned further, and every vehicle that has been sent on its way
advances by one waypoint. A vehicle that stands on the last waypoint of its expected route finishes.

The simulation is driven by the trips wanted in each tick, wherever they come from.
-/

namespace AgvDispatch

/-- A fleet in simulated operation, and what has been counted so far. -/
structure Simulation (α : Type) [Scalar α] where
  /-- The fleet. -/
  fleet : Fleet α
  /-- The number of points of the lattice. -/
  points : Nat
  /-- How many orders there were. -/
  created : Nat := 0
  /-- How many of them were given to a vehicle. -/
  assigned : Nat := 0
  /-- How many of them found no vehicle. -/
  unassigned : Nat := 0
  /-- How many sub-tasks were finished. -/
  finished : Nat := 0
  /-- How many plans were committed. -/
  committed : Nat := 0
  /-- How many plans were deferred. -/
  deferred : Nat := 0

namespace Simulation

/-- The map that simulated vehicles drive on. -/
def mapId : Int := 1

/-- The id of a simulated vehicle: a number of at least three digits. -/
def vehicleId (number : Nat) : String :=
  let digits := toString number
  "AGV" ++ "".pushn '0' (3 - digits.length) ++ digits

/-- The code of the order of a tick: the number of the tick with at least five digits. -/
def orderCode (tick : Nat) : String :=
  let digits := toString tick
  "SIM" ++ "".pushn '0' (5 - digits.length) ++ digits

/-- The waypoint that has a number on the lattice. -/
def waypoint (number : Nat) : Waypoint := ⟨mapId, number⟩

/-- The waypoint where a vehicle starts: the vehicles are spread evenly over the lattice. -/
def startPoint (vehicles points i : Nat) : Waypoint :=
  waypoint (i * points / vehicles + 1)

section

variable {α : Type} [Scalar α]

/-- The distance of neighbouring points. -/
def spacing : α := ((1000 : Nat) : α)

/-- The radius of simulated vehicles. -/
def vehicleRadius : α := ((300 : Nat) : α)

/-- The lattice with a side of the given number of points. -/
def floorPlan (side : Nat) : Network α :=
  Network.lattice mapId side side spacing

/-- The vehicles that a simulation starts with. -/
def fleetRegistry (network : Network α) (vehicles points : Nat) : Registry α :=
  (List.range vehicles).foldl (fun registry i =>
    let w := startPoint vehicles points i
    match network.position w with
    | none => registry
    | some p =>
      registry.upsert
        { Vehicle.ready (vehicleId (i + 1)) mapId p vehicleRadius with currentPoint := some w.id })
    {}

/-- The report of a vehicle that stays where it is. -/
def presence (v : Vehicle α) : VehicleReport α :=
  { VehicleReport.ofPosition v.id v.mapId v.position with currentPoint := v.currentPoint }

/-- The settings with a floor that is large enough for a lattice. -/
def widen (settings : Settings α) (side : Nat) : Settings α :=
  let extent : α := (side : α) * spacing
  { settings with
    floor.width := max settings.floor.width extent
    floor.height := max settings.floor.height extent }

/-- A simulation in which every vehicle has reported where it stands. -/
def start (settings : Settings α) (vehicles : Nat) : Simulation α :=
  let side := gridSide vehicles
  let network := floorPlan side
  let registry := fleetRegistry network vehicles (side * side)
  let fleet := Fleet.start settings registry network none {}
  { fleet := registry.all.foldl (fun fleet v => (fleet.report (presence v)).2) fleet
    points := side * side }

/-- The waypoints that vehicles other than the given one stand on. -/
def occupied (s : Simulation α) (vehicleId : String) : List Waypoint :=
  (s.fleet.registry.all.filter (·.id != vehicleId)).filterMap Vehicle.waypoint

/-- A shortest route around the other vehicles, or through them if there is no way around. -/
def routeAround (s : Simulation α) (vehicleId : String) (start goal : Waypoint) : Option Route :=
  let avoid := s.occupied vehicleId
  (s.fleet.network.shortestRoute start goal avoid.contains).or
    (s.fleet.network.shortestRoute start goal fun _ => false)

/-- The route that a vehicle at a waypoint is expected to take for a trip: to its origin and on to
its destination. -/
def expectedRoute (s : Simulation α) (vehicleId : String) (start origin destination : Waypoint) :
    Route :=
  let approach := (s.routeAround vehicleId start origin).getD [start]
  let transport := (s.routeAround vehicleId origin destination).getD []
  approach ++ transport.tail

/-- Turns a trip into an order and, if it finds a vehicle, lays down the expected route. -/
def spawn (s : Simulation α) (tick : Nat) (trip : Trip) : Except Fault (Simulation α) := do
  let origin := waypoint trip.origin
  let destination := waypoint trip.destination
  let (chosen, fleet) := s.fleet.assign (.ofRoute (orderCode tick) origin destination)
  let s := { s with fleet, created := s.created + 1 }
  match chosen with
  | none => return { s with unassigned := s.unassigned + 1 }
  | some id =>
    let s := { s with assigned := s.assigned + 1 }
    match fleet.registry.get? id with
    | none => throw (.unknownVehicle id)
    | some v =>
      match v.waypoint with
      | none => throw (.internal (id ++ " is not on a waypoint"))
      | some start =>
        let expected := s.expectedRoute id start origin destination
        return { s with
          fleet := { fleet with
            backlog := fleet.backlog.modifyHead id fun task => { task with expected } } }

/-- Plans a vehicle further. -/
def planVehicle (s : Simulation α) (id : String) : Simulation α :=
  let (outcome, fleet) := s.fleet.planRemaining id
  let s := { s with fleet }
  match outcome with
  | .committed _ => { s with committed := s.committed + 1 }
  | .deferred => { s with deferred := s.deferred + 1 }
  | .noTask => s

/-- Plans every vehicle that has a sub-task. -/
def planAll (s : Simulation α) : Simulation α :=
  s.fleet.backlog.vehicles.foldl planVehicle s

/-- Has a vehicle report that it stands on a waypoint, with the given route ahead of it. -/
def reportAt (s : Simulation α) (id : String) (here : Waypoint) (remaining : Route) :
    Simulation α :=
  match s.fleet.network.position here with
  | none => s
  | some p =>
    let report := { VehicleReport.ofPosition id here.mapId p with
      currentPoint := some here.id
      remaining }
    { s with fleet := (s.fleet.report report).2 }

/-- Moves a vehicle that is under way to the next waypoint, or finishes its sub-task if it stands on
the last waypoint of the expected route. -/
def advanceVehicle (s : Simulation α) (id : String) : Except Fault (Simulation α) :=
  match s.fleet.backlog.head? id with
  | none => .ok s
  | some task =>
    if task.stage != .run then .ok s
    else
      match task.effectiveRoute with
      | [] => .ok s
      | [last] =>
        if task.expected.getLast? == some last then do
          let s := s.reportAt id last []
          let (_, fleet) ← s.fleet.finish id
          return { s with fleet, finished := s.finished + 1 }
        else .ok s
      | _ :: next :: rest => .ok (s.reportAt id next (next :: rest))

/-- Moves every vehicle that is under way. -/
def advanceAll (s : Simulation α) : Except Fault (Simulation α) :=
  s.fleet.backlog.vehicles.foldlM advanceVehicle s

/-- One tick of the simulation. -/
def tick (s : Simulation α) (number : Nat) (wanted : Option Trip) :
    Except Fault (Simulation α) := do
  let s ← match wanted with
    | none => .ok s
    | some trip => s.spawn number trip
  s.planAll.advanceAll

/-- The ticks of a simulation from one number on. -/
def run : Nat → Simulation α → List (Option Trip) → Except Fault (Simulation α)
  | _, s, [] => .ok s
  | number, s, wanted :: later => do run (number + 1) (← s.tick number wanted) later

end

end Simulation

end AgvDispatch
