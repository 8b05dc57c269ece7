import AgvDispatch.Settings.Check
import AgvDispatch.Simulation.Run
/-!
# The summary of a simulation

A whole simulation, from the options to the numbers that it comes down to.
-/

namespace AgvDispatch

/-- What a simulation is asked to do. -/
structure SimulationOptions where
  /-- How many vehicles there are. -/
  vehicles : Nat
  /-- How many ticks are run. -/
  ticks : Nat
  /-- The seed of the random demand. -/
  seed : Nat
  /-- The chance of a new transport in each tick. -/
  taskRate : Float
  deriving Repr, Inhabited

/-- What a simulation came down to. -/
structure SimulationSummary (α : Type) where
  /-- The seed of the random demand. -/
  seed : Nat
  /-- How many vehicles there were. -/
  vehicles : Nat
  /-- How many ticks were run. -/
  ticks : Nat
  /-- The side of the lattice. -/
  gridSide : Nat
  /-- How many orders there were. -/
  created : Nat
  /-- How many of them were given to a vehicle. -/
  assigned : Nat
  /-- How many of them found no vehicle. -/
  unassigned : Nat
  /-- How many sub-tasks were finished. -/
  finished : Nat
  /-- How many plans were committed. -/
  committed : Nat
  /-- How many plans were deferred. -/
  deferred : Nat
  /-- How many commands were delivered. -/
  sent : Nat
  /-- Whether every command was delivered in the end. -/
  flushed : Bool
  /-- The fleet in the end. -/
  fleet : FleetSnapshot α
  deriving Repr

namespace SimulationOptions

/-- Whether the options can be carried out. -/
def checked (o : SimulationOptions) : Except Fault SimulationOptions :=
  if o.vehicles = 0 then .error (.invalidArgument "simulation needs at least one vehicle")
  else if 0 ≤ o.taskRate ∧ o.taskRate ≤ 1 then .ok o
  else
    .error (.invalidArgument ("task rate must be within 0..=1, got " ++ Decimal.plain o.taskRate))

end SimulationOptions

namespace Simulation

/-- The numbers that a simulation came down to, once every command has reached the sink. -/
def summarise {α : Type} [Scalar α] (s : Simulation α) (o : SimulationOptions) :
    SimulationSummary α :=
  let fleet := s.fleet.settle
  { seed := o.seed
    vehicles := o.vehicles
    ticks := o.ticks
    gridSide := gridSide o.vehicles
    created := s.created
    assigned := s.assigned
    unassigned := s.unassigned
    finished := s.finished
    committed := s.committed
    deferred := s.deferred
    sent := fleet.sink.count
    flushed := !fleet.dispatcher.isBusy
    fleet := fleet.snapshot }

/-- Runs a simulation. The floor of the settings is widened to hold the lattice. -/
def simulate (settings : Settings Float) (options : SimulationOptions) :
    Except Fault (SimulationSummary Float) := do
  let o ← options.checked
  let settings ← (widen settings (gridSide o.vehicles)).checked
  let s := start settings o.vehicles
  let trips := demand o.taskRate s.points o.ticks (RandomWords.ofSeed o.seed.toUInt64)
  return (← run 0 s trips).summarise o

end Simulation

namespace SimulationSummary

/-- The lines of a summary after the first one. -/
def details {α : Type} (s : SimulationSummary α) : List String :=
  ["  tasks:    created=" ++ toString s.created ++ " assigned=" ++ toString s.assigned
      ++ " unassigned=" ++ toString s.unassigned ++ " finished=" ++ toString s.finished,
    "  planning: committed=" ++ toString s.committed ++ " deferred=" ++ toString s.deferred,
    "  commands: sent=" ++ toString s.sent ++ " flushed="
      ++ (if s.flushed then "true" else "false"),
    "  traffic:  " ++ s.fleet.traffic.text,
    "  live sub-tasks at end: " ++ toString s.fleet.liveTasks]

/-- The first line of a summary, after the name of the run. -/
def headline {α : Type} (s : SimulationSummary α) : String :=
  toString s.vehicles ++ " vehicles, " ++ toString s.ticks ++ " ticks, " ++ toString s.gridSide
    ++ "x" ++ toString s.gridSide ++ " grid, seed " ++ toString s.seed

end SimulationSummary

end AgvDispatch
