import AgvDispatch.CommandLine.Arguments
import AgvDispatch.Json.Fleet
import AgvDispatch.Json.Writer
import AgvDispatch.Settings.Check
import AgvDispatch.Simulation.Summary
/-!
# Reports

What the commands print.
-/

namespace AgvDispatch.CommandLine

/-- A line in the colour of a code. -/
def coloured (code line : String) : String := "\x1b[" ++ code ++ "m" ++ line ++ "\x1b[0m"

/-- The report on the settings of a directory. -/
def checkReport (directory : String) (s : Settings Float) : List String :=
  match s.problems with
  | [] =>
    [coloured "32" ("✓ configuration in '" ++ directory ++ "' is valid"),
      "  spatial:      " ++ Decimal.plain s.floor.width ++ "x" ++ Decimal.plain s.floor.height
        ++ " grid " ++ toString s.floor.gridSize,
      "  traffic:      buffer " ++ Decimal.plain s.traffic.bufferRadius ++ " safety "
        ++ Decimal.plain s.traffic.safetyBuffer,
      "  distribution: " ++ s.allocation.mode.text ++ " (lowest battery "
        ++ toString s.allocation.lowestBattery ++ ")"]
  | problems =>
    coloured "31" ("✗ " ++ toString problems.length ++ " configuration error(s):")
      :: problems.map fun problem => "  - " ++ problem.message

/-- The options of a simulation, with a seed in case none is asked for. -/
def SimulateArguments.options (arguments : SimulateArguments) (seed : Nat) :
    SimulationOptions where
  vehicles := arguments.vehicles
  ticks := arguments.ticks
  seed := arguments.seed.getD seed
  taskRate := arguments.taskRate

/-- Simulates a fleet. The settings have to be valid. -/
def SimulateArguments.run (arguments : SimulateArguments) (s : Settings Float) (seed : Nat) :
    Except Fault (SimulationSummary Float) := do
  Simulation.simulate (← s.checked) (arguments.options seed)

/-- The report on a simulation of the given name, as lines of text. -/
def summaryReport (run : String) (summary : SimulationSummary Float) : List String :=
  ("Simulation" ++ run ++ ": " ++ summary.headline) :: summary.details

end AgvDispatch.CommandLine
