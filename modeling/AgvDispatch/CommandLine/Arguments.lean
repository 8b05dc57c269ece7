import AgvDispatch.CommandLine.Options
import AgvDispatch.Decimal.Reading
/-!
# Arguments

What the program is asked to do: to simulate a fleet, or to check the settings. Either command takes
the directory of the settings. It may also be given before the command, where it counts less, or in
the environment, where it counts less still.
-/

namespace AgvDispatch.CommandLine

/-- What a simulation is asked for. -/
structure SimulateArguments where
  /-- How many vehicles there are. -/
  vehicles : Nat
  /-- How many ticks are run. -/
  ticks : Nat
  /-- The seed of the random demand, unless it is left to chance. -/
  seed : Option Nat
  /-- The chance of a new transport in each tick. -/
  taskRate : Float
  /-- Whether the summary is printed as a record. -/
  json : Bool
  deriving Repr

/-- A command. -/
inductive Command where
  /-- Simulate a fleet. -/
  | simulate (arguments : SimulateArguments)
  /-- Check the settings. -/
  | checkSettings
  deriving Repr

/-- What the program is asked to do. -/
structure Request where
  /-- The directory of the settings. -/
  directory : String
  /-- The command. -/
  command : Command
  deriving Repr

/-! ### Values -/

/-- A natural number of 64 bits, with an optional plus sign. -/
def readCount? (value : String) : Option Nat := Text.readNat64? value.toList

/-- A number. -/
def readRate? (value : String) : Option Float := Decimal.readReal? value.toList

/-! ### Forms -/

/-- The option of the directory. -/
def directoryForm : OptionForm := ⟨"config-dir", some 'c', .valued fun _ => true⟩

/-- The option that asks for help. -/
def helpForm : OptionForm := ⟨"help", some 'h', .inquiry .helpWanted⟩

/-- The options before the command. -/
def generalForms : List OptionForm :=
  [directoryForm, helpForm, ⟨"version", some 'V', .inquiry .versionWanted⟩]

/-- The options of a simulation. -/
def simulateForms : List OptionForm :=
  [⟨"vehicles", some 'v', .valued fun value => (readCount? value).isSome⟩,
    ⟨"ticks", some 't', .valued fun value => (readCount? value).isSome⟩,
    ⟨"seed", some 's', .valued fun value => (readCount? value).isSome⟩,
    ⟨"task-rate", none, .valued fun value => (readRate? value).isSome⟩,
    ⟨"json", none, .switch⟩, directoryForm, helpForm]

/-- The options of the check. -/
def checkForms : List OptionForm := [directoryForm, helpForm]

/-- The names of the commands. -/
def commandNames : List String := ["simulate", "check-config", "help"]

/-! ### Requests -/

/-- What a simulation is asked for, given the options. -/
def simulateArguments (options : Options) : SimulateArguments where
  vehicles := ((options.value? "vehicles").bind readCount?).getD 4
  ticks := ((options.value? "ticks").bind readCount?).getD 100
  seed := (options.value? "seed").bind readCount?
  taskRate := ((options.value? "task-rate").bind readRate?).getD 0.5
  json := (options.value? "json").isSome

/-- The answer to the command `help`, which takes the name of a command. -/
def helpProblem : List String → UsageProblem
  | [] => .helpWanted
  | [name] => if commandNames.contains name then .helpWanted else .unknownCommand
  | _ => .unknownCommand

/-- The options of a command, all of them accounted for. -/
def commandOptions (forms : List OptionForm) (arguments : List String) :
    Except UsageProblem Options := do
  let (options, _) ← Options.read forms [] false .none arguments
  options.settle

/-- What the program is asked to do. The faults of a command are found before those of the options
that precede it. -/
def Request.ofArguments (arguments : List String) (environment : List (String × String)) :
    Except UsageProblem Request := do
  let preset? := environment.lookup "FLEET_CONFIG_DIR"
  let (general, rest) ← Options.read generalForms commandNames false .none arguments
  let finish (own : Options) (command : Command) : Except UsageProblem Request := do
    let general ← general.settle
    let given? := (own.value? "config-dir").or (general.value? "config-dir")
    return { directory := (given?.or preset?).getD "config", command }
  match rest with
  | [] =>
    let general ← general.settle
    throw (if general.settled.isEmpty && preset?.isNone then .nothingGiven else .noCommand)
  | "simulate" :: rest =>
    let own ← commandOptions simulateForms rest
    finish own (.simulate (simulateArguments own))
  | "check-config" :: rest => finish (← commandOptions checkForms rest) .checkSettings
  | _ :: rest => throw (helpProblem rest)

end AgvDispatch.CommandLine
