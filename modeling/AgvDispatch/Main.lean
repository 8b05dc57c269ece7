import AgvDispatch.CommandLine.Report
import AgvDispatch.CommandLine.Usage
import AgvDispatch.Settings.Source
import Std.Time.Format
/-!
# The program

Collects what the program depends on (arguments, variables, files, chance and the time), hands it to
the library, and prints what comes back.
-/

namespace AgvDispatch.CommandLine

/-- The variables of the environment, each given as a name, an equals sign and a value. -/
def readEnvironment : IO (List (String × String)) := do
  try
    let document ← IO.FS.readFile "/proc/self/environ"
    let entries := document.splitOn "\x00"
    return entries.filterMap fun entry =>
      match entry.splitOn "=" with
      | name :: value :: values => some (name, "=".intercalate (value :: values))
      | _ => none
  catch _ => return []

/-- The text of the file at a path, if there is one. -/
def readDocument (path : String) : IO (Option String) := do
  try
    return some (← IO.FS.readFile path)
  catch _ => return none

/-- The settings of a directory. -/
def readSettings (directory : String) (environment : List (String × String)) :
    IO (Except Fault (Settings Float)) := do
  let documents ← (SettingsSource.paths directory environment).filterMapM fun path => do
    return (← readDocument path).map fun document => (path, document)
  return SettingsSource.load ⟨fun path => documents.lookup path, environment⟩ directory

/-- A number of the given number of bytes, drawn by chance. -/
def drawNumber (bytes : Nat) : IO Nat := do
  return (← IO.getRandomBytes bytes.toUSize).foldl (fun n byte => 256 * n + byte.toNat) 0

/-- A name for a run, drawn by chance: groups of hexadecimal digits that mark it as random. -/
def drawName : IO String := do
  let group (digits : Nat) : IO String := do
    let n ← drawNumber 6
    return String.ofList ((List.range digits).map fun i => Json.hexDigit (n / Nat.pow 16 i % 16))
  let variant := Json.hexDigit (8 + (← drawNumber 1) % 4)
  return "-".intercalate
    [← group 8, ← group 4, "4" ++ (← group 3), String.ofList [variant] ++ (← group 3), ← group 12]

/-- The present time. -/
def readTime : IO String := do
  return (Std.Time.DateTime.ofTimestamp (← Std.Time.Timestamp.now) .UTC).toISO8601String

/-- Prints a fault. -/
def complain (fault : Fault) : IO UInt32 := do
  IO.eprintln ("Error: " ++ fault.message)
  return 1

/-- Simulates a fleet and prints the summary. -/
def runSimulate (settings : Settings Float) (arguments : SimulateArguments) : IO UInt32 := do
  match arguments.run settings (← drawNumber 8) with
  | .error fault => complain fault
  | .ok summary =>
    let name ← drawName
    if arguments.json then
      IO.println (summary.toJson (some name) (some (← readTime))).pretty
    else
      (summaryReport (" " ++ name) summary).forM fun line => IO.println line
    return 0

/-- Checks the settings of a directory and prints the report. -/
def runCheck (directory : String) (settings : Settings Float) : IO UInt32 := do
  (checkReport directory settings).forM fun line => IO.println line
  return if settings.problems.isEmpty then 0 else 1

/-- Does what the program is asked to do. -/
def run (arguments : List String) : IO UInt32 := do
  let environment ← readEnvironment
  match Request.ofArguments arguments environment with
  | .error problem =>
    if problem.isQuestion then
      problem.lines.forM fun line => IO.println line
      return 0
    else
      problem.lines.forM fun line => IO.eprintln line
      return 2
  | .ok request =>
    match ← readSettings request.directory environment with
    | .error fault => complain fault
    | .ok settings =>
      match request.command with
      | .simulate arguments => runSimulate settings arguments
      | .checkSettings => runCheck request.directory settings

end AgvDispatch.CommandLine

/-- Runs the program. -/
def main (arguments : List String) : IO UInt32 :=
  AgvDispatch.CommandLine.run arguments
