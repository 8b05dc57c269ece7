import AgvDispatch.CommandLine.Arguments
/-!
# Usage

The help text, and the wording of what is wrong with arguments.
-/

namespace AgvDispatch.CommandLine

/-- The name and the version of the program. -/
def version : String := "agv-dispatch 0.1.0"

/-- The help text. -/
def help : List String :=
  ["AGV fleet dispatch core: traffic, task lifecycle and ordered command dispatch",
    "",
    "Usage: agv-dispatch [OPTIONS] <COMMAND>",
    "",
    "Commands:",
    "  simulate      Drive the full engine over a grid map with simulated vehicles",
    "  check-config  Load and validate configuration",
    "  help          Print this message",
    "",
    "Options:",
    "  -c, --config-dir <DIR>  Directory holding default.toml and <FLEET_ENV>.toml",
    "  -h, --help              Print help",
    "  -V, --version           Print version",
    "",
    "Options of simulate:",
    "  -v, --vehicles <N>      Number of simulated vehicles [default: 4]",
    "  -t, --ticks <N>         Number of ticks to run [default: 100]",
    "  -s, --seed <N>          Random seed (drawn from entropy when omitted)",
    "      --task-rate <P>     Chance of a new transport task per tick [default: 0.5]",
    "      --json              Print the summary as JSON"]

namespace UsageProblem

/-- The wording of a problem. -/
def message : UsageProblem → String
  | nothingGiven => "a command is required"
  | noCommand => "a command is required, but none was given"
  | unknownCommand => "unrecognized command"
  | unknownArgument => "unexpected argument"
  | missingValue => "an option lacks its value"
  | malformedValue => "the value of an option is malformed"
  | needlessValue => "an option takes no value"
  | repeatedOption => "an option is given more than once"
  | helpWanted => "help is asked for"
  | versionWanted => "the version is asked for"

/-- Whether the problem is a question that can be answered, rather than a mistake. -/
def isQuestion : UsageProblem → Bool
  | helpWanted | versionWanted => true
  | _ => false

/-- What is printed. -/
def lines : UsageProblem → List String
  | helpWanted | nothingGiven => help
  | versionWanted => [version]
  | problem => ["error: " ++ problem.message, "", "For more information, try '--help'."]

end UsageProblem

end AgvDispatch.CommandLine
