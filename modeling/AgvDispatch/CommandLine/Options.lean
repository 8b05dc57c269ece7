/-!
# Options of a command line

The arguments of a command are options and nothing else. An option is written with two dashes and
its name, or with one dash and its letter. A switch stands alone. Other options take a value, which
follows as an argument of its own, or in the same argument after an equals sign or directly behind
the letter. An argument that begins with a dash is never taken for a value, except for a single
dash.

* `Options.read` reads arguments up to the name of a command.
* `Options.settle` accounts for the option that was read last.
-/

namespace AgvDispatch.CommandLine

/-- What is wrong with the arguments, or what they ask for instead of a command. -/
inductive UsageProblem where
  /-- There are no arguments at all. -/
  | nothingGiven
  /-- There is no command. -/
  | noCommand
  /-- There is no command of that name. -/
  | unknownCommand
  /-- There is no option of that name, or the argument is none. -/
  | unknownArgument
  /-- An option lacks its value. -/
  | missingValue
  /-- The value of an option is malformed. -/
  | malformedValue
  /-- A switch has a value. -/
  | needlessValue
  /-- An option is given twice. -/
  | repeatedOption
  /-- Help is asked for. -/
  | helpWanted
  /-- The version is asked for. -/
  | versionWanted
  deriving DecidableEq, Repr

/-- What an option does. -/
inductive OptionKind where
  /-- It takes a value that passes a test. -/
  | valued (accepts : String → Bool)
  /-- It stands alone. -/
  | switch
  /-- It asks for something instead of a command. -/
  | inquiry (answer : UsageProblem)

/-- An option. -/
structure OptionForm where
  /-- The name after two dashes. -/
  name : String
  /-- The letter after one dash. -/
  letter : Option Char
  /-- What the option does. -/
  kind : OptionKind

/-- An option that has been read but not accounted for. -/
structure PendingOption where
  /-- The name of the option. -/
  name : String
  /-- The test that its value has to pass. -/
  accepts : String → Bool
  /-- The value, once it is there. -/
  value : Option String

/-- The options read so far. -/
structure Options where
  /-- The values by the names of the options. A switch has an empty value. -/
  settled : List (String × String)
  /-- The option that was read last, if it takes a value. -/
  pending : Option PendingOption

namespace Options

/-- Before anything is read. -/
def none : Options := ⟨[], .none⟩

/-- The value of an option that was given. -/
def value? (options : Options) (name : String) : Option String := options.settled.lookup name

/-- Accounts for an option. -/
def give (options : Options) (name value : String) : Except UsageProblem Options :=
  if (options.value? name).isSome then .error .repeatedOption
  else .ok { options with settled := options.settled ++ [(name, value)] }

/-- Accounts for an option with its value. An option given twice counts as such even if its value is
malformed. -/
def giveValue (options : Options) (name : String) (accepts : String → Bool) (value : String) :
    Except UsageProblem Options := do
  let options ← options.give name value
  if accepts value then .ok options else .error .malformedValue

/-- Accounts for the option that was read last. -/
def settle (options : Options) : Except UsageProblem Options :=
  match options.pending with
  | .none => .ok options
  | some pending =>
    match pending.value with
    | .none => .error .missingValue
    | some value =>
      { options with pending := .none }.giveValue pending.name pending.accepts value

/-- Whether the option that was read last waits for its value. -/
def awaitsValue (options : Options) : Bool :=
  options.pending.any fun pending => pending.value.isNone

/-- The options after an option, with the value that was attached to it. -/
def take (options : Options) (form : OptionForm) (attached : Option String) :
    Except UsageProblem Options :=
  match form.kind, attached with
  | .valued accepts, some value => do (← options.settle).giveValue form.name accepts value
  | .valued accepts, .none => do
    return { ← options.settle with pending := some ⟨form.name, accepts, .none⟩ }
  | .switch, .none => do (← options.settle).give form.name ""
  | .inquiry answer, .none => do
    let _ ← options.settle
    .error answer
  | _, some _ => .error .needlessValue

/-- The options after an argument that begins with two dashes, given what follows them. -/
def takeName (forms : List OptionForm) (options : Options) (argument : List Char) :
    Except UsageProblem Options :=
  let name := String.ofList (argument.takeWhile (· != '='))
  let attached := match argument.dropWhile (· != '=') with
    | [] => .none
    | _ :: value => some (String.ofList value)
  match forms.find? fun form => form.name == name with
  | .none => .error .unknownArgument
  | some form => options.take form attached

/-- The options after an argument that begins with one dash, given the letters that follow it. -/
def takeLetters (forms : List OptionForm) : Options → List Char → Except UsageProblem Options
  | options, [] => .ok options
  | options, letter :: rest =>
    match forms.find? fun form => form.letter == some letter with
    | .none => .error .unknownArgument
    | some form =>
      match form.kind, rest with
      | .valued _, [] => options.take form .none
      | .valued _, '=' :: value => options.take form (some (String.ofList value))
      | .valued _, value => options.take form (some (String.ofList value))
      | _, _ => do takeLetters forms (← options.take form .none) rest

/-- The fault of an argument that is no option. -/
def misplaced (commands : List String) (closed : Bool) (argument : String) : UsageProblem :=
  if commands.isEmpty || (closed && commands.contains argument) then .unknownArgument
  else .unknownCommand

/-- Reads arguments up to the name of a command, and yields the options and what follows them.
`closed` says that two dashes alone have closed the options. -/
def read (forms : List OptionForm) (commands : List String) :
    Bool → Options → List String → Except UsageProblem (Options × List String)
  | _, options, [] => .ok (options, [])
  | true, _, argument :: _ => .error (misplaced commands true argument)
  | false, options, argument :: rest =>
    if !options.awaitsValue && commands.contains argument then .ok (options, argument :: rest)
    else
      match argument.toList with
      | ['-', '-'] => read forms commands true options rest
      | '-' :: '-' :: name => do
        read forms commands false (← options.takeName forms name) rest
      | '-' :: letter :: letters => do
        read forms commands false (← options.takeLetters forms (letter :: letters)) rest
      | _ =>
        match options.pending with
        | some ⟨name, accepts, .none⟩ =>
          let pending := some ⟨name, accepts, some argument⟩
          read forms commands false { options with pending } rest
        | _ => .error (misplaced commands false argument)

end Options

end AgvDispatch.CommandLine
