import Quadrotor.Cli.Scenario
import Quadrotor.Decimal.Nearest
/-!
# Commands of the command line

The program `qr-cli` has three commands:

* `defaults <MODEL>` prints a model's default parameter set as YAML;
* `eval <MODEL> --state <STATE> --control <CONTROL> [--config <CONFIG>] [--time <TIME>]`
  evaluates the state derivative at one point, the vectors given as comma-separated numbers
  (an option given twice adds its values);
* `simulate <SCENARIO_PATH> [--json]` runs a scenario file and prints the record.

`Command.parse` reads the arguments into a `Command`. A request for help is a command of its
own; arguments that do not fit give a `UsageError`, whose text ends with a pointer to the help.
-/

namespace Quadrotor

/-- What the command line was asked to do. -/
inductive Command where
  /-- Print a model's default parameter set. -/
  | defaults (kind : ModelKind)
  /-- Evaluate the derivative of a model, with parameters from a file if one is named. -/
  | eval (kind : ModelKind) (state control : List Float) (config : Option String) (time : Float)
  /-- Run a scenario file; print the record as JSON if asked, as YAML otherwise. -/
  | simulate (path : String) (json : Bool)
  /-- Print a help text. -/
  | help (text : String)

/-- Arguments that do not form a command, with the text that explains why. -/
structure UsageError where
  text : String

namespace Command

/-- The help of the whole program. -/
def mainHelp : String :=
  "quadreach CLI - evaluate and roll out vehicle dynamics models\n\n" ++
  "Usage: qr-cli <COMMAND>\n\n" ++
  "Commands:\n" ++
  "  defaults  Print the default parameter set of a model as YAML\n" ++
  "  eval      Evaluate the state derivative at a single point\n" ++
  "  simulate  Roll a model forward under constant control\n" ++
  "  help      Print this message or the help of the given subcommand(s)\n\n" ++
  "Options:\n" ++
  "  -h, --help  Print help\n"

/-- The possible values of a model argument, with their meaning. -/
def modelValues : String :=
  "          Possible values:\n" ++
  "          - reduced: 2-state lateral velocity / angle model\n" ++
  "          - planar:  4-state planar velocity / attitude model\n"

/-- The help of the `defaults` command. -/
def defaultsHelp : String :=
  "Print the default parameter set of a model as YAML\n\n" ++
  "Usage: qr-cli defaults <MODEL>\n\n" ++
  "Arguments:\n  <MODEL>\n" ++ modelValues ++ "\n" ++
  "Options:\n  -h, --help\n          Print help (see a summary with '-h')\n"

/-- The help of the `eval` command. -/
def evalHelp : String :=
  "Evaluate the state derivative at a single point\n\n" ++
  "Usage: qr-cli eval [OPTIONS] <MODEL>\n\n" ++
  "Arguments:\n  <MODEL>\n" ++ modelValues ++ "\n" ++
  "Options:\n" ++
  "      --state <STATE>\n          Comma-separated state vector\n\n" ++
  "      --control <CONTROL>\n          Comma-separated control vector\n\n" ++
  "      --config <CONFIG>\n          Optional YAML parameter file for the model\n\n" ++
  "      --time <TIME>\n          Evaluation time (the models are time-invariant)\n\n" ++
  "          [default: 0]\n\n" ++
  "  -h, --help\n          Print help (see a summary with '-h')\n"

/-- The help of the `simulate` command. -/
def simulateHelp : String :=
  "Roll a model forward under constant control\n\n" ++
  "Usage: qr-cli simulate [OPTIONS] <SCENARIO_PATH>\n\n" ++
  "Arguments:\n  <SCENARIO_PATH>  Path to the scenario YAML file\n\n" ++
  "Options:\n" ++
  "      --json  Print the trajectory as JSON instead of YAML\n" ++
  "  -h, --help  Print help\n"

/-- The usage line of a command. -/
def usageOf (name : String) : String :=
  if name = "defaults" then "qr-cli defaults <MODEL>"
  else if name = "eval" then "qr-cli eval [OPTIONS] <MODEL>"
  else if name = "simulate" then "qr-cli simulate [OPTIONS] <SCENARIO_PATH>"
  else "qr-cli <COMMAND>"

/-- A usage error: its message, the usage line if asked for, and the pointer to the help. -/
def usageError (message : String) (usage : Option String) : UsageError :=
  ⟨"error: " ++ message ++ "\n\n" ++
    (match usage with
      | some u => "Usage: " ++ u ++ "\n\n"
      | none => "") ++
    "For more information, try '--help'.\n"⟩

/-- Reads a model argument. -/
def modelOf (value : String) : Except UsageError ModelKind :=
  match ModelKind.all.find? (·.1 == value) with
  | some (_, k) => .ok k
  | none =>
    .error (usageError ("invalid value '" ++ value ++ "' for '<MODEL>'\n" ++
      "  [possible values: reduced, planar]") none)

/-- Reads one number of an option; an empty text and a malformed one are refused with
different reasons. -/
def realOf (option value : String) : Except UsageError Float :=
  match Decimal.parseReal? value with
  | some x => .ok x
  | none =>
    let reason := if value.isEmpty then "cannot parse float from empty string"
      else "invalid float literal"
    .error (usageError ("invalid value '" ++ value ++ "' for '" ++ option ++ "': " ++ reason)
      none)

/-- Reads the comma-separated numbers of an option. -/
def realsOf (option value : String) : Except UsageError (List Float) :=
  (value.splitOn ",").mapM (realOf option)

/-- The options of `eval` read so far. -/
structure EvalArgs where
  model : Option ModelKind := none
  state : List Float := []
  control : List Float := []
  config : Option String := none
  time : Float := 0.0

/-- Splits `--name=value` into the option and its value. -/
def splitOption (arg : String) : String × Option String :=
  match arg.splitOn "=" with
  | [name] => (name, none)
  | name :: rest => (name, some ("=".intercalate rest))
  | [] => (arg, none)

/-- One argument of `eval`, an option joined with its value. -/
inductive EvalToken where
  | help
  | option (name value : String)
  | missingValue (name : String)
  | unexpected (arg : String)
  | positional (arg : String)

/-- The options of `eval` that take a value. -/
def evalOptions : List String := ["--state", "--control", "--config", "--time"]

/-- Splits the arguments of `eval` into tokens: an option takes the text after its `=` or, if it
has none, the next argument, whatever it starts with. -/
def evalTokens : List String → List EvalToken
  | [] => []
  | arg :: rest =>
    if arg = "-h" ∨ arg = "--help" then .help :: evalTokens rest
    else if arg.startsWith "--" then
      let (name, inline) := splitOption arg
      if !evalOptions.contains name then .unexpected arg :: evalTokens rest
      else match inline, rest with
        | some v, more => .option name v :: evalTokens more
        | none, v :: rest' => .option name v :: evalTokens rest'
        | none, [] => [.missingValue name]
    else .positional arg :: evalTokens rest

/-- The text of an option with its value name, as in `--state <STATE>`. -/
def optionText (name : String) : String := name ++ " <" ++ (name.drop 2).toString.toUpper ++ ">"

/-- Reads one token of `eval` into the options read so far. -/
def evalToken (acc : EvalArgs) : EvalToken → Except UsageError EvalArgs
  | .help => .error ⟨evalHelp⟩
  | .missingValue name =>
    .error (usageError ("a value is required for '" ++ optionText name ++
      "' but none was supplied") none)
  | .unexpected arg =>
    .error (usageError ("unexpected argument '" ++ arg ++ "' found") (some (usageOf "eval")))
  | .positional arg =>
    match acc.model with
    | none => (modelOf arg).map fun k => { acc with model := some k }
    | some _ =>
      .error (usageError ("unexpected argument '" ++ arg ++ "' found") (some (usageOf "eval")))
  | .option name value =>
    if name = "--state" then
      (realsOf (optionText name) value).map fun xs => { acc with state := acc.state ++ xs }
    else if name = "--control" then
      (realsOf (optionText name) value).map fun xs => { acc with control := acc.control ++ xs }
    else if name = "--config" then .ok { acc with config := some value }
    else (realOf (optionText name) value).map fun t => { acc with time := t }

/-- Reads the arguments of `eval`, the first error stopping the reading. -/
def evalArgs (args : List String) : Except UsageError EvalArgs :=
  (evalTokens args).foldlM evalToken {}

/-- The error of a missing positional argument. -/
def missing (name argument : String) : UsageError :=
  usageError ("the following required arguments were not provided:\n  " ++ argument)
    (some (usageOf name))

/-- Reads the arguments of a command line, the program name left out. -/
def parse (args : List String) : Except UsageError Command :=
  match args with
  | [] =>
    .error (usageError ("'qr-cli' requires a subcommand but one was not provided\n" ++
      "  [subcommands: defaults, eval, simulate, help]") (some "qr-cli <COMMAND>"))
  | arg :: rest =>
    if arg = "-h" ∨ arg = "--help" then .ok (.help mainHelp)
    else if arg = "help" then
      match rest with
      | [] => .ok (.help mainHelp)
      | "defaults" :: _ => .ok (.help defaultsHelp)
      | "eval" :: _ => .ok (.help evalHelp)
      | "simulate" :: _ => .ok (.help simulateHelp)
      | other :: _ => .error (usageError ("unrecognized subcommand '" ++ other ++ "'") none)
    else if arg = "defaults" then
      if rest.contains "-h" ∨ rest.contains "--help" then .ok (.help defaultsHelp)
      else match rest with
        | [] => .error (missing "defaults" "<MODEL>")
        | [m] => (modelOf m).map .defaults
        | _ :: extra :: _ =>
          .error (usageError ("unexpected argument '" ++ extra ++ "' found")
            (some (usageOf "defaults")))
    else if arg = "eval" then
      match evalArgs rest with
      | .error e => if e.text = evalHelp then .ok (.help evalHelp) else .error e
      | .ok a =>
        match a.model with
        | some k => .ok (.eval k a.state a.control a.config a.time)
        | none => .error (missing "eval" "<MODEL>")
    else if arg = "simulate" then
      if rest.contains "-h" ∨ rest.contains "--help" then .ok (.help simulateHelp)
      else
        let json := rest.contains "--json"
        match rest.filter (· != "--json") with
        | [] => .error (missing "simulate" "<SCENARIO_PATH>")
        | [p] =>
          if p.startsWith "-" then
            .error (usageError ("unexpected argument '" ++ p ++ "' found")
              (some (usageOf "simulate")))
          else .ok (.simulate p json)
        | _ :: extra :: _ =>
          .error (usageError ("unexpected argument '" ++ extra ++ "' found")
            (some (usageOf "simulate")))
    else if arg.startsWith "-" then
      .error (usageError ("unexpected argument '" ++ arg ++ "' found") (some "qr-cli <COMMAND>"))
    else .error (usageError ("unrecognized subcommand '" ++ arg ++ "'") (some "qr-cli <COMMAND>"))

end Command

end Quadrotor
