import Quadrotor.Cli.Command
import Quadrotor.Model.Evaluate
import Quadrotor.Sim.Rollout
import Quadrotor.Yaml.Reader
import Quadrotor.Yaml.Writer
import Quadrotor.Document.Writer
/-!
# What the command line prints

The command line prints results on standard output and, when a command fails, one line
`Error: ` followed by a structured account of the failure on standard error. This module
computes both from the text of the files the commands read, so that only the reading of files
and the printing are left to the program itself.

* `defaults` prints the tagged parameter set as YAML;
* `eval` prints the derivative's components in exponent notation, joined by commas;
* `simulate` prints the record of the run as YAML or as indented JSON.

## Accounts of failures

A failure is written as a constructor applied to its fields by name, for example
`LengthMismatch { what: "initial state", expected: 2, actual: 3 }`, with texts quoted and
escaped (`Document.debugQuote`), lists in brackets, and numbers in `Notation.account`.
-/

namespace Quadrotor

namespace Notation

/-- Numbers in accounts of failures: written out in full from `10 ^ -4` to below `10 ^ 16`,
with an exponent otherwise; integral values keep `.0`; ties between two shortest digit strings
go to the larger. -/
def account : Notation where
  positional k := -4 < k && k ≤ 16
  pointZero := true
  exponentPlus := false
  tie := .up
  nanText := "NaN"
  infinityText := "inf"

/-- Exponent notation: always one digit before the point and an exponent, as `1.5e-3` or `0e0`;
ties between two shortest digit strings go to the larger. -/
def exponent : Notation where
  positional _ := false
  pointZero := false
  exponentPlus := false
  tie := .up
  nanText := "NaN"
  infinityText := "inf"

end Notation

/-- A constructor with named fields, as `Name { a: x, b: y }`. -/
def accountOf (name : String) (fields : List (String × String)) : String :=
  name ++ " \x7b " ++ ", ".intercalate (fields.map fun (k, v) => k ++ ": " ++ v) ++ " \x7d"

/-- A list of counts in brackets, as `[2, 3]`. -/
def countsAccount (ns : List Nat) : String := "[" ++ ", ".intercalate (ns.map toString) ++ "]"

namespace GuardError

/-- The account of a refused value. -/
def account : GuardError → String
  | .nonFinite what v =>
    accountOf "NonFinite" [("what", Document.debugQuote what), ("value", Notation.account.render v)]
  | .invalidBounds what lo hi =>
    accountOf "InvalidBounds" [("what", Document.debugQuote what),
      ("min", Notation.account.render lo), ("max", Notation.account.render hi)]
  | .nonPositive what v =>
    accountOf "NonPositive" [("what", Document.debugQuote what),
      ("value", Notation.account.render v)]

end GuardError

namespace ModelError

/-- The account of a model error. -/
def account : ModelError → String
  | .guard e => e.account
  | .dimensionOutOfRange dim stateDim =>
    accountOf "DimensionOutOfRange" [("dim", toString dim), ("state_dim", toString stateDim)]
  | .shapeMismatch what expected actual =>
    accountOf "ShapeMismatch" [("what", Document.debugQuote what),
      ("expected", countsAccount expected), ("actual", countsAccount actual)]
  | .lengthMismatch what expected actual =>
    accountOf "LengthMismatch" [("what", Document.debugQuote what),
      ("expected", toString expected), ("actual", toString actual)]
  | .invariant what => accountOf "Invariant" [("what", Document.debugQuote what)]
  | .panic what => accountOf "panic" [("what", Document.debugQuote what)]

end ModelError

namespace RunError

/-- The account of a failed run. -/
def account : RunError → String
  | .invalidArg what => accountOf "InvalidArg" [("what", Document.debugQuote what)]
  | .nonPhysical what t =>
    accountOf "NonPhysical" [("what", Document.debugQuote what), ("t", Notation.account.render t)]
  | .model e => "Dynamics(" ++ e.account ++ ")"

end RunError

/-- Why a file could not be read: the system's error number if there is one, the kind of
failure and its description. -/
structure ReadFailure where
  code : Option Nat
  kind : String
  description : String

/-- The account of a failed read. -/
def ReadFailure.account (f : ReadFailure) : String :=
  match f.code with
  | some c =>
    accountOf "Os" [("code", toString c), ("kind", f.kind),
      ("message", Document.debugQuote f.description)]
  | none => accountOf "Custom" [("kind", f.kind), ("error", Document.debugQuote f.description)]

/-- Why a command failed. -/
inductive CliError where
  /-- A file could not be read. -/
  | fileRead (path : String) (failure : ReadFailure)
  /-- A file was read but does not hold what it should. -/
  | parse (path : String) (message : String)
  /-- The model refused its parameters, its state or a control. -/
  | dynamics (e : ModelError)
  /-- The run failed. -/
  | simulation (e : RunError)

/-- The account of a failed command. -/
def CliError.account : CliError → String
  | .fileRead path f =>
    accountOf "FileRead" [("path", Document.debugQuote path), ("source", f.account)]
  | .parse path message =>
    accountOf "Parse" [("path", Document.debugQuote path),
      ("source", "Error(" ++ Document.debugQuote message ++ ")")]
  | .dynamics e => "Dynamics(" ++ e.account ++ ")"
  | .simulation e => "Simulation(" ++ e.account ++ ")"

namespace Command

/-- A file's text, or why it could not be read. -/
abbrev FileText := Except ReadFailure String

/-- Reads a file of the command line as a document. -/
def documentOf (path : String) (text : FileText) : Except CliError Document :=
  match text with
  | .error f => .error (.fileRead path f)
  | .ok s => (Yaml.read? s).mapError (.parse path)

/-- Decodes a document read from a file. -/
def decodeFile {α : Type} (path : String) (decode : Document → Except DecodeError α)
    (d : Document) : Except CliError α :=
  (decode d).mapError fun e => .parse path e.message

/-- What `defaults` prints. -/
def defaultsOutput (kind : ModelKind) : String := Yaml.render kind.defaults.toTagged

/-- What `eval` prints: the parameter set is the file's if one is named (its text is given) and
the default otherwise; the model starts in the state at which the derivative is taken. -/
def evalOutput (kind : ModelKind) (state control : List Float)
    (config : Option (String × FileText)) : Except CliError String := do
  let c ← match config with
    | none => pure kind.defaults
    | some (path, text) => documentOf path text >>= decodeFile path kind.decodeConfig
  let m ← (Model.make c state).mapError .dynamics
  let dx ← (m.vehicle.derivative (.scalar state) (.scalar control)).mapError .dynamics
  match dx with
  | .scalar values => pure (",".intercalate (values.map Notation.exponent.render) ++ "\n")
  | .batched _ => pure ""

/-- What `simulate` prints: the record of the scenario's run under its constant control. -/
def simulateOutput (path : String) (text : FileText) (json : Bool) :
    Except CliError String := do
  let s ← documentOf path text >>= decodeFile path Scenario.decode
  let m ← (Model.make s.config s.initialState).mapError .dynamics
  let r ← (rollout m (Policy.constant s.control) s.options).2.mapError .simulation
  if json then pure (r.toDocument.renderPretty 0 ++ "\n")
  else pure (Yaml.render r.toDocument)

end Command

end Quadrotor
