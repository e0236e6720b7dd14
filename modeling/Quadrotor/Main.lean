import Quadrotor.Cli.Report
/-!
# The command line program

Reads the arguments, reads the file a command names, prints what `Command` computes, and
returns the exit status: `0` on success, `1` when a command fails (the account on standard
error after `Error: `), and `2` when the arguments do not form a command.
-/

namespace Quadrotor

/-- The system's error number, which some failures report negated. -/
def errorNumber (code : UInt32) : Nat :=
  if code.toNat < Nat.pow 2 31 then code.toNat else Nat.pow 2 32 - code.toNat

/-- How a system error on reading a file is described. -/
def readFailureOf (e : IO.Error) : ReadFailure :=
  match e with
  | .noFileOrDirectory _ code _ =>
    ⟨some (errorNumber code), "NotFound", "No such file or directory"⟩
  | .permissionDenied _ code _ =>
    ⟨some (errorNumber code), "PermissionDenied", "Permission denied"⟩
  | .inappropriateType _ code _ => ⟨some (errorNumber code), "IsADirectory", "Is a directory"⟩
  | other => ⟨none, "InvalidData", toString other⟩

/-- Reads a file's text, or the reason it cannot be read. -/
def readText (path : String) : IO Command.FileText := do
  try
    let s ← IO.FS.readFile path
    pure (.ok s)
  catch e =>
    pure (.error (readFailureOf e))

/-- Prints a command's output, or the account of its failure. -/
def report (result : Except CliError String) : IO UInt32 := do
  match result with
  | .ok out =>
    IO.print out
    pure 0
  | .error e =>
    IO.eprintln ("Error: " ++ e.account)
    pure 1

/-- Runs a command. -/
def run : Command → IO UInt32
  | .help text => do
    IO.print text
    pure 0
  | .defaults kind => report (.ok (Command.defaultsOutput kind))
  | .eval kind state control config _ => do
    let file ← match config with
      | none => pure none
      | some path => do
        let text ← readText path
        pure (some (path, text))
    report (Command.evalOutput kind state control file)
  | .simulate path json => do
    let text ← readText path
    report (Command.simulateOutput path text json)

end Quadrotor

/-- The program: its arguments, without its own name, are the command. -/
def main (args : List String) : IO UInt32 := do
  match Quadrotor.Command.parse args with
  | .error e =>
    IO.eprint e.text
    pure 2
  | .ok c => Quadrotor.run c
