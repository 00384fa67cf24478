import AdFilter.Command.Run

/-! # The program

Reads the files that a command names, carries the command out, and prints what came of it.
-/

namespace AdFilter

def readFailure : IO.Error → String
  | .noFileOrDirectory .. => "No such file or directory (os error 2)"
  | .permissionDenied .. => "Permission denied (os error 13)"
  | .inappropriateType _ 20 _ => "Not a directory (os error 20)"
  | .inappropriateType _ 21 _ => "Is a directory (os error 21)"
  | e => toString e

def readInput (path : String) : IO (Except String String) := do
  try
    return .ok (← IO.FS.readFile path)
  catch e =>
    return .error (readFailure e)

/-- The time since a moment in milliseconds, with one place. -/
def elapsedSince (start : Nat) : IO String := do
  let tenths := ((← IO.monoNanosNow) - start) / 100000
  return toString (tenths / 10) ++ "." ++ toString (tenths % 10) ++ "ms"

def perform (command : Command) : IO UInt32 := do
  let start ← IO.monoNanosNow
  let files ← command.inputs.mapM fun path => return (path, ← readInput path)
  let outcome := command.run fun path =>
    (files.lookup path).getD (.error "No such file or directory (os error 2)")
  for line in outcome.stderr do
    IO.eprintln line
  IO.print (outcome.stdout (← elapsedSince start))
  return outcome.exitCode.toUInt32

end AdFilter

/-- The entry of the program. -/
def main (args : List String) : IO UInt32 := do
  match AdFilter.Command.ofArguments? args with
  | some command => AdFilter.perform command
  | none =>
    for line in AdFilter.Command.programHelp do
      IO.eprintln line
    return AdFilter.Command.usageExitCode.toUInt32
