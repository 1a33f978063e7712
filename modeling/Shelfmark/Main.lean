import Shelfmark.CommandLine.Run

/-!
# Command line - The program

The only part that touches the world: it reads the files that a command names,
prints the outcome and sets the exit code.
-/

open Shelfmark

/-- The text of a file; `none` if it is missing or is not text. -/
def readText? (path : Text) : IO (Option Text) := do
  try
    return some (← IO.FS.readFile (String.ofList path)).toList
  catch _ => return none

/-- Runs the program with the given arguments. -/
def main (arguments : List String) : IO UInt32 := do
  let arguments := arguments.map String.toList
  let names := ((CommandLine.Command.ofArguments? arguments).map (·.fileNames)).getD []
  let texts ← names.mapM fun name => return (name, ← readText? name)
  let outcome := CommandLine.run arguments fun name => (texts.lookup name).join
  if outcome.code = 0 then IO.print (String.ofList outcome.output)
  else if outcome.code = 2 then IO.eprintln "error: the arguments are not understood"
  else IO.eprintln "error: a file cannot be read"
  return outcome.code.toUInt32
