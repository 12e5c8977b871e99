import Postmortem.CommandLine.Program

/-!
The program on the command line.
-/

open Postmortem

/-- The text of a file, if it can be read. -/
def readText (path : String) : IO (Option String) := do
  try
    return some (← IO.FS.readFile path)
  catch _ => return none

def main (arguments : List String) : IO UInt32 := do
  let ending ← CommandLine.run readText arguments
  IO.print ending.stdout
  IO.eprint ending.stderr
  return ending.code.toUInt32
