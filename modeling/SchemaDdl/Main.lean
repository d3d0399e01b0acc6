/-
# The program

Runs the commands on the files of the disk.
-/
import SchemaDdl.Command.Run

open SchemaDdl Command

/-- Access to the files of the disk. -/
def diskAccess : FileAccess IO where
  read path := do
    try
      return some (← IO.FS.readFile path)
    catch _ => return none
  write path text := do
    try
      IO.FS.writeFile path text
      return true
    catch _ => return false

/-- Runs the program and reports what went wrong on standard error. -/
def main (arguments : List String) : IO UInt32 := do
  match Request.ofArguments arguments (← IO.getEnv "DDLFORGE_DIALECT") with
  | .error e =>
    IO.eprintln ("error: " ++ e.message)
    return 2
  | .ok request =>
    let outcome ← run diskAccess request
    IO.print outcome.output
    if let some failure := outcome.failure then IO.eprintln ("Error: " ++ failure)
    return outcome.exitCode.toUInt32
