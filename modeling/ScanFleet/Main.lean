import ScanFleet.Cli.Program

/-! The command line.  It reads the environment and the files, and prints how the program ends.  No
client of the database is part of it, so that a run ends at the latest where it would connect. -/

namespace ScanFleet.Cli

/-- The variables that give settings. -/
def readEnvironment : IO Environment :=
  Environment.names.filterMapM fun name => do return (← IO.getEnv name).map (name, ·)

/-- What is at a path; a directory has no text. -/
def readPath (path : String) : IO (Option (String × Option String)) := do
  try
    let text ← IO.FS.readFile path
    return some (path, some text)
  catch
    | .noFileOrDirectory .. => return none
    | _ => return some (path, none)

def readFiles (o : Options) (env : Environment) : IO FileTree := do
  let files ← o.paths.filterMapM readPath
  let named ← ((o.namedPath? env files).toList.flatMap pathsAlong).filterMapM readPath
  return files ++ named

/-- There is nothing to dial with. -/
def dial (_ : Url) : Except String Empty := .error "no client is available"

end ScanFleet.Cli

open ScanFleet ScanFleet.Cli

/-- Runs the program. -/
def main (args : List String) : IO UInt32 := do
  let env ← readEnvironment
  match Invocation.read env args with
  | .run _ options =>
    match Task.prepare dial args env (← readFiles options env) with
    | .ok task => nomatch task.connection
    | .error ending =>
      IO.eprintln ending.report
      return ending.code.toUInt32
  | .help =>
    IO.println usage
    return 0
  | .misused =>
    IO.eprintln usage
    return 2
