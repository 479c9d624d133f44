import WarehouseSql.CommandLine

/-!
The program: reads the environment and a description file, and prints lines of SQL.
-/

namespace WarehouseSql

/-- The variables of the environment that are set. -/
def readEnvironment : IO (List (String × String)) :=
  environmentVariables.filterMapM fun name => do
    return (← IO.getEnv name).map fun content => (name, content)

/-- The contents of the file that an invocation needs. -/
def readDescription (invocation : Invocation) : IO (Except CommandError String) :=
  match invocation.path? with
  | none => return .ok ""
  | some path => do
    try
      return .ok (← IO.FS.readFile path)
    catch _ =>
      return .error (.unreadable path)

def answer (arguments : List String) : IO (Except CommandError (List String)) := do
  let environment ← readEnvironment
  let config := ConnectionConfig.ofEnvironment fun name => environment.lookup name
  match config, Invocation.ofArguments arguments with
  | .error error, _ => return .error (.environment error)
  | .ok _, .error error => return .error error
  | .ok config, .ok invocation =>
    match ← readDescription invocation with
    | .error error => return .error error
    | .ok description => return invocation.lines config description

end WarehouseSql

/-- Prints the lines, or the reason why there are none. -/
def main (arguments : List String) : IO UInt32 := do
  match ← WarehouseSql.answer arguments with
  | .ok lines =>
    lines.forM fun line => IO.println line
    return 0
  | .error error =>
    IO.eprintln ("Error: " ++ error.message)
    return 1
