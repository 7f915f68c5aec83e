import CommandFlow.Settings

/-!
# The command line

Reads the settings from the environment and tells what the web server is told, or what is wrong with them.
-/

namespace CommandFlow

open Schema

def variableName (setting : String) : String :=
  String.ofList ((Settings.variableStart ++ setting).toList.map Char.toUpper)

def fieldNames : Fields → List String
  | .nil => []
  | .cons key _ _ _ rest => key :: fieldNames rest

def PathStep.words : PathStep → String
  | .key name => name
  | .index i => toString i

def describeFault (fault : Schema.Fault) : String :=
  ".".intercalate (fault.path.map PathStep.words) ++ ": " ++ fault.kind.name

def Server.describe (server : Server) : String :=
  s!"{server.title} {server.version} on {server.host}:{server.port}"

def givenVariables : IO (Entries String) := do
  let names := (fieldNames settingsFields).map variableName
  let given ← names.mapM fun name => do return (name, ← IO.getEnv name)
  return given.filterMap fun (name, value) => value.map fun value => (name, value)

end CommandFlow

open CommandFlow in
def main : IO UInt32 := do
  match Settings.ofEnvironment (← givenVariables) with
  | .ok settings =>
    IO.println settings.server.describe
    return 0
  | .error faults =>
    faults.forM fun fault => IO.eprintln (describeFault fault)
    return 1
