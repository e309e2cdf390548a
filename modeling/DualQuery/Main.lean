import DualQuery.Demo

/-!
# Command line

`dualquery [descriptor.json] [entity]` answers a query over the demonstration shop in both query
languages and prints both results. The configuration is read from the file that `POLYQUERY_CONFIG`
names, else from the variables `POLYQUERY_*`.
-/

namespace DualQuery

/-- What the names of all variables start with. -/
def variablePrefix : String := "POLYQUERY_"

/-- The text of a file, if it can be read. -/
def readText? (path : String) : IO (Option String) := do
  try
    return some (← IO.FS.readFile path)
  catch _ =>
    return none

/-- The configuration of the process. -/
def readConfig : IO (Except ConfigError Config) := do
  match ← IO.getEnv (variablePrefix ++ "CONFIG") with
  | some path =>
    match ← readText? path with
    | some text => return Config.parse text
    | none => return .error .unreadable
  | none =>
    let values ← Config.settingNames.mapM fun name => do
      return (name, ← IO.getEnv (variablePrefix ++ name))
    return .ok (.ofEnvironment fun name => (values.lookup name).join)

/-- Print both results, or why there are none. -/
def report : Except Demo.Failure (ResultPage × ResultPage) → IO UInt32
  | .ok (relational, document) => do
    IO.println ("relational:\n" ++ relational.toJson.pretty)
    IO.println ("document:\n" ++ document.toJson.pretty)
    return 0
  | .error failure => do
    IO.eprintln ("Error: " ++ failure.message)
    return 1

end DualQuery

/-- Answer the query of the command line. -/
def main (args : List String) : IO UInt32 := do
  let config ← DualQuery.readConfig
  let entity := (args[1]?).getD "orders"
  match args with
  | [] => DualQuery.report (DualQuery.Demo.run config none entity)
  | path :: _ =>
    match ← DualQuery.readText? path with
    | some text => DualQuery.report (DualQuery.Demo.run config (some text) entity)
    | none =>
      IO.eprintln ("Error: cannot read " ++ path)
      return 1
