import MeshDiscovery.CommandLine.Run

namespace MeshDiscovery.CommandLine

def environmentNames : List String :=
  ["INSTANCE_IP", "POD_NAME", "POD_NAMESPACE", "ISTIO_META_CLUSTER_ID"]

def readEnvironment : IO Environment := do
  let values ← environmentNames.mapM fun name => do
    return (← IO.getEnv name).map fun value => (name, value)
  return Environment.ofList (values.filterMap id)

def usage : String :=
  "\n".intercalate ("Usage: pilot [OPTIONS]" :: "" :: "Options:"
    :: Setting.all.map fun setting =>
      "  --" ++ setting.longName ++ (if setting.takesValue then " <VALUE>" else ""))

def printEntries (pretty : Bool) (entries : List Entry) : IO Unit := do
  for entry in entries do
    IO.println (if pretty then entry.pretty else entry.json)
  (← IO.getStdout).flush

/-- What becomes of every attempt to connect. -/
def noTransport : SessionError :=
  .unreachable "transport error"

/-- Runs on, second by second, with a summary whenever it is due. -/
partial def keepRunning (arguments : Arguments) (running : Running) (seconds : Nat) : IO Unit := do
  let due := seconds % max arguments.summaryInterval 1 = 0
  let next := if due then running.summarize else running
  printEntries arguments.logPretty next.log
  IO.sleep 1000
  let waited := { next with log := [] }.waitRefused noTransport 1000
  keepRunning arguments waited (seconds + 1)

end MeshDiscovery.CommandLine

open MeshDiscovery.CommandLine in
def main (line : List String) : IO UInt32 := do
  match Arguments.read line with
  | .error .helpWanted =>
    IO.println usage
    return 0
  | .error .versionWanted =>
    IO.println "pilot 0.1.0"
    return 0
  | .error problem =>
    IO.eprintln s!"error: {problem.message}"
    return UInt32.ofNat problem.exitCode
  | .ok arguments =>
    match Running.start arguments (← readEnvironment) with
    | .error problem =>
      printEntries arguments.logPretty [.exiting problem]
      return 1
    | .ok running =>
      keepRunning arguments running 0
      return 0
