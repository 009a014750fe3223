import MeshDiscovery.CommandLine.Arguments
import MeshDiscovery.Deployment.Operation
import MeshDiscovery.SocketAddress
import MeshDiscovery.Text.Json

namespace MeshDiscovery.CommandLine

/-- Why the program gives up. -/
inductive RunError where
  /-- Metrics cannot be served at the address. -/
  | metricsAddress
  | config (problem : ConfigError)
  | session (problem : SessionError)
  deriving DecidableEq, Repr

namespace RunError

def message : RunError → String
  | metricsAddress => "failed to start metrics exporter"
  | config problem => problem.message
  | session problem => problem.message

/-- What caused an error, if it was caused by another one. -/
def cause? : RunError → Option String
  | metricsAddress => some SocketAddress.invalid
  | config _ | session _ => none

/-- The wording of an error with its cause on lines of its own. -/
def report (problem : RunError) : String :=
  match problem.cause? with
  | none => problem.message
  | some cause => problem.message ++ "\n\nCaused by:\n    " ++ cause

end RunError

/-- An entry of the log. -/
inductive Entry where
  /-- Something that the client reports. -/
  | notice (notice : Notice)
  | routeChanged (service : String) (host : Resource.VirtualHost)
  | clusterChanged (name : String) (cluster : Resource.Cluster)
  /-- What has been discovered so far. -/
  | summary (state : SessionState) (routes virtualHosts clusters : Nat)
  | shuttingDown
  | exiting (problem : RunError)
  deriving DecidableEq, Repr

namespace Entry

/-- The entry about a change that a watcher was told. -/
def ofEvent? : Event → Option Entry
  | .notified _ _ (.route service host) => some (.routeChanged service host)
  | .notified _ _ (.cluster name cluster) => some (.clusterChanged name cluster)
  | .handled .. | .updated .. | .performed .. => none

/-- How much an entry matters. -/
def level : Entry → Level
  | notice reported => reported.level
  | routeChanged .. | clusterChanged .. | summary .. | shuttingDown => .info
  | exiting _ => .error

/-- The message of an entry. -/
def message : Entry → String
  | notice reported => reported.message
  | routeChanged .. => "route changed"
  | clusterChanged .. => "cluster changed"
  | summary .. => "discovery summary"
  | shuttingDown => "shutting down"
  | exiting problem => "exiting: " ++ problem.message

def endpointText (endpoint : Resource.Endpoint) : String :=
  endpoint.address ++ ":" ++ toString endpoint.port.toNat

def fields : Entry → List (String × NoticeValue)
  | notice reported => reported.fields
  | routeChanged service host =>
    [("service", .text service), ("domains", .text (Text.quoteList host.domains)),
      ("routes", .number host.routes.length)]
  | clusterChanged name cluster =>
    [("cluster", .text name),
      ("endpoints", .text (Text.quoteList (cluster.endpoints.map endpointText)))]
  | summary state routes virtualHosts clusters =>
    [("state", .text state.name), ("routes", .number routes),
      ("virtual_hosts", .number virtualHosts), ("clusters", .number clusters)]
  | shuttingDown => []
  | exiting problem => [("err", .text problem.report)]

def levelName : Level → String
  | .info => "INFO"
  | .warn => "WARN"
  | .error => "ERROR"

def jsonValue : NoticeValue → String
  | .text value => Text.jsonText value
  | .number value => toString value

/-- The value of a field for human readers. -/
def plainValue : NoticeValue → String
  | .text value => Text.quote value
  | .number value => toString value

def json (entry : Entry) : String :=
  Text.jsonObject
    (("level", Text.jsonText (levelName entry.level))
      :: ("message", Text.jsonText entry.message)
      :: entry.fields.map fun field => (field.1, jsonValue field.2))

/-- An entry for human readers. -/
def pretty (entry : Entry) : String :=
  " ".intercalate
    (levelName entry.level :: entry.message
      :: entry.fields.map fun field => field.1 ++ "=" ++ plainValue field.2)

end Entry

end MeshDiscovery.CommandLine
