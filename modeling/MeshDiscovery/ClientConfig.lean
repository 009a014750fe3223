import MeshDiscovery.Metadata
import MeshDiscovery.Node
import MeshDiscovery.Text.Quoted
import MeshDiscovery.Uri

namespace MeshDiscovery

/-- Why a configuration is refused. -/
inductive ConfigError where
  | invalidUri (problem : UriError)
  | missingHost (uri : String)
  | invalidMetadata (key : String) (problem : MetadataError)
  deriving DecidableEq, Repr

def ConfigError.message : ConfigError → String
  | invalidUri problem => s!"invalid server uri: {problem.message}"
  | missingHost uri => s!"invalid server uri: {uri}: missing host"
  | invalidMetadata key problem => s!"invalid metadata {Text.quote key}: {problem.message}"

structure ClientConfig where
  uri : Uri
  node : Node
  /-- How often subscriptions may be checked again, in milliseconds. It is carried along only:
  control planes push. -/
  checkInterval : Nat
  metadata : List Header
  deriving DecidableEq, Repr

namespace ClientConfig

/-- The interval of a configuration that does not set one. -/
def defaultCheckInterval : Nat := 10000

/-- The server of a configuration that does not name one. -/
def defaultServer : String := "http://127.0.0.1:15010"

/-- A configuration for a server, with an identity taken from the environment. A URI that is a path
alone names no server. -/
def ofServer (environment : Environment) (server : String) : Except ConfigError ClientConfig :=
  match Uri.parse server with
  | .error problem => .error (.invalidUri problem)
  | .ok uri =>
    match uri.host? with
    | none => .error (.missingHost uri.render)
    | some _ => .ok ⟨uri, (NodeSettings.ofEnvironment environment).node, defaultCheckInterval, []⟩

def addMetadata (config : ClientConfig) (key value : String) : Except ConfigError ClientConfig :=
  match Header.parse key value with
  | .error problem => .error (.invalidMetadata key problem)
  | .ok header => .ok { config with metadata := config.metadata ++ [header] }

/-- The configuration with more headers; the first one that is refused decides. -/
def addAllMetadata (config : ClientConfig) (pairs : List (String × String)) :
    Except ConfigError ClientConfig :=
  pairs.foldlM (fun config pair => config.addMetadata pair.1 pair.2) config

end ClientConfig

end MeshDiscovery
