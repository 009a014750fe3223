import MeshDiscovery.Schema.Route

namespace MeshDiscovery.Resource

/-- What requests a route applies to. An unsupported condition never holds. -/
inductive RouteMatch where
  | pathPrefix (text : String)
  | path (text : String)
  | safeRegex (regex : String)
  | unsupported
  deriving DecidableEq, Repr

def RouteMatch.ofMessage (condition : Option Schema.RouteMatch) : RouteMatch :=
  match condition.bind Schema.RouteMatch.path with
  | some (.pathPrefix text) => .pathPrefix text
  | some (.path text) => .path text
  | some (.safeRegex matcher) => .safeRegex matcher.regex
  | _ => .unsupported

/-- Where a route sends requests. -/
inductive RouteAction where
  | cluster (name : String)
  | weightedClusters (names : List String)
  | unsupported
  deriving DecidableEq, Repr

def RouteAction.ofMessage (action : Option Schema.Action) : RouteAction :=
  match action with
  | some (.route route) =>
    match route.cluster with
    | some (.cluster name) => .cluster name
    | some (.weightedClusters weighted) =>
      .weightedClusters (weighted.clusters.map Schema.ClusterWeight.name)
    | _ => .unsupported
  | _ => .unsupported

structure Route where
  name : String
  condition : RouteMatch
  action : RouteAction
  deriving DecidableEq, Repr

def Route.ofMessage (message : Schema.Route) : Route :=
  ⟨message.name, .ofMessage message.condition, .ofMessage message.action⟩

structure VirtualHost where
  name : String
  domains : List String
  routes : List Route
  deriving DecidableEq, Repr

namespace VirtualHost

/-- A byte that stands for a decimal digit in a text. -/
def isDigitByte (byte : UInt8) : Bool :=
  48 ≤ byte && byte ≤ 57

/-- What may stand behind a colon as a port: digits, byte by byte, and at least one. -/
def isPort (text : List Char) : Bool :=
  !text.isEmpty && (text.flatMap String.utf8EncodeChar).all isDigitByte

/-- The part of a name in front of its last colon if the part behind it is a port. A name that does
not end in a port is left as it is. -/
def stripPort (name : String) : String :=
  let backwards := name.toList.reverse
  match backwards.dropWhile (· ≠ ':') with
  | ':' :: service =>
    if isPort (backwards.takeWhile (· ≠ ':')).reverse then String.ofList service.reverse else name
  | _ => name

/-- The service that a virtual host routes for. -/
def serviceName (host : VirtualHost) : String :=
  stripPort host.name

def ofMessage (message : Schema.VirtualHost) : VirtualHost :=
  ⟨message.name, message.domains, message.routes.map Route.ofMessage⟩

end VirtualHost

/-- A route configuration as it is delivered. -/
structure RouteConfiguration where
  name : String
  virtualHosts : List VirtualHost
  deriving DecidableEq, Repr

namespace RouteConfiguration

/-- The virtual hosts of a configuration, each with the service that it routes for. -/
def byService (config : RouteConfiguration) : List (String × VirtualHost) :=
  config.virtualHosts.map fun host => (host.serviceName, host)

def ofMessage (message : Schema.RouteConfiguration) : RouteConfiguration :=
  ⟨message.name, message.virtualHosts.map VirtualHost.ofMessage⟩

end RouteConfiguration

end MeshDiscovery.Resource
