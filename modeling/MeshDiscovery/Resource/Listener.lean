import MeshDiscovery.NameSet
import MeshDiscovery.Schema.ConnectionManager
import MeshDiscovery.Schema.Listener

namespace MeshDiscovery.Resource

/-- A listener and the route configurations that it refers to. -/
structure Listener where
  name : String
  routeNames : NameSet
  deriving DecidableEq

namespace Listener

/-- The route configuration that a connection manager discovers by name, if the name is not
empty. -/
def managedRoute? (manager : Schema.HttpConnectionManager) : Option String :=
  match manager.routes with
  | some (.rds rds) => if rds.routeConfigName = "" then none else some rds.routeConfigName
  | _ => none

/-- The route configuration that a packed filter configuration refers to. Only connection managers
refer to one; what cannot be read as one is passed over. -/
def packedRoute? (config : Schema.Any) : Option String :=
  if config.typeUrl = Schema.HttpConnectionManager.url then
    (Wire.Message.decode (α := Schema.HttpConnectionManager) config.value).bind managedRoute?
  else none

def typedConfig? (filter : Schema.Filter) : Option Schema.Any :=
  match filter.config with
  | some (.typed config) => some config
  | _ => none

/-- The packed configurations that may refer to routes: those of the filters of each filter chain,
then the one of the API listener. -/
def packedConfigs (message : Schema.Listener) : List Schema.Any :=
  message.filterChains.flatMap (fun chain => chain.filters.filterMap typedConfig?)
    ++ (message.apiListener.bind Schema.ApiListener.config).toList

def ofMessage (message : Schema.Listener) : Listener :=
  ⟨message.name, NameSet.ofList ((packedConfigs message).filterMap packedRoute?)⟩

end Listener

end MeshDiscovery.Resource
