import MeshDiscovery.Schema.Route

namespace MeshDiscovery.Schema

open Wire

structure Rds where
  routeConfigName : String := ""
  deriving DecidableEq, Repr, Inhabited

instance : Message Rds where
  empty := {}
  merge budget rds field :=
    match field.number with
    | 2 => field.payload.text.map fun text => { rds with routeConfigName := text }
    | _ => field.skip budget rds
  fields rds := Field.ofNonemptyText 2 rds.routeConfigName

/-- Routes that are chosen by the scope of a request. -/
structure ScopedRoutes where
  name : String := ""
  deriving DecidableEq, Repr, Inhabited

instance : Message ScopedRoutes where
  empty := {}
  merge budget scopes field :=
    match field.number with
    | 1 => field.payload.text.map fun text => { scopes with name := text }
    | _ => field.skip budget scopes
  fields scopes := Field.ofNonemptyText 1 scopes.name

/-- Where the routes of a connection manager come from. -/
inductive RouteSpecifier where
  | rds (rds : Rds)
  | routeConfig (config : RouteConfiguration)
  | scopedRoutes (scopes : ScopedRoutes)
  deriving DecidableEq, Repr

structure HttpConnectionManager where
  routes : Option RouteSpecifier := none
  deriving DecidableEq, Repr, Inhabited

namespace HttpConnectionManager

def url : String :=
  "type.googleapis.com/envoy.extensions.filters.network.http_connection_manager.v3.HttpConnectionManager"

/-- The discovered routes that further ones are merged into. -/
def currentRds (manager : HttpConnectionManager) : Rds :=
  match manager.routes with
  | some (.rds rds) => rds
  | _ => {}

def currentRouteConfig (manager : HttpConnectionManager) : RouteConfiguration :=
  match manager.routes with
  | some (.routeConfig config) => config
  | _ => {}

def currentScopedRoutes (manager : HttpConnectionManager) : ScopedRoutes :=
  match manager.routes with
  | some (.scopedRoutes scopes) => scopes
  | _ => {}

end HttpConnectionManager

instance : Message HttpConnectionManager where
  empty := {}
  merge budget manager field :=
    match field.number with
    | 3 => (field.payload.nested budget manager.currentRds).map fun m => ⟨some (.rds m)⟩
    | 4 => (field.payload.nested budget manager.currentRouteConfig).map fun m =>
        ⟨some (.routeConfig m)⟩
    | 31 => (field.payload.nested budget manager.currentScopedRoutes).map fun m =>
        ⟨some (.scopedRoutes m)⟩
    | _ => field.skip budget manager
  fields manager :=
    match manager.routes with
    | none => []
    | some (.rds rds) => [Field.ofMessage 3 rds]
    | some (.routeConfig config) => [Field.ofMessage 4 config]
    | some (.scopedRoutes scopes) => [Field.ofMessage 31 scopes]

end MeshDiscovery.Schema
