import MeshDiscovery.Schema.Any

namespace MeshDiscovery.Schema

open Wire

structure RegexMatcher where
  regex : String := ""
  deriving DecidableEq, Repr, Inhabited

instance : Message RegexMatcher where
  empty := {}
  merge budget matcher field :=
    match field.number with
    | 2 => field.payload.text.map fun text => { matcher with regex := text }
    | _ => field.skip budget matcher
  fields matcher := Field.ofNonemptyText 2 matcher.regex

/-- An extension, known by its name alone. -/
structure TypedExtensionConfig where
  name : String := ""
  deriving DecidableEq, Repr, Inhabited

instance : Message TypedExtensionConfig where
  empty := {}
  merge budget config field :=
    match field.number with
    | 1 => field.payload.text.map fun text => { config with name := text }
    | _ => field.skip budget config
  fields config := Field.ofNonemptyText 1 config.name

inductive PathSpecifier where
  | pathPrefix (text : String)
  | path (text : String)
  | safeRegex (matcher : RegexMatcher)
  | connect (matcher : Blank)
  | separatedPrefix (text : String)
  | matchPolicy (config : TypedExtensionConfig)
  deriving DecidableEq, Repr

structure RouteMatch where
  path : Option PathSpecifier := none
  deriving DecidableEq, Repr, Inhabited

namespace RouteMatch

/-- The regular expression that a further one is merged into. -/
def currentRegex (condition : RouteMatch) : RegexMatcher :=
  match condition.path with
  | some (.safeRegex matcher) => matcher
  | _ => {}

/-- The extension that a further one is merged into. -/
def currentPolicy (condition : RouteMatch) : TypedExtensionConfig :=
  match condition.path with
  | some (.matchPolicy config) => config
  | _ => {}

end RouteMatch

instance : Message RouteMatch where
  empty := {}
  merge budget condition field :=
    match field.number with
    | 1 => field.payload.text.map fun text => ⟨some (.pathPrefix text)⟩
    | 2 => field.payload.text.map fun text => ⟨some (.path text)⟩
    | 10 => (field.payload.nested budget condition.currentRegex).map fun m => ⟨some (.safeRegex m)⟩
    | 12 => (field.payload.nested budget ({} : Blank)).map fun m => ⟨some (.connect m)⟩
    | 14 => field.payload.text.map fun text => ⟨some (.separatedPrefix text)⟩
    | 15 =>
      (field.payload.nested budget condition.currentPolicy).map fun m => ⟨some (.matchPolicy m)⟩
    | _ => field.skip budget condition
  fields condition :=
    match condition.path with
    | none => []
    | some (.pathPrefix text) => [Field.ofText 1 text]
    | some (.path text) => [Field.ofText 2 text]
    | some (.safeRegex matcher) => [Field.ofMessage 10 matcher]
    | some (.connect matcher) => [Field.ofMessage 12 matcher]
    | some (.separatedPrefix text) => [Field.ofText 14 text]
    | some (.matchPolicy config) => [Field.ofMessage 15 config]

/-- One of the clusters between which requests are shared out. -/
structure ClusterWeight where
  name : String := ""
  deriving DecidableEq, Repr, Inhabited

instance : Message ClusterWeight where
  empty := {}
  merge budget weight field :=
    match field.number with
    | 1 => field.payload.text.map fun text => { weight with name := text }
    | _ => field.skip budget weight
  fields weight := Field.ofNonemptyText 1 weight.name

structure WeightedCluster where
  clusters : List ClusterWeight := []
  deriving DecidableEq, Repr, Inhabited

instance : Message WeightedCluster where
  empty := {}
  merge budget weighted field :=
    match field.number with
    | 1 => (field.payload.nested budget ({} : ClusterWeight)).map fun weight =>
        { weighted with clusters := weighted.clusters ++ [weight] }
    | _ => field.skip budget weighted
  fields weighted := weighted.clusters.map (Field.ofMessage 1)

/-- How the cluster that a request goes to is chosen. -/
inductive ClusterSpecifier where
  | cluster (name : String)
  | clusterHeader (header : String)
  | weightedClusters (clusters : WeightedCluster)
  | plugin (name : String)
  | inlinePlugin (config : Blank)
  deriving DecidableEq, Repr

/-- The action that sends a request to a cluster. -/
structure RouteAction where
  cluster : Option ClusterSpecifier := none
  deriving DecidableEq, Repr, Inhabited

def RouteAction.currentWeights (action : RouteAction) : WeightedCluster :=
  match action.cluster with
  | some (.weightedClusters clusters) => clusters
  | _ => {}

instance : Message RouteAction where
  empty := {}
  merge budget action field :=
    match field.number with
    | 1 => field.payload.text.map fun text => ⟨some (.cluster text)⟩
    | 2 => field.payload.text.map fun text => ⟨some (.clusterHeader text)⟩
    | 3 => (field.payload.nested budget action.currentWeights).map fun clusters =>
        ⟨some (.weightedClusters clusters)⟩
    | 37 => field.payload.text.map fun text => ⟨some (.plugin text)⟩
    | 39 => (field.payload.nested budget ({} : Blank)).map fun m => ⟨some (.inlinePlugin m)⟩
    | _ => field.skip budget action
  fields action :=
    match action.cluster with
    | none => []
    | some (.cluster name) => [Field.ofText 1 name]
    | some (.clusterHeader header) => [Field.ofText 2 header]
    | some (.weightedClusters clusters) => [Field.ofMessage 3 clusters]
    | some (.plugin name) => [Field.ofText 37 name]
    | some (.inlinePlugin config) => [Field.ofMessage 39 config]

/-- The action that sends a client elsewhere. -/
structure RedirectAction where
  hostRedirect : String := ""
  deriving DecidableEq, Repr, Inhabited

instance : Message RedirectAction where
  empty := {}
  merge budget action field :=
    match field.number with
    | 1 => field.payload.text.map fun text => { action with hostRedirect := text }
    | _ => field.skip budget action
  fields action := Field.ofNonemptyText 1 action.hostRedirect

/-- The action that answers a request by itself. -/
structure DirectResponseAction where
  status : UInt32 := 0
  deriving DecidableEq, Repr, Inhabited

instance : Message DirectResponseAction where
  empty := {}
  merge budget action field :=
    match field.number with
    | 1 => field.payload.word32.map fun status => { action with status := status }
    | _ => field.skip budget action
  fields action := Field.ofNonzeroWord32 1 action.status

/-- What a route does with a request. -/
inductive Action where
  | route (action : RouteAction)
  | redirect (action : RedirectAction)
  | directResponse (action : DirectResponseAction)
  | filterAction (action : Blank)
  | nonForwarding (action : Blank)
  deriving DecidableEq, Repr

structure Route where
  name : String := ""
  condition : Option RouteMatch := none
  action : Option Action := none
  deriving DecidableEq, Repr, Inhabited

namespace Route

/-- The cluster action that a further one is merged into. -/
def currentRoute (route : Route) : RouteAction :=
  match route.action with
  | some (.route action) => action
  | _ => {}

def currentRedirect (route : Route) : RedirectAction :=
  match route.action with
  | some (.redirect action) => action
  | _ => {}

/-- The direct response that a further one is merged into. -/
def currentDirectResponse (route : Route) : DirectResponseAction :=
  match route.action with
  | some (.directResponse action) => action
  | _ => {}

def actionField : Action → Field
  | .route action => Field.ofMessage 2 action
  | .redirect action => Field.ofMessage 3 action
  | .directResponse action => Field.ofMessage 7 action
  | .filterAction action => Field.ofMessage 17 action
  | .nonForwarding action => Field.ofMessage 18 action

end Route

instance : Message Route where
  empty := {}
  merge budget route field :=
    match field.number with
    | 1 => (field.payload.nested budget (route.condition.getD {})).map fun condition =>
        { route with condition := some condition }
    | 2 => (field.payload.nested budget route.currentRoute).map fun action =>
        { route with action := some (.route action) }
    | 3 => (field.payload.nested budget route.currentRedirect).map fun action =>
        { route with action := some (.redirect action) }
    | 7 => (field.payload.nested budget route.currentDirectResponse).map fun action =>
        { route with action := some (.directResponse action) }
    | 14 => field.payload.text.map fun text => { route with name := text }
    | 17 => (field.payload.nested budget ({} : Blank)).map fun action =>
        { route with action := some (.filterAction action) }
    | 18 => (field.payload.nested budget ({} : Blank)).map fun action =>
        { route with action := some (.nonForwarding action) }
    | _ => field.skip budget route
  fields route :=
    (route.condition.map (Field.ofMessage 1)).toList ++ (route.action.map Route.actionField).toList
      ++ Field.ofNonemptyText 14 route.name

structure VirtualHost where
  name : String := ""
  domains : List String := []
  routes : List Route := []
  deriving DecidableEq, Repr, Inhabited

instance : Message VirtualHost where
  empty := {}
  merge budget host field :=
    match field.number with
    | 1 => field.payload.text.map fun text => { host with name := text }
    | 2 => field.payload.text.map fun text => { host with domains := host.domains ++ [text] }
    | 3 => (field.payload.nested budget ({} : Route)).map fun route =>
        { host with routes := host.routes ++ [route] }
    | _ => field.skip budget host
  fields host :=
    Field.ofNonemptyText 1 host.name ++ host.domains.map (Field.ofText 2)
      ++ host.routes.map (Field.ofMessage 3)

/-- A route configuration: the virtual hosts that a listener may use. -/
structure RouteConfiguration where
  name : String := ""
  virtualHosts : List VirtualHost := []
  deriving DecidableEq, Repr, Inhabited

instance : Message RouteConfiguration where
  empty := {}
  merge budget config field :=
    match field.number with
    | 1 => field.payload.text.map fun text => { config with name := text }
    | 2 => (field.payload.nested budget ({} : VirtualHost)).map fun host =>
        { config with virtualHosts := config.virtualHosts ++ [host] }
    | _ => field.skip budget config
  fields config :=
    Field.ofNonemptyText 1 config.name ++ config.virtualHosts.map (Field.ofMessage 2)

end MeshDiscovery.Schema
