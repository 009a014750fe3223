import MeshDiscovery.Resource.Kind

namespace MeshDiscovery

/-- The two kinds of things that consumers watch. -/
inductive Axis where
  | route
  | cluster
  deriving DecidableEq, Repr

/-- A value under the name that consumers know it by. -/
inductive Publication where
  | route (service : String) (host : Resource.VirtualHost)
  | cluster (name : String) (cluster : Resource.Cluster)
  deriving DecidableEq, Repr

namespace Publication

/-- What kind of thing is published. -/
def axis : Publication → Axis
  | route .. => .route
  | cluster .. => .cluster

/-- The name under which a value is published. -/
def key : Publication → String
  | route service _ => service
  | cluster name _ => name

end Publication

namespace ResourceType

/-- What is published of a batch, in order. -/
def publications : (kind : ResourceType) → List kind.Model → List Publication
  | routeConfiguration, configs =>
    configs.flatMap fun config => config.byService.map fun entry => .route entry.1 entry.2
  | clusterLoadAssignment, clusters => clusters.map fun cluster => .cluster cluster.name cluster
  | listener, _ | cluster, _ => []

/-- The kind of resource that the resources of a kind refer to. -/
def referred? : ResourceType → Option ResourceType
  | listener => some routeConfiguration
  | cluster => some clusterLoadAssignment
  | routeConfiguration | clusterLoadAssignment => none

/-- The names that a batch refers to, in order. -/
def references : (kind : ResourceType) → List kind.Model → List String
  | listener, listeners => listeners.flatMap fun listener => listener.routeNames.toList
  | cluster, clusters => clusters.map fun cluster => cluster.endpointResourceName
  | routeConfiguration, _ | clusterLoadAssignment, _ => []

end ResourceType

end MeshDiscovery
