import MeshDiscovery.Schema.Cluster

/-!
Clusters in two halves: the name under which the endpoints of a cluster are published, and the
endpoints themselves.
-/

namespace MeshDiscovery.Resource

/-- A cluster, reduced to its name and the name of its endpoints where that is another one. -/
structure ClusterConfig where
  name : String
  edsServiceName : Option String
  deriving DecidableEq, Repr

namespace ClusterConfig

/-- The name under which the endpoints of a cluster are asked for. -/
def endpointResourceName (config : ClusterConfig) : String :=
  config.edsServiceName.getD config.name

/-- The cluster that a message describes; an empty endpoint name counts as absent. -/
def ofMessage (message : Schema.Cluster) : ClusterConfig where
  name := message.name
  edsServiceName :=
    (message.edsClusterConfig.map Schema.EdsClusterConfig.serviceName).filter (· ≠ "")

end ClusterConfig

structure Endpoint where
  address : String
  port : UInt32
  healthy : Bool
  deriving DecidableEq, Repr

namespace Endpoint

/-- The health states in which an endpoint gets no requests: unhealthy, draining, timed out. -/
def unhealthyStates : List Int32 :=
  [2, 3, 4]

/-- The port of a socket address; a named port counts as zero. -/
def portOf (socket : Schema.SocketAddress) : UInt32 :=
  match socket.port with
  | some (.value port) => port
  | _ => 0

/-- The socket address of an endpoint, if it is given in full and has one. -/
def socketOf? (lb : Schema.LbEndpoint) : Option Schema.SocketAddress :=
  match lb.host with
  | some (.endpoint endpoint) =>
    match endpoint.address.bind Schema.Address.location with
    | some (.socket socket) => some socket
    | _ => none
  | _ => none

/-- The endpoint that a message describes, if it has a socket address. -/
def ofMessage? (lb : Schema.LbEndpoint) : Option Endpoint :=
  (socketOf? lb).map fun socket =>
    ⟨socket.address, portOf socket, !unhealthyStates.contains lb.health⟩

end Endpoint

structure Cluster where
  name : String
  endpoints : List Endpoint
  deriving DecidableEq, Repr

/-- The endpoints that a message describes, locality after locality. -/
def Cluster.ofMessage (message : Schema.ClusterLoadAssignment) : Cluster where
  name := message.clusterName
  endpoints :=
    (message.endpoints.flatMap Schema.LocalityLbEndpoints.lbEndpoints).filterMap Endpoint.ofMessage?

end MeshDiscovery.Resource
