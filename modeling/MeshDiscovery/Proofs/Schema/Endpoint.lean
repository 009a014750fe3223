import MeshDiscovery.Proofs.Wire.Restoring
import MeshDiscovery.Schema.Cluster

namespace MeshDiscovery.Schema

open Wire.Message

instance : Restorable SocketAddress where
  levels := 0
  restored := by
    intro ⟨protocol, address, port⟩
    refine .append (.append (.nonzeroInt32 1 (SocketAddress.mk · "" none) protocol)
      (.nonemptyText 2 (SocketAddress.mk protocol · none) address)) ?_
    cases port with
    | none => exact .nil
    | some port =>
      cases port with
      | value port =>
        exact .word32 3 (fun port => SocketAddress.mk protocol address (some (.value port))) port
      | named name =>
        exact .text 4 (fun name => SocketAddress.mk protocol address (some (.named name))) name

instance : Restorable Pipe where
  levels := 0
  restored pipe := .nonemptyText 1 Pipe.mk pipe.path

instance : Restorable InternalAddress where
  levels := 0
  restored address :=
    .append (.optionalText 1 (InternalAddress.mk · "") address.serverListener)
      (.nonemptyText 2 (InternalAddress.mk address.serverListener) address.endpointId)

instance : Restorable Address where
  levels := 1
  restored := by
    intro ⟨location⟩
    cases location with
    | none => exact .nil
    | some location =>
      cases location with
      | socket address => exact .message 1 (fun inner => Address.mk (some (.socket inner))) address
      | pipe address => exact .message 2 (fun inner => Address.mk (some (.pipe inner))) address
      | internal address =>
        exact .message 3 (fun inner => Address.mk (some (.internal inner))) address

instance : Restorable Endpoint where
  levels := 2
  restored endpoint :=
    .append (.optionalMessage 1 (Endpoint.mk · "") endpoint.address)
      (.nonemptyText 3 (Endpoint.mk endpoint.address) endpoint.hostname)

instance : Restorable LbEndpoint where
  levels := 3
  restored := by
    intro ⟨health, host⟩
    refine .append (.nonzeroInt32 2 (LbEndpoint.mk · none) health) ?_
    cases host with
    | none => exact .nil
    | some host =>
      cases host with
      | endpoint endpoint =>
        exact .message 1 (fun inner => LbEndpoint.mk health (some (.endpoint inner))) endpoint
      | named name => exact .text 5 (fun name => LbEndpoint.mk health (some (.named name))) name

instance : Restorable LocalityLbEndpoints where
  levels := 4
  restored locality :=
    .append (.repeatedMessage 2 (LocalityLbEndpoints.mk · 0) locality.lbEndpoints)
      (.nonzeroWord32 5 (LocalityLbEndpoints.mk locality.lbEndpoints) locality.priority)

instance : Restorable ClusterLoadAssignment where
  levels := 5
  restored assignment :=
    .append (.nonemptyText 1 (ClusterLoadAssignment.mk · []) assignment.clusterName)
      (.repeatedMessage 2 (ClusterLoadAssignment.mk assignment.clusterName) assignment.endpoints)

instance : Restorable EdsClusterConfig where
  levels := 0
  restored config := .nonemptyText 2 EdsClusterConfig.mk config.serviceName

instance : Restorable Cluster where
  levels := 6
  restored := by
    intro ⟨name, config, statName, assignment⟩
    exact .append (.append (.append (.nonemptyText 1 (Cluster.mk · none "" none) name)
      (.optionalMessage 3 (Cluster.mk name · "" none) config))
      (.nonemptyText 28 (Cluster.mk name config · none) statName))
      (.optionalMessage 33 (Cluster.mk name config statName) assignment)

end MeshDiscovery.Schema
