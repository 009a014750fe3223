import MeshDiscovery.Schema.Endpoint

namespace MeshDiscovery.Schema

open Wire

/-- How the endpoints of a cluster are discovered. -/
structure EdsClusterConfig where
  serviceName : String := ""
  deriving DecidableEq, Repr, Inhabited

instance : Message EdsClusterConfig where
  empty := {}
  merge budget config field :=
    match field.number with
    | 2 => field.payload.text.map fun text => { config with serviceName := text }
    | _ => field.skip budget config
  fields config := Field.ofNonemptyText 2 config.serviceName

/-- A cluster. The number of its kind is read and forgotten. -/
structure Cluster where
  name : String := ""
  edsClusterConfig : Option EdsClusterConfig := none
  altStatName : String := ""
  loadAssignment : Option ClusterLoadAssignment := none
  deriving DecidableEq, Repr, Inhabited

instance : Message Cluster where
  empty := {}
  merge budget cluster field :=
    match field.number with
    | 1 => field.payload.text.map fun text => { cluster with name := text }
    | 2 => field.payload.int32.map fun _ => cluster
    | 3 => (field.payload.nested budget (cluster.edsClusterConfig.getD {})).map fun config =>
        { cluster with edsClusterConfig := some config }
    | 28 => field.payload.text.map fun text => { cluster with altStatName := text }
    | 33 => (field.payload.nested budget (cluster.loadAssignment.getD {})).map fun assignment =>
        { cluster with loadAssignment := some assignment }
    | _ => field.skip budget cluster
  fields cluster :=
    Field.ofNonemptyText 1 cluster.name ++ (cluster.edsClusterConfig.map (Field.ofMessage 3)).toList
      ++ Field.ofNonemptyText 28 cluster.altStatName
      ++ (cluster.loadAssignment.map (Field.ofMessage 33)).toList

end MeshDiscovery.Schema
