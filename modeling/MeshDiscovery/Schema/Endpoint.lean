import MeshDiscovery.Schema.Any

namespace MeshDiscovery.Schema

open Wire

inductive PortSpecifier where
  | value (port : UInt32)
  | named (name : String)
  deriving DecidableEq, Repr

structure SocketAddress where
  protocol : Int32 := 0
  address : String := ""
  port : Option PortSpecifier := none
  deriving DecidableEq, Repr, Inhabited

instance : Message SocketAddress where
  empty := {}
  merge budget socket field :=
    match field.number with
    | 1 => field.payload.int32.map fun protocol => { socket with protocol := protocol }
    | 2 => field.payload.text.map fun text => { socket with address := text }
    | 3 => field.payload.word32.map fun port => { socket with port := some (.value port) }
    | 4 => field.payload.text.map fun text => { socket with port := some (.named text) }
    | _ => field.skip budget socket
  fields socket :=
    Field.ofNonzeroInt32 1 socket.protocol ++ Field.ofNonemptyText 2 socket.address ++
      match socket.port with
      | none => []
      | some (.value port) => [Field.ofWord32 3 port]
      | some (.named name) => [Field.ofText 4 name]

/-- The path of a local socket. -/
structure Pipe where
  path : String := ""
  deriving DecidableEq, Repr, Inhabited

instance : Message Pipe where
  empty := {}
  merge budget pipe field :=
    match field.number with
    | 1 => field.payload.text.map fun text => { pipe with path := text }
    | _ => field.skip budget pipe
  fields pipe := Field.ofNonemptyText 1 pipe.path

structure InternalAddress where
  serverListener : Option String := none
  endpointId : String := ""
  deriving DecidableEq, Repr, Inhabited

instance : Message InternalAddress where
  empty := {}
  merge budget address field :=
    match field.number with
    | 1 => field.payload.text.map fun text => { address with serverListener := some text }
    | 2 => field.payload.text.map fun text => { address with endpointId := text }
    | _ => field.skip budget address
  fields address :=
    (address.serverListener.map (Field.ofText 1)).toList
      ++ Field.ofNonemptyText 2 address.endpointId

/-- The place that an address names. -/
inductive Location where
  | socket (address : SocketAddress)
  | pipe (address : Pipe)
  | internal (address : InternalAddress)
  deriving DecidableEq, Repr

structure Address where
  location : Option Location := none
  deriving DecidableEq, Repr, Inhabited

namespace Address

/-- The socket address that a further one is merged into. -/
def currentSocket (address : Address) : SocketAddress :=
  match address.location with
  | some (.socket socket) => socket
  | _ => {}

/-- The local socket that a further one is merged into. -/
def currentPipe (address : Address) : Pipe :=
  match address.location with
  | some (.pipe pipe) => pipe
  | _ => {}

/-- The internal address that a further one is merged into. -/
def currentInternal (address : Address) : InternalAddress :=
  match address.location with
  | some (.internal internal) => internal
  | _ => {}

end Address

instance : Message Address where
  empty := {}
  merge budget address field :=
    match field.number with
    | 1 => (field.payload.nested budget address.currentSocket).map fun m => ⟨some (.socket m)⟩
    | 2 => (field.payload.nested budget address.currentPipe).map fun m => ⟨some (.pipe m)⟩
    | 3 => (field.payload.nested budget address.currentInternal).map fun m => ⟨some (.internal m)⟩
    | _ => field.skip budget address
  fields address :=
    match address.location with
    | none => []
    | some (.socket socket) => [Field.ofMessage 1 socket]
    | some (.pipe pipe) => [Field.ofMessage 2 pipe]
    | some (.internal internal) => [Field.ofMessage 3 internal]

/-- An endpoint given by its address. -/
structure Endpoint where
  address : Option Address := none
  hostname : String := ""
  deriving DecidableEq, Repr, Inhabited

instance : Message Endpoint where
  empty := {}
  merge budget endpoint field :=
    match field.number with
    | 1 => (field.payload.nested budget (endpoint.address.getD {})).map fun address =>
        { endpoint with address := some address }
    | 3 => field.payload.text.map fun text => { endpoint with hostname := text }
    | _ => field.skip budget endpoint
  fields endpoint :=
    (endpoint.address.map (Field.ofMessage 1)).toList ++ Field.ofNonemptyText 3 endpoint.hostname

/-- The host of a load-balanced endpoint, given in full or by the name of another resource. -/
inductive HostIdentifier where
  | endpoint (endpoint : Endpoint)
  | named (name : String)
  deriving DecidableEq, Repr

/-- An endpoint as load balancing sees it. -/
structure LbEndpoint where
  health : Int32 := 0
  host : Option HostIdentifier := none
  deriving DecidableEq, Repr, Inhabited

def LbEndpoint.currentEndpoint (lb : LbEndpoint) : Endpoint :=
  match lb.host with
  | some (.endpoint endpoint) => endpoint
  | _ => {}

instance : Message LbEndpoint where
  empty := {}
  merge budget lb field :=
    match field.number with
    | 1 => (field.payload.nested budget lb.currentEndpoint).map fun endpoint =>
        { lb with host := some (.endpoint endpoint) }
    | 2 => field.payload.int32.map fun health => { lb with health := health }
    | 5 => field.payload.text.map fun text => { lb with host := some (.named text) }
    | _ => field.skip budget lb
  fields lb :=
    Field.ofNonzeroInt32 2 lb.health ++
      match lb.host with
      | none => []
      | some (.endpoint endpoint) => [Field.ofMessage 1 endpoint]
      | some (.named name) => [Field.ofText 5 name]

/-- A place in a network, which endpoints share. -/
structure Locality where
  region : String := ""
  zone : String := ""
  subZone : String := ""
  deriving DecidableEq, Repr, Inhabited

instance : Message Locality where
  empty := {}
  merge budget locality field :=
    match field.number with
    | 1 => field.payload.text.map fun text => { locality with region := text }
    | 2 => field.payload.text.map fun text => { locality with zone := text }
    | 3 => field.payload.text.map fun text => { locality with subZone := text }
    | _ => field.skip budget locality
  fields locality :=
    Field.ofNonemptyText 1 locality.region ++ Field.ofNonemptyText 2 locality.zone
      ++ Field.ofNonemptyText 3 locality.subZone

/-- The endpoints of one locality, which itself is read and forgotten. -/
structure LocalityLbEndpoints where
  lbEndpoints : List LbEndpoint := []
  priority : UInt32 := 0
  deriving DecidableEq, Repr, Inhabited

instance : Message LocalityLbEndpoints where
  empty := {}
  merge budget group field :=
    match field.number with
    | 1 => (field.payload.nested budget ({} : Locality)).map fun _ => group
    | 2 => (field.payload.nested budget ({} : LbEndpoint)).map fun lb =>
        { group with lbEndpoints := group.lbEndpoints ++ [lb] }
    | 5 => field.payload.word32.map fun priority => { group with priority := priority }
    | _ => field.skip budget group
  fields group :=
    group.lbEndpoints.map (Field.ofMessage 2) ++ Field.ofNonzeroWord32 5 group.priority

/-- The endpoints of a cluster. -/
structure ClusterLoadAssignment where
  clusterName : String := ""
  endpoints : List LocalityLbEndpoints := []
  deriving DecidableEq, Repr, Inhabited

instance : Message ClusterLoadAssignment where
  empty := {}
  merge budget assignment field :=
    match field.number with
    | 1 => field.payload.text.map fun text => { assignment with clusterName := text }
    | 2 => (field.payload.nested budget ({} : LocalityLbEndpoints)).map fun locality =>
        { assignment with endpoints := assignment.endpoints ++ [locality] }
    | _ => field.skip budget assignment
  fields assignment :=
    Field.ofNonemptyText 1 assignment.clusterName ++ assignment.endpoints.map (Field.ofMessage 2)

end MeshDiscovery.Schema
