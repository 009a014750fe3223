import MeshDiscovery.Resource.Cluster
import MeshDiscovery.Resource.Listener
import MeshDiscovery.Resource.Route
import MeshDiscovery.ResourceType
import MeshDiscovery.Text.Quoted

/-!
The kinds of resources with their messages and models. An entry of a response is a packed message;
it becomes a model if its type url is that of the kind and its bytes can be read.
-/

namespace MeshDiscovery

/-- Why a response or one of its entries is not taken. -/
inductive DecodeError where
  | typeMismatch (expected : ResourceType) (actual : String)
  | malformed
  deriving DecidableEq, Repr

def DecodeError.message : DecodeError → String
  | typeMismatch expected actual =>
    s!"expected a {expected.shortName} response, got {Text.quote actual}"
  | malformed => "invalid resource"

namespace ResourceType

/-- The message of a kind. -/
abbrev Encoded : ResourceType → Type
  | listener => Schema.Listener
  | routeConfiguration => Schema.RouteConfiguration
  | cluster => Schema.Cluster
  | clusterLoadAssignment => Schema.ClusterLoadAssignment

/-- The model that messages of a kind are turned into. -/
abbrev Model : ResourceType → Type
  | listener => Resource.Listener
  | routeConfiguration => Resource.RouteConfiguration
  | cluster => Resource.ClusterConfig
  | clusterLoadAssignment => Resource.Cluster

instance instMessageEncoded : (kind : ResourceType) → Wire.Message kind.Encoded
  | listener => inferInstanceAs (Wire.Message Schema.Listener)
  | routeConfiguration => inferInstanceAs (Wire.Message Schema.RouteConfiguration)
  | cluster => inferInstanceAs (Wire.Message Schema.Cluster)
  | clusterLoadAssignment => inferInstanceAs (Wire.Message Schema.ClusterLoadAssignment)

def convert : (kind : ResourceType) → kind.Encoded → kind.Model
  | listener, message => .ofMessage message
  | routeConfiguration, message => .ofMessage message
  | cluster, message => .ofMessage message
  | clusterLoadAssignment, message => .ofMessage message

/-- The model of one entry of a response. -/
def decodeEntry (kind : ResourceType) (entry : Schema.Any) : Except DecodeError kind.Model :=
  if entry.typeUrl = kind.url then
    match Wire.Message.decode (α := kind.Encoded) entry.value with
    | some message => .ok (kind.convert message)
    | none => .error .malformed
  else .error (.typeMismatch kind entry.typeUrl)

def pack (kind : ResourceType) (message : kind.Encoded) : Schema.Any :=
  Schema.Any.pack kind.url message

end ResourceType

end MeshDiscovery
