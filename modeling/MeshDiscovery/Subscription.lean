import MeshDiscovery.NameSet
import MeshDiscovery.Request
import MeshDiscovery.Session.Notice

namespace MeshDiscovery

structure Subscription (Callback : Type) where
  /-- The interval that the subscription was configured with, in milliseconds. -/
  checkInterval : Nat
  names : NameSet := .empty
  /-- The version and nonce of the last response that was taken. -/
  lastAck : Option (String × String) := none
  callback : Option Callback := none

namespace Subscription

variable {Callback : Type}

def add (subscription : Subscription Callback) (names : List String) : Subscription Callback :=
  { subscription with names := subscription.names.insertAll names }

/-- The request for the whole subscription. Without any name it would ask for everything, which only
wildcard roots may do. -/
def request? (subscription : Subscription Callback) (kind : ResourceType) : Option Request :=
  if subscription.names.isEmpty && !kind.isWildcardRoot then none
  else some { typeUrl := kind.url, names := subscription.names.toList }

/-- The subscription after a response was taken. -/
def settle (subscription : Subscription Callback) (version nonce : String) :
    Subscription Callback :=
  { subscription with lastAck := some (version, nonce) }

def describe (subscription : Subscription Callback) (kind : ResourceType) : String :=
  let acked :=
    match subscription.lastAck with
    | some (version, nonce) => "Some((" ++ Text.quote version ++ ", " ++ Text.quote nonce ++ "))"
    | none => "None"
  "Protocol \x7b type: " ++ kind.messageName ++ ", names: "
    ++ Text.quoteList subscription.names.toList ++ ", acked: " ++ acked ++ " \x7d"

end Subscription

namespace Response

/-- The models of the entries of a response that can be read as resources of a kind, in order. -/
def models (response : Response) (kind : ResourceType) : List kind.Model :=
  response.resources.filterMap fun entry => (kind.decodeEntry entry).toOption

/-- The entries of a response that cannot be read, by their places. -/
def defects (response : Response) (kind : ResourceType) : List (Nat × DecodeError) :=
  response.resources.zipIdx.filterMap fun (entry, index) =>
    match kind.decodeEntry entry with
    | .ok _ => none
    | .error problem => some (index, problem)

/-- A response is for a kind if it has the kind's type url; otherwise no entry is looked at. -/
def checkKind (response : Response) (kind : ResourceType) : Except DecodeError Unit :=
  if response.typeUrl = kind.url then .ok () else .error (.typeMismatch kind response.typeUrl)

/-- What is reported about the entries that cannot be read. -/
def defectNotices (response : Response) (kind : ResourceType) : List Notice :=
  (response.defects kind).map fun (index, problem) =>
    .resourceSkipped kind response.version index problem

end Response

end MeshDiscovery
