import MeshDiscovery.Resource.Kind
import MeshDiscovery.Session.Error

namespace MeshDiscovery

/-- How much a notice matters. -/
inductive Level where
  | info
  | warn
  | error
  deriving DecidableEq, Repr

def Level.name : Level → String
  | info => "info"
  | warn => "warn"
  | error => "error"

inductive Notice where
  | unknownTypeRequested (typeUrl : String)
  | unhandledTypeRequested (typeUrl : String)
  | sessionClosed (nodeId : String)
  | openFailed (generation : Nat) (problem : SessionError)
  | opened (generation : Nat)
  | responseDropped (generation : Nat) (problem : SessionError)
  | disconnected (generation : Nat) (text : String)
  | streamFailed (generation : Nat) (status : Status)
  | completed (generation : Nat)
  | responseIgnored (version nonce typeUrl : String)
  | recoveryScheduled (generation : Nat)
  | recovering (generation replayed : Nat)
  | resourceSkipped (kind : ResourceType) (version : String) (index : Nat) (problem : DecodeError)
  | responseRejected (kind : ResourceType) (problem : DecodeError)
  | exchangeStarted (nodeId server : String)
  deriving DecidableEq, Repr

inductive NoticeValue where
  | text (value : String)
  | number (value : Nat)
  deriving DecidableEq, Repr

namespace Notice

/-- How much a notice matters. -/
def level : Notice → Level
  | unknownTypeRequested _ | unhandledTypeRequested _ | responseDropped .. => .error
  | openFailed .. | streamFailed .. | responseIgnored .. | resourceSkipped ..
  | responseRejected .. => .warn
  | sessionClosed _ | opened _ | disconnected .. | completed _ | recoveryScheduled _ | recovering ..
  | exchangeStarted .. => .info

def message : Notice → String
  | unknownTypeRequested _ => "refusing to request an unknown resource type"
  | unhandledTypeRequested _ => "requesting a resource type with no handler"
  | sessionClosed _ => "ADS session closed"
  | openFailed .. => "failed to open ADS stream"
  | opened _ => "ADS stream opened"
  | responseDropped .. => "dropping response"
  | disconnected .. => "ADS stream disconnected"
  | streamFailed .. => "ADS stream failed"
  | completed _ => "ADS stream completed by control plane"
  | responseIgnored .. => "ignoring response for a type that was never requested"
  | recoveryScheduled _ => "scheduling ADS stream recovery"
  | recovering .. => "recovering ADS stream"
  | resourceSkipped .. => "skipping invalid resource"
  | responseRejected .. => "rejected response"
  | exchangeStarted .. => "started resource exchange"

def fields : Notice → List (String × NoticeValue)
  | unknownTypeRequested typeUrl => [("ty", .text typeUrl)]
  | unhandledTypeRequested typeUrl => [("ty", .text typeUrl)]
  | sessionClosed nodeId => [("node", .text nodeId)]
  | openFailed generation problem =>
    [("generation", .number generation), ("err", .text problem.message)]
  | opened generation => [("generation", .number generation)]
  | responseDropped generation problem =>
    [("generation", .number generation), ("err", .text problem.message)]
  | disconnected generation text => [("generation", .number generation), ("err", .text text)]
  | streamFailed generation status =>
    [("generation", .number generation), ("err", .text status.render)]
  | completed generation => [("generation", .number generation)]
  | responseIgnored version nonce typeUrl =>
    [("v", .text version), ("n", .text nonce), ("ty", .text typeUrl)]
  | recoveryScheduled generation => [("generation", .number generation), ("delay", .text "3s")]
  | recovering generation replayed =>
    [("generation", .number generation), ("replayed", .number replayed)]
  | resourceSkipped kind version index problem =>
    [("ty", .text kind.url), ("v", .text version), ("idx", .number index),
      ("err", .text problem.message)]
  | responseRejected kind problem => [("ty", .text kind.url), ("err", .text problem.message)]
  | exchangeStarted nodeId server => [("node", .text nodeId), ("server", .text server)]

end Notice

end MeshDiscovery
