import MeshDiscovery.Exchange.Publication
import MeshDiscovery.Exchange.Registry
import MeshDiscovery.Session.Basic
import MeshDiscovery.Subscription

namespace MeshDiscovery

/-- What the control plane does when it is asked for a stream. -/
inductive ConnectStep (α : Type) where
  | accept
  | refuse (problem : SessionError)
  /-- It answers only once it is released. -/
  | hang
  /-- It performs a script before it accepts. -/
  | accompany (script : List (String × α))
  deriving Inhabited

/-- An operation. Operations inside scripts carry the label under which their results are reported.
-/
inductive Operation where
  /-- Subscribes to a kind of resource, to begin with without any name. -/
  | register (kind : ResourceType) (checkInterval : Nat)
  /-- Handles a kind of resource by counting responses and performing a script. -/
  | registerCounter (kind : ResourceType) (script : List (String × Operation))
  | request (request : Request)
  | lastRequest (kind : ResourceType)
  | node
  | state
  | describeSession
  | describeExchange
  | close
  /-- The owner gives the client up; its tasks may keep it alive. -/
  | release
  | alive
  | subscribe (kind : ResourceType) (names : List String)
  | subscribedNames (kind : ResourceType)
  /-- Asks the client for the names that it has subscribed to. -/
  | clientNames (kind : ResourceType)
  | lastAck (kind : ResourceType)
  | describeSubscription (kind : ResourceType)
  | subscriptionFacts (kind : ResourceType)
  | decode (kind : ResourceType) (response : Response)
  | handle (kind : ResourceType) (response : Response)
  | setCallback (kind : ResourceType) (tag : String) (script : List (String × Operation))
  | respond (response : Response) (stream : Option Nat)
  | fail (status : Status) (stream : Option Nat)
  | complete (stream : Option Nat)
  /-- Queues what the control plane does with the next connects. -/
  | plan (steps : List (ConnectStep Operation))
  /-- Lets every hanging connect go on. -/
  | admitHanging
  /-- Performs operations with no task running in between. -/
  | batch (operations : List Operation)
  /-- Watches a name. The listener performs one of its scripts at each of its first calls. -/
  | watch (axis : Axis) (key label : String) (scripts : List (List (String × Operation)))
  | unwatch (axis : Axis) (key label : String)
  | cached (axis : Axis) (key : String)
  | cachedAll (axis : Axis)
  /-- The operation is not known. -/
  | unknown

instance : Inhabited Operation :=
  ⟨.unknown⟩

/-- Labelled operations, performed in order. -/
abbrev Script := List (String × Operation)

/-- What an operation gives back. -/
inductive Reply where
  | done
  | flag (value : Bool)
  | text (value : String)
  | state (value : SessionState)
  | names (value : List String)
  | ack (value : Option (String × String))
  | request (value : Option Request)
  | node (value : Node)
  | subscriptionFacts (kind : ResourceType) (checkInterval : Nat)
  | models (kind : ResourceType) (value : List kind.Model)
  | publication (value : Option Publication)
  | publications (value : List Publication)
  | registered
  | refused (problem : SessionError)
  | rejected (problem : DecodeError)
  | sent
  | streamClosed
  | noStream
  | noSession
  | noSubscription
  | noListener
  | unknownOperation
  | batch (replies : List Reply)

/-- What consumers see happening. -/
inductive Event where
  /-- A counting handler was called. -/
  | handled (kind : ResourceType) (call : Nat) (version nonce : String) (resources : Nat)
  /-- A callback got a batch of resources. -/
  | updated (tag : String) (kind : ResourceType) (models : List kind.Model)
  /-- A listener was called, the one with the given number. -/
  | notified (id : ListenerId) (label : String) (publication : Publication)
  /-- An operation of a script was performed. -/
  | performed (label : String) (reply : Reply)

end MeshDiscovery
