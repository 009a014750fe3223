import MeshDiscovery.Deployment.Operation
import MeshDiscovery.Exchange.Cache
import MeshDiscovery.Session.Call
import MeshDiscovery.Session.Stream

/-!
A client at work: its session, the handlers of the four kinds, the cache with its listeners, and the
control plane at the other end. Callbacks may call back into the client, so what remains to be done
for a call in progress is kept on an agenda and taken up one frame at a time.
-/

namespace MeshDiscovery

/-- A listener with its label and the scripts for its next calls. -/
structure Listener where
  label : String
  scripts : List Script

/-- What a subscription does with a batch of resources. -/
inductive Callback where
  /-- Tells the consumers and performs a script. -/
  | inform (tag : String) (script : Script)
  /-- Subscribes to what the batch refers to and publishes what it holds. -/
  | relay

inductive Handler where
  | counter (calls : Nat) (script : Script)
  | subscription (subscription : Subscription Callback)

/-- What the control plane has sent on a stream. -/
inductive Delivery where
  | response (response : Response)
  | failure (status : Status)

/-- The control plane's end of a stream. -/
structure ServerStream where
  generation : Nat
  /-- What was sent and not read yet, oldest first. -/
  inbox : List Delivery := []
  /-- The control plane has left the stream. -/
  ended : Bool := false

/-- The control plane. -/
structure ControlPlane where
  /-- What it does with the next connects; it accepts when nothing is planned. -/
  plan : List (ConnectStep Operation) := []
  /-- The generations whose connect hangs. -/
  hanging : List Nat := []
  /-- The generations whose connect has hung and may go on. -/
  admitted : List Nat := []
  /-- The streams it has accepted, oldest first. -/
  streams : List ServerStream := []

/-- What remains to be done for a call in progress. -/
inductive Frame where
  | script (operations : Script)
  /-- Report the result of an operation of a script. -/
  | record (label : String)
  /-- Give a result. -/
  | yield (reply : Reply)
  /-- Perform the operations of a batch, after which it has the given results. -/
  | batch (operations : List Operation) (replies : List Reply)
  /-- Add the result of an operation of a batch. -/
  | gather (operations : List Operation) (replies : List Reply)
  /-- Publish values. -/
  | publish (publications : List Publication)
  /-- Call the listeners of a roster from some number on. -/
  | notify (publication : Publication) (opened start : ListenerId)
  | bind (label : String) (id : ListenerId)
  /-- Note that a response was taken. -/
  | settle (kind : ResourceType) (version nonce : String)
  /-- Acknowledge the response that is being dealt with. -/
  | acknowledge
  /-- Accept the connect of a generation. -/
  | accept (generation : Nat)

/-- A client at work, with what handles its responses and the control plane at the other end. -/
structure Deployment where
  session : Session
  /-- The owner has not given the client up. -/
  held : Bool := true
  handlers : PerType (Option Handler) := .const none
  cache : Cache Listener := {}
  labels : NameMap ListenerId := .empty
  plane : ControlPlane := {}
  /-- What consumers have seen, oldest first. -/
  events : List Event := []
  agenda : List Frame := []
  /-- The result of the last operation. -/
  result : Reply := .done

namespace Deployment

/-- Something still refers to the session: its owner, a task or a timer. -/
def isAlive (deployment : Deployment) : Bool :=
  deployment.held || !deployment.session.tasks.isEmpty || !deployment.session.timers.isEmpty

def answer (deployment : Deployment) (reply : Reply) : Deployment :=
  { deployment with result := reply }

def push (deployment : Deployment) (frames : List Frame) : Deployment :=
  { deployment with agenda := frames ++ deployment.agenda }

def emit (deployment : Deployment) (event : Event) : Deployment :=
  { deployment with events := deployment.events ++ [event] }

/-- The subscription for a kind, if responses of the kind are handled by one. -/
def subscription? (deployment : Deployment) (kind : ResourceType) :
    Option (Subscription Callback) :=
  match deployment.handlers.get kind with
  | some (.subscription subscription) => some subscription
  | _ => none

def setHandler (deployment : Deployment) (kind : ResourceType) (handler : Handler) : Deployment :=
  { deployment with handlers := deployment.handlers.set kind (some handler) }

/-- The stream that an operation of the control plane is about: the newest, unless one is named. -/
def streamIndex (deployment : Deployment) (stream : Option Nat) : Nat :=
  stream.getD (deployment.plane.streams.length - 1)

/-- The session reads the stream of a generation. -/
def isReading (deployment : Deployment) (generation : Nat) : Bool :=
  deployment.session.hasTask generation .reading

end Deployment

end MeshDiscovery
