import MeshDiscovery.Request
import MeshDiscovery.Session.Metrics
import MeshDiscovery.Session.Notice

/-!
A discovery session: one logical stream to the control plane that outlives the streams it uses.
Streams are numbered by generation. Each has a channel for the requests of the client and a task
that opens it and reads it; when a stream is lost, a timer is set that opens the next one. The
session records the last request for each kind of resource, which is what a new stream starts with.
-/

namespace MeshDiscovery

inductive SessionState where
  /-- Nothing was requested yet. -/
  | idle
  /-- A stream is being opened; requests wait in its channel. -/
  | connecting
  | connected
  /-- The last stream was lost and the next one is due. -/
  | recovering
  | closed
  deriving DecidableEq, Repr, Inhabited

def SessionState.name : SessionState → String
  | idle => "Idle"
  | connecting => "Connecting"
  | connected => "Connected"
  | recovering => "Recovering"
  | closed => "Closed"

namespace Session

/-- Where a session stands between its streams. -/
inductive Phase where
  | idle
  | active (generation : Nat) (connected : Bool)
  | recovering (generation : Nat)
  | closed
  deriving DecidableEq, Repr, Inhabited

/-- The requests that were queued for the stream of a generation, oldest first. -/
structure Channel where
  generation : Nat
  queued : List Request := []
  /-- The other end is still there. -/
  accepting : Bool := true
  deriving DecidableEq, Repr

inductive Stage where
  | spawned
  | connecting
  | reading
  deriving DecidableEq, Repr

/-- The task that opens and reads the stream of a generation. -/
structure StreamTask where
  generation : Nat
  stage : Stage
  deriving DecidableEq, Repr

/-- The timer that opens the stream after the one of a generation. -/
structure Timer where
  generation : Nat
  /-- The time at which it fires, in milliseconds. -/
  due : Nat
  deriving DecidableEq, Repr

/-- A response that its handler is dealing with, and the names that its acknowledgement will list.
-/
structure Dispatch where
  generation : Nat
  kind : ResourceType
  version : String
  nonce : String
  names : List String
  deriving DecidableEq, Repr

inductive Ending where
  | failed (status : Status)
  | completed
  deriving DecidableEq, Repr

/-- The time between losing a stream and opening the next one, in milliseconds. -/
def reconnectDelay : Nat := 3000

end Session

open Session in
/-- A session with a control plane, which opens one stream after the other. -/
structure Session where
  node : Node
  /-- The kinds that have a handler. -/
  handled : PerType Bool := .const false
  /-- The last request for each kind. -/
  recorded : PerType (Option Request) := .const none
  phase : Phase := .idle
  /-- One channel for each stream that was ever opened, oldest first. -/
  channels : List Channel := []
  tasks : List StreamTask := []
  timers : List Timer := []
  /-- The response that is being dealt with. -/
  dispatch : Option Dispatch := none
  /-- How often the control plane was asked for a stream. -/
  connects : Nat := 0
  /-- The time in milliseconds. -/
  clock : Nat := 0
  /-- What was reported so far, oldest first. -/
  notices : List Notice := []
  metrics : Metrics := {}
  deriving Repr

namespace Session

/-- A session of a node, before anything is requested. It needs a runtime for its tasks. -/
def new (runtime : Bool) (node : Node) : Except SessionError Session :=
  if runtime then .ok { node } else .error .noRuntime

def state (session : Session) : SessionState :=
  match session.phase with
  | .idle => .idle
  | .active _ false => .connecting
  | .active _ true => .connected
  | .recovering _ => .recovering
  | .closed => .closed

/-- The generation of the stream in use, if there is one. -/
def current? (session : Session) : Option Nat :=
  match session.phase with
  | .active generation _ => some generation
  | .idle | .recovering _ | .closed => none

def describe (session : Session) : String :=
  "AdsSession \x7b node: " ++ Text.quote session.node.id ++ ", state: " ++ session.state.name
    ++ " \x7d"

def report (session : Session) (notice : Notice) : Session :=
  { session with notices := session.notices ++ [notice] }

def count (session : Session) (change : Metrics → Metrics) : Session :=
  { session with metrics := change session.metrics }

/-- The session with one more kind that has a handler. Each kind gets one handler. -/
def register (session : Session) (kind : ResourceType) : Except SessionError Session :=
  if session.handled.get kind then .error (.duplicateHandler kind)
  else .ok { session with handled := session.handled.set kind true }

def channel? (session : Session) (generation : Nat) : Option Channel :=
  session.channels.find? fun channel => channel.generation = generation

def modifyChannel (session : Session) (generation : Nat) (change : Channel → Channel) : Session :=
  { session with
    channels := session.channels.map fun channel =>
      if channel.generation = generation then change channel else channel }

/-- The other end of a channel is gone: what is queued stays, nothing more is accepted. -/
def shutChannel (session : Session) (generation : Nat) : Session :=
  session.modifyChannel generation fun channel => { channel with accepting := false }

def accepts (session : Session) (generation : Nat) : Bool :=
  (session.channel? generation).any Channel.accepting

/-- Queues a request of a kind for the stream of a generation. A channel without another end drops
it. -/
def queue (session : Session) (generation : Nat) (kind : ResourceType) (request : Request) :
    Session :=
  if session.accepts generation then
    (session.modifyChannel generation fun channel =>
      { channel with queued := channel.queued ++ [request] }).count (·.countSent kind)
  else session

def hasTask (session : Session) (generation : Nat) (stage : Stage) : Bool :=
  session.tasks.contains ⟨generation, stage⟩

def endTask (session : Session) (generation : Nat) : Session :=
  { session with tasks := session.tasks.filter fun task => task.generation ≠ generation }

def setStage (session : Session) (generation : Nat) (stage : Stage) : Session :=
  { session with
    tasks := session.tasks.map fun task =>
      if task.generation = generation then { task with stage } else task }

/-- Opens the stream of a generation: its channel starts with the given requests and its task is
spawned. -/
def openStream (session : Session) (generation : Nat) (initial : List (ResourceType × Request)) :
    Session :=
  let started :=
    { session with
      channels := session.channels ++ [{ generation }]
      tasks := session.tasks ++ [⟨generation, .spawned⟩]
      phase := .active generation false }
  initial.foldl (fun session entry => session.queue generation entry.1 entry.2) started

/-- The recorded requests with their kinds, in the order in which they are replayed. -/
def recordedRequests (session : Session) : List (ResourceType × Request) :=
  ResourceType.all.filterMap fun kind =>
    (session.recorded.get kind).map fun request => (kind, request)

end Session

end MeshDiscovery
