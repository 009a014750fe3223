import MeshDiscovery.Session.Basic

/-!
The steps of the tasks of a session: a stream is opened, read and lost, a response is dispatched and
acknowledged, and a timer opens the next stream. Only the current generation may change the phase; a
step whose task or timer is not there changes nothing.
-/

namespace MeshDiscovery.Session

/-- Sets the timer for the next stream, if the lost one is the current one. -/
def scheduleRecovery (session : Session) (generation : Nat) : Session :=
  if session.current? = some generation then
    let waiting : Session :=
      { session with
        phase := .recovering generation
        timers := session.timers ++ [⟨generation, session.clock + reconnectDelay⟩] }
    (waiting.count Metrics.countReconnect).report (.recoveryScheduled generation)
  else session

/-- A spawned task starts. It asks the control plane for a stream, unless the session was closed
before. -/
def start (session : Session) (generation : Nat) : Session :=
  if session.hasTask generation .spawned then
    if session.phase = .closed then (session.endTask generation).shutChannel generation
    else { session.setStage generation .connecting with connects := session.connects + 1 }
  else session

def connectFailed (session : Session) (generation : Nat) (problem : SessionError) : Session :=
  if session.hasTask generation .connecting then
    let failed := session.report (.openFailed generation problem)
    ((failed.endTask generation).shutChannel generation).scheduleRecovery generation
  else session

/-- The control plane has opened the stream. A stream that is no longer wanted is left at once. -/
def connectSucceeded (session : Session) (generation : Nat) : Session :=
  if session.hasTask generation .connecting then
    if session.current? = some generation then
      let reading : Session :=
        { session.setStage generation .reading with phase := .active generation true }
      (reading.report (.opened generation)).count (·.adjustConnected 1)
    else session.endTask generation
  else session

/-- What is reported about the end of a stream. -/
def endingNotice (generation : Nat) : Ending → Notice
  | .failed status =>
    match status.ioText? with
    | some text => .disconnected generation text
    | none => .streamFailed generation status
  | .completed => .completed generation

def streamEnded (session : Session) (generation : Nat) (ending : Ending) : Session :=
  if session.hasTask generation .reading then
    let left := (session.report (endingNotice generation ending)).count (·.adjustConnected (-1))
    (left.endTask generation).scheduleRecovery generation
  else session

/-- A task notices that the session was closed, and ends. -/
def stopTask (session : Session) (generation : Nat) : Session :=
  if session.phase = .closed then
    if session.hasTask generation .reading then
      (session.count (·.adjustConnected (-1))).endTask generation
    else if session.hasTask generation .connecting then
      (session.endTask generation).shutChannel generation
    else session
  else session

def dropTimer (session : Session) (generation : Nat) : Session :=
  { session with timers := session.timers.filter fun timer => timer.generation ≠ generation }

/-- Opens the next stream, if the session still waits for it. The stream starts with the recorded
requests, each without version and nonce. -/
def recover (session : Session) (generation : Nat) : Session :=
  if session.phase = .recovering generation then
    let replay := session.recordedRequests.map fun entry => (entry.1, entry.2.restated)
    (session.report (.recovering (generation + 1) replay.length)).openStream (generation + 1) replay
  else session

def fireTimer (session : Session) (generation : Nat) : Session :=
  if session.timers.any fun timer => timer.generation = generation then
    (session.dropTimer generation).recover generation
  else session

def cancelTimer (session : Session) (generation : Nat) : Session :=
  if session.phase = .closed then session.dropTimer generation else session

def elapse (session : Session) (time : Nat) : Session :=
  { session with clock := max session.clock time }

/-- The names that the acknowledgement of a response lists: those of the recorded request, or none
for a wildcard root. A kind that is asked for by name only and was not asked for has none to list.
-/
def subscribedNames? (session : Session) (kind : ResourceType) : Option (List String) :=
  match session.recorded.get kind with
  | some request => some request.names
  | none => if kind.isWildcardRoot then some [] else none

/-- A response is read from the stream of a generation. It is handed to the handler of its kind,
unless there is none or the kind was never asked for. -/
def receive (session : Session) (generation : Nat) (response : Response) : Session :=
  match ResourceType.ofUrl? response.typeUrl with
  | none => session.report (.responseDropped generation (.unhandledType response.typeUrl))
  | some kind =>
    if session.handled.get kind then
      let counted := session.count (·.countReceived kind)
      match counted.subscribedNames? kind with
      | some names =>
        { counted with
          dispatch := some ⟨generation, kind, response.version, response.nonce, names⟩ }
      | none =>
        counted.report (.responseIgnored response.version response.nonce response.typeUrl)
    else session.report (.responseDropped generation (.unhandledType response.typeUrl))

def acknowledgement (session : Session) (dispatch : Dispatch) : Request where
  typeUrl := dispatch.kind.url
  names := dispatch.names
  version := dispatch.version
  nonce := dispatch.nonce
  node := some session.node

/-- The handler is done with the response. The acknowledgement goes out on the stream that the
response came from, if that is still the current one. -/
def acknowledge (session : Session) : Session :=
  match session.dispatch with
  | none => session
  | some dispatch =>
    let idle : Session := { session with dispatch := none }
    let done := idle.count (·.countDispatched dispatch.kind)
    if done.current? = some dispatch.generation then
      done.queue dispatch.generation dispatch.kind (done.acknowledgement dispatch)
    else done

end MeshDiscovery.Session
