import MeshDiscovery.Deployment.Perform

/-!
The moves of a client at work. A call in progress is taken up until nothing of it remains; between
calls, any task or timer of the session may take its next step. Which one does is up to the
scheduler: a move is possible in more orders than the one that is chosen when a client is run.
-/

namespace MeshDiscovery

/-- A step of a client, its session's tasks and timers, or the time. -/
inductive Move where
  /-- The owner or the control plane performs an operation. -/
  | perform (operation : Operation)
  /-- The call in progress is taken up. -/
  | proceed
  /-- A spawned task starts. -/
  | start (generation : Nat)
  /-- A connect that was let go on is accepted. -/
  | resume (generation : Nat)
  /-- A task reads what comes next on its stream. -/
  | read (generation : Nat)
  /-- A task notices that the session was closed. -/
  | stop (generation : Nat)
  | fire (generation : Nat)
  /-- A timer notices that the session was closed. -/
  | cancel (generation : Nat)
  /-- Time passes, up to the given time. -/
  | elapse (time : Nat)

namespace Deployment

def accept (deployment : Deployment) (generation : Nat) : Deployment :=
  { deployment with
    plane := { deployment.plane with streams := deployment.plane.streams ++ [{ generation }] }
    session := deployment.session.connectSucceeded generation }

/-- Takes up the first frame of the agenda. -/
def proceed (deployment : Deployment) : Deployment :=
  match deployment.agenda with
  | [] => deployment
  | frame :: rest =>
    let next := { deployment with agenda := rest }
    match frame with
    | .script [] => next
    | .script ((label, operation) :: more) =>
      (next.push [.record label, .script more]).perform operation
    | .record label => next.emit (.performed label next.result)
    | .yield reply => next.answer reply
    | .batch [] replies => next.answer (.batch replies)
    | .batch (operation :: more) replies => (next.push [.gather more replies]).perform operation
    | .gather more replies => next.push [.batch more (replies ++ [next.result])]
    | .publish [] => next
    | .publish (publication :: more) => (next.push [.publish more]).publish publication
    | .notify publication opened start => next.notifyNext publication opened start
    | .bind label id => { next with labels := next.labels.insert label id }
    | .settle kind version nonce =>
      match next.subscription? kind with
      | some subscription =>
        next.setHandler kind (.subscription (subscription.settle version nonce))
      | none => next
    | .acknowledge => { next with session := next.session.acknowledge }
    | .accept generation => next.accept generation

/-- The control plane does what is planned for the connect of a generation. -/
def connect (deployment : Deployment) (generation : Nat) : Deployment :=
  match deployment.plane.plan with
  | [] => deployment.accept generation
  | step :: rest =>
    let planned := { deployment with plane := { deployment.plane with plan := rest } }
    match step with
    | .accept => planned.accept generation
    | .refuse problem =>
      { planned with session := planned.session.connectFailed generation problem }
    | .hang =>
      { planned with
        plane := { planned.plane with hanging := planned.plane.hanging ++ [generation] } }
    | .accompany script => planned.push [.script script, .accept generation]

/-- A spawned task starts. -/
def start (deployment : Deployment) (generation : Nat) : Deployment :=
  if deployment.session.hasTask generation .spawned then
    let started := { deployment with session := deployment.session.start generation }
    if started.session.hasTask generation .connecting then started.connect generation else started
  else deployment

/-- The task of a generation may be admitted. -/
def isAdmitted (deployment : Deployment) (generation : Nat) : Bool :=
  deployment.session.hasTask generation .connecting
    && deployment.plane.admitted.contains generation

/-- A connect that was let go on is accepted. -/
def resume (deployment : Deployment) (generation : Nat) : Deployment :=
  if deployment.isAdmitted generation then
    { deployment with
      plane := { deployment.plane with
        admitted := deployment.plane.admitted.filter (· ≠ generation) } }.accept generation
  else deployment

/-- The control plane's end of the stream of a generation, with its place among the streams. -/
def server? (deployment : Deployment) (generation : Nat) : Option (ServerStream × Nat) :=
  deployment.plane.streams.zipIdx.find? fun entry => entry.1.generation = generation

/-- There is something to read for the task of a generation: a delivery or the end of its stream. -/
def isReadable (deployment : Deployment) (generation : Nat) : Bool :=
  (deployment.server? generation).any fun entry => !entry.1.inbox.isEmpty || entry.1.ended

/-- The session receives a response: if it is to be dealt with, the handler of its kind is run and
the response is acknowledged after that. -/
def receive (deployment : Deployment) (generation : Nat) (response : Response) : Deployment :=
  let received := { deployment with session := deployment.session.receive generation response }
  match received.session.dispatch with
  | none => received
  | some dispatch => (received.push [.acknowledge]).runHandler dispatch.kind response

/-- A task reads what comes next on its stream. -/
def read (deployment : Deployment) (generation : Nat) : Deployment :=
  if deployment.isReading generation then
    match deployment.server? generation with
    | none => deployment
    | some (server, index) =>
      match server.inbox with
      | [] =>
        if server.ended then
          { deployment with session := deployment.session.streamEnded generation .completed }
        else deployment
      | delivery :: rest =>
        let streams := deployment.plane.streams.set index { server with inbox := rest }
        let taken := { deployment with plane := { deployment.plane with streams } }
        match delivery with
        | .response response => taken.receive generation response
        | .failure status =>
          { taken with session := taken.session.streamEnded generation (.failed status) }
  else deployment

/-- A move of the session alone. -/
def changeSession (deployment : Deployment) (change : Session → Session) : Deployment :=
  { deployment with session := change deployment.session }

/-- Makes a move. As long as a call is in progress, only the call can go on. -/
def move (deployment : Deployment) (step : Move) : Deployment :=
  match deployment.agenda, step with
  | _, .proceed => deployment.proceed
  | _ :: _, _ => deployment
  | [], .perform operation => deployment.perform operation
  | [], .start generation => deployment.start generation
  | [], .resume generation => deployment.resume generation
  | [], .read generation => deployment.read generation
  | [], .stop generation => deployment.changeSession (·.stopTask generation)
  | [], .fire generation => deployment.changeSession (·.fireTimer generation)
  | [], .cancel generation => deployment.changeSession (·.cancelTimer generation)
  | [], .elapse time => deployment.changeSession (·.elapse time)

def moves (deployment : Deployment) (steps : List Move) : Deployment :=
  steps.foldl move deployment

end Deployment

end MeshDiscovery
