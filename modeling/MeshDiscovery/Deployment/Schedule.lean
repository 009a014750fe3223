import MeshDiscovery.Deployment.Move

/-!
The order in which a client is run when nothing else decides it: calls in progress first, then tasks
in the order of their streams. A task that can both read and stop stops. Timers fire in the order in
which they are due.
-/

namespace MeshDiscovery.Deployment

/-- The next step of a task, if it does not wait. -/
def taskMove? (deployment : Deployment) (task : Session.StreamTask) : Option Move :=
  match task.stage with
  | .spawned => some (.start task.generation)
  | .connecting =>
    if deployment.session.phase = .closed then some (.stop task.generation)
    else if deployment.isAdmitted task.generation then some (.resume task.generation)
    else none
  | .reading =>
    if deployment.session.phase = .closed then some (.stop task.generation)
    else if deployment.isReadable task.generation then some (.read task.generation)
    else none

/-- The next step of a timer that does not wait for its time. -/
def timerMove? (deployment : Deployment) (timer : Session.Timer) : Option Move :=
  if deployment.session.phase = .closed then some (.cancel timer.generation) else none

/-- The next move, if not everything waits. -/
def ready? (deployment : Deployment) : Option Move :=
  if !deployment.agenda.isEmpty then some .proceed
  else
    match deployment.session.tasks.findSome? deployment.taskMove? with
    | some step => some step
    | none => deployment.session.timers.findSome? deployment.timerMove?

/-- Makes moves until everything waits, at most so many. -/
def settleWithin : (moves : Nat) → Deployment → Deployment
  | 0, deployment => deployment
  | moves + 1, deployment =>
    match deployment.ready? with
    | none => deployment
    | some step => settleWithin moves (deployment.move step)

/-- More moves than any client makes before it waits, short of callbacks that never end. -/
def patience : Nat := 10000000

/-- Makes moves until everything waits. -/
def settle (deployment : Deployment) : Deployment :=
  settleWithin patience deployment

/-- Takes up the call in progress until nothing of it remains, in at most so many steps. -/
def finishWithin : (steps : Nat) → Deployment → Deployment
  | 0, deployment => deployment
  | steps + 1, deployment =>
    if deployment.agenda.isEmpty then deployment else finishWithin steps deployment.proceed

/-- Takes up the call in progress until nothing of it remains. -/
def finish (deployment : Deployment) : Deployment :=
  finishWithin patience deployment

/-- The timer that fires first, if one does until the given time. -/
def dueTimer? (deployment : Deployment) (time : Nat) : Option Session.Timer :=
  let due := deployment.session.timers.filter fun timer => timer.due ≤ time
  due.foldl (fun first timer =>
    match first with
    | none => some timer
    | some other => if timer.due < other.due then some timer else first) none

/-- Lets timers fire until the given time, at most so many. -/
def advanceWithin : (timers : Nat) → Nat → Deployment → Deployment
  | 0, time, deployment => deployment.move (.elapse time)
  | timers + 1, time, deployment =>
    match deployment.dueTimer? time with
    | none => deployment.move (.elapse time)
    | some timer =>
      advanceWithin timers time
        ((deployment.move (.elapse timer.due)).move (.fire timer.generation)).settle

/-- Lets time pass. A timer fires at most once in each reconnect delay, apart from the first one. -/
def advance (deployment : Deployment) (span : Nat) : Deployment :=
  advanceWithin (span / Session.reconnectDelay + 1) (deployment.session.clock + span) deployment

end MeshDiscovery.Deployment
