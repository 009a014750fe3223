import MeshDiscovery.Session.Call
import MeshDiscovery.Session.Stream

/-!
Runs of a session. Whoever owns a session, its handlers, its tasks and timers and the control plane
take their steps in any order; a step that is not possible changes nothing. The task of a stream is
busy from reading a response until it is acknowledged, and whatever the handler does meanwhile is
made of steps as well.
-/

namespace MeshDiscovery.Session

inductive Step where
  | register (kind : ResourceType)
  | request (request : Request)
  | close
  /-- A handler reports something. -/
  | report (notice : Notice)
  /-- A handler has skipped entries of a response. -/
  | skip (kind : ResourceType) (count : Nat)
  | start (generation : Nat)
  /-- The control plane refuses the stream. -/
  | refuse (generation : Nat) (problem : SessionError)
  /-- The control plane opens the stream. -/
  | accept (generation : Nat)
  | read (generation : Nat) (response : Response)
  /-- The handler returns and the response is acknowledged. -/
  | acknowledge
  | finish (generation : Nat) (ending : Ending)
  /-- A task notices that the session was closed. -/
  | stop (generation : Nat)
  /-- The transport takes no more requests. -/
  | shut (generation : Nat)
  | fire (generation : Nat)
  /-- A timer notices that the session was closed. -/
  | cancel (generation : Nat)
  | elapse (time : Nat)

/-- A session of a node, before anything is requested. -/
def fresh (node : Node) : Session :=
  { node }

/-- Whatever session can be made is fresh. -/
theorem new_fresh (node : Node) : new true node = .ok (fresh node) :=
  rfl

def isBusy (session : Session) (generation : Nat) : Bool :=
  session.dispatch.any fun dispatch => dispatch.generation = generation

def step (session : Session) : Step → Session
  | .register kind =>
    match session.register kind with
    | .ok registered => registered
    | .error _ => session
  | .request request => session.request request
  | .close => session.close
  | .report notice => session.report notice
  | .skip kind count => session.count (·.countDecodeErrors kind count)
  | .start generation => session.start generation
  | .refuse generation problem => session.connectFailed generation problem
  | .accept generation => session.connectSucceeded generation
  | .read generation response =>
    if session.hasTask generation .reading && !session.isBusy generation then
      session.receive generation response
    else session
  | .acknowledge => session.acknowledge
  | .finish generation ending =>
    if session.isBusy generation then session else session.streamEnded generation ending
  | .stop generation => if session.isBusy generation then session else session.stopTask generation
  | .shut generation => session.shutChannel generation
  | .fire generation => session.fireTimer generation
  | .cancel generation => session.cancelTimer generation
  | .elapse time => session.elapse time

/-! While no response is dealt with, no task is busy and each may take its next step. -/

section Idle

variable {session : Session} (idle : session.dispatch = none)
include idle

theorem isBusy_of_idle (generation : Nat) : session.isBusy generation = false := by
  rw [isBusy, idle]
  rfl

theorem step_read_of_idle {generation : Nat}
    (reading : session.hasTask generation .reading = true) (response : Response) :
    session.step (.read generation response) = session.receive generation response := by
  rw [step, reading, isBusy_of_idle idle]
  rfl

theorem step_finish_of_idle (generation : Nat) (ending : Ending) :
    session.step (.finish generation ending) = session.streamEnded generation ending := by
  rw [step, isBusy_of_idle idle]
  rfl

theorem step_stop_of_idle (generation : Nat) :
    session.step (.stop generation) = session.stopTask generation := by
  rw [step, isBusy_of_idle idle]
  rfl

end Idle

def run (session : Session) (steps : List Step) : Session :=
  steps.foldl step session

/-- What is observed of each step of a run, in order. -/
def trace {α : Type} (observe : Session → Step → List α) : Session → List Step → List α
  | _, [] => []
  | session, step :: rest => observe session step ++ trace observe (session.step step) rest

section Run

variable (session : Session)

@[simp] theorem run_nil : session.run [] = session :=
  rfl

@[simp] theorem run_cons (step : Step) (rest : List Step) :
    session.run (step :: rest) = (session.step step).run rest :=
  rfl

theorem run_append (earlier later : List Step) :
    session.run (earlier ++ later) = (session.run earlier).run later :=
  List.foldl_append

theorem trace_eq_nil {α : Type} {observe : Session → Step → List α} {steps : List Step}
    (none : ∀ step ∈ steps, ∀ session, observe session step = []) :
    trace observe session steps = [] := by
  induction steps generalizing session with
  | nil => rfl
  | cons step rest ih =>
    obtain ⟨own, others⟩ := List.forall_mem_cons.mp none
    rw [trace, own, ih (session.step step) others]
    rfl

end Run

end MeshDiscovery.Session
