import MeshDiscovery.Proofs.Session.Effect

namespace MeshDiscovery.Session

/-- Two sessions differ at most in what they have reported and in the responses that they have
counted. -/
def Coincides (left right : Session) : Prop :=
  ∃ notices received,
    right = { left with notices, metrics := { left.metrics with received } }

namespace Coincides

variable {left right : Session}

theorem refl (session : Session) : Coincides session session :=
  ⟨_, _, rfl⟩

theorem trans {between : Session} (first : Coincides left between)
    (second : Coincides between right) : Coincides left right := by
  obtain ⟨_, _, rfl⟩ := first
  obtain ⟨_, _, rfl⟩ := second
  exact ⟨_, _, rfl⟩

theorem handled (same : Coincides left right) : right.handled = left.handled := by
  obtain ⟨_, _, rfl⟩ := same
  rfl

theorem recorded (same : Coincides left right) : right.recorded = left.recorded := by
  obtain ⟨_, _, rfl⟩ := same
  rfl

theorem tasks (same : Coincides left right) : right.tasks = left.tasks := by
  obtain ⟨_, _, rfl⟩ := same
  rfl

theorem timers (same : Coincides left right) : right.timers = left.timers := by
  obtain ⟨_, _, rfl⟩ := same
  rfl

theorem dispatch (same : Coincides left right) : right.dispatch = left.dispatch := by
  obtain ⟨_, _, rfl⟩ := same
  rfl

theorem ite {condition : Prop} [Decidable condition] {left' right' : Session}
    (yes : Coincides left right) (no : Coincides left' right') :
    Coincides (if condition then left else left') (if condition then right else right') := by
  split
  · exact yes
  · exact no

theorem report (same : Coincides left right) (one other : Notice) :
    Coincides (left.report one) (right.report other) := by
  obtain ⟨_, _, rfl⟩ := same
  exact ⟨_, _, rfl⟩

theorem count (same : Coincides left right) (kind : ResourceType) :
    Coincides (left.count (·.countReceived kind)) (right.count (·.countReceived kind)) := by
  obtain ⟨_, _, rfl⟩ := same
  exact ⟨_, _, rfl⟩

theorem reportAll (same : Coincides left right) (notices : List Notice) :
    Coincides (notices.foldl Session.report left) (notices.foldl Session.report right) := by
  induction notices generalizing left right with
  | nil => exact same
  | cons notice rest ih => exact ih (same.report notice notice)

theorem countDecodeErrors (same : Coincides left right) (kind : ResourceType) (count : Nat) :
    Coincides (left.count (·.countDecodeErrors kind count))
      (right.count (·.countDecodeErrors kind count)) := by
  obtain ⟨_, _, rfl⟩ := same
  exact ⟨_, _, rfl⟩

theorem queue (same : Coincides left right) (generation : Nat) (kind : ResourceType)
    (request : Request) :
    Coincides (left.queue generation kind request) (right.queue generation kind request) := by
  obtain ⟨_, _, rfl⟩ := same
  exact .ite ⟨_, _, rfl⟩ ⟨_, _, rfl⟩

private theorem queueAll (same : Coincides left right) (generation : Nat)
    (initial : List (ResourceType × Request)) :
    Coincides
      (initial.foldl (fun session entry => session.queue generation entry.1 entry.2) left)
      (initial.foldl (fun session entry => session.queue generation entry.1 entry.2) right) := by
  induction initial generalizing left right with
  | nil => exact same
  | cons entry rest ih => exact ih (same.queue generation entry.1 entry.2)

theorem openStream (same : Coincides left right) (generation : Nat)
    (initial : List (ResourceType × Request)) :
    Coincides (left.openStream generation initial) (right.openStream generation initial) := by
  obtain ⟨_, _, rfl⟩ := same
  exact queueAll ⟨_, _, rfl⟩ generation initial

theorem sendRequest (same : Coincides left right) (kind : ResourceType) (request : Request) :
    Coincides (left.sendRequest kind request) (right.sendRequest kind request) := by
  have phase : right.phase = left.phase := by
    obtain ⟨_, _, rfl⟩ := same
    rfl
  unfold Session.sendRequest
  rw [phase]
  split
  · exact same.openStream 0 _
  · exact same.queue _ kind request
  · exact same
  · exact same

theorem request (same : Coincides left right) (request : Request) :
    Coincides (left.request request) (right.request request) := by
  unfold Session.request
  cases ResourceType.ofUrl? request.typeUrl with
  | none => exact same.report _ _
  | some kind =>
    have noted : Coincides (left.reportUnhandled kind) (right.reportUnhandled kind) := by
      obtain ⟨_, _, rfl⟩ := same
      exact .ite ⟨_, _, rfl⟩ ⟨_, _, rfl⟩
    have own : right.node = left.node := by
      obtain ⟨_, _, rfl⟩ := same
      rfl
    dsimp only
    rw [own]
    refine sendRequest ?_ kind _
    generalize left.reportUnhandled kind = one, right.reportUnhandled kind = other at noted
    obtain ⟨_, _, rfl⟩ := noted
    exact ⟨_, _, rfl⟩

theorem close (same : Coincides left right) : Coincides left.close right.close := by
  obtain ⟨_, _, rfl⟩ := same
  unfold Session.close
  dsimp only
  split
  · exact ⟨_, _, rfl⟩
  all_goals exact ⟨_, _, rfl⟩

theorem scheduleRecovery (same : Coincides left right) (generation : Nat) :
    Coincides (left.scheduleRecovery generation) (right.scheduleRecovery generation) := by
  obtain ⟨_, _, rfl⟩ := same
  exact .ite ⟨_, _, rfl⟩ ⟨_, _, rfl⟩

theorem start (same : Coincides left right) (generation : Nat) :
    Coincides (left.start generation) (right.start generation) := by
  obtain ⟨_, _, rfl⟩ := same
  exact .ite (.ite ⟨_, _, rfl⟩ ⟨_, _, rfl⟩) ⟨_, _, rfl⟩

theorem connectFailed (same : Coincides left right) (generation : Nat) (problem : SessionError) :
    Coincides (left.connectFailed generation problem) (right.connectFailed generation problem) := by
  obtain ⟨_, _, rfl⟩ := same
  exact .ite (scheduleRecovery ⟨_, _, rfl⟩ generation) ⟨_, _, rfl⟩

theorem connectSucceeded (same : Coincides left right) (generation : Nat) :
    Coincides (left.connectSucceeded generation) (right.connectSucceeded generation) := by
  obtain ⟨_, _, rfl⟩ := same
  exact .ite (.ite ⟨_, _, rfl⟩ ⟨_, _, rfl⟩) ⟨_, _, rfl⟩

theorem streamEnded (same : Coincides left right) (generation : Nat) (ending : Ending) :
    Coincides (left.streamEnded generation ending) (right.streamEnded generation ending) := by
  obtain ⟨_, _, rfl⟩ := same
  exact .ite (scheduleRecovery ⟨_, _, rfl⟩ generation) ⟨_, _, rfl⟩

theorem stopTask (same : Coincides left right) (generation : Nat) :
    Coincides (left.stopTask generation) (right.stopTask generation) := by
  obtain ⟨_, _, rfl⟩ := same
  exact .ite (.ite ⟨_, _, rfl⟩ (.ite ⟨_, _, rfl⟩ ⟨_, _, rfl⟩)) ⟨_, _, rfl⟩

theorem fireTimer (same : Coincides left right) (generation : Nat) :
    Coincides (left.fireTimer generation) (right.fireTimer generation) := by
  obtain ⟨_, _, rfl⟩ := same
  exact .ite (.ite (openStream ⟨_, _, rfl⟩ _ _) ⟨_, _, rfl⟩) ⟨_, _, rfl⟩

theorem cancelTimer (same : Coincides left right) (generation : Nat) :
    Coincides (left.cancelTimer generation) (right.cancelTimer generation) := by
  obtain ⟨_, _, rfl⟩ := same
  exact .ite ⟨_, _, rfl⟩ ⟨_, _, rfl⟩

theorem elapse (same : Coincides left right) (time : Nat) :
    Coincides (left.elapse time) (right.elapse time) := by
  obtain ⟨_, _, rfl⟩ := same
  exact ⟨_, _, rfl⟩

theorem receive (same : Coincides left right) (generation : Nat) (response : Response) :
    Coincides (left.receive generation response) (right.receive generation response) := by
  unfold Session.receive
  cases ResourceType.ofUrl? response.typeUrl with
  | none => exact same.report _ _
  | some kind =>
    have names : (right.count (·.countReceived kind)).subscribedNames? kind =
        (left.count (·.countReceived kind)).subscribedNames? kind := by
      obtain ⟨_, _, rfl⟩ := same
      rfl
    dsimp only
    rw [same.handled, names]
    refine .ite ?_ (same.report _ _)
    cases (left.count (·.countReceived kind)).subscribedNames? kind with
    | none => exact (same.count kind).report _ _
    | some names =>
      obtain ⟨_, _, rfl⟩ := same
      exact ⟨_, _, rfl⟩

theorem acknowledge (same : Coincides left right) :
    Coincides left.acknowledge right.acknowledge := by
  unfold Session.acknowledge
  rw [same.dispatch]
  cases left.dispatch with
  | none => exact same
  | some dispatch =>
    obtain ⟨_, _, rfl⟩ := same
    exact .ite (queue ⟨_, _, rfl⟩ _ _ _) ⟨_, _, rfl⟩

theorem setHandled (same : Coincides left right) (handled : PerType Bool) :
    Coincides { left with handled } { right with handled } := by
  obtain ⟨_, _, rfl⟩ := same
  exact ⟨_, _, rfl⟩

theorem shutChannel (same : Coincides left right) (generation : Nat) :
    Coincides (left.shutChannel generation) (right.shutChannel generation) := by
  obtain ⟨_, _, rfl⟩ := same
  exact ⟨_, _, rfl⟩

end Coincides

end MeshDiscovery.Session
