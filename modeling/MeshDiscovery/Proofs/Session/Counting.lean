import MeshDiscovery.Proofs.Session.Recording
import MeshDiscovery.Proofs.Session.Sending

namespace MeshDiscovery

def Request.label (request : Request) : String :=
  match ResourceType.ofUrl? request.typeUrl with
  | some kind => kind.shortName
  | none => "unknown"

namespace Session

variable {session : Session}

/-- The counters of messages, responses and entries stay as they are. -/
structure Uncounted (before after : Metrics) : Prop where
  sent : after.sent = before.sent
  received : after.received = before.received
  decodeErrors : after.decodeErrors = before.decodeErrors
  dispatched : after.dispatched = before.dispatched

/-- A quiet step counts entries at most. -/
theorem uncounted_step (session : Session) {step : Step} (quiet : step.isQuiet = true)
    (other : ∀ kind count, step ≠ .skip kind count) :
    Uncounted session.metrics (session.step step).metrics := by
  by_cases registers : ∃ kind, step = .register kind
  · obtain ⟨kind, rfl⟩ := registers
    obtain ⟨_, same⟩ := session.register_eq kind
    rw [same]
    exact ⟨rfl, rfl, rfl, rfl⟩
  · obtain ⟨_, _, _, _, _, _, _, _, _, same⟩ :=
      session.quiet_eq quiet (fun kind is => registers ⟨kind, is⟩) other
    rw [same]
    exact ⟨rfl, rfl, rfl, rfl⟩

/-- A request counts messages at most. -/
theorem metrics_request (session : Session) (request : Request) :
    ∃ sent, (session.request request).metrics = { session.metrics with sent } := by
  rcases session.request_cases request with ⟨_, same⟩ | ⟨kind, _, same⟩
  · rw [same]
    exact ⟨_, rfl⟩
  · obtain ⟨_, noted⟩ := session.noting_eq kind request
    rw [same]
    split
    · obtain ⟨_, sent, opened⟩ := (session.noting kind request).openStream_eq 0
        [(kind, session.signed request)]
      rw [opened, noted]
      exact ⟨sent, rfl⟩
    · rename_i generation _ _
      obtain ⟨_, sent, queued⟩ := (session.noting kind request).queue_eq generation kind
        (session.signed request)
      rw [queued, noted]
      exact ⟨sent, rfl⟩
    all_goals
      rw [noted]
      exact ⟨_, rfl⟩

/-- A timer that fires counts messages at most. -/
theorem metrics_fireTimer (session : Session) (generation : Nat) :
    ∃ sent, (session.fireTimer generation).metrics = { session.metrics with sent } := by
  rcases session.fireTimer_cases generation with ⟨_, same⟩ | ⟨_, ⟨_, same⟩ | ⟨_, same⟩⟩
  · exact ⟨_, congrArg Session.metrics same⟩
  · rw [same]
    exact ⟨_, rfl⟩
  · obtain ⟨_, sent, opened⟩ :=
      (session.waking generation).openStream_eq (generation + 1) session.replay
    rw [same, opened]
    exact ⟨sent, rfl⟩

/-- A handler that returns is counted, with the message that is queued then. -/
theorem metrics_acknowledge {dispatch : Dispatch} (current : session.dispatch = some dispatch) :
    ∃ sent, session.acknowledge.metrics =
      { session.metrics.countDispatched dispatch.kind with sent } := by
  simp only [acknowledge, current]
  split
  · obtain ⟨_, sent, queued⟩ := queue_eq
      (count { session with dispatch := none } (·.countDispatched dispatch.kind))
      dispatch.generation dispatch.kind (Session.acknowledgement
        (count { session with dispatch := none } (·.countDispatched dispatch.kind)) dispatch)
    rw [queued]
    exact ⟨sent, rfl⟩
  · exact ⟨_, rfl⟩

/-- Reading a response counts the response at most. -/
theorem metrics_read (session : Session) (generation : Nat) (response : Response) :
    ∃ received, (session.step (.read generation response)).metrics =
      { session.metrics with received } := by
  simp only [step, receive]
  split
  · split
    · exact ⟨_, rfl⟩
    · split
      · split <;> exact ⟨_, rfl⟩
      · exact ⟨_, rfl⟩
  · exact ⟨_, rfl⟩

def messages (session : Session) : List Request :=
  session.generations.flatMap session.queued

/-- What is recorded for a kind is a request of the kind. -/
def Typed (session : Session) : Prop :=
  ∀ kind request, session.recorded.get kind = some request → request.typeUrl = kind.url

theorem Typed.step (typed : session.Typed) (step : Step) : (session.step step).Typed := by
  intro kind request recorded
  rw [recorded_step, Option.or_eq_some_iff] at recorded
  rcases recorded with own | ⟨_, earlier⟩
  · obtain ⟨wanted, accepted, rfl⟩ := Option.map_eq_some_iff.mp own
    cases step with
    | request other =>
      simp only [Step.accepted?, Option.ite_none_right_eq_some, Option.some.injEq] at accepted
      obtain ⟨known, rfl⟩ := accepted
      exact (ResourceType.url_of_ofUrl? known).symm
    | _ => cases accepted
  · exact typed kind request earlier

/-- The kind of the response that a session deals with, if it deals with one. -/
def atHand (session : Session) : List ResourceType :=
  (session.dispatch.map Dispatch.kind).toList

/-- The kind of the response that a step reads and ignores, since its kind is asked for by name only
and was not asked for. -/
def ignores (session : Session) : Step → List ResourceType
  | .read generation response =>
    match ResourceType.ofUrl? response.typeUrl with
    | none => []
    | some kind =>
      if session.hasTask generation .reading = true ∧ session.isBusy generation = false ∧
          session.handled.get kind = true ∧ session.subscribedNames? kind = none then
        [kind]
      else []
  | _ => []

/-- Every response that was received was dealt with, was ignored or is at hand. -/
def Balanced (session : Session) (ignored : List ResourceType) : Prop :=
  ∀ kind, session.metrics.received.get kind =
    session.metrics.dispatched.get kind + ignored.count kind + session.atHand.count kind

namespace Balanced

variable {ignored : List ResourceType}

private theorem of_same {after : Session} (balanced : Balanced session ignored)
    (received : after.metrics.received = session.metrics.received)
    (dispatched : after.metrics.dispatched = session.metrics.dispatched)
    (dispatch : after.dispatch = session.dispatch) : Balanced after (ignored ++ []) := by
  intro kind
  rw [received, dispatched, atHand, dispatch, List.append_nil]
  exact balanced kind

private theorem get_add (table : PerType Nat) (kind other : ResourceType) :
    (table.modify kind (· + 1)).get other = table.get other + [kind].count other := by
  by_cases same : kind = other
  · rw [same, PerType.get_modify_self]
    simp
  · rw [PerType.get_modify_of_ne _ _ (Ne.symm same)]
    simp [same]

private theorem read (valid : Coherent session) (balanced : Balanced session ignored)
    (generation : Nat) (response : Response) :
    Balanced (session.step (.read generation response))
      (ignored ++ session.ignores (.read generation response)) := by
  simp only [Session.step, ignores]
  by_cases able : session.hasTask generation .reading = true ∧ session.isBusy generation = false
  · obtain ⟨reading, free⟩ := able
    have idle := valid.no_dispatch reading (.inr free)
    rw [if_pos (by simp [reading, free])]
    unfold receive
    cases known : ResourceType.ofUrl? response.typeUrl with
    | none => exact balanced.of_same rfl rfl rfl
    | some kind =>
      by_cases handled : session.handled.get kind = true
      · have counted : (session.count (·.countReceived kind)).subscribedNames? kind =
          session.subscribedNames? kind := rfl
        have received (other : ResourceType) :
            (session.metrics.countReceived kind).received.get other =
              session.metrics.dispatched.get other + ignored.count other + [kind].count other := by
          have before := balanced other
          rw [atHand, idle] at before
          rw [Metrics.countReceived, get_add, before]
          rfl
        simp only [handled, if_true, counted, reading, free, true_and]
        cases session.subscribedNames? kind with
        | some names =>
          simp only [reduceCtorEq, if_false, List.append_nil]
          exact received
        | none =>
          simp only [if_true]
          intro other
          rw [List.count_append, ← Nat.add_assoc]
          show (session.metrics.countReceived kind).received.get other =
            _ + (session.dispatch.map Dispatch.kind).toList.count other
          rw [idle]
          exact received other
      · simp only [handled, Bool.false_eq_true, if_false, and_false, false_and]
        exact balanced.of_same rfl rfl rfl
  · have none : session.ignores (.read generation response) = [] := by
      simp only [ignores]
      split
      · rfl
      · exact if_neg fun all => able ⟨all.1, all.2.1⟩
    simp only [ignores] at none
    rw [none, if_neg (by simpa using able)]
    exact balanced.of_same rfl rfl rfl

private theorem acknowledge (balanced : Balanced session ignored) :
    Balanced session.acknowledge (ignored ++ []) := by
  obtain ⟨_, _, same⟩ := session.acknowledge_eq
  have idle : session.acknowledge.dispatch = none := by rw [same]
  cases current : session.dispatch with
  | none =>
    have unchanged : session.acknowledge = session := by rw [Session.acknowledge, current]
    rw [unchanged]
    exact balanced.of_same rfl rfl rfl
  | some dispatch =>
    obtain ⟨sent, counted⟩ := metrics_acknowledge current
    intro kind
    have before := balanced kind
    rw [atHand, current] at before
    rw [counted, List.append_nil, atHand, idle]
    show session.metrics.received.get kind =
      (session.metrics.dispatched.modify dispatch.kind (· + 1)).get kind + _ + 0
    rw [get_add, before]
    exact Nat.add_right_comm ..

theorem step (valid : Coherent session) (balanced : Balanced session ignored) (step : Step) :
    Balanced (session.step step) (ignored ++ session.ignores step) := by
  by_cases quiet : step.isQuiet = true
  · have dispatch := (frame_step session quiet).dispatch
    cases step with
    | skip => exact balanced.of_same rfl rfl rfl
    | read => cases quiet
    | _ =>
      have same := uncounted_step session quiet (by simp)
      exact balanced.of_same same.received same.dispatched dispatch
  · cases step with
    | request request =>
      obtain ⟨_, same⟩ := session.metrics_request request
      exact balanced.of_same (by rw [Session.step, same]) (by rw [Session.step, same])
        (session.dispatch_request request)
    | acknowledge => exact balanced.acknowledge
    | fire generation =>
      obtain ⟨_, same⟩ := session.metrics_fireTimer generation
      exact balanced.of_same (by rw [Session.step, same]) (by rw [Session.step, same])
        (session.dispatch_fireTimer generation)
    | read generation response => exact balanced.read valid generation response
    | _ => exact absurd rfl quiet

theorem run (valid : Coherent session) (balanced : Balanced session ignored) (steps : List Step) :
    Balanced (session.run steps) (ignored ++ trace ignores session steps) := by
  induction steps generalizing session ignored with
  | nil => simpa [trace] using balanced
  | cons step rest ih =>
    have later := ih (valid.step step) (balanced.step valid step)
    simpa only [trace, run_cons, List.append_assoc] using later

end Balanced

/-- The number of entries of a kind that a step reports as skipped. -/
def Step.skipped (kind : ResourceType) : Step → Nat
  | .skip other count => if other = kind then count else 0
  | _ => 0

end Session

end MeshDiscovery
