import MeshDiscovery.Proofs.Session.Frame

/-!
What the four steps beyond the frame do, each said once: a request, reading a response,
acknowledging it and firing a timer.
-/

namespace MeshDiscovery.Session

variable (session : Session)

/-- The request as the session records and sends it. -/
def signed (request : Request) : Request :=
  { request with node := some session.node }

/-- The requests that the next stream would start with, with their kinds. -/
def replay : List (ResourceType × Request) :=
  session.recordedRequests.map fun entry => (entry.1, entry.2.restated)

/-- The session with the request of a kind recorded, before any of it is sent. -/
def noting (kind : ResourceType) (request : Request) : Session :=
  let noted := session.reportUnhandled kind
  { noted with recorded := noted.recorded.set kind (some (session.signed request)) }

theorem noting_eq (kind : ResourceType) (request : Request) : ∃ notices,
    session.noting kind request =
      { session with
        notices
        recorded := session.recorded.set kind (some (session.signed request)) } := by
  unfold noting reportUnhandled
  split
  · exact ⟨_, rfl⟩
  · exact ⟨_, rfl⟩

/-- A request of an unknown type is refused; any other is recorded, and sent as the phase allows. -/
theorem request_cases (request : Request) :
    (ResourceType.ofUrl? request.typeUrl = none ∧
      session.request request = session.report (.unknownTypeRequested request.typeUrl)) ∨
    ∃ kind, ResourceType.ofUrl? request.typeUrl = some kind ∧
      session.request request =
        match session.phase with
        | .idle => (session.noting kind request).openStream 0 [(kind, session.signed request)]
        | .active generation _ =>
          (session.noting kind request).queue generation kind (session.signed request)
        | .recovering _ | .closed => session.noting kind request := by
  cases known : ResourceType.ofUrl? request.typeUrl with
  | none =>
    left
    exact ⟨rfl, by rw [Session.request, known]⟩
  | some kind =>
    right
    refine ⟨kind, rfl, ?_⟩
    obtain ⟨notices, same⟩ := session.noting_eq kind request
    have samePhase : (session.noting kind request).phase = session.phase := by rw [same]
    have sent : session.request request =
        (session.noting kind request).sendRequest kind (session.signed request) := by
      rw [Session.request, known]
      simp only [noting, reportUnhandled]
      split <;> rfl
    cases phase : session.phase <;> simp only [sent, sendRequest, samePhase, phase]

def recordedAfter (request : Request) : PerType (Option Request) :=
  match ResourceType.ofUrl? request.typeUrl with
  | none => session.recorded
  | some kind => session.recorded.set kind (some (session.signed request))

/-- A request touches nothing but these. -/
theorem request_eq (request : Request) : ∃ phase channels tasks notices metrics,
    session.request request =
      { session with
        phase
        channels
        tasks
        notices
        metrics
        recorded := session.recordedAfter request } := by
  unfold recordedAfter
  rcases session.request_cases request with ⟨unknown, same⟩ | ⟨kind, known, same⟩
  · rw [same, unknown]
    exact ⟨_, _, _, _, _, rfl⟩
  · obtain ⟨notices, noted⟩ := session.noting_eq kind request
    rw [same, known]
    split
    · obtain ⟨_, _, opened⟩ := (session.noting kind request).openStream_eq 0
        [(kind, session.signed request)]
      rw [opened, noted]
      exact ⟨_, _, _, _, _, rfl⟩
    · rename_i generation _ _
      obtain ⟨_, _, queued⟩ := (session.noting kind request).queue_eq generation kind
        (session.signed request)
      rw [queued, noted]
      exact ⟨_, _, _, _, _, rfl⟩
    all_goals
      rw [noted]
      exact ⟨_, _, _, _, _, rfl⟩

theorem dispatch_request (request : Request) :
    (session.request request).dispatch = session.dispatch := by
  obtain ⟨_, _, _, _, _, changed⟩ := session.request_eq request
  rw [changed]

/-- Reading a response is of no effect but for reports, or it begins to deal with the response. -/
theorem read_cases (generation : Nat) (response : Response) :
    (∃ notices metrics, session.step (.read generation response) =
      { session with notices, metrics }) ∨
    ∃ kind names metrics, ResourceType.ofUrl? response.typeUrl = some kind ∧
      session.subscribedNames? kind = some names ∧
      session.hasTask generation .reading = true ∧ session.isBusy generation = false ∧
      session.step (.read generation response) =
        { session with
          metrics
          dispatch := some ⟨generation, kind, response.version, response.nonce, names⟩ } := by
  simp only [step]
  split
  · rename_i able
    obtain ⟨reading, idle⟩ : session.hasTask generation .reading = true ∧
        session.isBusy generation = false := by simpa using able
    unfold receive
    split
    · exact .inl ⟨_, _, rfl⟩
    · rename_i kind known
      split
      · cases found : session.subscribedNames? kind with
        | some names =>
          have counted : (session.count (·.countReceived kind)).subscribedNames? kind =
            some names := found
          simp only [counted]
          exact .inr ⟨kind, names, _, known, found, reading, idle, rfl⟩
        | none =>
          have counted : (session.count (·.countReceived kind)).subscribedNames? kind = none :=
            found
          simp only [counted]
          exact .inl ⟨_, _, rfl⟩
      · exact .inl ⟨_, _, rfl⟩
  · exact .inl ⟨_, _, rfl⟩

/-- The handler's return ends the dispatch, and the acknowledgement is queued if the stream that the
response came from is still the current one. -/
theorem acknowledge_cases :
    (session.dispatch = none ∧ session.acknowledge = session) ∨
    ∃ dispatch metrics, session.dispatch = some dispatch ∧
      session.acknowledge =
        if session.current? = some dispatch.generation then
          ({ session with dispatch := none, metrics } : Session).queue dispatch.generation
            dispatch.kind (session.acknowledgement dispatch)
        else { session with dispatch := none, metrics } := by
  unfold acknowledge
  split
  · rename_i none
    exact .inl ⟨none, rfl⟩
  · rename_i dispatch some
    exact .inr ⟨dispatch, _, some, rfl⟩

/-- Acknowledging touches nothing but these. -/
theorem acknowledge_eq : ∃ channels metrics,
    session.acknowledge = { session with channels, metrics, dispatch := none } := by
  rcases session.acknowledge_cases with ⟨none, same⟩ | ⟨dispatch, metrics, _, same⟩
  · rw [same]
    refine ⟨session.channels, session.metrics, ?_⟩
    rw [← none]
  · rw [same]
    split
    · obtain ⟨_, _, queued⟩ := queue_eq { session with dispatch := none, metrics }
        dispatch.generation dispatch.kind (session.acknowledgement dispatch)
      exact ⟨_, _, queued⟩
    · exact ⟨_, _, rfl⟩

/-- The session whose timer has fired, before the next stream is opened. -/
def waking (generation : Nat) : Session :=
  (session.dropTimer generation).report (.recovering (generation + 1) session.replay.length)

/-- A timer that fires is gone, and opens the next stream if the session still waits for it. -/
theorem fireTimer_cases (generation : Nat) :
    (session.timers.any fun timer => timer.generation = generation) = false ∧
        session.fireTimer generation = session ∨
    (session.timers.any fun timer => timer.generation = generation) = true ∧
      ((session.phase ≠ .recovering generation ∧
          session.fireTimer generation = session.dropTimer generation) ∨
        session.phase = .recovering generation ∧
          session.fireTimer generation =
            (session.waking generation).openStream (generation + 1) session.replay) := by
  unfold fireTimer
  split
  · rename_i pending
    refine .inr ⟨pending, ?_⟩
    have samePhase : (session.dropTimer generation).phase = session.phase := rfl
    unfold recover
    rw [samePhase]
    split
    · rename_i waiting
      exact .inr ⟨waiting, rfl⟩
    · rename_i other
      exact .inl ⟨other, rfl⟩
  · rename_i absent
    exact .inl ⟨by simpa using absent, rfl⟩

/-- A timer that fires touches nothing but these. -/
theorem fireTimer_eq (generation : Nat) : ∃ phase channels tasks timers notices metrics,
    session.fireTimer generation =
      { session with phase, channels, tasks, timers, notices, metrics } := by
  rcases session.fireTimer_cases generation with ⟨_, same⟩ | ⟨_, ⟨_, same⟩ | ⟨_, same⟩⟩
  · exact ⟨_, _, _, _, _, _, same⟩
  · exact ⟨_, _, _, _, _, _, same⟩
  · obtain ⟨_, _, opened⟩ :=
      (session.waking generation).openStream_eq (generation + 1) session.replay
    rw [opened] at same
    exact ⟨_, _, _, _, _, _, same⟩

theorem dispatch_fireTimer (generation : Nat) :
    (session.fireTimer generation).dispatch = session.dispatch := by
  obtain ⟨_, _, _, _, _, _, changed⟩ := session.fireTimer_eq generation
  rw [changed]

end MeshDiscovery.Session
