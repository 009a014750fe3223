import MeshDiscovery.Proofs.Session.Recording

/-!
A session after it was closed. Nothing opens it again: no step opens a stream, asks for one or
queues a message, and the tasks and timers that are left end without a successor. That the session
was closed is reported by the step that closes it and by no other.
-/

namespace MeshDiscovery

/-- Says that a session was closed. -/
def Notice.isClosing : Notice → Bool
  | .sessionClosed _ => true
  | _ => false

namespace Session

/-- A session that is closed after steps which ended tasks and timers at most. -/
structure Ceased (before after : Session) : Prop where
  phase : after.phase = .closed
  tasks : after.tasks.Sublist before.tasks
  timers : after.timers.Sublist before.timers
  generations : after.generations = before.generations
  queued : ∀ generation, after.queued generation = before.queued generation
  connects : after.connects = before.connects
  sent : after.metrics.sent = before.metrics.sent
  reconnects : after.metrics.reconnects = before.metrics.reconnects

namespace Ceased

variable {before between after : Session}

theorem trans (first : Ceased before between) (second : Ceased between after) :
    Ceased before after where
  phase := second.phase
  tasks := second.tasks.trans first.tasks
  timers := second.timers.trans first.timers
  generations := second.generations.trans first.generations
  queued generation := (second.queued generation).trans (first.queued generation)
  connects := second.connects.trans first.connects
  sent := second.sent.trans first.sent
  reconnects := second.reconnects.trans first.reconnects

/-- What is reported, recorded and dealt with does not matter, and neither do the other counters. -/
theorem of_fields (phase : after.phase = .closed) (tasks : after.tasks.Sublist before.tasks)
    (timers : after.timers.Sublist before.timers) (channels : after.channels = before.channels)
    (connects : after.connects = before.connects) (sent : after.metrics.sent = before.metrics.sent)
    (reconnects : after.metrics.reconnects = before.metrics.reconnects) : Ceased before after where
  phase := phase
  tasks := tasks
  timers := timers
  generations := congrArg (List.map Channel.generation) channels
  queued generation := by rw [Session.queued, channel?, channels, Session.queued, channel?]
  connects := connects
  sent := sent
  reconnects := reconnects

end Ceased

section Closed

variable {session : Session} (closed : session.phase = .closed) (generation : Nat)
include closed

private theorem current?_of_closed : session.current? = none := by
  rw [current?, closed]

private theorem ceased_refl : Ceased session session :=
  .of_fields closed (.refl _) (.refl _) rfl rfl rfl rfl

private theorem ceased_report (notice : Notice) : Ceased session (session.report notice) :=
  .of_fields closed (.refl _) (.refl _) rfl rfl rfl rfl

private theorem ceased_endTask : Ceased session (session.endTask generation) :=
  .of_fields closed List.filter_sublist (.refl _) rfl rfl rfl rfl

private theorem ceased_dropTimer : Ceased session (session.dropTimer generation) :=
  .of_fields closed (.refl _) List.filter_sublist rfl rfl rfl rfl

private theorem ceased_shutChannel : Ceased session (session.shutChannel generation) where
  phase := closed
  tasks := .refl _
  timers := .refl _
  generations := session.generations_shutChannel generation
  queued := session.queued_shutChannel generation
  connects := rfl
  sent := rfl
  reconnects := rfl

private theorem ceased_leave :
    Ceased session ((session.endTask generation).shutChannel generation) :=
  have ended := ceased_endTask closed generation
  ended.trans (ceased_shutChannel ended.phase generation)

private theorem scheduleRecovery_of_closed : session.scheduleRecovery generation = session := by
  rw [scheduleRecovery, current?_of_closed closed]
  exact if_neg (by simp)

/-- A request is recorded and not sent. -/
theorem request_of_closed (kind : ResourceType) (request : Request) :
    session.request { request with typeUrl := kind.url } =
      { session.reportUnhandled kind with
        recorded := session.recorded.set kind
          (some { request with typeUrl := kind.url, node := some session.node }) } := by
  rcases session.request_cases { request with typeUrl := kind.url } with
    ⟨unknown, _⟩ | ⟨other, known, same⟩
  · rw [ResourceType.ofUrl?_url] at unknown
    cases unknown
  · rw [ResourceType.ofUrl?_url] at known
    cases known
    have recorded : (session.reportUnhandled kind).recorded = session.recorded := by
      unfold reportUnhandled
      split <;> rfl
    rw [same, closed]
    simp only [noting, signed, recorded]

private theorem ceased_request (request : Request) : Ceased session (session.request request) := by
  rcases session.request_cases request with ⟨_, same⟩ | ⟨kind, _, same⟩
  · rw [same]
    exact ceased_report closed _
  · obtain ⟨_, noted⟩ := session.noting_eq kind request
    rw [same, closed, noted]
    exact .of_fields closed (.refl _) (.refl _) rfl rfl rfl rfl

private theorem ceased_connectFailed (problem : SessionError) :
    Ceased session (session.connectFailed generation problem) := by
  unfold connectFailed
  split
  · rw [scheduleRecovery_of_closed]
    · have reported := ceased_report closed (.openFailed generation problem)
      exact reported.trans (ceased_leave reported.phase generation)
    · exact closed
  · exact ceased_refl closed

private theorem ceased_streamEnded (ending : Ending) :
    Ceased session (session.streamEnded generation ending) := by
  unfold streamEnded
  split
  · rw [scheduleRecovery_of_closed]
    · exact .of_fields closed List.filter_sublist (.refl _) rfl rfl rfl rfl
    · exact closed
  · exact ceased_refl closed

private theorem ceased_stopTask : Ceased session (session.stopTask generation) := by
  rw [stopTask, if_pos closed]
  split
  · exact .of_fields closed List.filter_sublist (.refl _) rfl rfl rfl rfl
  · split
    · exact ceased_leave closed generation
    · exact ceased_refl closed

private theorem ceased_receive (response : Response) :
    Ceased session (session.receive generation response) := by
  unfold receive
  split
  · exact ceased_report closed _
  · split
    · dsimp only
      split
      · exact .of_fields closed (.refl _) (.refl _) rfl rfl rfl rfl
      · exact .of_fields closed (.refl _) (.refl _) rfl rfl rfl rfl
    · exact ceased_report closed _

private theorem ceased_acknowledge : Ceased session session.acknowledge := by
  unfold acknowledge
  split
  · exact ceased_refl closed
  · dsimp only
    rw [current?_of_closed]
    · exact .of_fields closed (.refl _) (.refl _) rfl rfl rfl rfl
    · exact closed

/-- A step in a closed session has tasks and timers end at most. -/
theorem ceased_step (step : Step) : Ceased session (session.step step) := by
  cases step with
  | register kind =>
    obtain ⟨_, same⟩ := session.register_eq kind
    rw [same]
    exact .of_fields closed (.refl _) (.refl _) rfl rfl rfl rfl
  | request request => exact ceased_request closed request
  | close =>
    rw [Session.step, close, closed]
    exact ceased_refl closed
  | report notice => exact ceased_report closed notice
  | skip | elapse => exact .of_fields closed (.refl _) (.refl _) rfl rfl rfl rfl
  | start generation =>
    simp only [Session.step, start, if_pos closed]
    split
    · exact ceased_leave closed generation
    · exact ceased_refl closed
  | refuse generation problem => exact ceased_connectFailed closed generation problem
  | accept generation =>
    simp only [Session.step, connectSucceeded, current?_of_closed closed]
    split
    · exact ceased_endTask closed generation
    · exact ceased_refl closed
  | read generation response =>
    simp only [Session.step]
    split
    · exact ceased_receive closed generation response
    · exact ceased_refl closed
  | acknowledge => exact ceased_acknowledge closed
  | finish generation ending =>
    simp only [Session.step]
    split
    · exact ceased_refl closed
    · exact ceased_streamEnded closed generation ending
  | stop generation =>
    simp only [Session.step]
    split
    · exact ceased_refl closed
    · exact ceased_stopTask closed generation
  | shut generation => exact ceased_shutChannel closed generation
  | fire generation =>
    rcases session.fireTimer_cases generation with ⟨_, same⟩ | ⟨_, ⟨_, same⟩ | ⟨waiting, _⟩⟩
    · rw [Session.step, same]
      exact ceased_refl closed
    · rw [Session.step, same]
      exact ceased_dropTimer closed generation
    · rw [closed] at waiting
      cases waiting
  | cancel generation =>
    simp only [Session.step, cancelTimer, if_pos closed]
    exact ceased_dropTimer closed generation

omit generation in
theorem ceased_run (steps : List Step) : Ceased session (session.run steps) := by
  induction steps generalizing session with
  | nil => exact ceased_refl closed
  | cons step rest ih =>
    have first := ceased_step closed step
    exact first.trans (ih first.phase)

end Closed

theorem ceased_close (session : Session) : Ceased session session.close := by
  unfold close
  split
  · rename_i closed
    exact ceased_refl closed
  all_goals exact .of_fields rfl (.refl _) (.refl _) rfl rfl rfl rfl

/-- How often it was reported that a session was closed. -/
def closings (session : Session) : Nat :=
  session.notices.countP Notice.isClosing

/-- A step by which a handler reports on its own that a session was closed. -/
def Step.isClosing : Step → Bool
  | .report notice => notice.isClosing
  | _ => false

/-- The reports that a session owes to its having been closed. -/
def due (session : Session) : Nat :=
  if session.phase = .closed then 1 else 0

/-- Nothing is reported about closing, and nothing is closed. -/
structure Unannounced (before after : Session) : Prop where
  closings : after.closings = before.closings
  due : after.due = before.due

namespace Unannounced

variable {before between after : Session}

theorem refl (session : Session) : Unannounced session session :=
  ⟨rfl, rfl⟩

theorem trans (first : Unannounced before between) (second : Unannounced between after) :
    Unannounced before after :=
  ⟨second.closings.trans first.closings, second.due.trans first.due⟩

theorem of_fields (notices : after.notices = before.notices) (phase : after.phase = before.phase) :
    Unannounced before after :=
  ⟨by rw [Session.closings, notices, Session.closings], by rw [Session.due, phase, Session.due]⟩

theorem of_open (notices : after.notices = before.notices) (earlier : before.phase ≠ .closed)
    (later : after.phase ≠ .closed) : Unannounced before after :=
  ⟨by rw [Session.closings, notices, Session.closings],
    by rw [Session.due, if_neg later, Session.due, if_neg earlier]⟩

end Unannounced

section Open

variable (session : Session) (generation : Nat)

theorem closings_report (notice : Notice) :
    (session.report notice).closings =
      session.closings + if notice.isClosing = true then 1 else 0 := by
  simp [closings, report, List.countP_append, List.countP_singleton]

private theorem unannounced_report {notice : Notice} (other : notice.isClosing = false) :
    Unannounced session (session.report notice) :=
  ⟨by rw [closings_report, other]; rfl, rfl⟩

private theorem unannounced_queue (kind : ResourceType) (request : Request) :
    Unannounced session (session.queue generation kind request) := by
  obtain ⟨_, _, same⟩ := session.queue_eq generation kind request
  rw [same]
  exact .of_fields rfl rfl

private theorem unannounced_openStream (initial : List (ResourceType × Request))
    (waiting : session.phase ≠ .closed) :
    Unannounced session (session.openStream generation initial) := by
  obtain ⟨_, _, same⟩ := session.openStream_eq generation initial
  rw [same]
  exact .of_open rfl waiting (by simp)

private theorem unannounced_scheduleRecovery :
    Unannounced session (session.scheduleRecovery generation) := by
  unfold scheduleRecovery
  split
  · rename_i current
    have active : session.phase ≠ .closed := by
      intro closed
      rw [current?_of_closed closed] at current
      cases current
    have left : Unannounced session (count
        { session with
          phase := .recovering generation
          timers := session.timers ++ [⟨generation, session.clock + reconnectDelay⟩] }
        Metrics.countReconnect) := .of_open rfl active (by simp [count])
    exact left.trans (unannounced_report _ rfl)
  · exact .refl session

private theorem unannounced_noting (kind : ResourceType) (request : Request) :
    Unannounced session (session.noting kind request) := by
  unfold noting reportUnhandled
  split
  · exact .of_fields rfl rfl
  · exact (unannounced_report session rfl).trans (.of_fields rfl rfl)

private theorem unannounced_request (request : Request) :
    Unannounced session (session.request request) := by
  rcases session.request_cases request with ⟨_, same⟩ | ⟨kind, _, same⟩
  · rw [same]
    exact unannounced_report session rfl
  · have noted := unannounced_noting session kind request
    obtain ⟨_, recorded⟩ := session.noting_eq kind request
    have samePhase : (session.noting kind request).phase = session.phase := by rw [recorded]
    rw [same]
    split
    · rename_i idle
      exact noted.trans (unannounced_openStream _ 0 _ (by simp [samePhase, idle]))
    · rename_i current _ _
      exact noted.trans (unannounced_queue _ current kind _)
    all_goals exact noted

private theorem unannounced_connectFailed (problem : SessionError) :
    Unannounced session (session.connectFailed generation problem) := by
  unfold connectFailed
  split
  · have reported : Unannounced session
        (((session.report (.openFailed generation problem)).endTask generation).shutChannel
          generation) :=
      (unannounced_report session rfl).trans (.of_fields rfl rfl)
    exact reported.trans (unannounced_scheduleRecovery _ generation)
  · exact .refl session

private theorem unannounced_connectSucceeded :
    Unannounced session (session.connectSucceeded generation) := by
  unfold connectSucceeded
  split
  · split
    · rename_i current
      have active : session.phase ≠ .closed := by
        intro closed
        rw [current?_of_closed closed] at current
        cases current
      have opened : Unannounced session
          { session.setStage generation .reading with phase := .active generation true } :=
        .of_open rfl active (by simp)
      exact (opened.trans (unannounced_report _ rfl)).trans (.of_fields rfl rfl)
    · exact .of_fields rfl rfl
  · exact .refl session

private theorem unannounced_streamEnded (ending : Ending) :
    Unannounced session (session.streamEnded generation ending) := by
  unfold streamEnded
  split
  · have other : (endingNotice generation ending).isClosing = false := by
      unfold endingNotice
      split
      · split <;> rfl
      · rfl
    have reported : Unannounced session
        (((session.report (endingNotice generation ending)).count (·.adjustConnected (-1))).endTask
          generation) :=
      (unannounced_report session other).trans (.of_fields rfl rfl)
    exact reported.trans (unannounced_scheduleRecovery _ generation)
  · exact .refl session

private theorem unannounced_receive (response : Response) :
    Unannounced session (session.receive generation response) := by
  unfold receive
  split
  · exact unannounced_report session rfl
  · split
    · dsimp only
      split
      · exact .of_fields rfl rfl
      · have counted (kind : ResourceType) :
            Unannounced session (session.count (·.countReceived kind)) := .of_fields rfl rfl
        exact (counted _).trans (unannounced_report _ rfl)
    · exact unannounced_report session rfl

private theorem unannounced_fireTimer : Unannounced session (session.fireTimer generation) := by
  rcases session.fireTimer_cases generation with ⟨_, same⟩ | ⟨_, ⟨_, same⟩ | ⟨waiting, same⟩⟩
  · rw [same]
    exact .refl session
  · rw [same]
    exact .of_fields rfl rfl
  · have dropped : Unannounced session (session.dropTimer generation) := .of_fields rfl rfl
    rw [same]
    exact (dropped.trans (unannounced_report _ rfl)).trans
      (unannounced_openStream _ _ _ (by simp [dropTimer, report, waiting]))

private theorem unannounced_start : Unannounced session (session.start generation) := by
  unfold start
  split
  · split
    · exact .of_fields rfl rfl
    · exact .of_fields rfl rfl
  · exact .refl session

private theorem unannounced_stopTask : Unannounced session (session.stopTask generation) := by
  unfold stopTask
  split
  · split
    · exact .of_fields rfl rfl
    · split
      · exact .of_fields rfl rfl
      · exact .refl session
  · exact .refl session

private theorem unannounced_step {step : Step} (other : step ≠ .close)
    (silent : ∀ notice, step ≠ .report notice) : Unannounced session (session.step step) := by
  cases step with
  | report notice => exact absurd rfl (silent notice)
  | close => exact absurd rfl other
  | register kind =>
    obtain ⟨_, same⟩ := session.register_eq kind
    rw [same]
    exact .of_fields rfl rfl
  | request request => exact unannounced_request session request
  | skip | shut | elapse => exact .of_fields rfl rfl
  | start generation => exact unannounced_start session generation
  | refuse generation problem => exact unannounced_connectFailed session generation problem
  | accept generation => exact unannounced_connectSucceeded session generation
  | read generation response =>
    simp only [Session.step]
    split
    · exact unannounced_receive session generation response
    · exact .refl session
  | acknowledge =>
    obtain ⟨_, _, same⟩ := session.acknowledge_eq
    rw [Session.step, same]
    exact .of_fields rfl rfl
  | finish generation ending =>
    simp only [Session.step]
    split
    · exact .refl session
    · exact unannounced_streamEnded session generation ending
  | stop generation =>
    simp only [Session.step]
    split
    · exact .refl session
    · exact unannounced_stopTask session generation
  | fire generation => exact unannounced_fireTimer session generation
  | cancel generation =>
    simp only [Session.step, cancelTimer]
    split
    · exact .of_fields rfl rfl
    · exact .refl session

private theorem closings_of_unannounced {after : Session}
    (unannounced : Unannounced session after) :
    after.closings + session.due = session.closings + 0 + after.due := by
  rw [unannounced.closings, unannounced.due]
  rfl

/-- Closing owes one report and gives it; a handler may report what it likes. -/
theorem closings_step (step : Step) :
    (session.step step).closings + session.due =
      session.closings + (if step.isClosing = true then 1 else 0) + (session.step step).due := by
  cases step with
  | report notice =>
    have same : (session.report notice).due = session.due := rfl
    rw [Session.step, closings_report, same]
    rfl
  | close =>
    simp only [Session.step, close]
    split
    · rfl
    all_goals
      rename_i phase
      simp [closings, report, due, phase, Step.isClosing, Notice.isClosing]
  | _ => exact closings_of_unannounced session (unannounced_step session (by simp) (by simp))

/-- What a run reports about closing beside what its handlers report is what it comes to owe. -/
theorem closings_run (steps : List Step) :
    (session.run steps).closings + session.due =
      session.closings + steps.countP Step.isClosing + (session.run steps).due := by
  induction steps generalizing session with
  | nil => rfl
  | cons step rest ih =>
    have first := session.closings_step step
    have later := ih (session.step step)
    rw [run_cons, List.countP_cons]
    omega

end Open

/-- Closed is final: whatever happens after a session was closed, at whatever moment that was, it
stays closed, opens no stream and asks for none, queues and counts nothing, records what is
requested at most, and has reported once that it was closed. -/
theorem closed_final (node : Node) (earlier later : List Step) :
    let before := (fresh node).run earlier
    let after := (before.step .close).run later
    after.state = .closed ∧
      after.generations = before.generations ∧
      after.connects = before.connects ∧
      (∀ generation, after.queued generation = before.queued generation) ∧
      after.metrics.sent = before.metrics.sent ∧
      after.metrics.reconnects = before.metrics.reconnects ∧
      after.tasks.Sublist before.tasks ∧
      after.timers.Sublist before.timers ∧
      (∀ (kind : ResourceType) (request : Request), after.request { request with typeUrl := kind.url } =
        { after.reportUnhandled kind with
          recorded := after.recorded.set kind
            (some { request with typeUrl := kind.url, node := some node }) }) ∧
      after.closings = 1 + (earlier ++ later).countP Step.isClosing := by
  intro before after
  have closing := ceased_close before
  have ceased : Ceased before after := closing.trans (ceased_run closing.phase later)
  have whole : (fresh node).run (earlier ++ .close :: later) = after := run_append ..
  have own : after.node = node := whole ▸ node_run (fresh node) _
  have reported := (fresh node).closings_run (earlier ++ .close :: later)
  refine ⟨by rw [state, ceased.phase], ceased.generations, ceased.connects, ceased.queued,
    ceased.sent, ceased.reconnects, ceased.tasks, ceased.timers, fun kind request => ?_, ?_⟩
  · rw [request_of_closed ceased.phase, own]
  · have owed : after.due = 1 := if_pos ceased.phase
    have handlers : (earlier ++ .close :: later).countP Step.isClosing =
        (earlier ++ later).countP Step.isClosing := by
      simp [List.countP_append, Step.isClosing]
    rw [whole, owed, handlers] at reported
    rw [Nat.add_comm]
    simpa [closings, due, fresh] using reported

end Session

end MeshDiscovery
