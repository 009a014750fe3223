import MeshDiscovery.Proofs.Session.Recording
import MeshDiscovery.Proofs.Session.Sending

/-!
The stream that a session uses, as far as others can tell. It is lost, opened anew, shut and closed
from outside; everything else that a session does leaves it as it is. What a session sends depends
on nothing but that, on what is recorded and on the response at hand.
-/

namespace MeshDiscovery.Session

/-- The stream that a session uses. -/
inductive Link where
  /-- No stream was opened yet. -/
  | idle
  | up (generation : Nat) (accepting : Bool)
  /-- The stream was lost, and the next one is due. -/
  | down (generation : Nat)
  | gone
  deriving DecidableEq

/-- What happens to the streams of a session from outside. -/
inductive Signal where
  | lost (generation : Nat)
  /-- The stream after the one of a generation is opened. -/
  | reopened (generation : Nat)
  /-- The control plane takes no more requests on a stream. -/
  | shut (generation : Nat)
  | closed
  deriving DecidableEq

/-- The stream in use after something has happened to one. -/
def Link.after : Link → Signal → Link
  | _, .closed => .gone
  | .up current accepting, .lost generation =>
    if current = generation then .down current else .up current accepting
  | .up current accepting, .shut generation => .up current (accepting && current ≠ generation)
  | .down lost, .reopened generation =>
    if lost = generation then .up (lost + 1) true else .down lost
  | link, _ => link

def link (session : Session) : Link :=
  match session.phase with
  | .idle => .idle
  | .active generation _ => .up generation (session.accepts generation)
  | .recovering generation => .down generation
  | .closed => .gone

/-- What a step has happen to the streams, if it is possible. -/
def signal? (session : Session) : Step → Option Signal
  | .close => some .closed
  | .refuse generation _ =>
    if session.hasTask generation .connecting then some (.lost generation) else none
  | .finish generation _ =>
    if !session.isBusy generation && session.hasTask generation .reading then
      some (.lost generation)
    else none
  | .shut generation => some (.shut generation)
  | .fire generation =>
    if (session.timers.any fun timer => timer.generation = generation) = true ∧
        session.phase = .recovering generation then
      some (.reopened generation)
    else none
  | _ => none

variable {session : Session}

section

variable {after : Session}

theorem link_congr (phase : after.phase = session.phase)
    (accepts : ∀ generation, after.accepts generation = session.accepts generation) :
    after.link = session.link := by
  unfold link
  rw [phase]
  split <;> simp [accepts]

theorem link_of_fields (phase : after.phase = session.phase)
    (channels : after.channels = session.channels) : after.link = session.link :=
  link_congr phase fun _ => by rw [accepts, channel?, channels, accepts, channel?]

theorem link_of_closed (closed : session.phase = .closed) : session.link = .gone := by
  rw [link, closed]

private theorem link_of_still_closed (closed : session.phase = .closed)
    (phase : after.phase = session.phase) : after.link = session.link :=
  (link_of_closed (phase.trans closed)).trans (link_of_closed closed).symm

end

private theorem link_request (begun : session.link ≠ .idle) (request : Request) :
    (session.request request).link = session.link := by
  rcases session.request_cases request with ⟨_, same⟩ | ⟨kind, _, same⟩
  · rw [same]
    exact link_of_fields rfl rfl
  · obtain ⟨notices, noted⟩ := session.noting_eq kind request
    have unsent : (session.noting kind request).link = session.link :=
      link_of_fields (by rw [noted]) (by rw [noted])
    rw [same]
    split
    · rename_i idle
      exact absurd (by rw [link, idle]) begun
    · rename_i generation _ _
      obtain ⟨channels, sent, queued⟩ := (session.noting kind request).queue_eq generation kind
        (session.signed request)
      have kept : ((session.noting kind request).queue generation kind
          (session.signed request)).link = (session.noting kind request).link :=
        link_congr (by rw [queued]) fun _ => accepts_queue ..
      exact kept.trans unsent
    all_goals exact unsent

private theorem link_acknowledge : session.acknowledge.link = session.link := by
  rcases session.acknowledge_cases with ⟨_, same⟩ | ⟨dispatch, metrics, _, same⟩
  · rw [same]
  · rw [same]
    split
    · obtain ⟨_, _, queued⟩ := queue_eq { session with dispatch := none, metrics }
        dispatch.generation dispatch.kind (session.acknowledgement dispatch)
      exact link_congr (by rw [queued]) fun _ => accepts_queue ..
    · exact link_of_fields rfl rfl

private theorem link_lost (valid : Coherent session) {generation : Nat} {stage : Stage}
    (task : session.hasTask generation stage = true) {left : Session}
    (phase : left.phase = session.phase) :
    (left.scheduleRecovery generation).link = session.link.after (.lost generation) := by
  have current : left.current? = session.current? := by rw [current?, phase, current?]
  unfold scheduleRecovery
  rw [current]
  rcases (valid.of_task task).2.2.2 with active | closed
  · have now : session.current? = some generation := by rw [current?, active]
    rw [if_pos now, link, link, active]
    exact (if_pos rfl).symm
  · have none : session.current? = Option.none := by rw [current?, closed]
    rw [none, if_neg (by simp), link_of_closed (phase.trans closed), link_of_closed closed]
    rfl

private theorem link_fireTimer (valid : Coherent session) (generation : Nat) :
    (session.fireTimer generation).link =
      match session.signal? (.fire generation) with
      | some signal => session.link.after signal
      | none => session.link := by
  rcases session.fireTimer_cases generation with
    ⟨absent, same⟩ | ⟨pending, ⟨other, same⟩ | ⟨waiting, same⟩⟩
  · rw [same, signal?, if_neg (by simp [absent])]
  · rw [same, signal?, if_neg (by simp [other])]
    exact link_of_fields rfl rfl
  · obtain ⟨_, _, opened, _⟩ := valid.standing.of_timer pending
    have absent : generation + 1 ∉ (session.waking generation).generations :=
      show generation + 1 ∉ session.generations from opened ▸ valid.next_absent
    have accepting := (session.waking generation).accepts_openStream (generation + 1)
      session.replay absent
    obtain ⟨_, _, widened⟩ :=
      (session.waking generation).openStream_eq (generation + 1) session.replay
    have phase : ((session.waking generation).openStream (generation + 1) session.replay).phase =
        .active (generation + 1) false := by rw [widened]
    have after : ((session.waking generation).openStream (generation + 1) session.replay).link =
        .up (generation + 1) true := by rw [link, phase, ← accepting]
    have before : session.link = .down generation := by rw [link, waiting]
    rw [same, after, signal?, if_pos ⟨pending, waiting⟩, before]
    exact (if_pos rfl).symm

private theorem link_connectSucceeded (valid : Coherent session) (generation : Nat) :
    (session.connectSucceeded generation).link = session.link := by
  unfold connectSucceeded
  split
  · rename_i task
    split
    · rename_i current
      rcases (valid.of_task task).2.2.2 with active | closed
      · show Link.up generation (session.accepts generation) = session.link
        rw [link, active]
      · rw [current?, closed] at current
        cases current
    · exact link_of_fields rfl rfl
  · rfl

private theorem link_stopTask (session : Session) (generation : Nat) :
    (session.stopTask generation).link = session.link := by
  unfold stopTask
  split
  · rename_i closed
    split
    · exact link_of_still_closed closed rfl
    · split
      · exact link_of_still_closed closed rfl
      · rfl
  · rfl

private theorem link_shutChannel (session : Session) (generation : Nat) :
    (session.shutChannel generation).link = session.link.after (.shut generation) := by
  unfold link
  show (match session.phase with
    | .idle => Link.idle
    | .active current _ => .up current ((session.shutChannel generation).accepts current)
    | .recovering lost => .down lost
    | .closed => .gone) = _
  cases session.phase with
  | active current connected => simp [Link.after, accepts_shutChannel]
  | _ => rfl

/-- The stream in use is what it is made by what happens from outside. -/
theorem link_step (valid : Coherent session) (begun : session.link ≠ .idle) (step : Step) :
    (session.step step).link =
      match session.signal? step with
      | some signal => session.link.after signal
      | none => session.link := by
  cases step with
  | register kind =>
    obtain ⟨_, same⟩ := session.register_eq kind
    rw [same]
    exact link_of_fields rfl rfl
  | request request => exact link_request begun request
  | close =>
    have closed : session.close.phase = .closed := by
      unfold close
      split
      · assumption
      all_goals rfl
    exact link_of_closed closed
  | report | skip | elapse => exact link_of_fields rfl rfl
  | start generation =>
    simp only [Session.step, start, signal?]
    split
    · split
      · rename_i closed
        exact link_of_still_closed closed rfl
      · exact link_of_fields rfl rfl
    · rfl
  | refuse generation problem =>
    simp only [Session.step, connectFailed, signal?]
    split
    · rename_i task
      exact link_lost valid task rfl
    · rfl
  | accept generation => exact link_connectSucceeded valid generation
  | read generation response =>
    rcases session.read_cases generation response with
      ⟨_, _, same⟩ | ⟨_, _, _, _, _, _, _, same⟩
    · rw [same]
      exact link_of_fields rfl rfl
    · rw [same]
      exact link_of_fields rfl rfl
  | acknowledge => exact link_acknowledge
  | finish generation ending =>
    simp only [Session.step, streamEnded, signal?]
    cases session.isBusy generation with
    | true => rfl
    | false =>
      simp only [Bool.false_eq_true, if_false, Bool.not_false, Bool.true_and]
      split
      · rename_i task
        exact link_lost valid task rfl
      · rfl
  | stop generation =>
    simp only [Session.step, signal?]
    split
    · rfl
    · exact link_stopTask session generation
  | shut generation => exact link_shutChannel session generation
  | fire generation => exact link_fireTimer valid generation
  | cancel generation =>
    simp only [Session.step, cancelTimer, signal?]
    split
    · exact link_of_fields rfl rfl
    · rfl

def signals (session : Session) (steps : List Step) : List Signal :=
  trace (fun session step => (session.signal? step).toList) session steps

theorem Link.begun_after {link : Link} (begun : link ≠ .idle) (signal : Signal) :
    link.after signal ≠ .idle := by
  cases link with
  | idle => exact absurd rfl begun
  | up | down | gone =>
    cases signal <;> simp only [Link.after] <;> first | (split <;> simp) | simp

theorem begun_step (valid : Coherent session) (begun : session.link ≠ .idle) (step : Step) :
    (session.step step).link ≠ .idle := by
  rw [link_step valid begun step]
  split
  · exact Link.begun_after begun _
  · exact begun

theorem begun_run (valid : Coherent session) (begun : session.link ≠ .idle) (steps : List Step) :
    (session.run steps).link ≠ .idle := by
  induction steps generalizing session with
  | nil => exact begun
  | cons step rest ih => exact ih (valid.step step) (begun_step valid begun step)

/-- A message for the stream in use, if that takes messages. -/
def Link.carry (link : Link) (request : Request) : List (Nat × Request) :=
  match link with
  | .up generation true => [(generation, request)]
  | _ => []

/-- A message for a stream, if that is in use and takes messages. -/
def Link.carryOn (link : Link) (generation : Nat) (request : Request) : List (Nat × Request) :=
  if link = .up generation true then [(generation, request)] else []

/-- The acknowledgement of the response at hand, as long as it can be sent. -/
def owed (session : Session) : List (Nat × Request) :=
  match session.dispatch with
  | none => []
  | some dispatch => session.link.carryOn dispatch.generation (session.acknowledgement dispatch)

/-- The messages for a stream: those that were queued, and the acknowledgement that is due. -/
def mail (session : Session) (generation : Nat) : List Request :=
  session.queued generation ++ onStream generation session.owed

theorem sends_request_eq (begun : session.link ≠ .idle) {request : Request} {kind : ResourceType}
    (known : ResourceType.ofUrl? request.typeUrl = some kind) :
    session.sends (.request request) = session.link.carry (session.signed request) := by
  simp only [sends, known]
  cases phase : session.phase with
  | idle => exact absurd (by rw [link, phase]) begun
  | active generation connected =>
    have inUse : session.link = .up generation (session.accepts generation) := by rw [link, phase]
    rw [inUse]
    dsimp only
    cases session.accepts generation <;> rfl
  | recovering generation =>
    have lost : session.link = .down generation := by rw [link, phase]
    rw [lost]
    rfl
  | closed =>
    rw [link_of_closed phase]
    rfl

private theorem sends_acknowledge_eq : session.sends .acknowledge = session.owed := by
  simp only [sends, owed]
  cases session.dispatch with
  | none => rfl
  | some dispatch =>
    have inUse : (session.current? = some dispatch.generation ∧
        session.accepts dispatch.generation = true) ↔
          session.link = .up dispatch.generation true := by
      unfold current? link
      cases session.phase with
      | active generation connected =>
        simp only [Option.some.injEq, Link.up.injEq]
        constructor
        · rintro ⟨rfl, accepting⟩
          exact ⟨rfl, accepting⟩
        · rintro ⟨rfl, accepting⟩
          exact ⟨rfl, accepting⟩
      | _ => simp
    simp only [inUse, Link.carryOn]

theorem owed_congr {after : Session} (dispatch : after.dispatch = session.dispatch)
    (link : after.link = session.link) (node : after.node = session.node) :
    after.owed = session.owed := by
  unfold owed acknowledgement
  rw [dispatch, link, node]

theorem owed_of_idle (idle : session.dispatch = none) : session.owed = [] := by
  rw [owed, idle]

/-- What the next stream starts with, once it is opened. -/
def reopening (session : Session) : Signal → List (Nat × Request)
  | .reopened lost => session.replay.map fun entry => (lost + 1, entry.2)
  | _ => []

/-- Unless something is requested or read, mail is added as the next stream is opened and at no other
time, provided that nothing happens to the streams while a response is at hand. -/
theorem mail_step (valid : Coherent session) (begun : session.link ≠ .idle) {step : Step}
    (unasked : ∀ request, step ≠ .request request)
    (unread : ∀ generation response, step ≠ .read generation response)
    (free : session.signal? step ≠ none → session.dispatch = none) (generation : Nat) :
    (session.step step).mail generation =
      session.mail generation ++
        onStream generation ((session.signal? step).toList.flatMap session.reopening) := by
  have link := link_step valid begun step
  have node := session.node_step step
  have queued := queued_step valid step generation
  have waiting (dispatch : (session.step step).dispatch = session.dispatch) :
      (session.step step).owed = session.owed := by
    cases signal : session.signal? step with
    | none =>
      rw [signal] at link
      exact owed_congr dispatch link node
    | some signal =>
      have idle := free (by simp [signal])
      rw [owed_of_idle idle, owed_of_idle (dispatch.trans idle)]
  by_cases quiet : step.isQuiet = true
  · have reopening : (session.signal? step).toList.flatMap session.reopening = [] := by
      cases step with
      | refuse | finish =>
        simp only [signal?]
        split <;> rfl
      | fire => cases quiet
      | _ => rfl
    rw [mail, queued, sends_quiet quiet, waiting (frame_step session quiet).dispatch, reopening]
    simp [mail]
  · cases step with
    | request request => exact absurd rfl (unasked request)
    | read other response => exact absurd rfl (unread other response)
    | acknowledge =>
      obtain ⟨_, _, same⟩ := session.acknowledge_eq
      have idle : (session.step .acknowledge).dispatch = none := by rw [Session.step, same]
      rw [mail, queued, sends_acknowledge_eq, owed_of_idle idle]
      simp [mail, signal?]
    | fire lost =>
      have still := waiting (session.dispatch_fireTimer lost)
      rw [mail, queued, still]
      simp only [sends, signal?] at free ⊢
      split
      · rename_i possible
        rw [owed_of_idle (free (by simp [possible]))]
        simp [mail, owed_of_idle (free (by simp [possible])), reopening]
      · simp [mail]
    | _ => exact absurd rfl quiet

end MeshDiscovery.Session
