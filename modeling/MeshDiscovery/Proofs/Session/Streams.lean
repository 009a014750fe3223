import MeshDiscovery.Proofs.Session.Standing

/-!
One stream or one reconnect. Tasks ask the control plane for streams and have them opened; together
with the phase, the record of both tells where the only task stands, and no signal of another
generation takes part.
-/

namespace MeshDiscovery.Session

/-- The generations that a step asks the control plane for a stream of. -/
def asks (session : Session) : Step → List Nat
  | .start generation =>
    if session.hasTask generation .spawned = true ∧ session.phase ≠ .closed then [generation]
    else []
  | _ => []

/-- The generations that the control plane opens a stream of in a step. -/
def admits (session : Session) : Step → List Nat
  | .accept generation => if session.hasTask generation .connecting = true then [generation] else []
  | _ => []

/-- What the tasks of a session have come to. -/
structure Attempts where
  tasks : List StreamTask
  opened : Nat
  connects : Nat

def attempts (session : Session) : Attempts :=
  ⟨session.tasks, session.generations.length, session.connects⟩

/-- What a step makes of the tasks, and the generations that it asks for and admits. -/
inductive Progress : Attempts → List Nat → List Nat → Attempts → Prop where
  | kept (attempts : Attempts) : Progress attempts [] [] attempts
  | ended (tasks : List StreamTask) (opened connects : Nat) :
      Progress ⟨tasks, opened, connects⟩ [] [] ⟨[], opened, connects⟩
  | spawned (opened connects : Nat) :
      Progress ⟨[], opened, connects⟩ [] [] ⟨[⟨opened, .spawned⟩], opened + 1, connects⟩
  | asked (generation opened connects : Nat) :
      Progress ⟨[⟨generation, .spawned⟩], opened, connects⟩ [generation] []
        ⟨[⟨generation, .connecting⟩], opened, connects + 1⟩
  | admitted (generation opened connects : Nat) :
      Progress ⟨[⟨generation, .connecting⟩], opened, connects⟩ [] [generation]
        ⟨[⟨generation, .reading⟩], opened, connects⟩
  /-- The stream was opened too late and is left at once. -/
  | left (generation opened connects : Nat) :
      Progress ⟨[⟨generation, .connecting⟩], opened, connects⟩ [] [generation]
        ⟨[], opened, connects⟩

namespace Progress

variable {session : Session} (generation : Nat)

private theorem unchanged {before after : Attempts} (same : after = before) :
    Progress before [] [] after :=
  same ▸ .kept before

private theorem gone {before after : Attempts} (tasks : after.tasks = [])
    (opened : after.opened = before.opened) (connects : after.connects = before.connects) :
    Progress before [] [] after := by
  obtain ⟨_, _, _⟩ := after
  obtain ⟨_, _, _⟩ := before
  cases tasks
  cases opened
  cases connects
  exact .ended _ _ _

private theorem attempts_queue (kind : ResourceType) (request : Request) :
    (session.queue generation kind request).attempts = session.attempts := by
  obtain ⟨channels, metrics, queued⟩ := session.queue_eq generation kind request
  have numbers := session.generations_queue generation kind request
  rw [attempts, numbers, queued]
  rfl

private theorem attempts_noting (kind : ResourceType) (request : Request) :
    (session.noting kind request).attempts = session.attempts := by
  obtain ⟨notices, noted⟩ := session.noting_eq kind request
  rw [noted]
  rfl

private theorem openStream (initial : List (ResourceType × Request)) (idle : session.tasks = [])
    (next : session.generations.length = generation) :
    Progress session.attempts [] [] (session.openStream generation initial).attempts := by
  obtain ⟨channels, metrics, opened⟩ := session.openStream_eq generation initial
  have numbers := session.generations_openStream generation initial
  rw [attempts, attempts, numbers, List.length_append, opened, next, idle]
  exact .spawned generation session.connects

private theorem request (valid : Coherent session) (request : Request) :
    Progress session.attempts [] [] (session.request request).attempts := by
  rcases session.request_cases request with ⟨_, same⟩ | ⟨kind, _, same⟩
  · rw [same]
    exact .kept session.attempts
  · have noted : (session.noting kind request).attempts = session.attempts :=
      attempts_noting kind request
    rw [same]
    split
    · rename_i phase
      obtain ⟨tasks, _, none⟩ := (valid.standing_at phase).of_idle
      rw [← noted]
      exact openStream 0 _ ((congrArg Attempts.tasks noted).trans tasks)
        ((congrArg Attempts.opened noted).trans none)
    · exact unchanged ((attempts_queue _ kind _).trans noted)
    all_goals exact unchanged noted

private theorem start (valid : Coherent session) :
    Progress session.attempts (session.asks (.start generation)) []
      (session.start generation).attempts := by
  by_cases task : session.hasTask generation .spawned = true
  · have alone := (valid.of_task task).1
    rw [Session.start, if_pos task]
    simp only [asks, task, true_and]
    by_cases closed : session.phase = .closed
    · rw [if_pos closed, if_neg (by simp [closed])]
      exact gone (endTask_alone alone)
        (congrArg List.length (generations_shutChannel _ generation)) rfl
    · have next := setStage_alone alone .connecting
      rw [if_neg closed, if_pos closed]
      show Progress ⟨session.tasks, _, _⟩ _ _
        ⟨(session.setStage generation .connecting).tasks, _, _⟩
      rw [next, alone]
      exact .asked generation _ _
  · simp only [Session.start, asks, task]
    exact .kept session.attempts

private theorem scheduleRecovery (session : Session) :
    (session.scheduleRecovery generation).attempts = session.attempts := by
  unfold Session.scheduleRecovery
  split
  · rfl
  · rfl

private theorem connectFailed (valid : Coherent session) (problem : SessionError) :
    Progress session.attempts [] [] (session.connectFailed generation problem).attempts := by
  unfold Session.connectFailed
  split
  · rename_i task
    rw [scheduleRecovery]
    exact gone (endTask_alone (valid.of_task task).1)
      (congrArg List.length (generations_shutChannel _ generation)) rfl
  · exact .kept session.attempts

private theorem connectSucceeded (valid : Coherent session) :
    Progress session.attempts [] (session.admits (.accept generation))
      (session.connectSucceeded generation).attempts := by
  by_cases task : session.hasTask generation .connecting = true
  · have alone := (valid.of_task task).1
    simp only [Session.connectSucceeded, admits, if_pos task]
    split
    · have next := setStage_alone alone .reading
      show Progress ⟨session.tasks, _, _⟩ _ _ ⟨(session.setStage generation .reading).tasks, _, _⟩
      rw [next, alone]
      exact .admitted generation _ _
    · have next := endTask_alone alone
      show Progress ⟨session.tasks, _, _⟩ _ _ ⟨(session.endTask generation).tasks, _, _⟩
      rw [next, alone]
      exact .left generation _ _
  · simp only [Session.connectSucceeded, admits, if_neg task]
    exact .kept session.attempts

private theorem streamEnded (valid : Coherent session) (ending : Ending) :
    Progress session.attempts [] [] (session.streamEnded generation ending).attempts := by
  unfold Session.streamEnded
  split
  · rename_i task
    rw [scheduleRecovery]
    exact gone (endTask_alone (valid.of_task task).1) rfl rfl
  · exact .kept session.attempts

private theorem stopTask (valid : Coherent session) :
    Progress session.attempts [] [] (session.stopTask generation).attempts := by
  unfold Session.stopTask
  split
  · split
    · rename_i task
      exact gone (endTask_alone (valid.of_task task).1) rfl rfl
    · split
      · rename_i task
        exact gone (endTask_alone (valid.of_task task).1)
          (congrArg List.length (generations_shutChannel _ generation)) rfl
      · exact .kept session.attempts
  · exact .kept session.attempts

private theorem fireTimer (valid : Coherent session) :
    Progress session.attempts [] [] (session.fireTimer generation).attempts := by
  rcases session.fireTimer_cases generation with ⟨_, same⟩ | ⟨pending, ⟨_, same⟩ | ⟨_, same⟩⟩
  · exact unchanged (congrArg attempts same)
  · exact unchanged ((congrArg attempts same).trans rfl)
  · obtain ⟨tasks, _, opened, _⟩ := valid.standing.of_timer pending
    have earlier : (session.waking generation).attempts = session.attempts := rfl
    rw [same, ← earlier]
    exact openStream (generation + 1) _ tasks opened

end Progress

variable {session : Session}

/-- What the tasks come to is all that any step can do to them. -/
theorem progress_step (valid : Coherent session) (step : Step) :
    Progress session.attempts (session.asks step) (session.admits step)
      (session.step step).attempts := by
  cases step with
  | register kind =>
    obtain ⟨_, same⟩ := session.register_eq kind
    rw [same]
    exact .kept session.attempts
  | request request => exact Progress.request valid request
  | close =>
    simp only [Session.step, close]
    split
    all_goals exact .kept session.attempts
  | report | skip | elapse => exact .kept session.attempts
  | start generation => exact Progress.start generation valid
  | refuse generation problem => exact Progress.connectFailed generation valid problem
  | accept generation => exact Progress.connectSucceeded generation valid
  | read generation response =>
    rcases session.read_cases generation response with ⟨_, _, same⟩ | ⟨_, _, _, _, _, _, _, same⟩
    · exact Progress.unchanged ((congrArg attempts same).trans rfl)
    · exact Progress.unchanged ((congrArg attempts same).trans rfl)
  | acknowledge =>
    rcases session.acknowledge_cases with ⟨_, same⟩ | ⟨_, _, _, same⟩
    · exact Progress.unchanged (congrArg attempts same)
    · refine Progress.unchanged ((congrArg attempts same).trans ?_)
      split
      · exact Progress.attempts_queue _ _ _
      · rfl
  | finish generation ending =>
    simp only [Session.step]
    split
    · exact .kept session.attempts
    · exact Progress.streamEnded generation valid ending
  | stop generation =>
    simp only [Session.step]
    split
    · exact .kept session.attempts
    · exact Progress.stopTask generation valid
  | shut generation =>
    have numbers := session.generations_shutChannel generation
    refine Progress.unchanged ?_
    rw [attempts, attempts, Session.step, numbers]
    rfl
  | fire generation => exact Progress.fireTimer generation valid
  | cancel generation =>
    simp only [Session.step, cancelTimer]
    split
    · exact .kept session.attempts
    · exact .kept session.attempts

/-- What the generations that were asked for and admitted so far say about the tasks. -/
structure Ledger (attempts : Attempts) (asked admitted : List Nat) : Prop where
  counted : attempts.connects = asked.length
  once : asked.Nodup
  known : ∀ generation ∈ asked, generation < attempts.opened
  wanted : ∀ generation ∈ admitted, generation ∈ asked
  tasks : ∀ generation stage, ⟨generation, stage⟩ ∈ attempts.tasks →
    generation < attempts.opened ∧ (generation ∈ asked ↔ stage ≠ .spawned) ∧
      (generation ∈ admitted ↔ stage = .reading)

namespace Ledger

variable {before after : Attempts} {asked admitted asking admitting : List Nat}

/-- Only a spawned task asks for its stream, so no generation is asked for twice. -/
theorem progress (ledger : Ledger before asked admitted)
    (step : Progress before asking admitting after) :
    Ledger after (asked ++ asking) (admitted ++ admitting) := by
  cases step with
  | kept => simpa using ledger
  | ended tasks opened connects =>
    simp only [List.append_nil]
    exact ⟨ledger.counted, ledger.once, ledger.known, ledger.wanted, by simp⟩
  | spawned opened connects =>
    simp only [List.append_nil]
    -- Everything asked for is below the number of streams, which the new one gets.
    have unasked : opened ∉ asked := fun member => Nat.lt_irrefl _ (ledger.known opened member)
    have unwanted : opened ∉ admitted := fun member => unasked (ledger.wanted opened member)
    refine ⟨ledger.counted, ledger.once, ?_, ledger.wanted, ?_⟩
    · intro generation member
      exact Nat.lt_succ_of_lt (ledger.known generation member)
    · intro generation stage member
      obtain ⟨rfl, rfl⟩ : generation = opened ∧ stage = .spawned := by simpa using member
      exact ⟨Nat.lt_succ_self _, by simp [unasked], by simp [unwanted]⟩
  | asked generation opened connects =>
    obtain ⟨below, asking, admitting⟩ := ledger.tasks generation .spawned (by simp)
    have unasked : generation ∉ asked := by simpa using asking
    have unwanted : generation ∉ admitted := by simpa using admitting
    rw [List.append_nil]
    refine ⟨?_, ?_, ?_, ?_, ?_⟩
    · have counted : connects = asked.length := ledger.counted
      simp [counted]
    · refine List.nodup_append.mpr ⟨ledger.once, by simp, ?_⟩
      intro other member last isLast same
      obtain rfl : last = generation := by simpa using isLast
      exact unasked (same ▸ member)
    · intro other member
      rcases List.mem_append.mp member with earlier | last
      · exact ledger.known other earlier
      · obtain rfl : other = generation := by simpa using last
        exact below
    · intro other member
      exact List.mem_append_left _ (ledger.wanted other member)
    · intro other stage member
      obtain ⟨rfl, rfl⟩ : other = generation ∧ stage = .connecting := by simpa using member
      exact ⟨below, by simp, by simp [unwanted]⟩
  | admitted generation opened connects =>
    obtain ⟨below, asking, _⟩ := ledger.tasks generation .connecting (by simp)
    have wanted : generation ∈ asked := asking.mpr (by simp)
    rw [List.append_nil]
    refine ⟨ledger.counted, ledger.once, ledger.known, ?_, ?_⟩
    · intro other member
      rcases List.mem_append.mp member with earlier | last
      · exact ledger.wanted other earlier
      · obtain rfl : other = generation := by simpa using last
        exact wanted
    · intro other stage member
      obtain ⟨rfl, rfl⟩ : other = generation ∧ stage = .reading := by simpa using member
      exact ⟨below, by simp [wanted], by simp⟩
  | left generation opened connects =>
    obtain ⟨_, asking, _⟩ := ledger.tasks generation .connecting (by simp)
    have wanted : generation ∈ asked := asking.mpr (by simp)
    rw [List.append_nil]
    refine ⟨ledger.counted, ledger.once, ledger.known, ?_, by simp⟩
    intro other member
    rcases List.mem_append.mp member with earlier | last
    · exact ledger.wanted other earlier
    · obtain rfl : other = generation := by simpa using last
      exact wanted

theorem run (valid : Coherent session) (ledger : Ledger session.attempts asked admitted)
    (steps : List Step) :
    Ledger (session.run steps).attempts (asked ++ trace asks session steps)
      (admitted ++ trace admits session steps) := by
  induction steps generalizing session asked admitted with
  | nil => simpa [trace] using ledger
  | cons step rest ih =>
    have later := ih (valid.step step) (ledger.progress (progress_step valid step))
    simpa only [trace, run_cons, List.append_assoc] using later

end Ledger

theorem ledger_fresh (node : Node) : Ledger (fresh node).attempts [] [] :=
  ⟨rfl, List.nodup_nil, by simp, by simp, by simp [attempts, fresh]⟩

/-- The generation that a session has a stream of or waits to follow. -/
def generation? (session : Session) : Option Nat :=
  match session.phase with
  | .active generation _ | .recovering generation => some generation
  | .idle | .closed => none

/-- The generation whose failure, success or timer a step signals. -/
def Step.signals? : Step → Option Nat
  | .refuse generation _ | .accept generation | .finish generation _ | .fire generation =>
    some generation
  | _ => none

/-- A signal of another generation changes nothing, unless the session was closed and the task or
the timer that was left notices. -/
theorem stale_signal (valid : Coherent session) {step : Step} {generation : Nat}
    (signal : step.signals? = some generation) (stale : session.generation? ≠ some generation)
    (opening : session.phase ≠ .closed) : session.step step = session := by
  have taskless : ∀ stage, session.hasTask generation stage ≠ true := by
    intro stage task
    obtain ⟨_, _, _, active | closed⟩ := valid.of_task task
    · exact stale (by rw [generation?, active])
    · exact opening closed
  cases step with
  | refuse _ problem =>
    cases signal
    rw [Session.step, connectFailed, if_neg (taskless .connecting)]
  | accept _ =>
    cases signal
    rw [Session.step, connectSucceeded, if_neg (taskless .connecting)]
  | finish _ ending =>
    cases signal
    rw [Session.step, streamEnded, if_neg (taskless .reading), ite_self]
  | fire _ =>
    cases signal
    rcases session.fireTimer_cases generation with ⟨_, same⟩ | ⟨pending, _⟩
    · exact same
    · obtain ⟨_, _, _, waiting | closed⟩ := valid.standing.of_timer pending
      · exact absurd (by rw [generation?, waiting]) stale
      · exact absurd closed opening
  | _ => cases signal

/-- After the session was closed, a signal can only end the task or the timer that is left. -/
theorem late_signal (valid : Coherent session) {step : Step} {generation : Nat}
    (signal : step.signals? = some generation) (closed : session.phase = .closed) :
    session.step step = session ∨
      Frame session (session.step step) ∧ (session.step step).phase = .closed ∧
        (session.step step).connects = session.connects ∧
        (session.step step).tasks = [] ∧ (session.step step).timers = [] := by
  have left : ∀ after : Session, after.phase = .closed →
      after.scheduleRecovery generation = after := by
    intro after phase
    rw [scheduleRecovery, if_neg (by simp [current?, phase])]
  cases step with
  | refuse _ problem =>
    cases signal
    by_cases task : session.hasTask generation .connecting = true
    · obtain ⟨alone, timers, _⟩ := valid.of_task task
      refine .inr ⟨frame_connectFailed session generation problem, ?_⟩
      simp only [Session.step, connectFailed, if_pos task]
      rw [left]
      · exact ⟨closed, rfl, endTask_alone alone, timers⟩
      · exact closed
    · exact .inl (by rw [Session.step, connectFailed, if_neg task])
  | accept _ =>
    cases signal
    by_cases task : session.hasTask generation .connecting = true
    · obtain ⟨alone, timers, _⟩ := valid.of_task task
      have unwanted : session.current? ≠ some generation := by simp [current?, closed]
      refine .inr ⟨frame_connectSucceeded session generation, ?_⟩
      simp only [Session.step, connectSucceeded, if_pos task, if_neg unwanted]
      exact ⟨closed, rfl, endTask_alone alone, timers⟩
    · exact .inl (by rw [Session.step, connectSucceeded, if_neg task])
  | finish _ ending =>
    cases signal
    by_cases busy : session.isBusy generation = true
    · exact .inl (by rw [Session.step, if_pos busy])
    · by_cases task : session.hasTask generation .reading = true
      · obtain ⟨alone, timers, _⟩ := valid.of_task task
        rw [Session.step, if_neg busy]
        refine .inr ⟨frame_streamEnded session generation ending, ?_⟩
        simp only [streamEnded, if_pos task]
        rw [left]
        · exact ⟨closed, rfl, endTask_alone alone, timers⟩
        · exact closed
      · exact .inl (by rw [Session.step, if_neg busy, streamEnded, if_neg task])
  | fire _ =>
    cases signal
    rcases session.fireTimer_cases generation with ⟨_, same⟩ | ⟨pending, ⟨_, same⟩ | ⟨waiting, _⟩⟩
    · exact .inl same
    · obtain ⟨tasks, ⟨due, timers⟩, _⟩ := valid.standing.of_timer pending
      rw [Session.step, same]
      exact .inr ⟨frame_dropTimer session generation, closed, rfl, tasks, dropTimer_alone timers⟩
    · rw [closed] at waiting
      cases waiting
  | _ => cases signal

/-- A session has one stream or one pending reconnect. Streams are numbered without gap, each is
asked for at most once, and signals of other generations play no part. -/
theorem one_stream_or_one_reconnect (node : Node) (steps : List Step) :
    let session := (fresh node).run steps
    let asked := trace asks (fresh node) steps
    let admitted := trace admits (fresh node) steps
    (session.phase = .idle →
      session.tasks = [] ∧ session.timers = [] ∧ session.recorded = .const none) ∧
    (∀ generation connected, session.phase = .active generation connected →
      (∃ stage, session.tasks = [⟨generation, stage⟩]) ∧ session.timers = [] ∧
        (connected = true ↔ generation ∈ admitted)) ∧
    (∀ generation, session.phase = .recovering generation →
      session.tasks = [] ∧ ∃ due, session.timers = [⟨generation, due⟩]) ∧
    session.generations = List.range session.generations.length ∧
    session.connects = asked.length ∧ asked.Nodup ∧ asked ⊆ session.generations ∧
    ∀ step generation, step.signals? = some generation → session.generation? ≠ some generation →
      session.step step = session ∨
        session.phase = .closed ∧ Frame session (session.step step) ∧
          (session.step step).phase = .closed ∧ (session.step step).connects = session.connects ∧
          (session.step step).tasks = [] ∧ (session.step step).timers = [] := by
  intro session asked admitted
  have valid : Coherent session := (coherent_fresh node).run steps
  have ledger : Ledger session.attempts asked admitted :=
    (ledger_fresh node).run (coherent_fresh node) steps
  refine ⟨?idle, ?active, ?recovering, valid.numbered, ledger.counted, ledger.once, ?known, ?stale⟩
  case idle =>
    intro phase
    obtain ⟨tasks, timers, _⟩ := (valid.standing_at phase).of_idle
    exact ⟨tasks, timers, valid.unrequested phase⟩
  case active =>
    intro generation connected phase
    obtain ⟨stage, tasks, timers, _, reading⟩ := (valid.standing_at phase).of_active
    obtain ⟨_, _, opened⟩ := ledger.tasks generation stage (by simp [attempts, tasks])
    exact ⟨⟨stage, tasks⟩, timers, by rw [reading, opened]⟩
  case recovering =>
    intro generation phase
    obtain ⟨tasks, timers, _⟩ := (valid.standing_at phase).of_recovering
    exact ⟨tasks, timers⟩
  case known =>
    intro generation member
    rw [valid.numbered]
    exact List.mem_range.mpr (ledger.known generation member)
  case stale =>
    intro step generation signal stale
    by_cases closed : session.phase = .closed
    · rcases late_signal valid signal closed with same | late
      · exact .inl same
      · exact .inr ⟨closed, late⟩
    · exact .inl (stale_signal valid signal stale closed)

/-- In a step a stream is lost: the control plane refuses it, or it ends with no response of it at
hand. -/
inductive Loses (session : Session) (generation : Nat) : Step → Prop where
  | refused (problem : SessionError) (connecting : session.hasTask generation .connecting = true) :
      Loses session generation (.refuse generation problem)
  | ended (ending : Ending) (reading : session.hasTask generation .reading = true)
      (idle : session.isBusy generation = false) :
      Loses session generation (.finish generation ending)

private theorem phase_scheduleRecovery {generation : Nat} {connected : Bool}
    (active : session.phase = .active generation connected) :
    (session.scheduleRecovery generation).phase = .recovering generation := by
  have current : session.current? = some generation := by rw [current?, active]
  rw [scheduleRecovery, if_pos current]
  rfl

private theorem phase_of_loses {generation : Nat} {connected : Bool} {step : Step}
    (active : session.phase = .active generation connected)
    (loses : session.Loses generation step) :
    (session.step step).phase = .recovering generation := by
  cases loses with
  | refused problem connecting =>
    rw [Session.step, connectFailed, if_pos connecting]
    exact phase_scheduleRecovery active
  | ended ending reading idle =>
    rw [Session.step, if_neg (by simp [idle]), streamEnded, if_pos reading]
    exact phase_scheduleRecovery active

/-- A session whose stream is lost waits to open the next one, with no task and one timer left, and
as the timer fires it does so. -/
theorem lost_stream_is_followed (node : Node) (steps : List Step) (generation : Nat) :
    let session := (fresh node).run steps
    (∀ connected step, session.phase = .active generation connected →
      session.Loses generation step →
      (session.step step).phase = .recovering generation ∧ (session.step step).tasks = [] ∧
        ∃ due, (session.step step).timers = [⟨generation, due⟩]) ∧
    (session.phase = .recovering generation →
      let after := session.step (.fire generation)
      after.phase = .active (generation + 1) false ∧
        after.tasks = [⟨generation + 1, .spawned⟩] ∧ after.timers = []) := by
  intro session
  have valid : Coherent session := (coherent_fresh node).run steps
  constructor
  · intro connected step active loses
    have waiting := phase_of_loses active loses
    obtain ⟨tasks, timers, _⟩ := ((valid.step step).standing_at waiting).of_recovering
    exact ⟨waiting, tasks, timers⟩
  · intro waiting after
    obtain ⟨tasks, ⟨due, timers⟩, _⟩ := (valid.standing_at waiting).of_recovering
    rcases session.fireTimer_cases generation with ⟨none, _⟩ | ⟨_, ⟨other, _⟩ | ⟨_, same⟩⟩
    · simp [timers] at none
    · exact absurd waiting other
    · obtain ⟨_, _, opened⟩ :=
        (session.waking generation).openStream_eq (generation + 1) session.replay
      have following : after = _ := same.trans opened
      rw [following]
      refine ⟨rfl, ?_, dropTimer_alone timers⟩
      show session.tasks ++ [_] = _
      rw [tasks]
      rfl

end MeshDiscovery.Session
