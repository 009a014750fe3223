import MeshDiscovery.Proofs.Session.Effect

/-!
The tasks and timers that go with the phase of a session. Tasks, timers and the phase change one at
a time and only the generation ties them together; `Coherent` says how, and every step keeps it.
-/

namespace MeshDiscovery.Session

/-- The tasks and timers that there are in a phase, and the number of streams opened by then. After
the session was closed, a task or a timer may still be about to notice. -/
inductive Standing : Phase → List StreamTask → List Timer → Nat → Prop where
  | idle : Standing .idle [] [] 0
  | active (generation : Nat) (stage : Stage) :
      Standing (.active generation (stage = .reading)) [⟨generation, stage⟩] [] (generation + 1)
  | recovering (generation due : Nat) :
      Standing (.recovering generation) [] [⟨generation, due⟩] (generation + 1)
  | closed (opened : Nat) : Standing .closed [] [] opened
  | stopping (generation : Nat) (stage : Stage) :
      Standing .closed [⟨generation, stage⟩] [] (generation + 1)
  | cancelling (generation due : Nat) :
      Standing .closed [] [⟨generation, due⟩] (generation + 1)

namespace Standing

variable {phase : Phase} {tasks : List StreamTask} {timers : List Timer} {opened : Nat}

theorem of_idle (standing : Standing .idle tasks timers opened) :
    tasks = [] ∧ timers = [] ∧ opened = 0 := by
  cases standing
  exact ⟨rfl, rfl, rfl⟩

theorem of_active {generation : Nat} {connected : Bool}
    (standing : Standing (.active generation connected) tasks timers opened) :
    ∃ stage, tasks = [⟨generation, stage⟩] ∧ timers = [] ∧ opened = generation + 1 ∧
      connected = (stage = .reading) := by
  cases standing with
  | active _ stage => exact ⟨stage, rfl, rfl, rfl, by simp⟩

theorem of_recovering {generation : Nat}
    (standing : Standing (.recovering generation) tasks timers opened) :
    tasks = [] ∧ (∃ due, timers = [⟨generation, due⟩]) ∧ opened = generation + 1 := by
  cases standing with
  | recovering _ due => exact ⟨rfl, ⟨due, rfl⟩, rfl⟩

theorem close (standing : Standing phase tasks timers opened) :
    Standing .closed tasks timers opened := by
  cases standing with
  | idle => exact .closed 0
  | active generation stage => exact .stopping generation stage
  | recovering generation due => exact .cancelling generation due
  | closed opened => exact .closed opened
  | stopping generation stage => exact .stopping generation stage
  | cancelling generation due => exact .cancelling generation due

/-- A task is the only one, there is no timer, and it is the task of the newest stream. -/
theorem of_task {generation : Nat} {stage : Stage} (standing : Standing phase tasks timers opened)
    (member : ⟨generation, stage⟩ ∈ tasks) :
    tasks = [⟨generation, stage⟩] ∧ timers = [] ∧ opened = generation + 1 ∧
      (phase = .active generation (stage = .reading) ∨ phase = .closed) := by
  cases standing with
  | active other otherStage =>
    obtain ⟨rfl, rfl⟩ : generation = other ∧ stage = otherStage := by simpa using member
    exact ⟨rfl, rfl, rfl, .inl rfl⟩
  | stopping other otherStage =>
    obtain ⟨rfl, rfl⟩ : generation = other ∧ stage = otherStage := by simpa using member
    exact ⟨rfl, rfl, rfl, .inr rfl⟩
  | idle | recovering | closed | cancelling => simp at member

/-- A timer is the only one, there is no task, and it is the timer of the newest stream. -/
theorem of_timer {generation : Nat} (standing : Standing phase tasks timers opened)
    (member : (timers.any fun timer => timer.generation = generation) = true) :
    tasks = [] ∧ (∃ due, timers = [⟨generation, due⟩]) ∧ opened = generation + 1 ∧
      (phase = .recovering generation ∨ phase = .closed) := by
  cases standing with
  | recovering other due =>
    obtain rfl : other = generation := by simpa using member
    exact ⟨rfl, ⟨due, rfl⟩, rfl, .inl rfl⟩
  | cancelling other due =>
    obtain rfl : other = generation := by simpa using member
    exact ⟨rfl, ⟨due, rfl⟩, rfl, .inr rfl⟩
  | idle | active | closed | stopping => simp at member

end Standing

/-- What every reachable session keeps. -/
structure Coherent (session : Session) : Prop where
  standing : Standing session.phase session.tasks session.timers session.generations.length
  /-- Streams are numbered in the order in which they are opened. -/
  numbered : session.generations = List.range session.generations.length
  unrequested : session.phase = .idle → session.recorded = .const none
  /-- Whoever deals with a response is the task that has read it. -/
  busy : ∀ dispatch, session.dispatch = some dispatch →
    session.tasks = [⟨dispatch.generation, .reading⟩]

theorem coherent_fresh (node : Node) : Coherent (fresh node) where
  standing := .idle
  numbered := rfl
  unrequested _ := rfl
  busy dispatch some := by cases some

theorem hasTask_iff {session : Session} {generation : Nat} {stage : Stage} :
    session.hasTask generation stage = true ↔ ⟨generation, stage⟩ ∈ session.tasks := by
  simp [hasTask]

theorem endTask_alone {session : Session} {generation : Nat} {stage : Stage}
    (alone : session.tasks = [⟨generation, stage⟩]) : (session.endTask generation).tasks = [] := by
  simp [endTask, alone]

theorem setStage_alone {session : Session} {generation : Nat} {stage : Stage}
    (alone : session.tasks = [⟨generation, stage⟩]) (next : Stage) :
    (session.setStage generation next).tasks = [⟨generation, next⟩] := by
  simp [setStage, alone]

theorem dropTimer_alone {session : Session} {generation due : Nat}
    (alone : session.timers = [⟨generation, due⟩]) :
    (session.dropTimer generation).timers = [] := by
  simp [dropTimer, alone]

namespace Coherent

variable {session : Session}

theorem of_fields {after : Session} (valid : Coherent session) (phase : after.phase = session.phase)
    (tasks : after.tasks = session.tasks) (timers : after.timers = session.timers)
    (generations : after.generations = session.generations)
    (recorded : after.phase = .idle → after.recorded = session.recorded)
    (dispatch : after.dispatch = session.dispatch) : Coherent after where
  standing := by rw [phase, tasks, timers, generations]; exact valid.standing
  numbered := by rw [generations]; exact valid.numbered
  unrequested idle := (recorded idle).trans (valid.unrequested (phase ▸ idle))
  busy current some := tasks.trans (valid.busy current (dispatch ▸ some))

theorem standing_at (valid : Coherent session) {phase : Phase} (now : session.phase = phase) :
    Standing phase session.tasks session.timers session.generations.length :=
  now ▸ valid.standing

theorem of_task (valid : Coherent session) {generation : Nat} {stage : Stage}
    (task : session.hasTask generation stage = true) :
    session.tasks = [⟨generation, stage⟩] ∧ session.timers = [] ∧
      session.generations.length = generation + 1 ∧
      (session.phase = .active generation (stage = .reading) ∨ session.phase = .closed) :=
  valid.standing.of_task (hasTask_iff.mp task)

/-- A task that is not reading, or not busy, leaves no response to deal with. -/
theorem no_dispatch (valid : Coherent session) {generation : Nat} {stage : Stage}
    (task : session.hasTask generation stage = true)
    (free : stage ≠ .reading ∨ session.isBusy generation = false) : session.dispatch = none := by
  cases current : session.dispatch with
  | none => rfl
  | some dispatch =>
    have reading := (valid.of_task task).1.symm.trans (valid.busy dispatch current)
    obtain ⟨rfl, rfl⟩ : generation = dispatch.generation ∧ stage = .reading := by
      simpa using reading
    rcases free with stage | idle
    · exact absurd rfl stage
    · simp [isBusy, current] at idle

theorem report (valid : Coherent session) (notice : Notice) : Coherent (session.report notice) :=
  valid.of_fields rfl rfl rfl rfl (fun _ => rfl) rfl

theorem shutChannel (valid : Coherent session) (generation : Nat) :
    Coherent (session.shutChannel generation) :=
  valid.of_fields rfl rfl rfl (generations_shutChannel session generation) (fun _ => rfl) rfl

theorem next_absent (valid : Coherent session) :
    session.generations.length ∉ session.generations := by
  intro member
  rw [valid.numbered] at member
  simp at member

theorem of_idle {after : Session} (valid : Coherent session) (idle : session.dispatch = none)
    (standing : Standing after.phase after.tasks after.timers session.generations.length)
    (generations : after.generations = session.generations)
    (dispatch : after.dispatch = session.dispatch) (away : after.phase ≠ .idle) :
    Coherent after where
  standing := by rw [generations]; exact standing
  numbered := by rw [generations]; exact valid.numbered
  unrequested now := absurd now away
  busy current some := by rw [dispatch, idle] at some; cases some

variable (generation : Nat)

private theorem first_request (valid : Coherent session) (kind : ResourceType) (request : Request)
    (phase : session.phase = .idle) :
    Coherent ((session.noting kind request).openStream 0 [(kind, session.signed request)]) := by
  obtain ⟨notices, noted⟩ := session.noting_eq kind request
  obtain ⟨channels, metrics, opened⟩ := (session.noting kind request).openStream_eq 0
    [(kind, session.signed request)]
  obtain ⟨tasks, timers, none⟩ := (valid.standing_at phase).of_idle
  have numbers : ((session.noting kind request).openStream 0
      [(kind, session.signed request)]).generations = [0] := by
    rw [generations_openStream, noted]
    exact congrArg (· ++ [0]) (List.length_eq_zero_iff.mp none)
  constructor
  · rw [numbers, opened, noted]
    simp only [tasks, timers]
    exact .active 0 .spawned
  · rw [numbers]
    rfl
  · rw [opened]
    intro idle
    cases idle
  · rw [opened, noted]
    intro dispatch some
    have reading := valid.busy dispatch some
    rw [tasks] at reading
    cases reading

private theorem later_request (valid : Coherent session) (kind : ResourceType) (request : Request)
    (phase : session.phase ≠ .idle) : Coherent (session.noting kind request) := by
  obtain ⟨notices, noted⟩ := session.noting_eq kind request
  rw [noted]
  exact valid.of_fields rfl rfl rfl rfl (fun idle => absurd idle phase) rfl

theorem queue (valid : Coherent session) (kind : ResourceType) (request : Request) :
    Coherent (session.queue generation kind request) := by
  obtain ⟨channels, metrics, queued⟩ := session.queue_eq generation kind request
  have numbers := session.generations_queue generation kind request
  rw [queued] at numbers ⊢
  exact valid.of_fields rfl rfl rfl numbers (fun _ => rfl) rfl

theorem request (valid : Coherent session) (request : Request) :
    Coherent (session.request request) := by
  rcases session.request_cases request with ⟨_, same⟩ | ⟨kind, _, same⟩
  · rw [same]
    exact valid.report _
  · rw [same]
    split
    · rename_i phase
      exact valid.first_request kind request phase
    · rename_i generation connected phase
      exact (valid.later_request kind request (by simp [phase])).queue generation kind _
    all_goals
      rename_i phase
      exact valid.later_request kind request (by simp [phase])

theorem close (valid : Coherent session) : Coherent session.close := by
  unfold Session.close
  split
  · exact valid
  all_goals exact ⟨valid.standing.close, valid.numbered, (by intro idle; cases idle), valid.busy⟩

private theorem stopped {after : Session} {stage : Stage} (valid : Coherent session)
    (closed : session.phase = .closed) (task : session.hasTask generation stage = true)
    (idle : session.dispatch = none) (tasks : after.tasks = [])
    (phase : after.phase = session.phase) (timers : after.timers = session.timers)
    (generations : after.generations = session.generations)
    (dispatch : after.dispatch = session.dispatch) : Coherent after := by
  obtain ⟨_, none, _, _⟩ := valid.of_task task
  refine valid.of_idle idle ?_ generations dispatch (by simp [phase, closed])
  rw [phase, closed, tasks, timers, none]
  exact .closed _

theorem start (valid : Coherent session) : Coherent (session.start generation) := by
  unfold Session.start
  split
  · rename_i task
    obtain ⟨alone, timers, opened, phase⟩ := valid.of_task task
    have idle := valid.no_dispatch task (.inl (by simp))
    split
    · rename_i closed
      exact valid.stopped generation closed task idle (endTask_alone alone) rfl rfl
        (generations_shutChannel _ generation) rfl
    · rename_i opening
      obtain phase | closed := phase
      · refine valid.of_idle idle ?_ rfl rfl ?_
        · show Standing session.phase (session.setStage generation .connecting).tasks
            session.timers _
          rw [phase, setStage_alone alone, timers, opened]
          exact .active generation .connecting
        · show session.phase ≠ .idle
          simp [phase]
      · exact absurd closed opening
  · exact valid

private theorem lose {after : Session} {stage : Stage} (valid : Coherent session)
    (task : session.hasTask generation stage = true) (idle : session.dispatch = none)
    (tasks : after.tasks = []) (phase : after.phase = session.phase)
    (timers : after.timers = session.timers) (generations : after.generations = session.generations)
    (dispatch : after.dispatch = session.dispatch) :
    Coherent (after.scheduleRecovery generation) := by
  obtain ⟨_, none, opened, active | closed⟩ := valid.of_task task
  · -- The lost stream is the current one, so a timer takes the place of its task.
    have current : after.current? = some generation := by simp [current?, phase, active]
    rw [scheduleRecovery, if_pos current]
    refine valid.of_idle idle ?_ generations dispatch (by simp [Session.report, count])
    show Standing (.recovering generation) after.tasks (after.timers ++ [_]) _
    rw [tasks, timers, none, opened]
    exact .recovering generation _
  · have current : after.current? ≠ some generation := by simp [current?, phase, closed]
    rw [scheduleRecovery, if_neg current]
    exact valid.stopped generation closed task idle tasks phase timers generations dispatch

theorem connectFailed (valid : Coherent session) (problem : SessionError) :
    Coherent (session.connectFailed generation problem) := by
  unfold Session.connectFailed
  split
  · rename_i task
    have idle := valid.no_dispatch task (.inl (by simp))
    exact valid.lose generation task idle (endTask_alone (valid.of_task task).1) rfl rfl
      (generations_shutChannel _ generation) rfl
  · exact valid

theorem streamEnded (valid : Coherent session) (ending : Ending)
    (free : session.isBusy generation = false) :
    Coherent (session.streamEnded generation ending) := by
  unfold Session.streamEnded
  split
  · rename_i task
    have idle := valid.no_dispatch task (.inr free)
    exact valid.lose generation task idle (endTask_alone (valid.of_task task).1) rfl rfl rfl rfl
  · exact valid

theorem connectSucceeded (valid : Coherent session) :
    Coherent (session.connectSucceeded generation) := by
  unfold Session.connectSucceeded
  split
  · rename_i task
    obtain ⟨alone, timers, opened, phase⟩ := valid.of_task task
    have idle := valid.no_dispatch task (.inl (by simp))
    split
    · refine valid.of_idle idle ?_ rfl rfl (by simp [Session.report, count])
      show Standing (.active generation true) (session.setStage generation .reading).tasks
        session.timers _
      rw [setStage_alone alone, timers, opened]
      exact .active generation .reading
    · rename_i unwanted
      obtain active | closed := phase
      · exact absurd (by simp [current?, active]) unwanted
      · exact valid.stopped generation closed task idle (endTask_alone alone) rfl rfl rfl rfl
  · exact valid

theorem stopTask (valid : Coherent session) (free : session.isBusy generation = false) :
    Coherent (session.stopTask generation) := by
  unfold Session.stopTask
  split
  · rename_i closed
    split
    · rename_i task
      have idle := valid.no_dispatch task (.inr free)
      exact valid.stopped generation closed task idle (endTask_alone (valid.of_task task).1) rfl
        rfl rfl rfl
    · split
      · rename_i task
        have idle := valid.no_dispatch task (.inr free)
        exact valid.stopped generation closed task idle (endTask_alone (valid.of_task task).1) rfl
          rfl (generations_shutChannel _ generation) rfl
      · exact valid
  · exact valid

private theorem dropTimer (valid : Coherent session)
    (pending : (session.timers.any fun timer => timer.generation = generation) = true)
    (other : session.phase ≠ .recovering generation) : Coherent (session.dropTimer generation) := by
  obtain ⟨tasks, ⟨due, timers⟩, _, waiting | closed⟩ := valid.standing.of_timer pending
  · exact absurd waiting other
  · have busy : ∀ dispatch, session.dispatch = some dispatch →
        session.tasks = [⟨dispatch.generation, .reading⟩] := valid.busy
    refine ⟨?_, valid.numbered, (by intro idle; simp [Session.dropTimer, closed] at idle), busy⟩
    show Standing session.phase session.tasks (session.dropTimer generation).timers _
    rw [closed, tasks, dropTimer_alone timers]
    exact .closed _

theorem cancelTimer (valid : Coherent session) : Coherent (session.cancelTimer generation) := by
  unfold Session.cancelTimer
  split
  · rename_i closed
    by_cases pending : (session.timers.any fun timer => timer.generation = generation) = true
    · exact valid.dropTimer generation pending (by simp [closed])
    · have same : session.timers.filter (fun timer => timer.generation ≠ generation) =
          session.timers := by
        apply List.filter_eq_self.mpr
        intro timer member
        have absent : ∀ timer ∈ session.timers, timer.generation ≠ generation := by
          simpa using pending
        simpa using absent timer member
      exact valid.of_fields rfl rfl same rfl (fun _ => rfl) rfl
  · exact valid

theorem fireTimer (valid : Coherent session) : Coherent (session.fireTimer generation) := by
  rcases session.fireTimer_cases generation with ⟨_, same⟩ | ⟨pending, ⟨other, same⟩ | ⟨_, same⟩⟩
  · rw [same]
    exact valid
  · rw [same]
    exact valid.dropTimer generation pending other
  · obtain ⟨tasks, ⟨due, timers⟩, opened, _⟩ := valid.standing.of_timer pending
    obtain ⟨channels, metrics, widened⟩ :=
      (session.waking generation).openStream_eq (generation + 1) session.replay
    have numbers :=
      (session.waking generation).generations_openStream (generation + 1) session.replay
    have earlier : (session.waking generation).generations = session.generations := rfl
    rw [same]
    constructor
    · rw [numbers, earlier, widened, List.length_append, opened]
      show Standing _ (session.tasks ++ _) (session.dropTimer generation).timers _
      rw [tasks, dropTimer_alone timers]
      exact .active (generation + 1) .spawned
    · rw [numbers, earlier, List.length_append, List.length_singleton, opened, List.range_succ,
        ← opened, ← valid.numbered]
    · rw [widened]
      intro idle
      cases idle
    · rw [widened]
      intro dispatch some
      have reading := valid.busy dispatch some
      rw [tasks] at reading
      cases reading

theorem read (valid : Coherent session) (response : Response) :
    Coherent (session.step (.read generation response)) := by
  rcases session.read_cases generation response with
    ⟨_, _, same⟩ | ⟨kind, names, _, _, _, task, _, same⟩
  · rw [same]
    exact valid.of_fields rfl rfl rfl rfl (fun _ => rfl) rfl
  · rw [same]
    refine ⟨valid.standing, valid.numbered, valid.unrequested, ?_⟩
    intro dispatch some
    cases some
    exact (valid.of_task task).1

theorem acknowledge (valid : Coherent session) : Coherent session.acknowledge := by
  rcases session.acknowledge_cases with ⟨_, same⟩ | ⟨dispatch, metrics, _, same⟩
  · rw [same]
    exact valid
  · have done : Coherent { session with dispatch := none, metrics } :=
      ⟨valid.standing, valid.numbered, valid.unrequested, by intro dispatch some; cases some⟩
    rw [same]
    split
    · exact done.queue _ _ _
    · exact done

/-- Every step keeps the invariant. -/
theorem step (valid : Coherent session) (step : Step) : Coherent (session.step step) := by
  cases step with
  | register kind =>
    obtain ⟨_, same⟩ := session.register_eq kind
    rw [same]
    exact valid.of_fields rfl rfl rfl rfl (fun _ => rfl) rfl
  | request request => exact valid.request request
  | close => exact valid.close
  | report notice => exact valid.report notice
  | skip | elapse => exact valid.of_fields rfl rfl rfl rfl (fun _ => rfl) rfl
  | start generation => exact valid.start generation
  | refuse generation problem => exact valid.connectFailed generation problem
  | accept generation => exact valid.connectSucceeded generation
  | read generation response => exact valid.read generation response
  | acknowledge => exact valid.acknowledge
  | finish generation ending =>
    simp only [Session.step]
    split
    · exact valid
    · rename_i free
      exact valid.streamEnded generation ending (by simpa using free)
  | stop generation =>
    simp only [Session.step]
    split
    · exact valid
    · rename_i free
      exact valid.stopTask generation (by simpa using free)
  | shut generation => exact valid.shutChannel generation
  | fire generation => exact valid.fireTimer generation
  | cancel generation => exact valid.cancelTimer generation

theorem run (valid : Coherent session) (steps : List Step) : Coherent (session.run steps) := by
  induction steps generalizing session with
  | nil => exact valid
  | cons step rest ih => exact ih (valid.step step)

end Coherent

end MeshDiscovery.Session
