import MeshDiscovery.Proofs.Session.Closing
import MeshDiscovery.Proofs.Session.Counting

/-!
The counters that go with the streams of a session: how many were lost, and whether one is read.
Whatever is counted is given back on each of the ways in which a task may end.
-/

namespace MeshDiscovery.Session

def isRecovering (session : Session) : Bool :=
  match session.phase with
  | .recovering _ => true
  | .idle | .active .. | .closed => false

def isReading (session : Session) : Bool :=
  session.tasks.any fun task => task.stage = .reading

/-- The stream that was lost last, if the session is closed while it waits for the next one. -/
def interrupts (session : Session) : Step → List Nat
  | .close =>
    match session.phase with
    | .recovering generation => [generation]
    | .idle | .active .. | .closed => []
  | _ => []

/-- The streams of a session with what is counted of them. -/
structure Gauge where
  opened : Nat
  recovering : Bool
  reading : Bool
  reconnects : Nat
  connected : Int

def gauge (session : Session) : Gauge where
  opened := session.generations.length
  recovering := session.isRecovering
  reading := session.isReading
  reconnects := session.metrics.reconnects
  connected := session.metrics.connected.getD 0

/-- What a step does to the streams and to what is counted of them. -/
inductive Gauged : Gauge → List Nat → Gauge → Prop where
  | kept (gauge : Gauge) : Gauged gauge [] gauge
  | first (reconnects : Nat) (connected : Int) :
      Gauged ⟨0, false, false, reconnects, connected⟩ [] ⟨1, false, false, reconnects, connected⟩
  | entered (opened reconnects : Nat) (connected : Int) :
      Gauged ⟨opened, false, false, reconnects, connected⟩ []
        ⟨opened, false, true, reconnects, connected + 1⟩
  /-- A stream is lost, with the task that opens or reads it. -/
  | lost (opened reconnects : Nat) (connected : Int) (reading : Bool) :
      Gauged ⟨opened + 1, false, reading, reconnects, connected⟩ []
        ⟨opened + 1, true, false, reconnects + 1, connected - if reading then 1 else 0⟩
  /-- A task ends after the session was closed. -/
  | left (opened reconnects : Nat) (connected : Int) (reading : Bool) :
      Gauged ⟨opened, false, reading, reconnects, connected⟩ []
        ⟨opened, false, false, reconnects, connected - if reading then 1 else 0⟩
  | reopened (opened reconnects : Nat) (connected : Int) :
      Gauged ⟨opened + 1, true, false, reconnects, connected⟩ []
        ⟨opened + 2, false, false, reconnects, connected⟩
  | interrupted (generation opened reconnects : Nat) (connected : Int) (reading : Bool) :
      Gauged ⟨opened, true, reading, reconnects, connected⟩ [generation]
        ⟨opened, false, reading, reconnects, connected⟩

namespace Gauged

variable {session after : Session} (generation : Nat)

private theorem unchanged (generations : after.generations = session.generations)
    (phase : after.phase = session.phase) (tasks : after.tasks = session.tasks)
    (reconnects : after.metrics.reconnects = session.metrics.reconnects)
    (connected : after.metrics.connected = session.metrics.connected) :
    Gauged session.gauge [] after.gauge := by
  have same : after.gauge = session.gauge := by
    simp only [gauge, isRecovering, Session.isReading, generations, phase, tasks, reconnects,
      connected]
  rw [same]
  exact .kept _

private theorem gauge_of_task (valid : Coherent session) {stage : Stage}
    (task : session.hasTask generation stage = true) :
    session.gauge = ⟨generation + 1, false, stage = .reading, session.metrics.reconnects,
      session.metrics.connected.getD 0⟩ := by
  obtain ⟨alone, _, opened, phase⟩ := valid.of_task task
  have settled : session.isRecovering = false := by
    rcases phase with active | closed
    · rw [isRecovering, active]
    · rw [isRecovering, closed]
  simp [gauge, settled, Session.isReading, alone, opened]

section Ending

variable {stage : Stage} (valid : Coherent session)
  (task : session.hasTask generation stage = true) (tasks : after.tasks = [])
  (phase : after.phase = session.phase) (generations : after.generations = session.generations)
  (reconnects : after.metrics.reconnects = session.metrics.reconnects)
  (connected : after.metrics.connected.getD 0 =
    session.metrics.connected.getD 0 - if stage = .reading then 1 else 0)
include valid task tasks phase generations reconnects connected

private theorem stopped : Gauged session.gauge [] after.gauge := by
  have before := gauge_of_task generation valid task
  have opened : session.generations.length = generation + 1 := congrArg Gauge.opened before
  have settled : after.isRecovering = false := by
    rw [isRecovering, phase]
    exact congrArg Gauge.recovering before
  have shape : after.gauge = ⟨generation + 1, false, false, session.metrics.reconnects,
      session.metrics.connected.getD 0 - if decide (stage = .reading) = true then 1 else 0⟩ := by
    simp [gauge, settled, Session.isReading, tasks, generations, opened, reconnects, connected]
  rw [before, shape]
  exact .left _ _ _ _

private theorem ended : Gauged session.gauge [] (after.scheduleRecovery generation).gauge := by
  have before := gauge_of_task generation valid task
  have opened : after.generations.length = generation + 1 :=
    (congrArg List.length generations).trans (congrArg Gauge.opened before)
  unfold scheduleRecovery
  split
  · have shape (timers : List Timer) (notice : Notice) :
        ((count { after with phase := .recovering generation, timers }
          Metrics.countReconnect).report notice).gauge =
          ⟨generation + 1, true, false, session.metrics.reconnects + 1,
            session.metrics.connected.getD 0 -
              if decide (stage = .reading) = true then 1 else 0⟩ := by
      show (⟨after.generations.length, true, after.tasks.any _, after.metrics.reconnects + 1,
        after.metrics.connected.getD 0⟩ : Gauge) = _
      simp [opened, tasks, reconnects, connected]
    dsimp only
    rw [before, shape]
    exact .lost _ _ _ _
  · exact stopped generation valid task tasks phase generations reconnects connected

end Ending

private theorem request (valid : Coherent session) (request : Request) :
    Gauged session.gauge [] (session.request request).gauge := by
  rcases session.request_cases request with ⟨_, same⟩ | ⟨kind, _, same⟩
  · rw [same]
    exact unchanged rfl rfl rfl rfl rfl
  · obtain ⟨notices, noted⟩ := session.noting_eq kind request
    rw [same]
    split
    · rename_i phase
      obtain ⟨tasks, _, none⟩ := (valid.standing_at phase).of_idle
      obtain ⟨channels, sent, opened⟩ := (session.noting kind request).openStream_eq 0
        [(kind, session.signed request)]
      have numbers := (session.noting kind request).generations_openStream 0
        [(kind, session.signed request)]
      have before : session.gauge = ⟨0, false, false, session.metrics.reconnects,
          session.metrics.connected.getD 0⟩ := by
        simp [gauge, isRecovering, phase, Session.isReading, tasks, none]
      have after : ((session.noting kind request).openStream 0
          [(kind, session.signed request)]).gauge = ⟨1, false, false, session.metrics.reconnects,
            session.metrics.connected.getD 0⟩ := by
        have earlier : (session.noting kind request).generations = session.generations := by
          rw [noted]
          rfl
        rw [gauge, numbers, earlier, opened, noted]
        simp [isRecovering, Session.isReading, tasks, none]
      rw [before, after]
      exact .first _ _
    · rename_i generation _ _
      obtain ⟨channels, sent, queued⟩ := (session.noting kind request).queue_eq generation kind
        (session.signed request)
      have numbers := (session.noting kind request).generations_queue generation kind
        (session.signed request)
      rw [queued, noted] at numbers ⊢
      exact unchanged numbers rfl rfl rfl rfl
    all_goals
      rw [noted]
      exact unchanged rfl rfl rfl rfl rfl

private theorem fireTimer (valid : Coherent session) :
    Gauged session.gauge [] (session.fireTimer generation).gauge := by
  rcases session.fireTimer_cases generation with ⟨_, same⟩ | ⟨pending, ⟨_, same⟩ | ⟨waiting, same⟩⟩
  · rw [same]
    exact .kept _
  · rw [same]
    exact unchanged rfl rfl rfl rfl rfl
  · obtain ⟨tasks, _, opened, _⟩ := valid.standing.of_timer pending
    obtain ⟨channels, sent, widened⟩ :=
      (session.waking generation).openStream_eq (generation + 1) session.replay
    have numbers :=
      (session.waking generation).generations_openStream (generation + 1) session.replay
    have before : session.gauge = ⟨generation + 1, true, false, session.metrics.reconnects,
        session.metrics.connected.getD 0⟩ := by
      simp [gauge, isRecovering, waiting, Session.isReading, tasks, opened]
    have after : ((session.waking generation).openStream (generation + 1) session.replay).gauge =
        ⟨generation + 2, false, false, session.metrics.reconnects,
          session.metrics.connected.getD 0⟩ := by
      have earlier : (session.waking generation).generations = session.generations := rfl
      have idle : (session.waking generation).tasks = [] := tasks
      rw [gauge, numbers, earlier, widened]
      simp only [isRecovering, Session.isReading, idle, List.length_append, opened]
      rfl
    rw [same, before, after]
    exact .reopened _ _ _

private theorem connectSucceeded (valid : Coherent session) :
    Gauged session.gauge [] (session.connectSucceeded generation).gauge := by
  unfold Session.connectSucceeded
  split
  · rename_i task
    have alone := (valid.of_task task).1
    split
    · have before := gauge_of_task generation valid task
      have opened : session.generations.length = generation + 1 := congrArg Gauge.opened before
      have staged := setStage_alone alone .reading
      have after : ((report
          { session.setStage generation .reading with phase := .active generation true }
          (.opened generation)).count (·.adjustConnected 1)).gauge =
          ⟨generation + 1, false, true, session.metrics.reconnects,
            session.metrics.connected.getD 0 + 1⟩ := by
        show (⟨session.generations.length, true == false, (session.setStage generation
          .reading).tasks.any _, _, _⟩ : Gauge) = _
        rw [opened, staged]
        rfl
      dsimp only
      rw [before, after]
      exact .entered _ _ _
    · exact stopped generation valid task (endTask_alone alone) rfl rfl rfl (by simp [endTask])
  · exact .kept _

private theorem acknowledge : Gauged session.gauge [] session.acknowledge.gauge := by
  obtain ⟨_, _, same⟩ := session.acknowledge_eq
  cases current : session.dispatch with
  | none =>
    have idle : session.acknowledge = session := by rw [Session.acknowledge, current]
    rw [idle]
    exact .kept _
  | some dispatch =>
    obtain ⟨sent, counted⟩ := metrics_acknowledge current
    refine unchanged ?_ (by rw [same]) (by rw [same]) (by rw [counted]; rfl) (by rw [counted]; rfl)
    simp only [Session.acknowledge, current]
    split
    · exact generations_queue _ _ _ _
    · rfl

private theorem close : Gauged session.gauge (session.interrupts .close) session.close.gauge := by
  simp only [Session.close, interrupts]
  cases phase : session.phase with
  | recovering waiting =>
    have before : session.gauge = ⟨session.generations.length, true, session.isReading,
        session.metrics.reconnects, session.metrics.connected.getD 0⟩ := by
      simp [gauge, isRecovering, phase]
    rw [before]
    exact .interrupted _ _ _ _ _
  | closed => exact .kept _
  | idle | active =>
    have settled : session.isRecovering = false := by rw [isRecovering, phase]
    have same : (report { session with phase := .closed }
        (.sessionClosed session.node.id)).gauge = session.gauge := by
      simp only [gauge, settled]
      rfl
    dsimp only
    rw [same]
    exact .kept _

private theorem start (valid : Coherent session) :
    Gauged session.gauge [] (session.start generation).gauge := by
  unfold Session.start
  split
  · rename_i task
    have alone := (valid.of_task task).1
    split
    · exact stopped generation valid task (endTask_alone alone) rfl
        (generations_shutChannel _ generation) rfl (by simp [shutChannel, modifyChannel, endTask])
    · have before := gauge_of_task generation valid task
      have staged := setStage_alone alone .connecting
      have same : Session.gauge
          { session.setStage generation .connecting with connects := session.connects + 1 } =
          session.gauge := by
        have settled : session.isReading = false := congrArg Gauge.reading before
        simp only [gauge, Session.isReading, staged] at settled ⊢
        rw [settled]
        rfl
      rw [same]
      exact .kept _
  · exact .kept _

private theorem stopTask (valid : Coherent session) :
    Gauged session.gauge [] (session.stopTask generation).gauge := by
  unfold Session.stopTask
  split
  · split
    · rename_i task
      exact stopped generation valid task (endTask_alone (valid.of_task task).1) rfl rfl rfl
        (by simp [count, Metrics.adjustConnected, endTask, Int.sub_eq_add_neg])
    · split
      · rename_i task
        exact stopped generation valid task (endTask_alone (valid.of_task task).1) rfl
          (generations_shutChannel _ generation) rfl
          (by simp [shutChannel, modifyChannel, endTask])
      · exact .kept _
  · exact .kept _

/-- Every step does one of these. -/
theorem step (valid : Coherent session) (step : Step) :
    Gauged session.gauge (session.interrupts step) (session.step step).gauge := by
  cases step with
  | register kind =>
    obtain ⟨_, same⟩ := session.register_eq kind
    rw [same]
    exact unchanged rfl rfl rfl rfl rfl
  | request request => exact Gauged.request valid request
  | close => exact Gauged.close
  | report | skip | elapse => exact unchanged rfl rfl rfl rfl rfl
  | start generation => exact Gauged.start generation valid
  | refuse generation problem =>
    simp only [Session.step, connectFailed]
    split
    · rename_i task
      exact ended generation valid task (endTask_alone (valid.of_task task).1) rfl
        (generations_shutChannel _ generation) rfl
        (by simp [shutChannel, modifyChannel, endTask, report])
    · exact .kept _
  | accept generation => exact connectSucceeded generation valid
  | read generation response =>
    obtain ⟨received, counted⟩ := session.metrics_read generation response
    have reconnects : (session.step (.read generation response)).metrics.reconnects =
        session.metrics.reconnects := by rw [counted]
    have connected : (session.step (.read generation response)).metrics.connected =
        session.metrics.connected := by rw [counted]
    rcases session.read_cases generation response with
      ⟨_, _, same⟩ | ⟨_, _, _, _, _, _, _, same⟩
    · rw [same] at reconnects connected ⊢
      exact unchanged rfl rfl rfl reconnects connected
    · rw [same] at reconnects connected ⊢
      exact unchanged rfl rfl rfl reconnects connected
  | acknowledge => exact Gauged.acknowledge
  | finish generation ending =>
    simp only [Session.step, streamEnded]
    split
    · exact .kept _
    · split
      · rename_i task
        exact ended generation valid task (endTask_alone (valid.of_task task).1) rfl rfl rfl
          (by simp [count, Metrics.adjustConnected, endTask, report, Int.sub_eq_add_neg])
      · exact .kept _
  | stop generation =>
    simp only [Session.step]
    split
    · exact .kept _
    · exact Gauged.stopTask generation valid
  | shut generation =>
    exact unchanged (generations_shutChannel session generation) rfl rfl rfl rfl
  | fire generation => exact fireTimer generation valid
  | cancel generation =>
    simp only [Session.step, cancelTimer]
    split
    · exact unchanged rfl rfl rfl rfl rfl
    · exact .kept _

end Gauged

/-- What is counted of the streams follows from which there were and where the last one stands. -/
structure Metered (gauge : Gauge) (interrupted : List Nat) : Prop where
  reconnects : gauge.reconnects =
    gauge.opened - 1 + (if gauge.recovering = true then 1 else 0) + interrupted.length
  connected : gauge.connected = if gauge.reading = true then 1 else 0

namespace Metered

theorem gauged {before after : Gauge} {interrupted more : List Nat}
    (metered : Metered before interrupted) (gauged : Gauged before more after) :
    Metered after (interrupted ++ more) := by
  obtain ⟨reconnects, connected⟩ := metered
  cases gauged with
  | kept => exact ⟨by simpa using reconnects, connected⟩
  | first => exact ⟨by simpa using reconnects, connected⟩
  | entered => exact ⟨by simpa using reconnects, congrArg (· + 1) connected⟩
  | lost =>
    simp only [Nat.add_sub_cancel] at reconnects
    exact ⟨by simp [reconnects]; omega, Int.sub_eq_zero.mpr connected⟩
  | left => exact ⟨by simpa using reconnects, Int.sub_eq_zero.mpr connected⟩
  | reopened => exact ⟨by simpa using reconnects, connected⟩
  | interrupted =>
    simp only [if_true] at reconnects
    exact ⟨by simp [reconnects]; omega, connected⟩

theorem run {session : Session} {interrupted : List Nat} (valid : Coherent session)
    (metered : Metered session.gauge interrupted) (steps : List Step) :
    Metered (session.run steps).gauge (interrupted ++ trace interrupts session steps) := by
  induction steps generalizing session interrupted with
  | nil => simpa [trace] using metered
  | cons step rest ih =>
    have later := ih (valid.step step) (metered.gauged (Gauged.step valid step))
    simpa only [trace, run_cons, List.append_assoc] using later

end Metered

end MeshDiscovery.Session
