import MeshDiscovery.Proofs.Session.Queue

namespace MeshDiscovery.Session

/-- Nothing is recorded, dispatched, queued or opened, and no stream becomes usable. -/
structure Frame (before after : Session) : Prop where
  node : after.node = before.node
  recorded : after.recorded = before.recorded
  dispatch : after.dispatch = before.dispatch
  generations : after.generations = before.generations
  queued : ∀ generation, after.queued generation = before.queued generation
  accepts : ∀ generation, after.accepts generation = true → before.accepts generation = true
  current : ∀ generation, after.current? = some generation → before.current? = some generation

theorem Frame.refl (session : Session) : Frame session session :=
  ⟨rfl, rfl, rfl, rfl, fun _ => rfl, fun _ => id, fun _ => id⟩

theorem Frame.trans {before between after : Session} (first : Frame before between)
    (second : Frame between after) : Frame before after where
  node := second.node.trans first.node
  recorded := second.recorded.trans first.recorded
  dispatch := second.dispatch.trans first.dispatch
  generations := second.generations.trans first.generations
  queued generation := (second.queued generation).trans (first.queued generation)
  accepts generation now := first.accepts generation (second.accepts generation now)
  current generation now := first.current generation (second.current generation now)

/-- What is reported, counted and timed is outside of the frame, and so are the tasks. -/
theorem Frame.of_fields {before after : Session} (node : after.node = before.node)
    (recorded : after.recorded = before.recorded) (dispatch : after.dispatch = before.dispatch)
    (channels : after.channels = before.channels) (phase : after.phase = before.phase) :
    Frame before after where
  node := node
  recorded := recorded
  dispatch := dispatch
  generations := by rw [Session.generations, channels, Session.generations]
  queued generation := by rw [Session.queued, channel?, channels, Session.queued, channel?]
  accepts generation now := by rwa [Session.accepts, channel?, channels] at now
  current generation now := by rwa [current?, phase] at now

variable (session : Session) (generation : Nat)

theorem frame_report (notice : Notice) : Frame session (session.report notice) :=
  .of_fields rfl rfl rfl rfl rfl

theorem frame_count (change : Metrics → Metrics) : Frame session (session.count change) :=
  .of_fields rfl rfl rfl rfl rfl

theorem frame_endTask : Frame session (session.endTask generation) :=
  .of_fields rfl rfl rfl rfl rfl

theorem frame_dropTimer : Frame session (session.dropTimer generation) :=
  .of_fields rfl rfl rfl rfl rfl

theorem frame_shutChannel : Frame session (session.shutChannel generation) where
  node := rfl
  recorded := rfl
  dispatch := rfl
  generations := session.generations_shutChannel generation
  queued := session.queued_shutChannel generation
  accepts _ := session.accepts_of_shutChannel
  current _ := id

/-- Leaving a stream takes its generation out of use. -/
theorem frame_leave (phase : Phase)
    (away : ∀ generation connected, phase ≠ .active generation connected) :
    Frame session { session with phase } where
  node := rfl
  recorded := rfl
  dispatch := rfl
  generations := rfl
  queued _ := rfl
  accepts _ := id
  current other now := by
    cases phase with
    | active other connected => exact absurd rfl (away other connected)
    | idle | recovering | closed => simp [current?] at now

theorem frame_scheduleRecovery : Frame session (session.scheduleRecovery generation) := by
  unfold scheduleRecovery
  split
  · have left := frame_leave session (.recovering generation) (by simp)
    exact left.trans (.of_fields rfl rfl rfl rfl rfl)
  · exact .refl session

theorem register_eq (kind : ResourceType) :
    ∃ handled, session.step (.register kind) = { session with handled } := by
  rw [step, register]
  cases session.handled.get kind with
  | true => exact ⟨_, rfl⟩
  | false => exact ⟨_, rfl⟩

theorem frame_register (kind : ResourceType) : Frame session (session.step (.register kind)) := by
  obtain ⟨_, same⟩ := session.register_eq kind
  rw [same]
  exact .of_fields rfl rfl rfl rfl rfl

theorem frame_close : Frame session session.close := by
  unfold close
  split
  · exact .refl session
  all_goals
    have left := frame_leave session .closed (by simp)
    exact left.trans (frame_report _ _)

theorem frame_start : Frame session (session.start generation) := by
  unfold start
  split
  · split
    · exact (frame_endTask session generation).trans (frame_shutChannel _ generation)
    · exact .of_fields rfl rfl rfl rfl rfl
  · exact .refl session

theorem frame_connectFailed (problem : SessionError) :
    Frame session (session.connectFailed generation problem) := by
  unfold connectFailed
  split
  · have reported := frame_report session (.openFailed generation problem)
    have ended := reported.trans (frame_endTask _ generation)
    have shut := ended.trans (frame_shutChannel _ generation)
    exact shut.trans (frame_scheduleRecovery _ generation)
  · exact .refl session

theorem frame_connectSucceeded : Frame session (session.connectSucceeded generation) := by
  unfold connectSucceeded
  split
  · split
    · rename_i wanted
      refine ⟨rfl, rfl, rfl, rfl, fun _ => rfl, fun _ => id, ?_⟩
      intro other now
      simp only [current?, count, report, Option.some.injEq] at now
      rw [wanted, now]
    · exact frame_endTask session generation
  · exact .refl session

theorem frame_streamEnded (ending : Ending) :
    Frame session (session.streamEnded generation ending) := by
  unfold streamEnded
  split
  · have reported := (frame_report session (endingNotice generation ending)).trans
      (frame_count _ (·.adjustConnected (-1)))
    exact (reported.trans (frame_endTask _ generation)).trans (frame_scheduleRecovery _ generation)
  · exact .refl session

theorem frame_stopTask : Frame session (session.stopTask generation) := by
  unfold stopTask
  split
  · split
    · exact (frame_count session (·.adjustConnected (-1))).trans (frame_endTask _ generation)
    · split
      · exact (frame_endTask session generation).trans (frame_shutChannel _ generation)
      · exact .refl session
  · exact .refl session

theorem frame_cancelTimer : Frame session (session.cancelTimer generation) := by
  unfold cancelTimer
  split
  · exact frame_dropTimer session generation
  · exact .refl session

/-- A step that is no request, reads and acknowledges nothing and fires no timer. -/
def Step.isQuiet : Step → Bool
  | .request _ | .read .. | .acknowledge | .fire _ => false
  | _ => true

private theorem scheduleRecovery_eq : ∃ phase timers notices reconnects,
    session.scheduleRecovery generation =
      { session with
        phase
        timers
        notices
        metrics := { session.metrics with reconnects } } := by
  unfold scheduleRecovery
  split
  · exact ⟨_, _, _, _, rfl⟩
  · exact ⟨_, _, _, _, rfl⟩

/-- A quiet step that registers and skips nothing touches nothing but these. -/
theorem quiet_eq {step : Step} (quiet : step.isQuiet = true)
    (unregistered : ∀ kind, step ≠ .register kind) (unskipped : ∀ kind count, step ≠ .skip kind count) :
    ∃ phase channels tasks timers connects clock notices reconnects connected,
      session.step step =
        { session with
          phase
          channels
          tasks
          timers
          connects
          clock
          notices
          metrics := { session.metrics with reconnects, connected } } := by
  cases step with
  | register kind => exact absurd rfl (unregistered kind)
  | skip kind count => exact absurd rfl (unskipped kind count)
  | close =>
    simp only [Session.step, close]
    split <;> exact ⟨_, _, _, _, _, _, _, _, _, rfl⟩
  | report | shut | elapse => exact ⟨_, _, _, _, _, _, _, _, _, rfl⟩
  | start generation =>
    simp only [Session.step, start]
    split
    · split <;> exact ⟨_, _, _, _, _, _, _, _, _, rfl⟩
    · exact ⟨_, _, _, _, _, _, _, _, _, rfl⟩
  | refuse generation problem =>
    simp only [Session.step, connectFailed]
    split
    · obtain ⟨_, _, _, _, lost⟩ := scheduleRecovery_eq
        (((session.report (.openFailed generation problem)).endTask generation).shutChannel
          generation) generation
      exact ⟨_, _, _, _, _, _, _, _, _, lost⟩
    · exact ⟨_, _, _, _, _, _, _, _, _, rfl⟩
  | accept generation =>
    simp only [Session.step, connectSucceeded]
    split
    · split <;> exact ⟨_, _, _, _, _, _, _, _, _, rfl⟩
    · exact ⟨_, _, _, _, _, _, _, _, _, rfl⟩
  | finish generation ending =>
    simp only [Session.step, streamEnded]
    split
    · exact ⟨_, _, _, _, _, _, _, _, _, rfl⟩
    · split
      · obtain ⟨_, _, _, _, lost⟩ := scheduleRecovery_eq
          (((session.report (endingNotice generation ending)).count
            (·.adjustConnected (-1))).endTask generation) generation
        exact ⟨_, _, _, _, _, _, _, _, _, lost⟩
      · exact ⟨_, _, _, _, _, _, _, _, _, rfl⟩
  | stop generation =>
    simp only [Session.step, stopTask]
    split
    · exact ⟨_, _, _, _, _, _, _, _, _, rfl⟩
    · split
      · split
        · exact ⟨_, _, _, _, _, _, _, _, _, rfl⟩
        · split <;> exact ⟨_, _, _, _, _, _, _, _, _, rfl⟩
      · exact ⟨_, _, _, _, _, _, _, _, _, rfl⟩
  | cancel generation =>
    simp only [Session.step, cancelTimer]
    split <;> exact ⟨_, _, _, _, _, _, _, _, _, rfl⟩
  | request | read | acknowledge | fire => cases quiet

/-- A quiet step keeps within the frame. -/
theorem frame_step {step : Step} (quiet : step.isQuiet = true) :
    Frame session (session.step step) := by
  cases step with
  | register kind => exact frame_register session kind
  | close => exact frame_close session
  | report notice => exact frame_report session notice
  | skip kind count => exact frame_count session (·.countDecodeErrors kind count)
  | start generation => exact frame_start session generation
  | refuse generation problem => exact frame_connectFailed session generation problem
  | accept generation => exact frame_connectSucceeded session generation
  | finish generation ending =>
    simp only [Session.step]
    split
    · exact .refl session
    · exact frame_streamEnded session generation ending
  | stop generation =>
    simp only [Session.step]
    split
    · exact .refl session
    · exact frame_stopTask session generation
  | shut generation => exact frame_shutChannel session generation
  | cancel generation => exact frame_cancelTimer session generation
  | elapse time => exact .of_fields rfl rfl rfl rfl rfl
  | request request => cases quiet
  | read generation response => cases quiet
  | acknowledge => cases quiet
  | fire generation => cases quiet

end MeshDiscovery.Session
