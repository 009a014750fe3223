import MeshDiscovery.Proofs.Session.Standing

namespace MeshDiscovery.Session

/-- The messages that a step queues, each with the generation of its stream. -/
def sends (session : Session) : Step → List (Nat × Request)
  | .request request =>
    match ResourceType.ofUrl? request.typeUrl with
    | none => []
    | some _ =>
      match session.phase with
      | .idle => [(0, session.signed request)]
      | .active generation _ =>
        if session.accepts generation then [(generation, session.signed request)] else []
      | .recovering _ | .closed => []
  | .acknowledge =>
    match session.dispatch with
    | none => []
    | some dispatch =>
      if session.current? = some dispatch.generation ∧
          session.accepts dispatch.generation = true then
        [(dispatch.generation, session.acknowledgement dispatch)]
      else []
  | .fire generation =>
    if session.timers.any (fun timer => timer.generation = generation) = true ∧
        session.phase = .recovering generation then
      session.replay.map fun entry => (generation + 1, entry.2)
    else []
  | _ => []

/-- The messages for the stream of a generation. -/
def onStream (generation : Nat) (messages : List (Nat × Request)) : List Request :=
  (messages.filter fun message => message.1 = generation).map Prod.snd

@[simp] theorem onStream_nil (generation : Nat) : onStream generation [] = [] :=
  rfl

theorem onStream_append (generation : Nat) (first second : List (Nat × Request)) :
    onStream generation (first ++ second) =
      onStream generation first ++ onStream generation second := by
  simp [onStream]

@[simp] theorem onStream_singleton (generation other : Nat) (request : Request) :
    onStream generation [(other, request)] = if generation = other then [request] else [] := by
  by_cases equal : generation = other
  · simp [onStream, equal]
  · simp [onStream, equal, Ne.symm equal]

theorem onStream_map (generation other : Nat) (entries : List (ResourceType × Request)) :
    onStream generation (entries.map fun entry => (other, entry.2)) =
      if generation = other then entries.map Prod.snd else [] := by
  induction entries with
  | nil => simp
  | cons entry rest ih =>
    rw [List.map_cons, ← List.singleton_append, onStream_append, ih, onStream_singleton]
    split
    · rfl
    · rfl

variable {session : Session}

theorem sends_quiet {step : Step} (quiet : step.isQuiet = true) : session.sends step = [] := by
  cases step <;> first | rfl | cases quiet

theorem sends_read (generation : Nat) (response : Response) :
    session.sends (.read generation response) = [] :=
  rfl

private theorem queued_request (valid : Coherent session) (request : Request) (generation : Nat) :
    (session.request request).queued generation =
      session.queued generation ++ onStream generation (session.sends (.request request)) := by
  rcases session.request_cases request with ⟨unknown, same⟩ | ⟨kind, known, same⟩
  · rw [same, (frame_report session _).queued, sends, unknown]
    simp
  · obtain ⟨notices, noted⟩ := session.noting_eq kind request
    have sameQueued : ∀ other, (session.noting kind request).queued other =
        session.queued other := by
      intro other
      rw [noted]
      rfl
    have sameAccepts : ∀ other, (session.noting kind request).accepts other =
        session.accepts other := by
      intro other
      rw [noted]
      rfl
    have sameGenerations : (session.noting kind request).generations = session.generations := by
      rw [noted]
      rfl
    simp only [same, sends, known]
    cases phase : session.phase with
    | idle =>
      have none : session.generations = [] :=
        List.length_eq_zero_iff.mp (valid.standing_at phase).of_idle.2.2
      have absent : 0 ∉ (session.noting kind request).generations := by simp [sameGenerations, none]
      have unopened : session.queued generation = [] := by
        rw [queued, session.channel?_eq_none (by simp [none])]
        rfl
      simp only [queued_openStream _ _ _ absent, onStream_singleton, sameQueued, unopened,
        List.map_cons, List.map_nil, List.nil_append]
    | active current connected =>
      simp only [queued_queue, sameQueued, sameAccepts]
      by_cases accepting : session.accepts current = true
      · simp [accepting]
      · simp [accepting]
    | recovering _ | closed => simp [sameQueued]

private theorem queued_acknowledge (generation : Nat) :
    session.acknowledge.queued generation =
      session.queued generation ++ onStream generation (session.sends .acknowledge) := by
  rcases session.acknowledge_cases with ⟨none, same⟩ | ⟨dispatch, metrics, some, same⟩
  · simp [same, sends, none]
  · simp only [same, sends, some]
    by_cases current : session.current? = Option.some dispatch.generation
    · rw [if_pos current, queued_queue]
      show session.queued generation ++ (if generation = dispatch.generation ∧
        session.accepts dispatch.generation = true then _ else _) = _
      by_cases accepting : session.accepts dispatch.generation = true
      · simp [current, accepting]
      · simp [accepting]
    · simp only [current, if_false, false_and, onStream_nil, List.append_nil]
      rfl

private theorem queued_fireTimer (valid : Coherent session) (fired generation : Nat) :
    (session.fireTimer fired).queued generation =
      session.queued generation ++ onStream generation (session.sends (.fire fired)) := by
  rcases session.fireTimer_cases fired with
    ⟨absent, same⟩ | ⟨pending, ⟨other, same⟩ | ⟨waiting, same⟩⟩
  · rw [same, sends, if_neg (by simp [absent])]
    simp
  · rw [same, sends, if_neg (by simp [other]), (frame_dropTimer session fired).queued]
    simp
  · obtain ⟨_, _, opened, _⟩ := valid.standing.of_timer pending
    have fresh : fired + 1 ∉ session.generations := opened ▸ valid.next_absent
    have absent : fired + 1 ∉ (session.waking fired).generations := fresh
    rw [same, sends, if_pos ⟨pending, waiting⟩, onStream_map, queued_openStream _ _ _ absent]
    by_cases equal : generation = fired + 1
    · subst equal
      have unopened : session.queued (fired + 1) = [] := by
        rw [queued, session.channel?_eq_none fresh]
        rfl
      rw [if_pos rfl, unopened, List.nil_append, if_pos rfl]
    · simp only [equal, if_false, List.append_nil]
      rfl

/-- A step adds to a stream what it sends there, after all that was queued before. -/
theorem queued_step (valid : Coherent session) (step : Step) (generation : Nat) :
    (session.step step).queued generation =
      session.queued generation ++ onStream generation (session.sends step) := by
  by_cases quiet : step.isQuiet = true
  · rw [(frame_step session quiet).queued, sends_quiet quiet, onStream_nil, List.append_nil]
  · cases step with
    | request request => exact queued_request valid request generation
    | acknowledge => exact queued_acknowledge generation
    | fire fired => exact queued_fireTimer valid fired generation
    | read reading response =>
      rw [sends_read, onStream_nil, List.append_nil]
      rcases session.read_cases reading response with ⟨_, _, same⟩ | ⟨_, _, _, _, _, _, _, same⟩
      · rw [same]
        rfl
      · rw [same]
        rfl
    | _ => exact absurd rfl quiet

def sent (session : Session) (steps : List Step) : List (Nat × Request) :=
  trace sends session steps

theorem queued_run (valid : Coherent session) (steps : List Step) (generation : Nat) :
    (session.run steps).queued generation =
      session.queued generation ++ onStream generation (session.sent steps) := by
  induction steps generalizing session with
  | nil => simp [sent, trace]
  | cons step rest ih =>
    rw [run_cons, ih (valid.step step), queued_step valid, sent, sent, trace, onStream_append,
      List.append_assoc]

end MeshDiscovery.Session
