import MeshDiscovery.Proofs.Deployment.Coinciding
import MeshDiscovery.Proofs.Deployment.Reachable

/-!
Messages that a session refuses: responses that it hands to nobody, and requests of unknown types. A
refused message is reported once and nothing else comes of it, so that a run leads to the same state
without the messages that were refused in it.
-/

namespace MeshDiscovery

namespace Session

/-- A response is handed to nobody if its type is unknown or has no handler, or if it was never asked
for although it has to be asked for by name. -/
def refuses (session : Session) (response : Response) : Bool :=
  match ResourceType.ofUrl? response.typeUrl with
  | none => true
  | some kind =>
    !session.handled.get kind || (session.recorded.get kind).isNone && !kind.isWildcardRoot

/-- The session with one more warning or error, and with one more response counted at most. -/
def Remarks (before after : Session) : Prop :=
  ∃ notice metrics, notice.level ≠ .info ∧
    (metrics = before.metrics ∨ ∃ kind, metrics = before.metrics.countReceived kind) ∧
    after = { before with notices := before.notices ++ [notice], metrics }

theorem receive_of_refused {session : Session} {response : Response}
    (refused : session.refuses response = true) (generation : Nat) :
    Remarks session (session.receive generation response) := by
  unfold refuses at refused
  unfold receive
  cases known : ResourceType.ofUrl? response.typeUrl with
  | none => exact ⟨_, _, by simp [Notice.level], .inl rfl, rfl⟩
  | some kind =>
    simp only [known, Bool.or_eq_true, Bool.not_eq_true', Bool.and_eq_true,
      Option.isNone_iff_eq_none] at refused
    dsimp only
    by_cases handled : session.handled.get kind = true
    · obtain ⟨absent, named⟩ := refused.resolve_left (by rw [handled]; exact Bool.noConfusion)
      have unrecorded : (session.count (·.countReceived kind)).recorded.get kind = none := absent
      have unnamed : (session.count (·.countReceived kind)).subscribedNames? kind = none := by
        rw [subscribedNames?, unrecorded]
        exact if_neg (by rw [named]; exact Bool.false_ne_true)
      rw [if_pos handled, unnamed]
      exact ⟨_, _, by simp [Notice.level], .inr ⟨kind, rfl⟩, rfl⟩
    · rw [if_neg handled]
      exact ⟨_, _, by simp [Notice.level], .inl rfl, rfl⟩

theorem Remarks.coincides {before after other : Session} (remarks : Remarks before after)
    (same : before.Coincides other) : after.Coincides other := by
  obtain ⟨_, _, _, counted, rfl⟩ := remarks
  obtain ⟨_, _, rfl⟩ := same
  rcases counted with rfl | ⟨_, rfl⟩ <;> exact ⟨_, _, rfl⟩

end Session

/-- What happens to a client, apart from what is sent to it and not read. -/
inductive Stimulus where
  /-- A move is made. Nothing is read in it. -/
  | move (step : Move)
  /-- A response arrives on the stream of a generation. -/
  | arrive (generation : Nat) (response : Response)
  /-- The stream of a generation is found to have ended. -/
  | leave (generation : Nat) (ending : Session.Ending)
  /-- The script or the batch in progress passes over its next operation. -/
  | pass

/-- The operation that a script or a batch performs next, with what remains of it then. -/
def Frame.next? : Frame → Option (Operation × List Frame)
  | .script ((label, operation) :: more) => some (operation, [.record label, .script more])
  | .batch (operation :: more) replies => some (operation, [.gather more replies])
  | _ => none

private theorem Move.read_or_unread (step : Move) :
    (∃ generation, step = .read generation) ∨ ∀ generation, step ≠ .read generation :=
  (Classical.em _).imp_right not_exists.mp

namespace Deployment

/-- The operation that the call in progress performs next, with the client that passes over it. -/
def upNext? (deployment : Deployment) : Option (Operation × Deployment) :=
  match deployment.agenda with
  | [] => none
  | frame :: rest =>
    frame.next?.map fun (operation, frames) =>
      (operation, ({ deployment with agenda := rest } : Deployment).push frames)

def react (deployment : Deployment) : Stimulus → Deployment
  | .move (.read _) => deployment
  | .move step => deployment.move step
  | .arrive generation response =>
    if deployment.agenda.isEmpty && deployment.isReading generation then
      deployment.receive generation response
    else deployment
  | .leave generation ending =>
    if deployment.agenda.isEmpty then deployment.changeSession (·.streamEnded generation ending)
    else deployment
  | .pass => (deployment.upNext?.map Prod.snd).getD deployment

def reactions (deployment : Deployment) (stimuli : List Stimulus) : Deployment :=
  stimuli.foldl react deployment

/-- What is read from the stream of a generation, if anything. -/
def reading (deployment : Deployment) (generation : Nat) : List Stimulus :=
  if deployment.isReading generation then
    match deployment.server? generation with
    | none => []
    | some (server, _) =>
      match server.inbox with
      | .response response :: _ => [.arrive generation response]
      | .failure status :: _ => [.leave generation (.failed status)]
      | [] => if server.ended then [.leave generation .completed] else []
  else []

def stimuliOf (deployment : Deployment) : Move → List Stimulus
  | .read generation => if deployment.agenda.isEmpty then deployment.reading generation else []
  | step => [.move step]

/-- What happens to a client as moves are made, in order. -/
def stimuli : Deployment → List Move → List Stimulus
  | _, [] => []
  | deployment, step :: rest => deployment.stimuliOf step ++ (deployment.move step).stimuli rest

/-- The operation requests a type that is none of the four. -/
def isRefusedRequest (deployment : Deployment) : Operation → Bool
  | .request request => deployment.held && (ResourceType.ofUrl? request.typeUrl).isNone
  | _ => false

/-- A stimulus is a message that is refused: a response, or a request, be it made between calls or in
a script or a batch. -/
def refuses (deployment : Deployment) : Stimulus → Bool
  | .arrive generation response =>
    deployment.agenda.isEmpty && deployment.isReading generation &&
      deployment.session.refuses response
  | .move (.perform operation) =>
    deployment.agenda.isEmpty && deployment.isRefusedRequest operation
  | .move .proceed => deployment.upNext?.any fun (operation, _) => deployment.isRefusedRequest operation
  | _ => false

/-- What remains when a refused message is deleted. A script or a batch still goes on to its next
operation. -/
def instead : Stimulus → List Stimulus
  | .move .proceed => [.pass]
  | _ => []

/-- What happens to a client, without the messages that it refuses. -/
def purged : Deployment → List Stimulus → List Stimulus
  | _, [] => []
  | deployment, stimulus :: rest =>
    (if deployment.refuses stimulus then instead stimulus else [stimulus]) ++
      (deployment.react stimulus).purged rest

/-- Nothing of what happens to a client is refused. -/
def Heeds : Deployment → List Stimulus → Prop
  | _, [] => True
  | deployment, stimulus :: rest =>
    deployment.refuses stimulus = false ∧ (deployment.react stimulus).Heeds rest

variable {deployment left right : Deployment}

theorem react_move {step : Move} (unread : ∀ generation, step ≠ .read generation) :
    deployment.react (.move step) = deployment.move step := by
  cases step with
  | read generation => exact absurd rfl (unread generation)
  | perform | proceed | start | resume | stop | fire | cancel | elapse => simp only [react]

theorem stimuliOf_unread {step : Move} (unread : ∀ generation, step ≠ .read generation) :
    deployment.stimuliOf step = [.move step] := by
  cases step with
  | read generation => exact absurd rfl (unread generation)
  | perform | proceed | start | resume | stop | fire | cancel | elapse => rfl

theorem perform_refused {operation : Operation}
    (refused : deployment.isRefusedRequest operation = true) :
    ∃ session, deployment.session.Remarks session ∧
      deployment.perform operation = { deployment with session, result := .done } := by
  unfold isRefusedRequest at refused
  split at refused
  · rename_i request
    obtain ⟨held, unknown⟩ := Bool.and_eq_true_iff.mp refused
    have unknown := Option.isNone_iff_eq_none.mp unknown
    refine ⟨deployment.session.report (.unknownTypeRequested request.typeUrl),
      ⟨_, _, by simp [Notice.level], .inl rfl, rfl⟩, ?_⟩
    simp only [perform, withClient, if_pos held, Session.request, unknown]
    rfl
  · cases refused

/-- To go on is to perform the operation that could be passed over. -/
theorem proceed_of_upNext? {operation : Operation} {passed : Deployment}
    (next : deployment.upNext? = some (operation, passed)) :
    deployment.proceed = passed.perform operation := by
  unfold upNext? at next
  unfold proceed
  cases pending : deployment.agenda with
  | nil =>
    rw [pending] at next
    cases next
  | cons frame rest =>
    rw [pending] at next
    cases frame with
    | script operations =>
      cases operations with
      | nil => cases next
      | cons entry more =>
        cases next
        rfl
    | batch operations replies =>
      cases operations with
      | nil => cases next
      | cons entry more =>
        cases next
        rfl
    | record | yield | gather | publish | notify | bind | settle | acknowledge | accept => cases next

theorem passed_eq {operation : Operation} {passed : Deployment}
    (next : deployment.upNext? = some (operation, passed)) :
    ∃ agenda, passed = { deployment with agenda } := by
  unfold upNext? at next
  split at next
  · cases next
  · obtain ⟨_, _, same⟩ := Option.map_eq_some_iff.mp next
    cases same
    exact ⟨_, rfl⟩

/-- A refused message adds a remark to what the client would be without it. -/
theorem react_of_refused (idle : deployment.agenda = [] → deployment.session.dispatch = none)
    {stimulus : Stimulus} (refused : deployment.refuses stimulus = true) :
    ∃ session result, (deployment.reactions (instead stimulus)).session.Remarks session ∧
      deployment.react stimulus =
        { deployment.reactions (instead stimulus) with session, result } := by
  unfold refuses at refused
  split at refused
  · rename_i generation response
    simp only [Bool.and_eq_true] at refused
    obtain ⟨⟨waiting, reading⟩, refused⟩ := refused
    have remarks := Session.receive_of_refused refused generation
    refine ⟨_, deployment.result, remarks, ?_⟩
    have none : (deployment.session.receive generation response).dispatch = none := by
      obtain ⟨_, _, _, _, same⟩ := remarks
      rw [same]
      exact idle (List.isEmpty_iff.mp waiting)
    simp only [react, waiting, reading, Bool.and_self, if_pos, receive, none]
    rfl
  · rename_i operation
    obtain ⟨waiting, refused⟩ := Bool.and_eq_true_iff.mp refused
    obtain ⟨session, remarks, same⟩ := perform_refused refused
    have performed : deployment.react (.move (.perform operation)) =
        deployment.perform operation := by
      simp only [react, move, List.isEmpty_iff.mp waiting]
    exact ⟨session, .done, remarks, performed.trans same⟩
  · cases next : deployment.upNext? with
    | none =>
      rw [next] at refused
      cases refused
    | some found =>
      obtain ⟨operation, passed⟩ := found
      rw [next] at refused
      have performed : deployment.react (.move .proceed) = passed.perform operation := by
        rw [← proceed_of_upNext? next]
        simp only [react, move]
      have without : deployment.reactions (instead (.move .proceed)) = passed := by
        simp only [instead, reactions, List.foldl_cons, List.foldl_nil, react, next,
          Option.map_some, Option.getD_some]
      obtain ⟨agenda, rfl⟩ := passed_eq next
      have refusedThere : ({ deployment with agenda } : Deployment).isRefusedRequest operation =
        true := refused
      obtain ⟨session, remarks, same⟩ := perform_refused refusedThere
      rw [performed, without]
      exact ⟨session, .done, remarks, same⟩
  · cases refused

namespace Coincides

theorem agenda_isEmpty (same : Coincides left right) :
    right.agenda.isEmpty = left.agenda.isEmpty := by
  have agenda := same.agenda
  generalize left.agenda = frames, right.agenda = others at agenda
  cases agenda <;> rfl

private theorem next? {frame other : Frame} (same : frame.Coincides other) :
    Option.Rel (fun one other => one.1 = other.1 ∧ List.Forall₂ Frame.Coincides one.2 other.2)
      frame.next? other.next? := by
  cases same with
  | same =>
    cases frame.next? with
    | none => exact .none
    | some next => exact .some ⟨rfl, agenda_refl _⟩
  | batch operations replies others =>
    cases operations with
    | nil => exact .none
    | cons operation more => exact .some ⟨rfl, .cons (.gather _ _ _) .nil⟩
  | gather => exact .none

theorem upNext? (same : Coincides left right) :
    Option.Rel (fun one other => one.1 = other.1 ∧ Coincides one.2 other.2)
      left.upNext? right.upNext? := by
  have agenda := same.agenda
  unfold Deployment.upNext?
  generalize left.agenda = frames, right.agenda = others at agenda
  cases agenda with
  | nil => exact .none
  | @cons frame other rest restRight first remaining =>
    have dropped : Coincides { left with agenda := rest } { right with agenda := restRight } :=
      { same with agenda := remaining }
    have next := next? first
    dsimp only
    generalize frame.next? = one, other.next? = another at next
    cases next with
    | none => exact .none
    | some related => exact .some ⟨related.1, dropped.push related.2⟩

theorem react (same : Coincides left right) (stimulus : Stimulus) :
    Coincides (left.react stimulus) (right.react stimulus) := by
  cases stimulus with
  | move step =>
    rcases step.read_or_unread with ⟨generation, rfl⟩ | unread
    · exact same
    · rw [react_move unread, react_move unread]
      exact same.move unread
  | arrive generation response =>
    have reading : right.isReading generation = left.isReading generation := same.hasTask _ _
    unfold Deployment.react
    dsimp only
    rw [same.agenda_isEmpty, reading]
    exact .ite (same.receive generation response) same
  | leave generation ending =>
    unfold Deployment.react
    dsimp only
    rw [same.agenda_isEmpty]
    exact .ite (same.setSession (same.session.streamEnded generation ending)) same
  | pass =>
    have next := same.upNext?
    unfold Deployment.react
    generalize left.upNext? = one, right.upNext? = other at next
    cases next with
    | none => exact same
    | some related => exact related.2

theorem reactions (same : Coincides left right) (stimuli : List Stimulus) :
    Coincides (left.reactions stimuli) (right.reactions stimuli) := by
  induction stimuli generalizing left right with
  | nil => exact same
  | cons stimulus rest ih => exact ih (same.react stimulus)

/-- Clients that coincide refuse the same messages. -/
theorem refuses (same : Coincides left right) (stimulus : Stimulus) :
    right.refuses stimulus = left.refuses stimulus := by
  have request : right.isRefusedRequest = left.isRefusedRequest := by
    funext operation
    unfold Deployment.isRefusedRequest
    rw [same.held]
  cases stimulus with
  | move step =>
    cases step with
    | perform operation => simp only [Deployment.refuses, same.agenda_isEmpty, request]
    | proceed =>
      have next := same.upNext?
      unfold Deployment.refuses
      rw [request]
      generalize left.upNext? = one, right.upNext? = other at next
      cases next with
      | none => rfl
      | some related => simp only [Option.any_some, related.1]
    | start | resume | read | stop | fire | cancel | elapse => rfl
  | arrive generation response =>
    have reading : right.isReading generation = left.isReading generation := same.hasTask _ _
    simp only [Deployment.refuses, same.agenda_isEmpty, reading, Session.refuses,
      same.session.handled, same.session.recorded]
  | leave | pass => rfl

private theorem arrive (same : Coincides left right) {generation : Nat}
    (idle : right.agenda.isEmpty = true) (reading : right.isReading generation = true)
    (response : Response) :
    Coincides (left.receive generation response) (right.react (.arrive generation response)) := by
  simp only [Deployment.react, idle, reading, Bool.and_self, if_pos]
  exact same.receive generation response

private theorem leave (same : Coincides left right) (idle : right.agenda.isEmpty = true)
    (generation : Nat) (ending : Session.Ending) :
    Coincides { left with session := left.session.streamEnded generation ending }
      (right.react (.leave generation ending)) := by
  simp only [Deployment.react, idle, if_pos]
  exact same.setSession (same.session.streamEnded generation ending)

private theorem read (same : Coincides left right) (generation : Nat) :
    Coincides (left.move (.read generation))
      (right.reactions (left.stimuliOf (.read generation))) := by
  have empty := same.agenda_isEmpty
  unfold Deployment.stimuliOf
  dsimp only
  cases waiting : left.agenda with
  | cons frame rest =>
    simp only [Deployment.move, waiting]
    exact same
  | nil =>
    have idle : right.agenda.isEmpty = true := by rw [empty, waiting, List.isEmpty_nil]
    have task : right.isReading generation = left.isReading generation := same.hasTask _ _
    simp only [Deployment.move, waiting, List.isEmpty_nil, if_pos]
    unfold Deployment.read Deployment.reading
    by_cases reading : left.isReading generation = true
    · rw [if_pos reading, if_pos reading]
      cases served : left.server? generation with
      | none => exact same
      | some found =>
        obtain ⟨server, index⟩ := found
        have found : left.plane.streams[index]? = some server :=
          List.mem_zipIdx_iff_getElem?.mp (List.mem_of_find?_eq_some served)
        obtain ⟨number, inbox, ended⟩ := server
        cases inbox with
        | nil =>
          cases ended with
          | true => exact same.leave idle generation .completed
          | false => exact same
        | cons delivery rest =>
          have taken := same.setPlane ((ControlPlane.Coincides.taken found rest).trans same.plane)
          cases delivery with
          | response response =>
            have arriving : right.isReading generation = true := task.trans reading
            exact taken.arrive idle arriving response
          | failure status => exact taken.leave idle generation (.failed status)
    · rw [if_neg reading, if_neg reading]
      exact same

theorem stimuliOf (same : Coincides left right) (step : Move) :
    Coincides (left.move step) (right.reactions (left.stimuliOf step)) := by
  rcases step.read_or_unread with ⟨generation, rfl⟩ | unread
  · exact same.read generation
  · rw [stimuliOf_unread unread]
    show Coincides (left.move step) (right.react (.move step))
    rw [react_move unread]
    exact same.move unread

theorem stimuli (same : Coincides left right) (steps : List Move) :
    Coincides (left.moves steps) (right.reactions (left.stimuli steps)) := by
  induction steps generalizing left right with
  | nil => exact same
  | cons step rest ih =>
    unfold Deployment.reactions Deployment.stimuli
    rw [List.foldl_append]
    exact ih (same.stimuliOf step)

end Coincides

theorem Attended.react (attended : Attended deployment) (stimulus : Stimulus) :
    Attended (deployment.react stimulus) := by
  cases stimulus with
  | move step =>
    rcases step.read_or_unread with ⟨generation, rfl⟩ | unread
    · exact attended
    · rw [react_move unread]
      exact attended.move step
  | arrive generation response =>
    unfold Deployment.react
    dsimp only
    split
    · exact Attended.receive deployment generation response
    · exact attended
  | leave generation ending =>
    have same := (Session.frame_streamEnded deployment.session generation ending).dispatch
    unfold Deployment.react
    dsimp only
    split
    · intro busy
      exact attended fun idle => busy (same.trans idle)
    · exact attended
  | pass =>
    unfold Deployment.react
    dsimp only
    cases next : deployment.upNext? with
    | none => exact attended
    | some found =>
      unfold Deployment.upNext? at next
      split at next
      · cases next
      · rename_i frame rest pending
        obtain ⟨remaining, going, rfl⟩ := Option.map_eq_some_iff.mp next
        intro busy
        have member := attended busy
        rw [pending] at member
        have different : .acknowledge ≠ frame := by
          rintro rfl
          cases going
        have later := (List.mem_cons.mp member).resolve_left different
        exact List.mem_append_right remaining.2 later

theorem heeds_append {first second : List Stimulus} :
    deployment.Heeds (first ++ second) ↔
      deployment.Heeds first ∧ (deployment.reactions first).Heeds second := by
  induction first generalizing deployment with
  | nil => simp [Heeds, reactions]
  | cons stimulus rest ih =>
    simp only [List.cons_append, Heeds, ih, and_assoc]
    rfl

private theorem heeds_instead (stimulus : Stimulus) : deployment.Heeds (instead stimulus) := by
  unfold instead
  split
  · exact ⟨rfl, trivial⟩
  · trivial

/-- What happens without the refused messages leads to the same, and then nothing is refused. -/
theorem Coincides.purged (same : Coincides left right) (attended : Attended left)
    (stimuli : List Stimulus) :
    Coincides (left.reactions stimuli) (right.reactions (left.purged stimuli)) ∧
      right.Heeds (left.purged stimuli) := by
  induction stimuli generalizing left right with
  | nil => exact ⟨same, trivial⟩
  | cons stimulus rest ih =>
    have still := attended.react stimulus
    unfold Deployment.purged
    by_cases refused : left.refuses stimulus = true
    · obtain ⟨session, result, remarks, reacted⟩ := react_of_refused attended.idle refused
      have without := same.reactions (instead stimulus)
      have remarked : Coincides (left.react stimulus) (right.reactions (instead stimulus)) := by
        rw [reacted]
        exact { without with session := remarks.coincides without.session }
      obtain ⟨reached, heeded⟩ := ih remarked still
      rw [if_pos refused]
      unfold Deployment.reactions
      rw [List.foldl_append]
      exact ⟨reached, heeds_append.mpr ⟨heeds_instead stimulus, heeded⟩⟩
    · rw [if_neg refused]
      obtain ⟨reached, heeded⟩ := ih (same.react stimulus) still
      refine ⟨reached, ?_, heeded⟩
      rw [same.refuses]
      simpa using refused

theorem Attended.reactions (attended : Attended deployment) (stimuli : List Stimulus) :
    Attended (deployment.reactions stimuli) := by
  induction stimuli generalizing deployment with
  | nil => exact attended
  | cons stimulus rest ih => exact ih (attended.react stimulus)

private theorem read_refused (attended : Attended deployment) (waiting : deployment.agenda = [])
    {generation : Nat} {response : Response}
    (incoming : deployment.incoming? generation = some response)
    (refused : deployment.session.refuses response = true) :
    ∃ session, deployment.session.Remarks session ∧
      deployment.move (.read generation) =
        { deployment with plane := deployment.taking generation, session } := by
  have remarks := Session.receive_of_refused refused generation
  have none : (deployment.session.receive generation response).dispatch = none := by
    obtain ⟨_, _, _, _, same⟩ := remarks
    rw [same]
    exact attended.idle waiting
  have moved : deployment.move (.read generation) = deployment.read generation := by
    simp only [move, waiting]
  rcases deployment.read_cases generation with ⟨other, found, _, read⟩ | ⟨nothing, _⟩
  · rw [incoming] at found
    cases found
    refine ⟨_, remarks, moved.trans (read.trans ?_)⟩
    simp only [receive, none]
  · rw [incoming] at nothing
    cases nothing

/-- A response that is refused is taken off its stream and reported, once, as a warning or an error,
and counted at most. A request of an unknown type is reported likewise. Beside that the client is as
before, or, where the request was made in a script or a batch, as if that had passed over it; so is
what consumers are told and what stands in every channel. Hence what happens without the messages
that are refused leads to the same, apart from reports, the count of responses, results of
operations, and what nobody has read; and then nothing is refused. -/
theorem refused_messages_leave_no_trace (reachable : Reachable deployment) :
    (∀ generation response, deployment.agenda = [] →
      deployment.incoming? generation = some response →
      deployment.session.refuses response = true →
        ∃ session, deployment.session.Remarks session ∧
          deployment.move (.read generation) =
            { deployment with plane := deployment.taking generation, session }) ∧
    (∀ request, deployment.held = true → ResourceType.ofUrl? request.typeUrl = none →
      ∃ session, deployment.session.Remarks session ∧
        deployment.perform (.request request) = { deployment with session, result := .done }) ∧
    (∀ stimuli,
      let reached := deployment.reactions stimuli
      (∀ stimulus, reached.refuses stimulus = true →
        let without := reached.reactions (instead stimulus)
        ∃ session result, without.session.Remarks session ∧
          reached.react stimulus = { without with session, result }) ∧
      Coincides reached (deployment.reactions (deployment.purged stimuli)) ∧
      deployment.Heeds (deployment.purged stimuli)) ∧
    ∀ steps, Coincides (deployment.moves steps)
      (deployment.reactions (deployment.purged (deployment.stimuli steps))) := by
  have attended := reachable.attended
  refine ⟨?_, ?_, fun stimuli => ⟨?_, ?_⟩, fun steps => ?_⟩
  · exact fun _ _ waiting incoming refused => read_refused attended waiting incoming refused
  · intro request held unknown
    apply perform_refused
    rw [isRefusedRequest, held, unknown]
    rfl
  · exact fun stimulus => react_of_refused (attended.reactions stimuli).idle
  · exact (Coincides.refl deployment).purged attended stimuli
  · have happened := (Coincides.refl deployment).stimuli steps
    exact happened.trans ((Coincides.refl deployment).purged attended _).1

/-- A response and a request of unknown types are refused: of three moves, one remains. -/
theorem stray_messages_are_passed_over :
    let response : Response := ⟨"other", "1", "a", []⟩
    let request : Request := { typeUrl := "other" }
    let deployment := ({ session := .fresh ⟨"n", "mesh", "client", "1"⟩ } : Deployment).moves
      [.perform (.register .cluster 10), .perform (.subscribe .cluster []), .start 0,
        .perform (.respond response none)]
    let steps : List Move :=
      [.read 0, .perform (.request request), .perform (.subscribe .cluster ["a"])]
    let purged := deployment.purged (deployment.stimuli steps)
    Reachable deployment ∧
      (deployment.agenda = [] ∧ deployment.incoming? 0 = some response ∧
        deployment.session.refuses response = true ∧
        ∃ session, deployment.session.Remarks session ∧
          deployment.move (.read 0) =
            { deployment with plane := deployment.taking 0, session }) ∧
      (deployment.held = true ∧ ResourceType.ofUrl? request.typeUrl = none ∧
        ∃ session, deployment.session.Remarks session ∧
          deployment.perform (.request request) = { deployment with session, result := .done }) ∧
      (deployment.refuses (.arrive 0 response) = true ∧
        ∃ session result, deployment.session.Remarks session ∧
          deployment.react (.arrive 0 response) = { deployment with session, result }) ∧
      (deployment.stimuli steps).length = 3 ∧ purged.length = 1 ∧
      Coincides (deployment.moves steps) (deployment.reactions purged) := by
  intro response request deployment steps purged
  have reachable : Reachable deployment :=
    (Reachable.opened (.session (Session.new_fresh ⟨"n", "mesh", "client", "1"⟩))).moves _
  have incoming : deployment.incoming? 0 = some response := by decide +kernel
  have unknown : deployment.session.refuses response = true := by decide +kernel
  have arriving : deployment.refuses (.arrive 0 response) = true := by decide +kernel
  obtain ⟨reads, requests, reactions, runs⟩ := refused_messages_leave_no_trace reachable
  exact ⟨reachable, ⟨rfl, incoming, unknown, reads 0 response rfl incoming unknown⟩,
    ⟨rfl, by decide +kernel, requests request rfl (by decide +kernel)⟩,
    ⟨arriving, (reactions []).1 (.arrive 0 response) arriving⟩,
    by decide +kernel, by decide +kernel, runs steps⟩

end Deployment

end MeshDiscovery
