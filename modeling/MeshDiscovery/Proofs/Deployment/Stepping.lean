import MeshDiscovery.Proofs.Deployment.Handing

namespace MeshDiscovery

/-- A step that opens, reads or leaves streams, or time passing: it does not close the session, and
has nothing to do with what a response says. -/
def Session.Step.isRoutine : Session.Step → Bool
  | .start _ | .refuse .. | .accept _ | .acknowledge | .finish .. | .stop _ | .shut _ | .fire _
  | .cancel _ | .elapse _ => true
  | .register _ | .request _ | .close | .report _ | .skip .. | .read .. => false

theorem Session.Step.plain {step : Session.Step}
    (routine : step = .close ∨ step.isRoutine = true) :
    (∀ request, step ≠ .request request) ∧
      (∀ generation response, step ≠ .read generation response) ∧
      ∀ kind, step ≠ .register kind := by
  rcases routine with rfl | routine
  · simp
  · cases step <;> simp_all [Session.Step.isRoutine]

namespace Deployment

variable {deployment : Deployment}

/-- What an operation has the session do. -/
def stepOf? (deployment : Deployment) : Operation → Option Session.Step
  | .close => if deployment.held then some .close else none
  | .complete stream =>
    (deployment.plane.streams[deployment.streamIndex stream]?).bind fun server =>
      if server.ended then none else some (.shut server.generation)
  | _ => none

/-- How the connect of a generation ends, if it ends at once. -/
def connectStep? (deployment : Deployment) (generation : Nat) : Option Session.Step :=
  match deployment.plane.plan with
  | [] | .accept :: _ => some (.accept generation)
  | .refuse problem :: _ => some (.refuse generation problem)
  | .hang :: _ | .accompany _ :: _ => none

/-- What comes next for the task of a generation, if it reads its stream and does not wait. -/
def readStep? (deployment : Deployment) (generation : Nat) : Option Session.Step :=
  if deployment.isReading generation then
    match deployment.server? generation with
    | none => none
    | some (server, _) =>
      match server.inbox with
      | [] => if server.ended then some (.finish generation .completed) else none
      | .response response :: _ => some (.read generation response)
      | .failure status :: _ => some (.finish generation (.failed status))
  else none

/-- The request that follows from a batch of resources, if one does. -/
def followUp? (deployment : Deployment) (kind : ResourceType) (models : List kind.Model) :
    Option Request :=
  kind.referred?.bind fun target =>
    if (kind.references models).isEmpty then none
    else (deployment.subscription? target).bind fun subscription =>
      (subscription.add (kind.references models)).request? target

/-- What the session does about a response that is handed over, after reading it. -/
def relaySteps (deployment : Deployment) (response : Response) : List Session.Step :=
  match ResourceType.ofUrl? response.typeUrl with
  | none => []
  | some kind =>
    (response.defectNotices kind).map .report ++
      .skip kind (response.defects kind).length ::
        ((deployment.followUp? kind (response.models kind)).map .request).toList

/-- The steps of the session in a move that is made between calls. -/
def stepsBetween (deployment : Deployment) : Move → List Session.Step
  | .perform operation => (deployment.stepOf? operation).toList
  | .proceed => []
  | .start generation =>
    if deployment.session.hasTask generation .spawned then
      .start generation ::
        if (deployment.session.start generation).hasTask generation .connecting then
          (deployment.connectStep? generation).toList
        else []
    else []
  | .resume generation => if deployment.isAdmitted generation then [.accept generation] else []
  | .read generation =>
    (deployment.readStep? generation).toList ++
      (deployment.handed? (.read generation)).toList.flatMap deployment.relaySteps
  | .stop generation => [.stop generation]
  | .fire generation => [.fire generation]
  | .cancel generation => [.cancel generation]
  | .elapse time => [.elapse time]

/-- The steps of the session as a frame is taken up. -/
def stepsIn (deployment : Deployment) : Frame → List Session.Step
  | .script ((_, operation) :: _) | .batch (operation :: _) _ =>
    (deployment.stepOf? operation).toList
  | .acknowledge => [.acknowledge]
  | .accept generation => [.accept generation]
  | _ => []

def stepsOf (deployment : Deployment) (step : Move) : List Session.Step :=
  match deployment.agenda, step with
  | frame :: _, .proceed => deployment.stepsIn frame
  | _ :: _, _ => []
  | [], step => deployment.stepsBetween step

private theorem session_deliver (stream : Option Nat) (delivery : Delivery) :
    (deployment.deliver stream delivery).session = deployment.session := by
  unfold deliver
  dsimp only
  split
  · rfl
  · split <;> rfl

private theorem session_complete (stream : Option Nat) :
    (deployment.complete stream).session =
      deployment.session.run (deployment.stepOf? (.complete stream)).toList := by
  unfold complete stepOf?
  dsimp only
  split
  · rename_i none
    rw [none]
    rfl
  · rename_i server found
    rw [found]
    simp only [Option.bind_some]
    split <;> rfl

private theorem session_callListener (publication : Publication) (id : ListenerId)
    (listener : Listener) :
    (deployment.callListener publication id listener).session = deployment.session := by
  unfold callListener
  split <;> rfl

private theorem session_watch (axis : Axis) (key : String) (listener : Listener) :
    (deployment.watch axis key listener).session = deployment.session := by
  unfold watch
  dsimp only
  split
  · rfl
  · exact session_callListener ..

private theorem session_unwatch (axis : Axis) (key label : String) :
    (deployment.unwatch axis key label).session = deployment.session := by
  unfold unwatch
  split <;> rfl

private theorem session_withClient {act : Deployment → Deployment}
    (same : (act deployment).session = deployment.session) :
    (deployment.withClient act).session = deployment.session := by
  unfold withClient
  split
  · exact same
  · rfl

private theorem session_withSubscription (kind : ResourceType)
    {act : Subscription Callback → Deployment}
    (same : ∀ subscription, (act subscription).session = deployment.session) :
    (deployment.withSubscription kind act).session = deployment.session := by
  unfold withSubscription
  split
  · exact same _
  · rfl

private theorem session_performPlain {operation : Operation} (plain : operation.isPlain = true) :
    (deployment.perform operation).session =
      deployment.session.run (deployment.stepOf? operation).toList := by
  cases operation with
  | close =>
    simp only [perform, withClient, stepOf?]
    split <;> rfl
  | complete stream => exact session_complete stream
  | lastRequest | node | state | describeSession | describeExchange | cached | cachedAll =>
    exact session_withClient rfl
  | release | admitHanging | alive | unknown => rfl
  | subscribedNames kind | lastAck kind | describeSubscription kind | subscriptionFacts kind =>
    exact session_withSubscription kind fun _ => rfl
  | clientNames kind => exact session_withClient (session_withSubscription kind fun _ => rfl)
  | respond response stream => exact session_deliver stream _
  | fail status stream => exact session_deliver stream _
  | unwatch axis key label => exact session_withClient (session_unwatch axis key label)
  | register | registerCounter | request | subscribe | decode | handle | setCallback | plan | batch
  | watch => cases plain

theorem session_perform {operation : Operation} (external : operation.External) :
    (deployment.perform operation).session =
      deployment.session.run (deployment.stepOf? operation).toList := by
  cases external with
  | plain plain => exact session_performPlain plain
  | plan each => rfl
  | batch each => rfl
  | watch each => exact session_withClient (session_watch ..)

private theorem session_publish (publication : Publication) :
    (deployment.publish publication).session = deployment.session := by
  unfold publish
  dsimp only
  split <;> rfl

private theorem session_notifyNext (publication : Publication) (opened start : ListenerId) :
    (deployment.notifyNext publication opened start).session = deployment.session := by
  unfold notifyNext
  split
  · rfl
  · exact session_callListener ..

theorem session_proceed (external : deployment.External) :
    deployment.proceed.session = deployment.session.run (deployment.stepsOf .proceed) := by
  cases pending : deployment.agenda with
  | nil => simp only [proceed, stepsOf, stepsBetween, pending, Session.run_nil]
  | cons frame rest =>
    have own := (external.drop pending).1
    unfold proceed stepsOf
    rw [pending]
    dsimp only
    cases frame with
    | script operations =>
      cases operations with
      | nil => rfl
      | cons entry more => exact session_perform (own entry List.mem_cons_self)
    | batch operations replies =>
      cases operations with
      | nil => rfl
      | cons operation more => exact session_perform (own operation List.mem_cons_self)
    | publish publications =>
      cases publications with
      | nil => rfl
      | cons publication more => exact session_publish publication
    | notify publication opened start => exact session_notifyNext publication opened start
    | settle kind version nonce =>
      dsimp only
      split <;> rfl
    | acknowledge | accept | record | yield | gather | bind => rfl

private theorem session_connect (generation : Nat) :
    (deployment.connect generation).session =
      deployment.session.run (deployment.connectStep? generation).toList := by
  unfold connect connectStep?
  split
  · rename_i none
    rw [none]
    rfl
  · rename_i step rest planned
    rw [planned]
    cases step <;> rfl

theorem session_start (generation : Nat) :
    (deployment.start generation).session =
      deployment.session.run (deployment.stepsBetween (.start generation)) := by
  simp only [start, stepsBetween]
  split
  · split
    · exact session_connect generation
    · rfl
  · rfl

theorem session_resume (generation : Nat) :
    (deployment.resume generation).session =
      deployment.session.run (deployment.stepsBetween (.resume generation)) := by
  simp only [resume, stepsBetween]
  split <;> rfl

private theorem session_followReferences (alive : deployment.isAlive = true) (kind : ResourceType)
    (models : List kind.Model) :
    (deployment.followReferences kind models).session =
      deployment.session.run ((deployment.followUp? kind models).map .request).toList := by
  unfold followReferences followUp?
  split
  · rename_i none
    rw [none]
    rfl
  · rename_i target referred
    rw [referred, Option.bind_some]
    split
    · rfl
    · unfold subscribe
      split
      · rename_i none
        rw [none]
        rfl
      · rename_i subscription present
        rw [present, Option.bind_some]
        dsimp only
        split
        · rename_i none
          rw [none]
          rfl
        · rename_i request whole
          have still : (deployment.setHandler target (.subscription
            (subscription.add (kind.references models)))).isAlive = true := alive
          rw [if_pos still, whole]
          rfl

theorem session_reportDefects (deployment : Deployment) (kind : ResourceType)
    (response : Response) :
    (deployment.reportDefects kind response).session =
      deployment.session.run ((response.defectNotices kind).map .report ++
        [.skip kind (response.defects kind).length]) := by
  have reports (session : Session) (notices : List Notice) :
      notices.foldl Session.report session = session.run (notices.map .report) := by
    rw [Session.run, List.foldl_map]
    rfl
  rw [Session.run_append, ← reports]
  rfl

private theorem isAlive_reportDefects (deployment : Deployment) (alive : deployment.isAlive = true)
    (kind : ResourceType) (response : Response) :
    (deployment.reportDefects kind response).isAlive = true := by
  unfold reportDefects
  rw [Agreeing.foldl_report]
  exact alive

private theorem session_relaying (alive : deployment.isAlive = true) {kind : ResourceType}
    {response : Response} (typed : response.typeUrl = kind.url) :
    (deployment.relaying kind response).session =
      deployment.session.run (deployment.relaySteps response) := by
  have looked : (((deployment.push [.acknowledge]).reportDefects kind response).push
      [.settle kind response.version response.nonce]).isAlive = true :=
    isAlive_reportDefects (deployment.push [.acknowledge]) alive kind response
  have followed := session_followReferences looked kind (response.models kind)
  have reported := session_reportDefects (deployment.push [.acknowledge]) kind response
  rw [relaySteps, typed, ResourceType.ofUrl?_url]
  dsimp only
  rw [← List.singleton_append, ← List.append_assoc, Session.run_append]
  refine followed.trans ?_
  congr 1

theorem isAlive_of_reading {generation : Nat}
    (reading : deployment.isReading generation = true) {after : Deployment}
    (tasks : after.session.tasks = deployment.session.tasks) : after.isAlive = true := by
  have some : deployment.session.tasks ≠ [] := by
    intro none
    simp [isReading, Session.hasTask, none] at reading
  simp [isAlive, tasks, some]

private theorem session_receive (agreeing : Agreeing deployment) (waiting : deployment.agenda = [])
    {generation : Nat} (reading : deployment.isReading generation = true) (plane : ControlPlane)
    (response : Response) :
    (({ deployment with plane } : Deployment).receive generation response).session =
      deployment.session.run (.read generation response ::
        if (deployment.session.hands (.read generation response)).isEmpty then []
        else deployment.relaySteps response) := by
  have idle := agreeing.idle waiting
  unfold receive
  dsimp only
  rw [← Session.step_read_of_idle idle reading response]
  rcases dispatch_of_read agreeing.agrees.coherent idle generation response with
    ⟨unhanded, none⟩ | ⟨dispatch, handed, current, typed⟩
  · simp only [none, unhanded, if_true]
    rfl
  · obtain ⟨names, relay⟩ := agreeing.relays dispatch.kind
    have relay : ({ deployment with
        plane
        session := deployment.session.step (.read generation response) } :
          Deployment).relay? dispatch.kind = some (names, some .relay) := relay
    have alive : ({ deployment with
        plane
        session := deployment.session.step (.read generation response) } :
          Deployment).isAlive = true := by
      refine isAlive_of_reading reading ?_
      dsimp only
      rcases deployment.session.read_cases generation response with
        ⟨_, _, same⟩ | ⟨_, _, _, _, _, _, _, same⟩
      · rw [same]
      · rw [same]
    simp only [current, handed, runHandler_eq relay typed, session_relaying alive typed]
    rfl

private theorem session_read (agreeing : Agreeing deployment) (waiting : deployment.agenda = [])
    (generation : Nat) :
    (deployment.read generation).session =
      deployment.session.run (deployment.stepsBetween (.read generation)) := by
  have finish (ending : Session.Ending) : deployment.session.streamEnded generation ending =
      deployment.session.step (.finish generation ending) :=
    (Session.step_finish_of_idle (agreeing.idle waiting) generation ending).symm
  have handed := handed?_read waiting generation
  simp only [stepsBetween, handed, Deployment.read, readStep?, incoming?]
  by_cases reading : deployment.isReading generation = true
  · simp only [if_pos reading]
    cases deployment.server? generation with
    | none => rfl
    | some found =>
      obtain ⟨server, index⟩ := found
      dsimp only
      cases server.inbox with
      | nil =>
        dsimp only
        split
        · exact finish _
        · rfl
      | cons delivery rest =>
        cases delivery with
        | failure status => exact finish _
        | response response =>
          dsimp only
          rw [session_receive agreeing waiting reading, Option.filter_some]
          split <;> simp [*]
  · simp only [if_neg reading]
    rfl

/-- The session takes the steps of a move. -/
theorem Agreeing.session_move (agreeing : Agreeing deployment) {step : Move}
    (external : step.External) :
    (deployment.move step).session = deployment.session.run (deployment.stepsOf step) := by
  unfold Deployment.move
  split
  · exact session_proceed agreeing.external
  · rename_i other _ _ _ _ busy late
    have none : deployment.stepsOf other = [] := by
      unfold stepsOf
      rw [busy]
      cases other with
      | proceed => exact absurd rfl late
      | _ => rfl
    rw [none]
    rfl
  all_goals
    rename_i waiting
    simp only [stepsOf, waiting]
  · exact session_perform external
  · exact session_start _
  · exact session_resume _
  · exact session_read agreeing waiting _
  · rename_i generation
    exact (Session.step_stop_of_idle (agreeing.idle waiting) generation).symm
  · rfl
  · rfl
  · rfl

private theorem stepOf?_cases (operation : Operation) :
    (deployment.stepOf? operation).toList = [.close] ∨
      ∀ taken ∈ (deployment.stepOf? operation).toList, taken.isRoutine = true := by
  unfold stepOf?
  split
  · split
    · exact .inl rfl
    · exact .inr (by simp)
  · refine .inr fun taken member => ?_
    simp only [Option.mem_toList, Option.bind_eq_some_iff] at member
    obtain ⟨server, _, own⟩ := member
    split at own
    · cases own
    · cases own
      rfl
  · exact .inr (by simp)

/-- What a move has the session do, unless a stream is read: it closes the session, or it goes about
streams only. -/
theorem stepsOf_cases (step : Move) :
    (deployment.agenda = [] ∧ ∃ generation, step = .read generation) ∨
      deployment.stepsOf step = [.close] ∨
      ∀ taken ∈ deployment.stepsOf step, taken.isRoutine = true := by
  cases pending : deployment.agenda with
  | cons frame rest =>
    right
    unfold stepsOf
    rw [pending]
    cases step with
    | proceed =>
      simp only [stepsIn]
      split
      · exact stepOf?_cases _
      · exact stepOf?_cases _
      · exact .inr (by simp [Session.Step.isRoutine])
      · exact .inr (by simp [Session.Step.isRoutine])
      · exact .inr (by simp)
    | _ => exact .inr (by simp)
  | nil =>
    simp only [stepsOf, pending]
    cases step with
    | read generation => exact .inl ⟨trivial, generation, rfl⟩
    | perform operation => exact .inr (stepOf?_cases operation)
    | start generation =>
      refine .inr (.inr fun taken member => ?_)
      simp only [stepsBetween] at member
      split at member
      · rcases List.mem_cons.mp member with rfl | later
        · rfl
        · split at later
          · unfold connectStep? at later
            split at later <;> simp_all [Session.Step.isRoutine]
          · cases later
      · cases member
    | resume generation =>
      refine .inr (.inr fun taken member => ?_)
      simp only [stepsBetween] at member
      split at member
      · rw [List.mem_singleton.mp member]
        rfl
      · cases member
    | proceed => exact .inr (.inr (by simp [stepsBetween]))
    | stop | fire | cancel | elapse =>
      exact .inr (.inr (by simp [stepsBetween, Session.Step.isRoutine]))

/-- What the session does as a stream is read: it reads the response that comes next and goes on
with it if it is handed over, or it leaves the stream at most. -/
theorem stepsOf_read (waiting : deployment.agenda = []) (generation : Nat) :
    (∃ response, deployment.incoming? generation = some response ∧
      deployment.stepsOf (.read generation) =
        .read generation response ::
          (deployment.handed? (.read generation)).toList.flatMap deployment.relaySteps) ∨
      (deployment.incoming? generation = none ∧ deployment.handed? (.read generation) = none ∧
        ∀ taken ∈ deployment.stepsOf (.read generation), taken.isRoutine = true) := by
  have handed := handed?_read waiting generation
  have steps : deployment.stepsOf (.read generation) =
      (deployment.readStep? generation).toList ++
        (deployment.handed? (.read generation)).toList.flatMap deployment.relaySteps := by
    simp only [stepsOf, waiting, stepsBetween]
  rw [steps]
  have cases : (∃ response, deployment.incoming? generation = some response ∧
      deployment.readStep? generation = some (.read generation response)) ∨
        (deployment.incoming? generation = none ∧
          ∀ taken ∈ deployment.readStep? generation, taken.isRoutine = true) := by
    unfold incoming? readStep?
    split
    · cases deployment.server? generation with
      | none => exact .inr ⟨rfl, by simp⟩
      | some found =>
        obtain ⟨server, index⟩ := found
        dsimp only
        cases server.inbox with
        | nil =>
          dsimp only
          split
          · exact .inr ⟨rfl, by simp [Session.Step.isRoutine]⟩
          · exact .inr ⟨rfl, by simp⟩
        | cons delivery rest =>
          cases delivery with
          | response response => exact .inl ⟨response, rfl, rfl⟩
          | failure status => exact .inr ⟨rfl, by simp [Session.Step.isRoutine]⟩
    · exact .inr ⟨rfl, by simp⟩
  rcases cases with ⟨response, incoming, read⟩ | ⟨incoming, routine⟩
  · exact .inl ⟨response, incoming, by rw [read]; rfl⟩
  · rw [handed, incoming]
    exact .inr ⟨rfl, rfl, by simpa using routine⟩

end Deployment

end MeshDiscovery
