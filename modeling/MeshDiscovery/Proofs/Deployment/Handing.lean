import MeshDiscovery.Proofs.Exchange.Subscriptions
import MeshDiscovery.Proofs.Session.Responses

namespace MeshDiscovery

/-- The request that a step of a session makes, if it is one. -/
def Session.Step.asked? : Session.Step → Option Request
  | .request wanted => some wanted
  | _ => none

namespace Response

/-- What is published of a response, in order. -/
def publications (response : Response) : List Publication :=
  match ResourceType.ofUrl? response.typeUrl with
  | some kind => kind.publications (response.models kind)
  | none => []

end Response

namespace Deployment

/-- The response that comes next for the task of a generation, if the task reads its stream. -/
def incoming? (deployment : Deployment) (generation : Nat) : Option Response :=
  if deployment.isReading generation then
    match deployment.server? generation with
    | none => none
    | some (server, _) =>
      match server.inbox with
      | .response response :: _ => some response
      | _ => none
  else none

/-- The response that a move hands to the handler of its kind. -/
def handed? (deployment : Deployment) : Move → Option Response
  | .read generation =>
    if deployment.agenda.isEmpty then
      (deployment.incoming? generation).filter fun response =>
        !(deployment.session.hands (.read generation response)).isEmpty
    else none
  | _ => none

/-- The responses that are handed over as moves are made, in order. -/
def handed : Deployment → List Move → List Response
  | _, [] => []
  | deployment, step :: rest =>
    (deployment.handed? step).toList ++ (deployment.move step).handed rest

variable {deployment : Deployment}

/-- What becomes of a response that is handed over: it is going to be acknowledged after its values
were published, and its references are followed at once. -/
def relaying (deployment : Deployment) (kind : ResourceType) (response : Response) : Deployment :=
  (((((deployment.push [.acknowledge]).reportDefects kind response).push
    [.settle kind response.version response.nonce]).followReferences kind
      (response.models kind)).push [.publish (kind.publications (response.models kind))])

theorem handed?_read (waiting : deployment.agenda = []) (generation : Nat) :
    deployment.handed? (.read generation) =
      (deployment.incoming? generation).filter fun response =>
        !(deployment.session.hands (.read generation response)).isEmpty :=
  if_pos (by rw [waiting]; rfl)

theorem reading_of_incoming {generation : Nat} {response : Response}
    (incoming : deployment.incoming? generation = some response) :
    deployment.session.hasTask generation .reading = true := by
  unfold incoming? at incoming
  split at incoming
  · assumption
  · cases incoming

theorem Agreeing.free (agreeing : Agreeing deployment) (waiting : deployment.agenda = [])
    (generation : Nat) : deployment.session.isBusy generation = false :=
  Session.isBusy_of_idle (agreeing.idle waiting) generation

/-- Relaying touches the session and the subscriptions, and leaves the values to be published. -/
theorem relaying_eq (deployment : Deployment) (kind : ResourceType) (response : Response) :
    ∃ session handlers, deployment.relaying kind response =
      { deployment with
        session
        handlers
        agenda := .publish (kind.publications (response.models kind)) ::
          .settle kind response.version response.nonce :: .acknowledge :: deployment.agenda } := by
  unfold relaying followReferences
  split
  · exact ⟨_, _, rfl⟩
  · split
    · exact ⟨_, _, rfl⟩
    · obtain ⟨_, _, same⟩ := subscribe_eq (((deployment.push [.acknowledge]).reportDefects kind
        response).push [.settle kind response.version response.nonce]) _
          (kind.references (response.models kind))
      rw [same]
      exact ⟨_, _, rfl⟩

/-- Whoever handles responses of a kind for an exchange relays them. -/
theorem runHandler_eq {kind : ResourceType} {names : NameSet}
    (relay : deployment.relay? kind = some (names, some .relay)) {response : Response}
    (typed : response.typeUrl = kind.url) :
    (deployment.push [.acknowledge]).runHandler kind response =
      deployment.relaying kind response := by
  obtain ⟨subscription, present, _⟩ := Option.map_eq_some_iff.mp relay
  have pushed : (deployment.push [.acknowledge]).subscription? kind = some subscription := present
  have reported : ((((deployment.push [.acknowledge]).reportDefects kind response).push
      [.settle kind response.version response.nonce]).relay? kind) =
      some (names, some .relay) := relay
  obtain ⟨later, found, pair⟩ := Option.map_eq_some_iff.mp reported
  have callback : later.callback = some .relay := congrArg Prod.snd pair
  rw [runHandler, Agreeing.handler_of_subscription? pushed]
  simp only [handle, Response.checkKind, if_pos typed]
  unfold runCallback relaying
  rw [found, Option.bind_some, callback]

/-- What is read is at hand afterwards exactly if it was handed over. -/
theorem dispatch_of_read {session : Session} (valid : session.Coherent)
    (idle : session.dispatch = none) (generation : Nat) (response : Response) :
    ((session.hands (.read generation response)).isEmpty = true ∧
        (session.step (.read generation response)).dispatch = none) ∨
      ∃ dispatch, (session.hands (.read generation response)).isEmpty = false ∧
        (session.step (.read generation response)).dispatch = some dispatch ∧
        response.typeUrl = dispatch.kind.url := by
  have handling := Session.handling_step valid (.read generation response)
  rw [idle] at handling
  generalize after : (session.step (.read generation response)).dispatch = dispatch at handling
  have only : ∀ entry ∈ session.hands (.read generation response), entry.2 = response := by
    intro entry member
    simp only [Session.hands] at member
    split at member
    · cases member
    · split at member
      · rw [List.mem_singleton.mp member]
      · cases member
  generalize session.hands (.read generation response) = handed at handling only
  cases handling with
  | kept => exact .inl ⟨rfl, rfl⟩
  | begun dispatch other echo =>
    have same : other = response := only _ (List.mem_singleton_self _)
    rw [same] at echo
    exact .inr ⟨dispatch, rfl, rfl, congrArg Prod.fst echo⟩

/-- What reading a stream amounts to: steps of the session at most, or a response that is handed
over and relayed. -/
inductive Reading (before : Deployment) (generation : Nat) :
    Option Response → Deployment → Prop where
  | aside (plane : ControlPlane) (steps : List Session.Step)
      (plan : plane.plan = before.plane.plan) (silent : steps.filterMap Session.Step.asked? = []) :
      Reading before generation none { before with plane, session := before.session.run steps }
  | relayed (plane : ControlPlane) (kind : ResourceType) (response : Response)
      (plan : plane.plan = before.plane.plan) (typed : response.typeUrl = kind.url)
      (reading : before.isReading generation = true)
      (current : ∃ dispatch, (before.session.step (.read generation response)).dispatch =
        some dispatch ∧ dispatch.kind = kind) :
      Reading before generation (some response)
        (({ before with
          plane
          session := before.session.step (.read generation response) } :
            Deployment).relaying kind response)

namespace Agreeing

private theorem reading_receive (agreeing : Agreeing deployment) (waiting : deployment.agenda = [])
    {generation : Nat} (reading : deployment.isReading generation = true) (plane : ControlPlane)
    (plan : plane.plan = deployment.plane.plan) (response : Response) :
    Reading deployment generation
      (if (deployment.session.hands (.read generation response)).isEmpty then none
        else some response)
      (({ deployment with plane } : Deployment).receive generation response) := by
  have idle := agreeing.idle waiting
  unfold Deployment.receive
  dsimp only
  rw [← Session.step_read_of_idle idle reading response]
  rcases dispatch_of_read agreeing.agrees.coherent idle generation response with
    ⟨unhanded, none⟩ | ⟨dispatch, handed, current, typed⟩
  · simp only [none, unhanded, if_true]
    exact .aside plane [.read generation response] plan rfl
  · obtain ⟨names, relay⟩ := agreeing.relays dispatch.kind
    have relay : ({ deployment with
        plane
        session := deployment.session.step (.read generation response) } :
          Deployment).relay? dispatch.kind = some (names, some .relay) := relay
    simp only [current, handed, runHandler_eq relay typed]
    exact .relayed plane dispatch.kind response plan typed reading ⟨dispatch, current, rfl⟩

/-- What a task reads is a step of the session at most, or it is a response that is handed over and
relayed. -/
theorem reading (agreeing : Agreeing deployment) (waiting : deployment.agenda = [])
    (generation : Nat) :
    Reading deployment generation (deployment.handed? (.read generation))
      (deployment.read generation) := by
  have finish (ending : Session.Ending) : deployment.session.streamEnded generation ending =
      deployment.session.run [.finish generation ending] :=
    (Session.step_finish_of_idle (agreeing.idle waiting) generation ending).symm
  have nothing : Reading deployment generation none deployment :=
    .aside deployment.plane [] rfl rfl
  rw [handed?_read waiting, incoming?]
  unfold Deployment.read
  by_cases reading : deployment.isReading generation = true
  · rw [if_pos reading, if_pos reading]
    cases deployment.server? generation with
    | none => exact nothing
    | some found =>
      obtain ⟨server, index⟩ := found
      dsimp only
      cases server.inbox with
      | nil =>
        dsimp only
        split
        · rw [finish]
          exact .aside deployment.plane _ rfl rfl
        · exact nothing
      | cons delivery rest =>
        cases delivery with
        | failure status =>
          dsimp only
          rw [finish]
          exact .aside _ _ rfl rfl
        | response response =>
          have received := agreeing.reading_receive waiting reading
            { deployment.plane with
              streams := deployment.plane.streams.set index { server with inbox := rest } }
            rfl response
          dsimp only
          rw [Option.filter_some]
          cases empty : (deployment.session.hands (.read generation response)).isEmpty with
          | true => simpa [empty] using received
          | false => simpa [empty] using received
  · rw [if_neg reading, if_neg reading]
    exact nothing

end Agreeing

end Deployment

end MeshDiscovery
