import MeshDiscovery.Proofs.Session.Recording
import MeshDiscovery.Proofs.Session.Sending

/-!
What an acknowledgement lists. Its names are those recorded when the response was read, so it
restates the latest request only if the handler has not asked for other names of the same kind
meanwhile.
-/

namespace MeshDiscovery.Session

variable {session : Session}

/-- Reading a response with nothing else at hand keeps the names recorded for its kind. -/
theorem dispatch_of_read {generation : Nat} {response : Response} {dispatch : Dispatch}
    (idle : session.dispatch = none)
    (dispatched : (session.step (.read generation response)).dispatch = some dispatch) :
    ResourceType.ofUrl? response.typeUrl = some dispatch.kind ∧
      session.subscribedNames? dispatch.kind = some dispatch.names ∧
      dispatch.generation = generation ∧ dispatch.version = response.version ∧
      dispatch.nonce = response.nonce ∧
      (session.step (.read generation response)).recorded = session.recorded := by
  rcases session.read_cases generation response with
    ⟨_, _, same⟩ | ⟨kind, names, _, known, subscribed, _, _, same⟩
  · rw [same] at dispatched
    exact absurd (idle.symm.trans dispatched) (by simp)
  · rw [same] at dispatched ⊢
    cases dispatched
    exact ⟨known, subscribed, rfl, rfl, rfl, rfl⟩

private theorem names_kept_iff {kind : ResourceType} {names : List String} {steps : List Step}
    (subscribed : session.subscribedNames? kind = some names) :
    (∀ request, (session.run steps).recorded.get kind = some request → names = request.names) ↔
      ∀ latest, lastAccepted kind steps = some latest → names = latest.names := by
  rw [recorded_run]
  cases last : lastAccepted kind steps with
  | some latest => simp [signed]
  | none =>
    constructor
    · intro _ latest absent
      cases absent
    · intro _ request recorded
      have same : session.recorded.get kind = some request := recorded
      rw [subscribedNames?, same] at subscribed
      exact (Option.some.inj subscribed).symm

/-- While a response is dealt with, its acknowledgement stays what it was when the response was
read. It is queued if its stream is still in use, and it lists the names of the request recorded by
then exactly if the last request of that kind made meanwhile, if any, lists the same names. -/
theorem acknowledgement_restates_reading (node : Node) (earlier during : List Step)
    (generation : Nat) (response : Response) (dispatch : Dispatch)
    (idle : ((fresh node).run earlier).dispatch = none)
    (dispatched : (((fresh node).run earlier).step (.read generation response)).dispatch =
      some dispatch)
    (handling : Step.acknowledge ∉ during) :
    let before := (fresh node).run earlier
    let after := (before.step (.read generation response)).run during
    let acknowledgement : Request :=
      { typeUrl := response.typeUrl
        names := dispatch.names
        version := response.version
        nonce := response.nonce
        node := some node }
    ResourceType.ofUrl? response.typeUrl = some dispatch.kind ∧
      before.subscribedNames? dispatch.kind = some dispatch.names ∧
      (∀ stream, (after.step .acknowledge).queued stream = after.queued stream ++
        if stream = generation ∧ after.current? = some generation ∧
            after.accepts generation = true then
          [acknowledgement]
        else []) ∧
      ((∀ request, after.recorded.get dispatch.kind = some request →
          acknowledgement.names = request.names) ↔
        ∀ latest, lastAccepted dispatch.kind during = some latest →
          acknowledgement.names = latest.names) := by
  intro before after acknowledgement
  obtain ⟨known, subscribed, sameStream, sameVersion, sameNonce, recorded⟩ :=
    dispatch_of_read idle dispatched
  have valid : Coherent before := (coherent_fresh node).run earlier
  have reading := valid.step (.read generation response)
  have settled : Coherent after := reading.run during
  have kept : after.dispatch = some dispatch := dispatch_run reading dispatched handling
  have sameNode : after.node = node := by
    rw [node_run, node_step, node_run]
    rfl
  have sameAcknowledgement : after.acknowledgement dispatch = acknowledgement := by
    rw [Session.acknowledgement, ResourceType.url_of_ofUrl? known, sameNode, sameVersion, sameNonce]
  refine ⟨known, subscribed, ?_, names_kept_iff ?_⟩
  · intro stream
    rw [queued_step settled, sends, kept]
    simp only [sameStream, sameAcknowledgement]
    by_cases usable : after.current? = some generation ∧ after.accepts generation = true
    · simp [usable]
    · simp [usable]
  · rw [subscribedNames?, recorded]
    exact subscribed

/-- A handler that asks for one more name has its own request taken back by the acknowledgement. -/
theorem acknowledgement_takes_back_names :
    let node : Node := ⟨"n", "mesh", "client", "1"⟩
    let endpoints (names : List String) : Request :=
      { typeUrl := ResourceType.clusterLoadAssignment.url, names, node := some node }
    let response : Response :=
      { typeUrl := ResourceType.clusterLoadAssignment.url, version := "1", nonce := "n1" }
    let handled := (fresh node).run
      [.register .clusterLoadAssignment, .request (endpoints ["a"]), .start 0, .accept 0,
        .read 0 response, .request (endpoints ["a", "b"]), .acknowledge]
    handled.queued 0 =
        [endpoints ["a"], endpoints ["a", "b"],
          { endpoints ["a"] with version := "1", nonce := "n1" }] ∧
      handled.recorded.get .clusterLoadAssignment = some (endpoints ["a", "b"]) := by
  decide

/-- A handler that asks for what is listed already is acknowledged with the request it has made. -/
theorem acknowledgement_restates_repeated_request :
    let node : Node := ⟨"n", "mesh", "client", "1"⟩
    let endpoints : Request :=
      { typeUrl := ResourceType.clusterLoadAssignment.url, names := ["a"] }
    let response : Response :=
      { typeUrl := ResourceType.clusterLoadAssignment.url, version := "1", nonce := "n1" }
    let earlier : List Step :=
      [.register .clusterLoadAssignment, .request endpoints, .start 0, .accept 0]
    ∀ request, ((((fresh node).run earlier).step (.read 0 response)).run
        [.request endpoints]).recorded.get .clusterLoadAssignment = some request →
      ["a"] = request.names := by
  intro node endpoints response earlier
  obtain ⟨_, _, _, restates⟩ := acknowledgement_restates_reading node earlier [.request endpoints] 0
    response ⟨0, .clusterLoadAssignment, "1", "n1", ["a"]⟩ (by decide) (by decide) (by simp)
  apply restates.mpr
  intro latest last
  have same : lastAccepted .clusterLoadAssignment [.request endpoints] = some endpoints := by decide
  cases same.symm.trans last
  rfl

end MeshDiscovery.Session
