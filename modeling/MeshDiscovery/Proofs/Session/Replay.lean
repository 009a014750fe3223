import MeshDiscovery.Proofs.Session.Recording
import MeshDiscovery.Proofs.Session.Sending

namespace MeshDiscovery.Session

/-- The last accepted request for each kind, without version and nonce. -/
def replayed (node : Node) (steps : List Step) : List Request :=
  ResourceType.all.filterMap fun kind =>
    (lastAccepted kind steps).map fun request =>
      { request with version := "", nonce := "", node := some node }

theorem kind_of_lastAccepted {kind : ResourceType} {steps : List Step} {request : Request}
    (last : lastAccepted kind steps = some request) :
    ResourceType.ofUrl? request.typeUrl = some kind := by
  obtain ⟨step, _, accepted⟩ := List.mem_filterMap.mp (List.mem_of_getLast? last)
  cases step with
  | request wanted =>
    simp only [Step.accepted?] at accepted
    split at accepted
    · rename_i known
      cases accepted
      exact known
    · cases accepted
  | _ => cases accepted

/-- There is one replayed request for each kind that was ever requested, in the order of kinds. -/
theorem kinds_replayed (node : Node) (steps : List Step) :
    (replayed node steps).map (fun request => ResourceType.ofUrl? request.typeUrl) =
      (ResourceType.all.filter fun kind => (lastAccepted kind steps).isSome).map some := by
  unfold replayed
  induction ResourceType.all with
  | nil => rfl
  | cons kind rest ih =>
    cases last : lastAccepted kind steps with
    | none => simpa [last] using ih
    | some request => simpa [last, kind_of_lastAccepted last] using ih

private theorem replay_fresh (node : Node) (steps : List Step) :
    ((fresh node).run steps).replay.map Prod.snd = replayed node steps := by
  simp only [replay, recordedRequests, replayed, recorded_fresh, List.map_filterMap, Option.map_map]
  rfl

/-- The stream that a recovery opens begins with the replayed requests, everything sent there later
follows in order, and what is recorded stays the last request that was accepted. -/
theorem recovery_replays_subscriptions (node : Node) (earlier later : List Step) (generation : Nat)
    (waiting : ((fresh node).run earlier).phase = .recovering generation) :
    let opened := ((fresh node).run earlier).step (.fire generation)
    opened.phase = .active (generation + 1) false ∧
      generation + 1 ∉ ((fresh node).run earlier).generations ∧
      (opened.run later).queued (generation + 1) =
        replayed node earlier ++ onStream (generation + 1) (opened.sent later) ∧
      (replayed node earlier).map (fun request => ResourceType.ofUrl? request.typeUrl) =
        (ResourceType.all.filter fun kind => (lastAccepted kind earlier).isSome).map some ∧
      ∀ kind, (opened.run later).recorded.get kind =
        (lastAccepted kind (earlier ++ .fire generation :: later)).map fun request =>
          { request with node := some node } := by
  intro opened
  have valid := (coherent_fresh node).run earlier
  obtain ⟨_, ⟨due, timers⟩, number⟩ := (valid.standing_at waiting).of_recovering
  have absent : generation + 1 ∉ ((fresh node).run earlier).generations :=
    number ▸ valid.next_absent
  rcases fireTimer_cases ((fresh node).run earlier) generation with
    ⟨unset, _⟩ | ⟨_, ⟨other, _⟩ | ⟨_, fired⟩⟩
  · simp [timers] at unset
  · exact absurd waiting other
  · have opening : opened = (((fresh node).run earlier).waking generation).openStream
        (generation + 1) ((fresh node).run earlier).replay := fired
    refine ⟨?_, absent, ?_, kinds_replayed node earlier, ?_⟩
    · obtain ⟨_, _, same⟩ := openStream_eq (((fresh node).run earlier).waking generation)
        (generation + 1) ((fresh node).run earlier).replay
      rw [opening, same]
    · -- Nothing can come between: the replay is queued in the step that opens the stream.
      have started : opened.queued (generation + 1) = replayed node earlier := by
        have unused : generation + 1 ∉ (((fresh node).run earlier).waking generation).generations :=
          absent
        rw [opening, queued_openStream _ _ _ unused, if_pos rfl, replay_fresh]
      rw [queued_run (valid.step (.fire generation)), started]
    · intro kind
      have whole : opened.run later = (fresh node).run (earlier ++ .fire generation :: later) := by
        rw [run_append, run_cons]
      rw [whole, recorded_fresh]

/-- A request that is made while there is no stream is replayed in place of the older one. -/
theorem requests_while_recovering_are_replayed :
    let node : Node := ⟨"n", "mesh", "client", "1"⟩
    let endpoints (names : List String) : Request :=
      { typeUrl := ResourceType.clusterLoadAssignment.url, names }
    let clusters : Request := { typeUrl := ResourceType.cluster.url }
    let earlier : List Step :=
      [.request (endpoints ["a"]), .start 0, .accept 0, .request clusters, .finish 0 .completed,
        .request (endpoints ["a", "b"])]
    ((fresh node).run earlier).phase = .recovering 0 ∧
      (((fresh node).run earlier).step (.fire 0)).queued 1 =
        [{ clusters with node := some node }, { endpoints ["a", "b"] with node := some node }] := by
  intro node endpoints clusters earlier
  have waiting : ((fresh node).run earlier).phase = .recovering 0 := by decide
  obtain ⟨_, _, queued, _⟩ := recovery_replays_subscriptions node earlier [] 0 waiting
  refine ⟨waiting, ?_⟩
  rw [run_nil, Nat.zero_add] at queued
  rw [queued]
  decide

end MeshDiscovery.Session
