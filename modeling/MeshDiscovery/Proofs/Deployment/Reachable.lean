import MeshDiscovery.Proofs.Deployment.Growing

namespace MeshDiscovery.Deployment

/-- A client that was just set up. -/
inductive Opened : Deployment → Prop where
  | session {runtime : Bool} {node : Node} {session : Session}
      (made : Session.new runtime node = .ok session) : Opened { session }
  | exchange {runtime : Bool} {config : ClientConfig} {started : Deployment}
      (made : Exchange.start runtime config = .ok started) : Opened started

/-- A client that was set up and has made some moves since. -/
inductive Reachable : Deployment → Prop where
  | opened {deployment : Deployment} (opened : Opened deployment) : Reachable deployment
  | move {deployment : Deployment} (reachable : Reachable deployment) (step : Move) :
      Reachable (deployment.move step)

variable {deployment : Deployment}

theorem Reachable.moves (reachable : Reachable deployment) (steps : List Move) :
    Reachable (deployment.moves steps) := by
  induction steps generalizing deployment with
  | nil => exact reachable
  | cons step rest ih => exact ih (reachable.move step)

/-- A response that is dealt with is going to be acknowledged. -/
def Attended (deployment : Deployment) : Prop :=
  deployment.session.dispatch ≠ none → .acknowledge ∈ deployment.agenda

namespace Attended

theorem grows {after : Deployment} {calls : Calls} (attended : Attended deployment)
    (grows : Grows deployment after calls) : Attended after := by
  intro busy
  rw [grows.dispatch] at busy
  exact grows.agenda.subset (attended busy)

theorem idle (attended : Attended deployment) (waiting : deployment.agenda = []) :
    deployment.session.dispatch = none := by
  by_cases busy : deployment.session.dispatch = none
  · exact busy
  · have member := attended busy
    rw [waiting] at member
    cases member

private theorem proceed {frame : Frame} {rest : List Frame} (attended : Attended deployment)
    (pending : deployment.agenda = frame :: rest) : Attended deployment.proceed := by
  by_cases acknowledged : frame = .acknowledge
  · subst acknowledged
    intro busy
    obtain ⟨_, _, same⟩ := deployment.session.acknowledge_eq
    simp only [Deployment.proceed, pending, same] at busy
    exact absurd rfl busy
  have dropped : Attended { deployment with agenda := rest } := by
    intro busy
    have member := attended busy
    rw [pending] at member
    exact (List.mem_cons.mp member).resolve_left (Ne.symm acknowledged)
  by_cases settled : ∃ kind version nonce, frame = .settle kind version nonce
  · obtain ⟨kind, version, nonce, rfl⟩ := settled
    simp only [Deployment.proceed, pending]
    split <;> exact dropped
  · exact dropped.grows (grows_proceed deployment pending acknowledged
      fun kind version nonce same => settled ⟨kind, version, nonce, same⟩)

theorem receive (deployment : Deployment) (generation : Nat) (response : Response) :
    Attended (deployment.receive generation response) := by
  unfold Deployment.receive
  dsimp only
  split
  · rename_i none
    exact fun busy => absurd none busy
  · rename_i dispatch _
    have pushed : Attended (({ deployment with
        session := deployment.session.receive generation response } : Deployment).push
          [.acknowledge]) := fun _ => List.mem_cons_self
    exact pushed.grows (grows_runHandler _ dispatch.kind response)

theorem move (attended : Attended deployment) (step : Move) : Attended (deployment.move step) := by
  cases waiting : deployment.agenda with
  | cons frame rest =>
    cases step with
    | proceed =>
      simp only [Deployment.move]
      exact attended.proceed waiting
    | perform | start | resume | read | stop | fire | cancel | elapse =>
      simp only [Deployment.move, waiting]
      exact attended
  | nil =>
    have idle := attended.idle waiting
    have still {after : Deployment} (same : after.session.dispatch = deployment.session.dispatch) :
        Attended after := fun busy => absurd (same.trans idle) busy
    simp only [Deployment.move, waiting]
    cases step with
    | perform operation => exact attended.grows (grows_perform deployment operation)
    | proceed =>
      simp only [Deployment.proceed, waiting]
      exact attended
    | start generation => exact attended.grows (grows_start deployment generation)
    | resume generation => exact attended.grows (grows_resume deployment generation)
    | read generation =>
      show Attended (deployment.read generation)
      rcases deployment.read_cases generation with ⟨response, _, _, same⟩ |
        ⟨_, same | ⟨plane, ending, same⟩⟩
      · rw [same]
        exact receive _ generation response
      · rw [same]
        exact attended
      · rw [same]
        exact still (Session.frame_streamEnded _ generation ending).dispatch
    | stop generation => exact still (Session.frame_stopTask _ generation).dispatch
    | fire generation => exact still (Session.dispatch_fireTimer _ generation)
    | cancel generation => exact still (Session.frame_cancelTimer _ generation).dispatch
    | elapse time => exact still rfl

end Attended

private theorem grows_start_exchange {runtime : Bool} {config : ClientConfig}
    {started : Deployment} (made : Exchange.start runtime config = .ok started) :
    Grows (Exchange.register config { node := config.node }) started
      [(.listener, []), (.cluster, [])] := by
  unfold Exchange.start Session.new at made
  split at made
  · cases made
    have listeners := grows_subscribe
      (Exchange.register config { node := config.node }) .listener []
    exact (listeners.trans (grows_subscribe _ .cluster [])).then_quiet (.session _ rfl rfl)
  · cases made

namespace Opened

theorem wired (opened : Opened deployment) : deployment.Wired := by
  cases opened with
  | session made =>
    unfold Session.new at made
    split at made
    · cases made
      intro kind
      cases kind <;> rfl
    · cases made
  | exchange made =>
    refine (grows_start_exchange made).wired ?_
    intro kind
    cases kind <;> rfl

theorem attended (opened : Opened deployment) : deployment.Attended := by
  cases opened with
  | session made =>
    unfold Session.new at made
    split at made
    · cases made
      exact fun busy => absurd rfl busy
    · cases made
  | exchange made => exact Attended.grows (fun busy => absurd rfl busy) (grows_start_exchange made)

theorem named (opened : Opened deployment) (kind : ResourceType) : deployment.named kind = .empty := by
  cases opened with
  | session made => cases kind <;> rfl
  | @exchange _ config started made =>
    have wired : (Exchange.register config { node := config.node }).Wired := by
      intro kind
      cases kind <;> rfl
    rw [(grows_start_exchange made).named wired]
    cases kind <;> rfl

end Opened

namespace Reachable

theorem wired (reachable : Reachable deployment) : deployment.Wired := by
  induction reachable with
  | opened opened => exact opened.wired
  | move reachable step ih => exact (widens_move _ step).wired ih

theorem attended (reachable : Reachable deployment) : deployment.Attended := by
  induction reachable with
  | opened opened => exact opened.attended
  | move reachable step ih => exact ih.move step

end Reachable

end MeshDiscovery.Deployment
