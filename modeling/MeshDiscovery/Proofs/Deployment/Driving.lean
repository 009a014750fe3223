import MeshDiscovery.Proofs.Deployment.Stepping

namespace MeshDiscovery.Deployment

variable {deployment : Deployment}

/-- The session takes some steps, and the given requests are those among them, in order. -/
def Driven (before after : Deployment) (asked : List Request) : Prop :=
  ∃ steps : List Session.Step, after.session = before.session.run steps ∧
    steps.filterMap Session.Step.asked? = asked

namespace Driven

theorem of_session {before after : Deployment} (same : after.session = before.session) :
    Driven before after [] :=
  ⟨[], same, rfl⟩

theorem refl (deployment : Deployment) : Driven deployment deployment [] :=
  of_session rfl

theorem step {before after : Deployment} (step : Session.Step) (silent : step.asked? = none)
    (session : after.session = before.session.step step) : Driven before after [] :=
  ⟨[step], session, by rw [List.filterMap_cons_none silent, List.filterMap_nil]⟩

theorem trans {before between after : Deployment} {asked more : List Request}
    (first : Driven before between asked) (second : Driven between after more) :
    Driven before after (asked ++ more) := by
  obtain ⟨steps, session, requests⟩ := first
  obtain ⟨rest, later, others⟩ := second
  refine ⟨steps ++ rest, ?_, by rw [List.filterMap_append, requests, others]⟩
  rw [later, session, Session.run_append]

end Driven

private theorem asked_stepOf? (deployment : Deployment) (operation : Operation) :
    (deployment.stepOf? operation).toList.filterMap Session.Step.asked? = [] := by
  cases operation with
  | close =>
    rw [stepOf?]
    split <;> rfl
  | complete stream =>
    rw [stepOf?]
    cases deployment.plane.streams[deployment.streamIndex stream]? with
    | none => rfl
    | some server =>
      rw [Option.bind_some]
      split <;> rfl
  | _ => rfl

theorem driven_perform {operation : Operation} (external : operation.External) :
    Driven deployment (deployment.perform operation) [] :=
  ⟨_, session_perform external, asked_stepOf? deployment operation⟩

private theorem asked_connectStep? (deployment : Deployment) (generation : Nat) :
    (deployment.connectStep? generation).toList.filterMap Session.Step.asked? = [] := by
  unfold connectStep?
  split <;> rfl

theorem driven_start (generation : Nat) : Driven deployment (deployment.start generation) [] := by
  refine ⟨_, session_start generation, ?_⟩
  rw [stepsBetween]
  split
  · rw [List.filterMap_cons_none rfl]
    split
    · exact asked_connectStep? deployment generation
    · rfl
  · rfl

theorem driven_resume (generation : Nat) :
    Driven deployment (deployment.resume generation) [] := by
  refine ⟨_, session_resume generation, ?_⟩
  rw [stepsBetween]
  split <;> rfl

/-- Taking up a frame requests nothing. -/
theorem driven_proceed (external : deployment.External) :
    Driven deployment deployment.proceed [] := by
  refine ⟨_, session_proceed external, ?_⟩
  unfold stepsOf
  cases deployment.agenda with
  | nil => rfl
  | cons frame rest =>
    simp only [stepsIn]
    split
    · exact asked_stepOf? deployment _
    · exact asked_stepOf? deployment _
    all_goals rfl

end MeshDiscovery.Deployment
