import MeshDiscovery.Proofs.Session.Standing

namespace MeshDiscovery.Session

/-- The request for a kind that the session accepts in a step. Whether it is accepted depends on its
type only, not on where the session stands. -/
def Step.accepted? (kind : ResourceType) : Step → Option Request
  | .request wanted =>
    if ResourceType.ofUrl? wanted.typeUrl = some kind then some wanted else none
  | _ => none

/-- The last request for a kind that is accepted in a run. -/
def lastAccepted (kind : ResourceType) (steps : List Step) : Option Request :=
  (steps.filterMap (Step.accepted? kind)).getLast?

theorem lastAccepted_cons (kind : ResourceType) (step : Step) (rest : List Step) :
    lastAccepted kind (step :: rest) = (lastAccepted kind rest).or (step.accepted? kind) := by
  unfold lastAccepted
  cases accepted : step.accepted? kind with
  | none => simp [accepted]
  | some request =>
    rw [List.filterMap_cons_some accepted, List.getLast?_cons]
    cases (rest.filterMap (Step.accepted? kind)).getLast? <;> rfl

variable (session : Session)

private theorem own_step (step : Step) :
    (session.step step).node = session.node ∧
      (session.step step).recorded =
        match step with
        | .request request => session.recordedAfter request
        | _ => session.recorded := by
  by_cases quiet : step.isQuiet = true
  · refine ⟨(frame_step session quiet).node, ?_⟩
    rw [(frame_step session quiet).recorded]
    cases step <;> first | rfl | cases quiet
  · cases step with
    | request request =>
      obtain ⟨_, _, _, _, _, same⟩ := session.request_eq request
      exact ⟨(congrArg Session.node same).trans rfl, (congrArg Session.recorded same).trans rfl⟩
    | acknowledge =>
      obtain ⟨_, _, same⟩ := session.acknowledge_eq
      exact ⟨(congrArg Session.node same).trans rfl, (congrArg Session.recorded same).trans rfl⟩
    | fire generation =>
      obtain ⟨_, _, _, _, _, _, same⟩ := session.fireTimer_eq generation
      exact ⟨(congrArg Session.node same).trans rfl, (congrArg Session.recorded same).trans rfl⟩
    | read generation response =>
      rcases session.read_cases generation response with ⟨_, _, same⟩ | ⟨_, _, _, _, _, _, _, same⟩
      · exact ⟨(congrArg Session.node same).trans rfl, (congrArg Session.recorded same).trans rfl⟩
      · exact ⟨(congrArg Session.node same).trans rfl, (congrArg Session.recorded same).trans rfl⟩
    | _ => exact absurd rfl quiet

theorem node_step (step : Step) : (session.step step).node = session.node :=
  (session.own_step step).1

theorem node_run (steps : List Step) : (session.run steps).node = session.node := by
  induction steps generalizing session with
  | nil => rfl
  | cons step rest ih => exact (ih _).trans (session.node_step step)

/-- A step records the request that it has the session accept, in place of any earlier one. -/
theorem recorded_step (step : Step) (kind : ResourceType) :
    (session.step step).recorded.get kind =
      ((step.accepted? kind).map session.signed).or (session.recorded.get kind) := by
  rw [(session.own_step step).2]
  cases step with
  | request request =>
    simp only [recordedAfter, Step.accepted?]
    cases known : ResourceType.ofUrl? request.typeUrl with
    | none => rfl
    | some other =>
      by_cases equal : other = kind
      · subst equal
        simp
      · simp [equal, PerType.get_set_of_ne _ _ (Ne.symm equal)]
  | _ => rfl

/-- What is recorded after a run is the last request that it has the session accept, or else what
was recorded before. -/
theorem recorded_run (steps : List Step) (kind : ResourceType) :
    (session.run steps).recorded.get kind =
      ((lastAccepted kind steps).map session.signed).or (session.recorded.get kind) := by
  induction steps generalizing session with
  | nil => rfl
  | cons step rest ih =>
    have signed : (session.step step).signed = session.signed := by
      funext request
      rw [Session.signed, node_step, Session.signed]
    rw [run_cons, ih, recorded_step, lastAccepted_cons, signed]
    cases lastAccepted kind rest <;> rfl

theorem recorded_fresh (node : Node) (steps : List Step) (kind : ResourceType) :
    ((fresh node).run steps).recorded.get kind =
      (lastAccepted kind steps).map fun request => { request with node := some node } := by
  rw [recorded_run]
  cases lastAccepted kind steps <;> simp [fresh, signed]

variable {session}

/-- As long as nothing is acknowledged, a response that is dealt with stays so. -/
theorem dispatch_step (valid : Coherent session) {dispatch : Dispatch}
    (current : session.dispatch = some dispatch) {step : Step} (open' : step ≠ .acknowledge) :
    (session.step step).dispatch = some dispatch := by
  by_cases quiet : step.isQuiet = true
  · rw [(frame_step session quiet).dispatch, current]
  · cases step with
    | request request => exact (session.dispatch_request request).trans current
    | acknowledge => exact absurd rfl open'
    | fire generation => exact (session.dispatch_fireTimer generation).trans current
    | read generation response =>
      rcases session.read_cases generation response with
        ⟨_, _, same⟩ | ⟨_, _, _, _, _, reading, free, same⟩
      · exact (congrArg Session.dispatch same).trans current
      · have none := valid.no_dispatch reading (.inr free)
        rw [current] at none
        cases none
    | _ => exact absurd rfl quiet

/-- Unless one is read, no response is dealt with. -/
theorem idle_step (idle : session.dispatch = none) {step : Step}
    (unread : ∀ generation response, step ≠ .read generation response) :
    (session.step step).dispatch = none := by
  by_cases quiet : step.isQuiet = true
  · rw [(frame_step session quiet).dispatch, idle]
  · cases step with
    | request request => exact (session.dispatch_request request).trans idle
    | acknowledge =>
      obtain ⟨_, _, same⟩ := session.acknowledge_eq
      exact (congrArg Session.dispatch same).trans rfl
    | fire generation => exact (session.dispatch_fireTimer generation).trans idle
    | read generation response => exact absurd rfl (unread generation response)
    | _ => exact absurd rfl quiet

theorem idle_run (idle : session.dispatch = none) {steps : List Step}
    (unread : ∀ step ∈ steps, ∀ generation response, step ≠ .read generation response) :
    (session.run steps).dispatch = none := by
  induction steps generalizing session with
  | nil => exact idle
  | cons step rest ih =>
    obtain ⟨own, others⟩ := List.forall_mem_cons.mp unread
    exact ih (idle_step idle own) others

theorem dispatch_run (valid : Coherent session) {dispatch : Dispatch}
    (current : session.dispatch = some dispatch) {steps : List Step}
    (open' : Step.acknowledge ∉ steps) : (session.run steps).dispatch = some dispatch := by
  induction steps generalizing session with
  | nil => exact current
  | cons step rest ih =>
    obtain ⟨first, later⟩ : step ≠ .acknowledge ∧ Step.acknowledge ∉ rest := by
      simpa [eq_comm] using open'
    exact ih (valid.step step) (dispatch_step valid current first) later

end MeshDiscovery.Session
