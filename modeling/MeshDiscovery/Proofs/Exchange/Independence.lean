import MeshDiscovery.Proofs.Exchange.Board
import MeshDiscovery.Proofs.Exchange.Passive

namespace MeshDiscovery

private theorem Outline.foldl_signals (signals : List Session.Signal) (outline : Outline) :
    (signals.map .signalled).foldl Outline.after outline =
      ⟨signals.foldl Line.signal outline.line, outline.board⟩ := by
  induction signals generalizing outline with
  | nil => rfl
  | cons signal rest ih => exact ih (outline.after (.signalled signal))

namespace Deployment

variable {deployment : Deployment}

def outline (deployment : Deployment) : Outline :=
  ⟨deployment.line, deployment.board⟩

private theorem unwatch_of_absent {axis : Axis} {key : String} {id : ListenerId}
    (idle : deployment.publishing = []) (absent : deployment.removal? axis key id = none) :
    deployment.board.unwatch axis key id = deployment.board := by
  have unknown : id ∉ deployment.cache.ids axis key := by
    intro member
    rw [removal?, Cache.remove_fst, if_pos (decide_eq_true member)] at absent
    cases absent
  rw [board_of_idle idle]
  refine Board.ext rfl (funext fun other => funext fun name => ?_) rfl
  show (if _ then (deployment.cache.ids axis key).filter (· ≠ id) else _) = _
  split
  · rename_i same
    obtain ⟨rfl, rfl⟩ := same
    refine List.filter_eq_self.mpr fun present member => decide_eq_true ?_
    rintro rfl
    exact unknown member
  · rfl

private theorem consumed_of_happening {step : Move} {axis : Axis} {key : String} {id : ListenerId}
    (happening : deployment.happening? step = some (.watched axis key id) ∨
      deployment.happening? step = some (.removed axis key id)) :
    deployment.consumed? step ≠ none := by
  intro unconsumed
  cases deployment.happens step with
  | watched _ _ consumed | unwatched _ _ _ consumed =>
    rw [unconsumed] at consumed
    cases consumed
  | handed _ same => rw [same] at happening; cases deployment.handed? step <;> simp at happening
  | published _ _ _ same => simp [same] at happening

private theorem idle_of_consumed {step : Move}
    (quiet : deployment.isDispatching = true → deployment.occurrencesIn step = [])
    (consumed : deployment.consumed? step ≠ none) : deployment.publishing = [] := by
  cases dealing : deployment.isDispatching with
  | true =>
    have nothing := quiet dealing
    rw [occurrencesIn, List.append_eq_nil_iff] at nothing
    exact absurd (Option.toList_eq_nil_iff.mp nothing.2) consumed
  | false => exact (not_dispatching_iff.mp dealing).2

private theorem outline_move (asking : Asking deployment) (orderly : Orderly deployment)
    {step : Move} (external : step.External)
    (quiet : deployment.isDispatching = true → deployment.occurrencesIn step = []) :
    (deployment.move step).outline =
      (deployment.occurrencesIn step).foldl Outline.after deployment.outline := by
  have told := (asking.move external quiet).2
  have happens := deployment.happens step
  have board := board_turned orderly.cache (asking.agreeing.turned_move external)
    fun _ _ _ happening => idle_of_consumed quiet (consumed_of_happening happening)
  rw [occurrencesIn, List.foldl_append]
  generalize Session.trace Session.learns deployment.session (deployment.stepsOf step) = learnt
    at told
  cases told with
  | @received generation response waiting reads incoming line =>
    subst reads
    have unconsumed : deployment.consumed? (.read generation) = none := by
      simp [consumed?, operation?, waiting]
    have heard : deployment.happening? (.read generation) =
        (deployment.handed? (.read generation)).map fun response =>
          .updated response.publications := rfl
    rw [unconsumed, outline, line, board, heard, Option.toList_none, List.foldl_nil,
      List.foldl_cons, List.foldl_nil]
    show (⟨_, _⟩ : Outline) = ⟨_, (deployment.line.published response).foldl _ deployment.board⟩
    rw [asking.published waiting incoming]
    cases deployment.handed? (.read generation) with
    | none => rfl
    | some handed =>
      rw [Option.map_some, Option.toList_some, Option.toList_some, List.flatMap_singleton]
      rfl
  | signalled signals unhanded line =>
    rw [Outline.foldl_signals, outline, line, board]
    cases happens with
    | watched axis key consumed happening => rw [consumed, happening]; rfl
    | unwatched axis key id consumed happening =>
      rw [consumed, happening]
      rcases deployment.removal?_cases axis key id with absent | removed
      · rw [absent]
        have still := unwatch_of_absent (idle_of_consumed quiet (by simp [consumed])) absent
        exact congrArg _ still.symm
      · rw [removed]
        rfl
    | handed consumed happening => rw [consumed, happening, unhanded]; rfl
    | published consumed value _ happening => rw [consumed, happening]; rfl

/-- What an exchange shows follows from what happens to it. -/
theorem outline_moves (asking : Asking deployment) (orderly : Orderly deployment)
    {steps : List Move} (external : ∀ step ∈ steps, step.External)
    (undisturbed : deployment.undisturbed steps = true) :
    (deployment.moves steps).outline =
      (deployment.occurrences steps).foldl Outline.after deployment.outline := by
  induction steps generalizing deployment with
  | nil => rfl
  | cons step rest ih =>
    obtain ⟨own, others⟩ := List.forall_mem_cons.mp external
    rw [Deployment.undisturbed, Bool.and_eq_true] at undisturbed
    have quiet (dealing : deployment.isDispatching = true) :
        deployment.occurrencesIn step = [] := by
      simpa [dealing] using undisturbed.1
    have next := (asking.move own quiet).1
    have turned := asking.agreeing.turned_move own
    have later := ih next (orderly.turned next.agreeing.external turned) others undisturbed.2
    rw [occurrences, List.foldl_append, ← outline_move asking orderly own quiet]
    exact later

end Deployment

namespace Exchange

open Deployment

private theorem asking_start {config : ClientConfig} {started : Deployment}
    (isStarted : start true config = .ok started) : Asking started := by
  obtain ⟨_, same, agreeing⟩ := agreeing_start config
  cases same.symm.trans isStarted
  have opened : started.session.link = .up 0 true := by
    cases isStarted
    rfl
  refine ⟨agreeing, by simp [opened], ?_, fun kind => ?_⟩
  · cases isStarted
    rfl
  · cases isStarted
    cases kind <;> rfl

private theorem alike_start {config : ClientConfig} {started : Deployment}
    (isStarted : start true config = .ok started) (axis : Axis)
    (rename : ListenerId → ListenerId) :
    started.outline.Alike axis rename started.outline := by
  have idle : started.publishing = [] := by
    cases isStarted
    rfl
  have nobody (key : String) : started.board.ids axis key = [] := by
    rw [board_of_idle idle]
    show started.cache.ids axis key = []
    rw [cache_start isStarted]
    cases axis <;> rfl
  have uncalled : started.board.calls = [] := by
    rw [board_of_idle idle]
    cases isStarted
    rfl
  refine ⟨.refl _, fun _ => rfl, fun key => ?_, ?_⟩
  · show started.board.ids axis key = (started.board.ids axis key).map rename
    rw [nobody, List.map_nil]
  · show started.board.calls.filter _ = (started.board.calls.filter _).map _
    rw [uncalled]
    rfl

/-- On an axis an exchange has done what another one has, and listeners differ in their numbers
only. -/
structure Mirrors (axis : Axis) (rename : ListenerId → ListenerId) (exchange other : Deployment) :
    Prop where
  cached : other.cachedAll axis = exchange.cachedAll axis
  wanted : ∀ kind, kind.axis = axis → other.wanted kind = exchange.wanted kind
  sent : ∀ generation, (other.session.queued generation).filter (·.isOn axis) =
    (exchange.session.queued generation).filter (·.isOn axis)
  calls : (other.calls.filter fun call => call.2.axis = axis) =
    (exchange.calls.filter fun call => call.2.axis = axis).map fun call =>
      (rename call.1, call.2)

private theorem mirrors_of_same {config : ClientConfig} {started : Deployment}
    (isStarted : start true config = .ok started) {steps others : List Move}
    (external : ∀ step ∈ steps, step.External) (also : ∀ step ∈ others, step.External)
    (undisturbed : started.undisturbed steps = true)
    (alsoUndisturbed : started.undisturbed others = true)
    (settled : (started.moves steps).isDispatching = false)
    (alsoSettled : (started.moves others).isDispatching = false) {axis : Axis}
    {rename : ListenerId → ListenerId} (injective : Function.Injective rename)
    (same : (started.occurrences others).filter (·.concerns axis) =
      ((started.occurrences steps).filter (·.concerns axis)).map (·.rename rename)) :
    Mirrors axis rename (started.moves steps) (started.moves others) := by
  have asking := asking_start isStarted
  have orderly : Orderly started := by
    obtain ⟨_, known, orderly, _⟩ := orderly_start config
    cases known.symm.trans isStarted
    exact orderly
  have alike := (alike_start isStarted axis rename).foldl injective same
  rw [← outline_moves asking orderly external undisturbed,
    ← outline_moves asking orderly also alsoUndisturbed] at alike
  obtain ⟨free, idle⟩ := not_dispatching_iff.mp settled
  obtain ⟨alsoFree, alsoIdle⟩ := not_dispatching_iff.mp alsoSettled
  have sent {deployment : Deployment} (none : deployment.session.dispatch = none)
      (generation : Nat) :
      deployment.line.mail generation = deployment.session.queued generation := by
    show deployment.session.mail generation = _
    rw [Session.mail, Session.owed_of_idle none, Session.onStream_nil, List.append_nil]
  have line : (started.moves steps).line.Alike axis (started.moves others).line := alike.line
  have board : (started.moves steps).board.Alike axis rename (started.moves others).board :=
    alike.board
  rw [board_of_idle idle, board_of_idle alsoIdle] at board
  refine ⟨cachedAll_eq_iff.mpr board.cached, line.wanted, fun generation => ?_, board.calls⟩
  rw [← sent free, ← sent alsoFree]
  exact line.mail generation

private theorem undisturbed_start {config : ClientConfig} {started : Deployment}
    (isStarted : start true config = .ok started) {steps : List Move}
    (external : ∀ step ∈ steps, step.External)
    (passive : ∀ earlier, earlier <+: steps → (started.moves earlier).Passive) :
    started.undisturbed steps = true := by
  have agreeing := (asking_start isStarted).agreeing
  have resting : started.isDispatching = false := by
    cases isStarted
    rfl
  refine undisturbed_of_passive agreeing (fun dealing => ?_) external fun earlier later parts =>
    passive earlier ⟨later, parts.symm⟩
  rw [resting] at dealing
  cases dealing

/-- The route axis and the cluster axis do not interfere. Take two runs of an exchange whose
listeners do not call back while a response is dealt with. Where the same happens in both of them but for the responses
of the other axis and what consumers do there, the same is cached and asked for on this axis, each
stream carries the same messages about it in the same order, and its listeners are called with the
same values in the same order, up to the numbers that they were given. -/
theorem axes_are_independent (config : ClientConfig) (axis : Axis) (steps others : List Move)
    (external : ∀ step ∈ steps, step.External) (also : ∀ step ∈ others, step.External) :
    ∃ started, start true config = .ok started ∧
      let exchange := started.moves steps
      let other := started.moves others
      ∀ rename : ListenerId → ListenerId, Function.Injective rename →
        started.undisturbed steps = true → started.undisturbed others = true →
        exchange.isDispatching = false → other.isDispatching = false →
        (started.occurrences others).filter (·.concerns axis) =
          ((started.occurrences steps).filter (·.concerns axis)).map (·.rename rename) →
        other.cachedAll axis = exchange.cachedAll axis ∧
        (∀ kind, kind.axis = axis → other.wanted kind = exchange.wanted kind) ∧
        (∀ generation, (other.session.queued generation).filter (·.isOn axis) =
          (exchange.session.queued generation).filter (·.isOn axis)) ∧
        (other.calls.filter fun call => call.2.axis = axis) =
          (exchange.calls.filter fun call => call.2.axis = axis).map fun call =>
            (rename call.1, call.2) := by
  obtain ⟨started, isStarted, _⟩ := orderly_start config
  refine ⟨started, isStarted, ?_⟩
  intro exchange other rename injective undisturbed alsoUndisturbed settled alsoSettled same
  obtain ⟨cached, wanted, sent, calls⟩ := mirrors_of_same isStarted external also undisturbed
    alsoUndisturbed settled alsoSettled injective same
  exact ⟨cached, wanted, sent, calls⟩

/-- A cluster that is watched, and clusters that arrive with an entry that cannot be read, make no
difference to routes but for the number of their listener. -/
theorem clusters_do_not_disturb_routes :
    let config : ClientConfig :=
      ⟨⟨none, "control:15010", "", none⟩, ⟨"n", "mesh", "client", "1"⟩, 10000, []⟩
    let listeners : Response :=
      { typeUrl := ResourceType.listener.url
        version := "1"
        nonce := "n1"
        resources := [ResourceType.listener.pack
          { name := "l"
            apiListener := some ⟨some (.pack Schema.HttpConnectionManager.url
              { routes := some (.rds ⟨"r"⟩) : Schema.HttpConnectionManager })⟩ }] }
    let routes : Response :=
      { typeUrl := ResourceType.routeConfiguration.url
        version := "1"
        nonce := "n2"
        resources := [ResourceType.routeConfiguration.pack
          { name := "r", virtualHosts := [{ name := "svc" }] }] }
    let clusters : Response :=
      { typeUrl := ResourceType.cluster.url
        version := "1"
        nonce := "n3"
        resources := [ResourceType.cluster.pack { name := "c" }, ⟨"other", [255]⟩] }
    let relay (response : Response) : List Move :=
      [.perform (.respond response none), .read 0] ++ .replicate 6 .proceed
    let watch (axis : Axis) (key label : String) : List Move :=
      [.perform (.watch axis key label []), .proceed, .proceed]
    let steps : List Move :=
      .start 0 :: (watch .route "svc" "a" ++ relay listeners ++ relay routes)
    let others : List Move :=
      .start 0 :: (watch .cluster "c" "b" ++ relay clusters ++ watch .route "svc" "a" ++
        relay listeners ++ relay clusters ++ relay routes)
    (∀ step ∈ steps, step.External) ∧ (∀ step ∈ others, step.External) ∧
      ∃ started, start true config = .ok started ∧
        started.undisturbed steps = true ∧ started.undisturbed others = true ∧
        (started.moves steps).isDispatching = false ∧
        (started.moves others).isDispatching = false ∧
        ((started.moves others).calls.filter fun call => call.2.axis = .route) =
          [(1, .route "svc" ⟨"svc", [], []⟩)] := by
  intro config listeners routes clusters relay watch steps others
  have responds (response : Response) : (Operation.respond response none).External := .plain rfl
  have watches (axis : Axis) (key label : String) : (Operation.watch axis key label []).External :=
    .watch (by simp)
  have external : ∀ step ∈ steps, step.External := by
    simp [steps, relay, watch, Move.External, responds, watches]
  have also : ∀ step ∈ others, step.External := by
    simp [others, relay, watch, Move.External, responds, watches]
  obtain ⟨started, isStarted, independent⟩ :=
    axes_are_independent config .route steps others external also
  have settled : ((start true config).toOption.map fun started =>
      (started.undisturbed steps, started.undisturbed others,
        (started.moves steps).isDispatching, (started.moves others).isDispatching)) =
      some (true, true, false, false) := by
    decide +kernel
  have observed : ((start true config).toOption.map fun started =>
      (decide ((started.occurrences others).filter (·.concerns .route) =
          ((started.occurrences steps).filter (·.concerns .route)).map (·.rename (· + 1))),
        (started.moves steps).calls)) =
      some (true, [(0, .route "svc" ⟨"svc", [], []⟩)]) := by
    decide +kernel
  simp only [isStarted, Except.toOption, Option.map_some, Option.some.injEq, Prod.mk.injEq,
    decide_eq_true_eq] at settled observed
  obtain ⟨undisturbed, alsoUndisturbed, waiting, alsoWaiting⟩ := settled
  obtain ⟨same, calls⟩ := observed
  obtain ⟨_, _, _, renamed⟩ := independent (· + 1) (fun _ _ => Nat.succ.inj) undisturbed
    alsoUndisturbed waiting alsoWaiting same
  refine ⟨external, also, started, isStarted, undisturbed, alsoUndisturbed, waiting, alsoWaiting, ?_⟩
  rw [renamed, calls]
  rfl

/-- Listeners that have nothing to perform when they are called never let one axis interfere with
the other. -/
theorem passive_axes_are_independent (config : ClientConfig) (axis : Axis)
    (steps others : List Move) (external : ∀ step ∈ steps, step.External)
    (also : ∀ step ∈ others, step.External) :
    ∃ started, start true config = .ok started ∧
      ∀ rename : ListenerId → ListenerId, Function.Injective rename →
        (∀ earlier, earlier <+: steps → (started.moves earlier).Passive) →
        (∀ earlier, earlier <+: others → (started.moves earlier).Passive) →
        (started.moves steps).isDispatching = false →
        (started.moves others).isDispatching = false →
        (started.occurrences others).filter (·.concerns axis) =
          ((started.occurrences steps).filter (·.concerns axis)).map (·.rename rename) →
        Mirrors axis rename (started.moves steps) (started.moves others) := by
  obtain ⟨started, isStarted, _⟩ := orderly_start config
  refine ⟨started, isStarted, fun rename injective passive alsoPassive settled alsoSettled same => ?_⟩
  exact mirrors_of_same isStarted external also (undisturbed_start isStarted external passive)
    (undisturbed_start isStarted also alsoPassive) settled alsoSettled injective same

end Exchange

end MeshDiscovery
