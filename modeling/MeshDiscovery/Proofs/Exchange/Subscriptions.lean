import MeshDiscovery.Exchange
import MeshDiscovery.Proofs.Deployment.Aside
import MeshDiscovery.Proofs.Session.Agreement

namespace MeshDiscovery.Deployment

def wanted (deployment : Deployment) (kind : ResourceType) : List String :=
  match deployment.relay? kind with
  | some (names, _) => names.toList
  | none => []

/-- What an exchange keeps as it works. -/
structure Agreeing (deployment : Deployment) : Prop where
  relays : ∀ kind, ∃ names, deployment.relay? kind = some (names, some .relay)
  agrees : Session.Agrees deployment.wanted deployment.session
  /-- A response that is dealt with is going to be acknowledged. -/
  dealing : deployment.session.dispatch ≠ none → .acknowledge ∈ deployment.agenda
  external : deployment.External

variable {deployment : Deployment}

theorem wanted_of_aside {after : Deployment} (aside : Aside deployment after) :
    after.wanted = deployment.wanted := by
  funext kind
  rw [wanted, aside.relays, wanted]

namespace Agreeing

theorem aside {after : Deployment} (agreeing : Agreeing deployment)
    (aside : Aside deployment after) : Agreeing after where
  relays kind := by rw [aside.relays]; exact agreeing.relays kind
  agrees := by
    rw [wanted_of_aside aside]
    exact agreeing.agrees.frame aside.session (aside.coherent agreeing.agrees.coherent)
  dealing busy := by
    rw [aside.session.dispatch] at busy
    exact aside.agenda _ (agreeing.dealing busy)
  external := aside.external agreeing.external

theorem idle (agreeing : Agreeing deployment) (waiting : deployment.agenda = []) :
    deployment.session.dispatch = none := by
  by_cases busy : deployment.session.dispatch = none
  · exact busy
  · have member := agreeing.dealing busy
    rw [waiting] at member
    cases member

theorem proceed (agreeing : Agreeing deployment) : Agreeing deployment.proceed := by
  cases pending : deployment.agenda with
  | nil =>
    have same : deployment.proceed = deployment := by simp only [Deployment.proceed, pending]
    rw [same]
    exact agreeing
  | cons frame rest =>
    have next := (agreeing.external.drop pending).2
    by_cases last : frame = .acknowledge
    · subst last
      obtain ⟨channels, metrics, same⟩ := deployment.session.acknowledge_eq
      have done : deployment.session.acknowledge.dispatch = none := by rw [same]
      unfold Deployment.proceed
      rw [pending]
      exact ⟨agreeing.relays, agreeing.agrees.acknowledge, fun busy => absurd done busy,
        ⟨next.agenda, next.planned, next.listening, next.occupied⟩⟩
    · have dropped : Agreeing { deployment with agenda := rest } := by
        refine ⟨agreeing.relays, agreeing.agrees, ?_, next⟩
        intro busy
        have member := agreeing.dealing busy
        rw [pending] at member
        rcases List.mem_cons.mp member with first | later
        · exact absurd first.symm last
        · exact later
      exact dropped.aside (aside_proceed deployment agreeing.external pending last)

theorem wanted_setHandler (deployment : Deployment) (kind : ResourceType)
    (subscription : Subscription Callback) :
    (deployment.setHandler kind (.subscription subscription)).wanted =
      Session.Agrees.wanting deployment.wanted kind subscription.names.toList := by
  funext other
  rw [wanted, relay?, subscription?_setHandler]
  by_cases same : other = kind
  · rw [if_pos same, same, Session.Agrees.wanting_self]
    rfl
  · rw [if_neg same, Session.Agrees.wanting_of_ne same]
    rfl

private theorem request?_cases (kind : ResourceType) (subscription : Subscription Callback) :
    (subscription.request? kind = none ∧ subscription.names.toList = []) ∨
      subscription.request? kind =
        some (Session.Agrees.requestFor kind subscription.names.toList) := by
  unfold Subscription.request?
  split
  · rename_i unnamed
    simp only [Bool.and_eq_true] at unnamed
    exact .inl ⟨rfl, List.isEmpty_iff.mp unnamed.1⟩
  · exact .inr rfl

/-- Subscribing keeps what is sent and what is wanted together, as long as no response of the same
kind is dealt with. -/
theorem subscribe (agreeing : Agreeing deployment) (kind : ResourceType) (names : List String)
    (alive : deployment.isAlive = true)
    (other : ∀ dispatch, deployment.session.dispatch = some dispatch → dispatch.kind ≠ kind) :
    Agreeing (deployment.subscribe kind names) := by
  obtain ⟨before, relay⟩ := agreeing.relays kind
  obtain ⟨subscription, present, pair⟩ := Option.map_eq_some_iff.mp relay
  have sameNames : subscription.names = before := congrArg Prod.fst pair
  have callback : subscription.callback = some .relay := congrArg Prod.snd pair
  have more : deployment.wanted kind ⊆ (subscription.add names).names.toList := by
    intro name member
    rw [wanted, relay] at member
    have inside : name ∈ subscription.names := sameNames ▸ member
    exact NameSet.mem_insertAll.mpr (.inr inside)
  have sameWanted := wanted_setHandler deployment kind (subscription.add names)
  have relays : ∀ each, ∃ names',
      (deployment.setHandler kind (.subscription (subscription.add names))).relay? each =
        some (names', some .relay) := by
    intro each
    rw [relay?, subscription?_setHandler]
    split
    · exact ⟨_, by rw [Option.map_some, Subscription.add, callback]⟩
    · exact agreeing.relays each
  unfold Deployment.subscribe
  simp only [present]
  rcases request?_cases kind (subscription.add names) with ⟨nothing, unnamed⟩ | whole
  · have unchanged : Session.Agrees.wanting deployment.wanted kind [] = deployment.wanted := by
      funext each
      by_cases same : each = kind
      · rw [unnamed] at more
        rw [same, Session.Agrees.wanting_self, List.subset_nil.mp more]
      · exact Session.Agrees.wanting_of_ne same []
    rw [unnamed, unchanged] at sameWanted
    simp only [nothing]
    exact ⟨relays, sameWanted ▸ agreeing.agrees, agreeing.dealing,
      agreeing.external.of_fields rfl rfl rfl⟩
  · have still : (deployment.setHandler kind
        (.subscription (subscription.add names))).isAlive = true := alive
    have requested := agreeing.agrees.request more (subscription.add names).names.sorted other
    have sameDispatch := deployment.session.dispatch_request
      (Session.Agrees.requestFor kind (subscription.add names).names.toList)
    simp only [whole, if_pos still]
    rw [← sameWanted] at requested
    refine ⟨relays, requested, ?_, agreeing.external.of_fields rfl rfl rfl⟩
    intro busy
    exact agreeing.dealing (sameDispatch ▸ busy)

theorem handler_of_subscription? {kind : ResourceType} {subscription : Subscription Callback}
    (present : deployment.subscription? kind = some subscription) :
    deployment.handlers.get kind = some (.subscription subscription) := by
  unfold subscription? at present
  split at present
  · rename_i found
    cases present
    exact found
  · cases present

theorem foldl_report (session : Session) (notices : List Notice) :
    notices.foldl Session.report session =
      { session with notices := session.notices ++ notices } := by
  induction notices generalizing session with
  | nil => simp
  | cons notice rest ih =>
    rw [List.foldl_cons, ih]
    simp [Session.report]

theorem aside_reportDefects (deployment : Deployment) (kind : ResourceType) (response : Response) :
    Aside deployment (deployment.reportDefects kind response) := by
  unfold reportDefects
  dsimp only
  rw [foldl_report]
  exact aside_session deployment (.of_fields rfl rfl rfl rfl rfl) fun valid =>
    valid.of_fields rfl rfl rfl rfl (fun _ => rfl) rfl

private theorem followReferences (agreeing : Agreeing deployment) {dispatch : Session.Dispatch}
    (current : deployment.session.dispatch = some dispatch) (models : List dispatch.kind.Model) :
    Agreeing (deployment.followReferences dispatch.kind models) := by
  unfold Deployment.followReferences
  split
  · exact agreeing
  · rename_i target referred
    split
    · exact agreeing
    · have tasks := agreeing.agrees.coherent.busy dispatch current
      have alive : deployment.isAlive = true := by simp [isAlive, tasks]
      refine agreeing.subscribe target _ alive ?_
      -- No kind refers to itself, so the acknowledgement at hand is of another kind.
      intro other isCurrent same
      rw [current] at isCurrent
      cases isCurrent
      rw [same] at referred
      cases target <;> cases referred

private theorem handle (agreeing : Agreeing deployment) {dispatch : Session.Dispatch}
    (current : deployment.session.dispatch = some dispatch) (response : Response) :
    Agreeing (deployment.handle dispatch.kind response) := by
  unfold Deployment.handle
  split
  · exact agreeing.aside (aside_report deployment _)
  · have settled := (aside_reportDefects deployment dispatch.kind response).trans
      (aside_push _ [.settle dispatch.kind response.version response.nonce]
        (by simp [Frame.External]))
    have before := agreeing.aside settled
    obtain ⟨names, relay⟩ := before.relays dispatch.kind
    obtain ⟨subscription, present, pair⟩ := Option.map_eq_some_iff.mp relay
    have callback : subscription.callback = some .relay := congrArg Prod.snd pair
    unfold runCallback
    rw [present, Option.bind_some, callback]
    have followed := before.followReferences (settled.session.dispatch.trans current)
      (response.models dispatch.kind)
    exact followed.aside (aside_push _ [.publish _] (by simp [Frame.External]))

theorem receive (agreeing : Agreeing deployment) (waiting : deployment.agenda = [])
    {generation : Nat} (reading : deployment.isReading generation = true) (response : Response) :
    Agreeing (deployment.receive generation response) := by
  have idle := agreeing.idle waiting
  have read := agreeing.agrees.read generation response
  rw [Session.step_read_of_idle idle reading] at read
  unfold Deployment.receive
  dsimp only
  split
  · rename_i none
    exact ⟨agreeing.relays, read, fun busy => absurd none busy,
      agreeing.external.of_fields rfl rfl rfl⟩
  · rename_i dispatch current
    have external : ({ deployment with session := deployment.session.receive generation response } :
        Deployment).External :=
      agreeing.external.of_fields rfl rfl rfl
    have pushed : Agreeing (({ deployment with
        session := deployment.session.receive generation response } : Deployment).push
          [.acknowledge]) :=
      ⟨agreeing.relays, read, fun _ => List.mem_cons_self, external.push (by simp [Frame.External])⟩
    obtain ⟨names, relay⟩ := pushed.relays dispatch.kind
    obtain ⟨subscription, present, _⟩ := Option.map_eq_some_iff.mp relay
    rw [runHandler, handler_of_subscription? present]
    exact pushed.handle current response

private theorem aside_streamEnded (idle : deployment.session.dispatch = none) (generation : Nat)
    (ending : Session.Ending) :
    Aside deployment
      { deployment with session := deployment.session.streamEnded generation ending } :=
  aside_session deployment (Session.frame_streamEnded _ generation ending) fun valid =>
    valid.streamEnded generation ending (Session.isBusy_of_idle idle generation)

private theorem aside_stopTask (idle : deployment.session.dispatch = none) (generation : Nat) :
    Aside deployment { deployment with session := deployment.session.stopTask generation } :=
  aside_session deployment (Session.frame_stopTask _ generation) fun valid =>
    valid.stopTask generation (Session.isBusy_of_idle idle generation)

theorem read (agreeing : Agreeing deployment) (waiting : deployment.agenda = [])
    (generation : Nat) : Agreeing (deployment.read generation) := by
  have idle := agreeing.idle waiting
  unfold Deployment.read
  split
  · rename_i reading
    split
    · exact agreeing
    · rename_i server index _
      split
      · split
        · exact agreeing.aside (aside_streamEnded idle generation .completed)
        · exact agreeing
      · rename_i delivery rest _
        have taken : Aside deployment
            { deployment with
              plane := { deployment.plane with
                streams := deployment.plane.streams.set index { server with inbox := rest } } } :=
          .of_fields rfl rfl rfl rfl rfl
        have after := agreeing.aside taken
        cases delivery with
        | response response => exact after.receive waiting reading response
        | failure status =>
          exact after.aside (aside_streamEnded (after.idle waiting) generation (.failed status))
  · exact agreeing

theorem fire (agreeing : Agreeing deployment) (waiting : deployment.agenda = [])
    (generation : Nat) : Agreeing (deployment.changeSession (·.fireTimer generation)) := by
  have idle : (deployment.session.fireTimer generation).dispatch = none :=
    (deployment.session.dispatch_fireTimer generation).trans (agreeing.idle waiting)
  exact ⟨agreeing.relays, agreeing.agrees.fire generation, fun busy => absurd idle busy,
    agreeing.external.of_fields rfl rfl rfl⟩

/-- Every move keeps what an exchange keeps. -/
theorem move (agreeing : Agreeing deployment) {step : Move} (external : step.External) :
    Agreeing (deployment.move step) := by
  -- Tasks and timers move between calls only, when no response can be at hand.
  unfold Deployment.move
  split
  · exact agreeing.proceed
  · exact agreeing
  · exact agreeing.aside (aside_perform deployment external)
  · exact agreeing.aside (aside_start deployment agreeing.external _)
  · exact agreeing.aside (aside_resume deployment _)
  · rename_i generation waiting
    exact agreeing.read waiting generation
  · rename_i generation waiting
    exact agreeing.aside (aside_stopTask (agreeing.idle waiting) generation)
  · rename_i generation waiting
    exact agreeing.fire waiting generation
  · exact agreeing.aside (aside_session deployment (Session.frame_cancelTimer _ _) fun valid =>
      valid.cancelTimer _)
  · exact agreeing.aside (aside_session deployment (.of_fields rfl rfl rfl rfl rfl) fun valid =>
      valid.of_fields rfl rfl rfl rfl (fun _ => rfl) rfl)

theorem moves (agreeing : Agreeing deployment) {steps : List Move}
    (external : ∀ step ∈ steps, step.External) : Agreeing (deployment.moves steps) := by
  induction steps generalizing deployment with
  | nil => exact agreeing
  | cons step rest ih =>
    obtain ⟨own, others⟩ := List.forall_mem_cons.mp external
    exact ih (agreeing.move own) others

end Agreeing

/-- Subscribing touches the session and the handlers only. -/
theorem subscribe_eq (deployment : Deployment) (kind : ResourceType) (names : List String) :
    ∃ session handlers,
      deployment.subscribe kind names = { deployment with session, handlers } := by
  unfold subscribe
  split
  · exact ⟨_, _, rfl⟩
  · dsimp only
    split
    · exact ⟨_, _, rfl⟩
    · split
      · exact ⟨_, _, rfl⟩
      · exact ⟨_, _, rfl⟩

end MeshDiscovery.Deployment

namespace MeshDiscovery.Exchange

open Deployment

theorem agreeing_register (config : ClientConfig) :
    Agreeing (register config (Session.fresh config.node)) where
  relays kind := ⟨.empty, by cases kind <;> rfl⟩
  agrees := by
    have nothing : (register config (Session.fresh config.node)).wanted = fun _ => [] := by
      funext kind
      cases kind <;> rfl
    rw [nothing]
    refine ⟨?_, fun _ => List.Pairwise.nil, ?_, fun _ _ => rfl, ?_, fun _ _ => .nil [], ?_⟩
    · exact (Session.coherent_fresh config.node).of_fields rfl rfl rfl rfl (fun _ => rfl) rfl
    · intro kind request recorded
      cases kind <;> cases recorded
    · intro dispatch some
      cases some
    · intro generation current
      cases current
  dealing busy := absurd rfl busy
  external := by
    refine ⟨?_, ?_, ?_, .empty⟩
    · intro frame member
      cases member
    · intro script member
      cases member
    · intro axis key entry member
      cases axis <;> cases member

/-- An exchange that was started agrees with what it has subscribed to. -/
theorem agreeing_start (config : ClientConfig) :
    ∃ started, start true config = .ok started ∧ Agreeing started := by
  have registered := agreeing_register config
  have listeners := registered.subscribe .listener [] rfl (by intro dispatch some; cases some)
  obtain ⟨session, handlers, same⟩ :=
    (register config (Session.fresh config.node)).subscribe_eq .listener []
  have alive : ((register config (Session.fresh config.node)).subscribe .listener []).isAlive =
      true := by
    rw [same]
    rfl
  have waiting : ((register config (Session.fresh config.node)).subscribe .listener []).agenda =
      [] := by
    rw [same]
    rfl
  have clusters := listeners.subscribe .cluster [] alive (by simp [listeners.idle waiting])
  exact ⟨_, rfl, clusters.aside (aside_report _ _)⟩

/-- On every stream of an exchange, the name lists of the messages for a kind never lose a name, and
each is in strictly ascending order. The last one on a stream in use is what the client has
subscribed to, also while a response is dealt with. -/
theorem streams_agree_with_subscriptions (config : ClientConfig) (steps : List Move)
    (external : ∀ step ∈ steps, step.External) :
    ∃ started, start true config = .ok started ∧
      let exchange := started.moves steps
      (∀ generation kind,
        (exchange.session.namesOn generation kind).Pairwise (· ⊆ ·) ∧
          ∀ names ∈ exchange.session.namesOn generation kind, names.Pairwise (· < ·)) ∧
      ∀ generation kind request, exchange.session.current? = some generation →
        exchange.session.accepts generation = true →
        exchange.session.recorded.get kind = some request →
        ∃ subscription, exchange.subscription? kind = some subscription ∧
          (exchange.session.namesOn generation kind).getLast? = some subscription.names.toList := by
  obtain ⟨started, isStarted, initially⟩ := agreeing_start config
  refine ⟨started, isStarted, ?_⟩
  intro exchange
  have agreeing : Agreeing exchange := initially.moves external
  constructor
  · intro generation kind
    have growing := agreeing.agrees.growing generation kind
    exact ⟨growing.monotone, growing.sorted⟩
  · intro generation kind request current accepting recorded
    obtain ⟨names, relay⟩ := agreeing.relays kind
    obtain ⟨subscription, present, pair⟩ := Option.map_eq_some_iff.mp relay
    have sameNames : subscription.names = names := congrArg Prod.fst pair
    have same : exchange.wanted kind = subscription.names.toList := by rw [wanted, relay, sameNames]
    refine ⟨subscription, present, ?_⟩
    rw [← same]
    exact agreeing.agrees.latest generation current accepting kind request recorded

/-- A cluster that arrives has its endpoints requested by name on the same stream. -/
theorem endpoints_follow_clusters :
    let config : ClientConfig :=
      ⟨⟨none, "control:15010", "", none⟩, ⟨"n", "mesh", "client", "1"⟩, 10000, []⟩
    let response : Response :=
      { typeUrl := ResourceType.cluster.url
        version := "1"
        nonce := "n1"
        resources := [ResourceType.cluster.pack { name := "a" }] }
    let steps : List Move :=
      [.start 0, .perform (.respond response none), .read 0, .proceed, .proceed, .proceed]
    (∀ step ∈ steps, step.External) ∧
      ∃ started subscription, start true config = .ok started ∧
        (started.moves steps).subscription? .clusterLoadAssignment = some subscription ∧
        (started.moves steps).session.namesOn 0 .clusterLoadAssignment = [["a"]] ∧
        subscription.names.toList = ["a"] := by
  intro config response steps
  have external : ∀ step ∈ steps, step.External := by
    simpa [steps, Move.External] using Operation.External.plain rfl
  obtain ⟨started, isStarted, _, agreed⟩ := streams_agree_with_subscriptions config steps external
  have observed : ((start true config).toOption.map fun started =>
      ((started.moves steps).session.current?, (started.moves steps).session.accepts 0,
        (started.moves steps).session.recorded.get .clusterLoadAssignment,
        (started.moves steps).session.namesOn 0 .clusterLoadAssignment)) =
      some (some 0, true, some { Session.Agrees.requestFor .clusterLoadAssignment ["a"] with
        node := some config.node }, [["a"]]) := by
    decide +kernel
  rw [isStarted] at observed
  obtain ⟨current, accepting, recorded, names⟩ : (started.moves steps).session.current? = some 0 ∧
      (started.moves steps).session.accepts 0 = true ∧
      (started.moves steps).session.recorded.get .clusterLoadAssignment =
        some { Session.Agrees.requestFor .clusterLoadAssignment ["a"] with
          node := some config.node } ∧
      (started.moves steps).session.namesOn 0 .clusterLoadAssignment = [["a"]] := by
    simpa only [Except.toOption, Option.map_some, Option.some.injEq, Prod.mk.injEq] using observed
  obtain ⟨subscription, present, last⟩ :=
    agreed 0 .clusterLoadAssignment _ current accepting recorded
  rw [names] at last
  exact ⟨external, started, subscription, isStarted, present, names, (Option.some.inj last).symm⟩

end MeshDiscovery.Exchange
