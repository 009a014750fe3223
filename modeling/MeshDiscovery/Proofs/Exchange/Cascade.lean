import MeshDiscovery.Proofs.Deployment.Driving
import MeshDiscovery.Proofs.Exchange.References

namespace MeshDiscovery

open Session.Agrees (requestFor)

private theorem Session.queued_request_of_current (session : Session) {generation : Nat}
    (current : session.current? = some generation) (accepting : session.accepts generation = true)
    {kind : ResourceType} {names : List String} :
    (session.step (.request (requestFor kind names))).queued generation =
      session.queued generation ++ [session.signed (requestFor kind names)] := by
  have known := Session.Agrees.kind_requestFor kind names
  have phase : ∃ connected, session.phase = .active generation connected := by
    unfold current? at current
    split at current
    · rename_i other connected active
      cases current
      exact ⟨connected, active⟩
    all_goals cases current
  obtain ⟨connected, active⟩ := phase
  rcases session.request_cases (requestFor kind names) with ⟨unknown, _⟩ | ⟨other, _, same⟩
  · exact absurd (known.symm.trans unknown) (by simp)
  · obtain ⟨notices, noted⟩ := session.noting_eq other (requestFor kind names)
    rw [active] at same
    have accepts : (session.noting other (requestFor kind names)).accepts generation = true := by
      rw [noted]
      exact accepting
    rw [step, same, queued_queue, if_pos ⟨rfl, accepts⟩, noted]
    rfl

namespace Deployment

variable {deployment : Deployment}

/-- What a move does to the subscriptions, given the response that it hands over, if it hands one
over. -/
structure Cascaded (before after : Deployment) (handed : Option Response) : Prop where
  wanted : ∀ kind name, name ∈ after.wanted kind ↔ name ∈ before.wanted kind ∨
    ∃ response, handed = some response ∧ response.RefersTo kind name
  /-- The subscription for what is referred to is requested, by a session that has sent nothing else
  in between. -/
  requested : ∀ response kind name, handed = some response → response.RefersTo kind name →
    Driven before after [requestFor kind (after.wanted kind)] ∧
      ∃ notices metrics dispatch, after.session =
        ({ before.session with notices, metrics, dispatch } : Session).step
          (.request (requestFor kind (after.wanted kind)))
  silent : (∀ response, handed = some response → ∀ kind name, ¬ response.RefersTo kind name) →
    Driven before after []

namespace Cascaded

private theorem of_none {before after : Deployment} (driven : Driven before after [])
    (relays : ∀ kind, after.relay? kind = before.relay? kind) : Cascaded before after none where
  wanted kind name := by simp [Deployment.wanted, relays]
  requested _ _ _ handed := by cases handed
  silent _ := driven

private theorem prepared {first before after : Deployment} {handed : Option Response}
    (cascaded : Cascaded before after handed) (handlers : before.handlers = first.handlers)
    (driven : Driven first before [])
    (session : ∃ notices metrics dispatch,
      before.session = { first.session with notices, metrics, dispatch }) :
    Cascaded first after handed where
  wanted kind name := by
    have same : before.wanted kind = first.wanted kind := by
      simp only [Deployment.wanted, relay?, subscription?, handlers]
    rw [cascaded.wanted, same]
  requested response kind name isHanded refers := by
    obtain ⟨asked, notices, metrics, dispatch, later⟩ :=
      cascaded.requested response kind name isHanded refers
    obtain ⟨_, _, _, same⟩ := session
    rw [same] at later
    exact ⟨driven.trans asked, notices, metrics, dispatch, later⟩
  silent unreferred := driven.trans (cascaded.silent unreferred)

private theorem push {before after : Deployment} {handed : Option Response}
    (cascaded : Cascaded before after handed) (frames : List Frame) :
    Cascaded before (after.push frames) handed :=
  ⟨cascaded.wanted, cascaded.requested, cascaded.silent⟩

end Cascaded

private theorem reportDefects_eq (deployment : Deployment) (kind : ResourceType)
    (response : Response) : ∃ notices metrics, deployment.reportDefects kind response =
      { deployment with session := { deployment.session with notices, metrics } } := by
  unfold reportDefects
  dsimp only
  rw [Agreeing.foldl_report]
  exact ⟨_, _, rfl⟩

private theorem driven_reportDefects (kind : ResourceType) (response : Response) :
    Driven deployment (deployment.reportDefects kind response) [] :=
  ⟨_, session_reportDefects deployment kind response,
    by simp [List.filterMap_map, Session.Step.asked?]⟩

private theorem subscribe_names {kind : ResourceType} {subscription : Subscription Callback}
    (present : deployment.subscription? kind = some subscription)
    (alive : deployment.isAlive = true) {names : List String} (named : names ≠ []) :
    deployment.subscribe kind names =
      { deployment.setHandler kind (.subscription (subscription.add names)) with
        session := deployment.session.step
          (.request (requestFor kind (subscription.add names).names.toList)) } := by
  have some : (subscription.add names).names.isEmpty = false := by
    obtain ⟨name, member⟩ := List.exists_mem_of_ne_nil names named
    have inside : name ∈ (subscription.add names).names :=
      NameSet.mem_insertAll.mpr (.inl member)
    rw [NameSet.isEmpty, List.isEmpty_eq_false_iff]
    exact List.ne_nil_of_mem inside
  have whole : (subscription.add names).request? kind =
      Option.some (requestFor kind (subscription.add names).names.toList) := by
    rw [Subscription.request?, some]
    rfl
  have still : (deployment.setHandler kind
      (.subscription (subscription.add names))).isAlive = true := alive
  unfold subscribe
  simp only [present, whole, if_pos still]
  rfl

private theorem wanted_subscribe {kind : ResourceType} {subscription : Subscription Callback}
    (present : deployment.subscription? kind = some subscription) (names : List String)
    (other : ResourceType) (name : String) :
    name ∈ (deployment.setHandler kind (.subscription (subscription.add names))).wanted other ↔
      name ∈ deployment.wanted other ∨ (other = kind ∧ name ∈ names) := by
  have before : deployment.wanted kind = subscription.names.toList := by
    simp [wanted, relay?, present]
  rw [Agreeing.wanted_setHandler]
  by_cases equal : other = kind
  · rw [equal, Session.Agrees.wanting_self, before]
    show name ∈ subscription.names.insertAll names ↔ _
    rw [NameSet.mem_insertAll]
    simp [or_comm]
  · rw [Session.Agrees.wanting_of_ne equal]
    simp [equal]

private theorem cascaded_subscribe {target : ResourceType} {subscription : Subscription Callback}
    (present : deployment.subscription? target = some subscription)
    (alive : deployment.isAlive = true) {names : List String} (named : names ≠ [])
    {response : Response}
    (refers : ∀ kind name, response.RefersTo kind name ↔ kind = target ∧ name ∈ names) :
    Cascaded deployment (deployment.subscribe target names) (some response) := by
  rw [subscribe_names present alive named]
  have whole := congrFun
    (Agreeing.wanted_setHandler deployment target (subscription.add names)) target
  rw [Session.Agrees.wanting_self] at whole
  refine ⟨fun kind name => ?_, ?_, fun unreferred => ?_⟩
  · refine (wanted_subscribe present names kind name).trans (or_congr_right ?_)
    rw [← refers]
    simp
  · intro _ kind name isHanded isReferred
    cases isHanded
    obtain ⟨rfl, _⟩ := (refers kind name).mp isReferred
    have same : requestFor kind (wanted { deployment.setHandler kind
          (.subscription (subscription.add names)) with
        session := deployment.session.step
          (.request (requestFor kind (subscription.add names).names.toList)) } kind) =
        requestFor kind (subscription.add names).names.toList :=
      congrArg (requestFor kind) whole
    rw [same]
    exact ⟨⟨[.request _], rfl, rfl⟩, _, _, _, rfl⟩
  · obtain ⟨name, member⟩ := List.exists_mem_of_ne_nil names named
    exact absurd ((refers target name).mpr ⟨rfl, member⟩) (unreferred response rfl target name)

private theorem cascaded_followReferences (alive : deployment.isAlive = true)
    (relays : ∀ kind, ∃ names, deployment.relay? kind = some (names, some .relay))
    {kind : ResourceType} {response : Response} (typed : response.typeUrl = kind.url) :
    Cascaded deployment (deployment.followReferences kind (response.models kind))
      (some response) := by
  have unfollowed (unreferred : ∀ target name, ¬ response.RefersTo target name) :
      Cascaded deployment deployment (some response) := by
    refine ⟨fun target name => ?_, ?_, fun _ => .refl deployment⟩
    · simp [unreferred]
    · intro _ target name isHanded refers
      cases isHanded
      exact absurd refers (unreferred target name)
  unfold followReferences
  cases referred : kind.referred? with
  | none =>
    refine unfollowed fun target name refers => ?_
    rw [refers.referred typed] at referred
    cases referred
  | some target =>
    have refers (other : ResourceType) (name : String) : response.RefersTo other name ↔
        other = target ∧ name ∈ kind.references (response.models kind) := by
      rw [Response.mem_references typed referred]
      constructor
      · intro refers
        obtain rfl := Option.some.inj ((refers.referred typed).symm.trans referred)
        exact ⟨rfl, refers⟩
      · rintro ⟨rfl, refers⟩
        exact refers
    dsimp only
    split
    · rename_i unnamed
      refine unfollowed fun other name isReferred => ?_
      have member := ((refers other name).mp isReferred).2
      rw [List.isEmpty_iff.mp unnamed] at member
      cases member
    · rename_i named
      obtain ⟨names, relay⟩ := relays target
      obtain ⟨subscription, present, _⟩ := Option.map_eq_some_iff.mp relay
      exact cascaded_subscribe present alive (by simpa using named) refers

namespace Agreeing

private theorem cascaded_relaying (agreeing : Agreeing deployment) {generation : Nat}
    (reading : deployment.isReading generation = true) (plane : ControlPlane) {kind : ResourceType}
    {response : Response} (typed : response.typeUrl = kind.url) :
    Cascaded deployment
      (({ deployment with
        plane
        session := deployment.session.step (.read generation response) } :
          Deployment).relaying kind response) (some response) := by
  obtain ⟨notices, metrics, dispatch, read⟩ : ∃ notices metrics dispatch,
      deployment.session.step (.read generation response) =
        { deployment.session with notices, metrics, dispatch } := by
    rcases deployment.session.read_cases generation response with
      ⟨_, _, same⟩ | ⟨_, _, _, _, _, _, _, same⟩
    · exact ⟨_, _, _, same⟩
    · exact ⟨_, _, _, same⟩
  have taken : Driven deployment { deployment with
      plane, session := deployment.session.step (.read generation response) } [] :=
    .step (.read generation response) rfl rfl
  unfold relaying
  generalize received : ({ deployment with
    plane, session := deployment.session.step (.read generation response) } : Deployment) =
      before at taken ⊢
  obtain ⟨reports, counts, reported⟩ :=
    reportDefects_eq (before.push [.acknowledge]) kind response
  have looked : Driven before ((before.push [.acknowledge]).reportDefects kind response) [] :=
    .trans (.of_session rfl) (driven_reportDefects kind response)
  rw [reported] at looked ⊢
  refine Cascaded.push ?_ _
  refine Cascaded.prepared (cascaded_followReferences ?alive ?relays typed) ?handlers
    (taken.trans (looked.trans (.of_session rfl))) ?session
  case alive =>
    rw [← received, read]
    exact isAlive_of_reading reading rfl
  case relays =>
    rw [← received]
    exact agreeing.relays
  case handlers =>
    rw [← received]
    rfl
  case session =>
    rw [← received, read]
    exact ⟨_, _, _, rfl⟩

private theorem cascaded_proceed (agreeing : Agreeing deployment) :
    Cascaded deployment deployment.proceed none := by
  refine .of_none (driven_proceed agreeing.external) ?_
  cases pending : deployment.agenda with
  | nil =>
    simp only [Deployment.proceed, pending]
    exact fun _ => trivial
  | cons frame rest =>
    by_cases last : frame = .acknowledge
    · subst last
      simp only [Deployment.proceed, pending]
      exact fun _ => rfl
    · exact (aside_proceed deployment agreeing.external pending last).relays

/-- Whatever moves, the subscriptions follow what is handed over. -/
theorem cascaded (agreeing : Agreeing deployment) {step : Move} (external : step.External) :
    Cascaded deployment (deployment.move step) (deployment.handed? step) := by
  unfold Deployment.move
  split
  · exact agreeing.cascaded_proceed
  · rename_i busy _
    have none (other : Move) : deployment.handed? other = Option.none := by
      cases other <;> simp [handed?, busy]
    rw [none]
    exact .of_none (.refl deployment) fun _ => rfl
  · exact .of_none (driven_perform external) (aside_perform deployment external).relays
  · exact .of_none (driven_start _) (aside_start deployment agreeing.external _).relays
  · exact .of_none (driven_resume _) (aside_resume deployment _).relays
  · rename_i generation waiting
    have reading := agreeing.reading waiting generation
    generalize deployment.handed? (.read generation) = handed at reading ⊢
    generalize deployment.read generation = after at reading ⊢
    cases reading with
    | aside plane steps plan silent => exact .of_none ⟨steps, rfl, silent⟩ fun _ => rfl
    | relayed plane kind response plan typed reading current =>
      exact agreeing.cascaded_relaying reading plane typed
  · rename_i generation waiting
    exact .of_none (.step (.stop generation) rfl
      (Session.step_stop_of_idle (agreeing.idle waiting) generation).symm) fun _ => rfl
  · exact .of_none (.step (.fire _) rfl rfl) fun _ => rfl
  · exact .of_none (.step (.cancel _) rfl rfl) fun _ => rfl
  · exact .of_none (.step (.elapse _) rfl rfl) fun _ => rfl

theorem driven (agreeing : Agreeing deployment) {step : Move} (external : step.External) :
    ∃ asked, Driven deployment (deployment.move step) asked := by
  have cascaded := agreeing.cascaded external
  by_cases referring : ∃ response kind name, deployment.handed? step = some response ∧
      response.RefersTo kind name
  · obtain ⟨response, kind, name, handed, refers⟩ := referring
    exact ⟨_, (cascaded.requested response kind name handed refers).1⟩
  · exact ⟨[], cascaded.silent fun response handed kind name refers =>
      referring ⟨response, kind, name, handed, refers⟩⟩

/-- As moves are made, the names of a subscription are joined by what is referred to, and by nothing
else. -/
theorem mem_wanted_moves (agreeing : Agreeing deployment) {steps : List Move}
    (external : ∀ step ∈ steps, step.External) (kind : ResourceType) (name : String) :
    name ∈ (deployment.moves steps).wanted kind ↔ name ∈ deployment.wanted kind ∨
      ∃ response ∈ deployment.handed steps, response.RefersTo kind name := by
  induction steps generalizing deployment with
  | nil => simp [Deployment.moves, handed]
  | cons step rest ih =>
    obtain ⟨own, others⟩ := List.forall_mem_cons.mp external
    have later := ih (agreeing.move own) others
    have first := (agreeing.cascaded own).wanted kind name
    show name ∈ ((deployment.move step).moves rest).wanted kind ↔ _
    rw [later, first, or_assoc, handed]
    simp only [List.mem_append, Option.mem_toList, or_and_right, exists_or]

end Agreeing

end Deployment

namespace Exchange

open Deployment

/-- An exchange is subscribed to exactly what was discovered: the routes that readable entries of
the listener responses so far refer to, and the endpoints that readable entries of the cluster
responses refer to. A response that refers to something causes one request, for the whole
subscription, and no other move causes any. -/
theorem subscriptions_are_what_was_discovered (config : ClientConfig) (steps : List Move)
    (external : ∀ step ∈ steps, step.External) :
    ∃ started, start true config = .ok started ∧
      let exchange := started.moves steps
      (∀ kind, ∃ subscription, exchange.subscription? kind = some subscription ∧
        subscription.names.toList.Pairwise (· < ·) ∧
        ∀ name, name ∈ subscription.names.toList ↔
          ∃ response ∈ started.handed steps, response.RefersTo kind name) ∧
      ∀ step : Move, step.External →
        let next := exchange.move step
        (∀ response kind name, exchange.handed? step = some response →
          response.RefersTo kind name →
          let request := requestFor kind (next.wanted kind)
          Driven exchange next [request] ∧
            ∀ generation, exchange.session.current? = some generation →
              exchange.session.accepts generation = true →
              next.session.queued generation =
                exchange.session.queued generation ++ [exchange.session.signed request]) ∧
        ((∀ response, exchange.handed? step = some response →
          ∀ kind name, ¬ response.RefersTo kind name) → Driven exchange next []) := by
  obtain ⟨started, isStarted, initially⟩ := agreeing_start config
  refine ⟨started, isStarted, ?_⟩
  intro exchange
  have agreeing : Agreeing exchange := initially.moves external
  refine ⟨fun kind => ?_, fun step own => ?_⟩
  · have nothing : started.wanted kind = [] := by
      cases isStarted
      cases kind <;> rfl
    obtain ⟨names, relay⟩ := agreeing.relays kind
    obtain ⟨subscription, present, pair⟩ := Option.map_eq_some_iff.mp relay
    have same : exchange.wanted kind = subscription.names.toList := by
      rw [wanted, relay]
      exact congrArg NameSet.toList (congrArg Prod.fst pair).symm
    refine ⟨subscription, present, subscription.names.sorted, fun name => ?_⟩
    rw [← same, initially.mem_wanted_moves external, nothing]
    simp
  · intro next
    have cascaded := agreeing.cascaded own
    refine ⟨fun response kind name isHanded refers => ?_, cascaded.silent⟩
    intro request
    obtain ⟨driven, notices, metrics, dispatch, requested⟩ :=
      cascaded.requested response kind name isHanded refers
    refine ⟨driven, fun generation current accepting => ?_⟩
    rw [requested]
    exact Session.queued_request_of_current
      { exchange.session with notices, metrics, dispatch } current accepting

/-- The endpoints of two clusters, one of which has another name for them, are requested once, and
an entry of another kind between them is passed over. -/
theorem endpoints_of_two_clusters_are_requested_once :
    let config : ClientConfig :=
      ⟨⟨none, "control:15010", "", none⟩, ⟨"n", "mesh", "client", "1"⟩, 10000, []⟩
    let response : Response :=
      { typeUrl := ResourceType.cluster.url
        version := "1"
        nonce := "n1"
        resources :=
          [ResourceType.cluster.pack { name := "b", edsClusterConfig := some ⟨"e"⟩ },
            ResourceType.listener.pack { name := "l" }, ResourceType.cluster.pack { name := "a" }] }
    let steps : List Move := [.start 0, .perform (.respond response none)]
    (∀ step ∈ steps, step.External) ∧
      ∃ started, start true config = .ok started ∧
        let exchange := started.moves steps
        let next := exchange.move (.read 0)
        next.wanted .clusterLoadAssignment = ["a", "e"] ∧
        Driven exchange next [requestFor .clusterLoadAssignment ["a", "e"]] ∧
        next.session.queued 0 = exchange.session.queued 0 ++
          [exchange.session.signed (requestFor .clusterLoadAssignment ["a", "e"])] := by
  intro config response steps
  have external : ∀ step ∈ steps, step.External := by
    simpa [steps, Move.External] using Operation.External.plain rfl
  obtain ⟨started, isStarted, _, further⟩ :=
    subscriptions_are_what_was_discovered config steps external
  have refers : response.RefersTo .clusterLoadAssignment "e" := by
    have holds : response.Holds .cluster { name := "b", edsClusterConfig := some ⟨"e"⟩ } :=
      ⟨rfl, _, List.mem_cons_self, rfl, by decide +kernel⟩
    exact .endpoints holds (.inl ⟨rfl, by decide⟩)
  have observed : ((start true config).toOption.map fun started =>
      ((started.moves steps).handed? (.read 0), (started.moves steps).session.current?,
        (started.moves steps).session.accepts 0,
        ((started.moves steps).move (.read 0)).wanted .clusterLoadAssignment)) =
      some (some response, some 0, true, ["a", "e"]) := by
    decide +kernel
  rw [isStarted] at observed
  obtain ⟨isHanded, current, accepting, names⟩ :
      (started.moves steps).handed? (.read 0) = some response ∧
      (started.moves steps).session.current? = some 0 ∧
      (started.moves steps).session.accepts 0 = true ∧
      ((started.moves steps).move (.read 0)).wanted .clusterLoadAssignment = ["a", "e"] := by
    simpa only [Except.toOption, Option.map_some, Option.some.injEq, Prod.mk.injEq] using observed
  obtain ⟨driven, queued⟩ := (further (.read 0) trivial).1 response _ _ isHanded refers
  rw [names] at driven queued
  exact ⟨external, started, isStarted, names, driven, queued 0 current accepting⟩

end Exchange

end MeshDiscovery
