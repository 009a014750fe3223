import MeshDiscovery.Proofs.Deployment.External
import MeshDiscovery.Proofs.Session.Standing

/-!
What happens beside the subscriptions of a client. External operations and the frames of calls in
progress change the cache, the consumers' view and the control plane, and of the session only what
its frame allows.
-/

namespace MeshDiscovery.Deployment

/-- The names of the subscription for a kind and its callback. -/
def relay? (deployment : Deployment) (kind : ResourceType) : Option (NameSet × Option Callback) :=
  (deployment.subscription? kind).map fun subscription =>
    (subscription.names, subscription.callback)

/-- Nothing is subscribed, requested or acknowledged, and what was to be done stays so. -/
structure Aside (before after : Deployment) : Prop where
  relays : ∀ kind, after.relay? kind = before.relay? kind
  session : Session.Frame before.session after.session
  coherent : before.session.Coherent → after.session.Coherent
  agenda : ∀ frame ∈ before.agenda, frame ∈ after.agenda
  external : before.External → after.External

theorem Aside.refl (deployment : Deployment) : Aside deployment deployment :=
  ⟨fun _ => rfl, .refl _, id, fun _ => id, id⟩

theorem Aside.trans {before between after : Deployment} (first : Aside before between)
    (second : Aside between after) : Aside before after where
  relays kind := (second.relays kind).trans (first.relays kind)
  session := first.session.trans second.session
  coherent valid := second.coherent (first.coherent valid)
  agenda frame member := second.agenda frame (first.agenda frame member)
  external valid := second.external (first.external valid)

theorem Aside.of_fields {before after : Deployment} (handlers : after.handlers = before.handlers)
    (session : after.session = before.session) (agenda : after.agenda = before.agenda)
    (plan : after.plane.plan = before.plane.plan) (cache : after.cache = before.cache) :
    Aside before after where
  relays kind := by rw [relay?, subscription?, handlers, relay?, subscription?]
  session := by rw [session]; exact .refl _
  coherent valid := by rw [session]; exact valid
  agenda frame member := by rw [agenda]; exact member
  external valid := valid.of_fields agenda plan cache

variable (deployment : Deployment)

theorem aside_answer (reply : Reply) : Aside deployment (deployment.answer reply) :=
  .of_fields rfl rfl rfl rfl rfl

theorem aside_emit (event : Event) : Aside deployment (deployment.emit event) :=
  .of_fields rfl rfl rfl rfl rfl

theorem aside_push (frames : List Frame) (external : ∀ frame ∈ frames, frame.External) :
    Aside deployment (deployment.push frames) where
  relays _ := rfl
  session := .refl _
  coherent := id
  agenda _ member := List.mem_append_right frames member
  external valid := valid.push external

theorem aside_session {session : Session} (frame : Session.Frame deployment.session session)
    (coherent : deployment.session.Coherent → session.Coherent) :
    Aside deployment { deployment with session } where
  relays _ := rfl
  session := frame
  coherent := coherent
  agenda _ := id
  external valid := valid.of_fields rfl rfl rfl

theorem aside_report (notice : Notice) :
    Aside deployment { deployment with session := deployment.session.report notice } :=
  aside_session deployment (Session.frame_report _ notice) fun valid => valid.report notice

theorem aside_cache {cache : Cache Listener}
    (external : deployment.External → ({ deployment with cache } : Deployment).External) :
    Aside deployment { deployment with cache } where
  relays _ := rfl
  session := .refl _
  coherent := id
  agenda _ := id
  external := external

theorem aside_callListener (publication : Publication) (id : ListenerId) {listener : Listener}
    (external : listener.External) :
    Aside deployment (deployment.callListener publication id listener) := by
  have told := aside_emit deployment (.notified id listener.label publication)
  unfold callListener
  split
  · exact told
  · rename_i script rest scripts
    have own : ∀ each ∈ script :: rest, Script.External each := by
      rw [← scripts]
      exact external
    have spent := aside_cache (deployment.emit (.notified id listener.label publication))
      fun valid => valid.spend publication.axis publication.key id
        fun each member => own each (List.mem_cons_of_mem script member)
    exact (told.trans spent).trans (aside_push _ [.script script]
      (by simpa [Frame.External] using own script List.mem_cons_self))

theorem aside_publish (publication : Publication) :
    Aside deployment (deployment.publish publication) := by
  have stored := aside_cache deployment fun valid => valid.store publication
  unfold publish
  dsimp only
  split
  · exact stored
  · exact stored.trans (aside_push _ [.notify publication _ 0] (by simp [Frame.External]))

theorem aside_notifyNext (valid : deployment.External) (publication : Publication)
    (opened start : ListenerId) :
    Aside deployment (deployment.notifyNext publication opened start) := by
  unfold notifyNext
  split
  · exact .refl deployment
  · rename_i id listener next
    have member := Registry.mem_members_of_next? _ next
    have external : listener.External := valid.listening publication.axis publication.key _ member
    have later := aside_push deployment [.notify publication opened (id + 1)]
      (by simp [Frame.External])
    exact later.trans (aside_callListener _ publication id external)

theorem aside_watch (axis : Axis) (key : String) {listener : Listener}
    (external : listener.External) : Aside deployment (deployment.watch axis key listener) := by
  have added := aside_cache deployment fun valid => valid.add axis key external
  have registered := added.trans (aside_push _
    [.bind listener.label deployment.cache.nextId, .yield .done] (by simp [Frame.External]))
  unfold watch
  dsimp only
  split
  · exact registered
  · exact registered.trans (aside_callListener _ _ _ external)

theorem aside_withClient {act : Deployment → Deployment}
    (acts : Aside deployment (act deployment)) : Aside deployment (deployment.withClient act) := by
  unfold withClient
  split
  · exact acts
  · exact aside_answer deployment _

theorem aside_withSubscription (kind : ResourceType) {act : Subscription Callback → Deployment}
    (acts : ∀ subscription, Aside deployment (act subscription)) :
    Aside deployment (deployment.withSubscription kind act) := by
  unfold withSubscription
  split
  · exact acts _
  · exact aside_answer deployment _

theorem aside_deliver (stream : Option Nat) (delivery : Delivery) :
    Aside deployment (deployment.deliver stream delivery) := by
  unfold deliver
  dsimp only
  split
  · exact aside_answer deployment _
  · split
    · exact .of_fields rfl rfl rfl rfl rfl
    · exact aside_answer deployment _

theorem aside_complete (stream : Option Nat) : Aside deployment (deployment.complete stream) := by
  unfold complete
  dsimp only
  split
  · exact aside_answer deployment _
  · rename_i server _
    split
    · exact aside_answer deployment _
    · have left := aside_session deployment
        (Session.frame_shutChannel deployment.session server.generation) fun valid =>
          valid.shutChannel server.generation
      exact left.trans (.of_fields rfl rfl rfl rfl rfl)

theorem aside_close :
    Aside deployment { deployment with session := deployment.session.close } :=
  aside_session deployment (Session.frame_close _) fun valid => valid.close

theorem aside_unwatch (axis : Axis) (key label : String) :
    Aside deployment (deployment.unwatch axis key label) := by
  unfold unwatch
  split
  · exact aside_answer deployment _
  · rename_i id _
    have removed := aside_cache deployment fun valid => valid.remove axis key id
    exact removed.trans (aside_answer _ _)

theorem aside_plan {steps : List (ConnectStep Operation)}
    (each : ∀ script, .accompany script ∈ steps → Script.External script) :
    Aside deployment
      { deployment with
        plane := { deployment.plane with plan := deployment.plane.plan ++ steps } } where
  relays _ := rfl
  session := .refl _
  coherent := id
  agenda _ := id
  external valid := by
    refine ⟨valid.agenda, ?_, valid.listening, valid.occupied⟩
    intro script member
    rcases List.mem_append.mp member with old | new
    · exact valid.planned script old
    · exact each script new

private theorem aside_performPlain {operation : Operation} (plain : operation.isPlain = true) :
    Aside deployment (deployment.perform operation) := by
  cases operation with
  | lastRequest | node | state | describeSession | describeExchange | cached | cachedAll =>
    apply aside_withClient
    exact aside_answer deployment _
  | close =>
    apply aside_withClient
    exact (aside_close deployment).trans (aside_answer _ _)
  | release | admitHanging => exact .of_fields rfl rfl rfl rfl rfl
  | alive | unknown => exact aside_answer deployment _
  | subscribedNames kind | lastAck kind | describeSubscription kind | subscriptionFacts kind =>
    apply aside_withSubscription
    intro subscription
    exact aside_answer deployment _
  | clientNames kind =>
    apply aside_withClient
    apply aside_withSubscription
    intro subscription
    exact aside_answer deployment _
  | respond response stream => exact aside_deliver deployment stream _
  | fail status stream => exact aside_deliver deployment stream _
  | complete stream => exact aside_complete deployment stream
  | unwatch axis key label =>
    apply aside_withClient
    exact aside_unwatch deployment axis key label
  | register | registerCounter | request | subscribe | decode | handle | setCallback | plan | batch
  | watch => cases plain

/-- External operations are aside. -/
theorem aside_perform {operation : Operation} (external : operation.External) :
    Aside deployment (deployment.perform operation) := by
  cases external with
  | plain plain => exact aside_performPlain deployment plain
  | plan each => exact (aside_plan deployment each).trans (aside_answer _ _)
  | @batch operations each =>
    exact aside_push deployment [.batch operations []] (by simpa [Frame.External] using each)
  | @watch axis key label scripts each =>
    have own : Listener.External ⟨label, scripts⟩ := each
    apply aside_withClient
    exact aside_watch deployment axis key own

theorem aside_accept (generation : Nat) : Aside deployment (deployment.accept generation) := by
  have opened := aside_session deployment
    (Session.frame_connectSucceeded deployment.session generation) fun valid =>
      valid.connectSucceeded generation
  exact opened.trans (.of_fields rfl rfl rfl rfl rfl)

theorem aside_connect (external : deployment.External) (generation : Nat) :
    Aside deployment (deployment.connect generation) := by
  unfold connect
  split
  · exact aside_accept deployment generation
  · rename_i step rest planned
    have all : ∀ script, .accompany script ∈ step :: rest → Script.External script := by
      rw [← planned]
      exact external.planned
    have taken : Aside deployment
        { deployment with plane := { deployment.plane with plan := rest } } :=
      ⟨fun _ => rfl, .refl _, id, fun _ => id, fun valid => ⟨valid.agenda,
        fun script member => all script (List.mem_cons_of_mem step member), valid.listening,
        valid.occupied⟩⟩
    dsimp only
    split
    · exact taken.trans (aside_accept _ generation)
    · rename_i problem
      exact taken.trans (aside_session _
        (Session.frame_connectFailed deployment.session generation problem)
        fun valid => valid.connectFailed generation problem)
    · exact taken.trans (.of_fields rfl rfl rfl rfl rfl)
    · rename_i script
      have own := all script List.mem_cons_self
      exact taken.trans (aside_push _ [.script script, .accept generation]
        (by simpa [Frame.External] using own))

theorem aside_start (external : deployment.External) (generation : Nat) :
    Aside deployment (deployment.start generation) := by
  have started := aside_session deployment (Session.frame_start deployment.session generation)
    fun valid => valid.start generation
  unfold start
  split
  · dsimp only
    split
    · exact started.trans (aside_connect _ (started.external external) generation)
    · exact started
  · exact .refl deployment

theorem aside_resume (generation : Nat) : Aside deployment (deployment.resume generation) := by
  unfold resume
  split
  · have admitted : Aside deployment
        { deployment with
          plane := { deployment.plane with
            admitted := deployment.plane.admitted.filter (· ≠ generation) } } :=
      .of_fields rfl rfl rfl rfl rfl
    exact admitted.trans (aside_accept _ generation)
  · exact .refl deployment

theorem subscription?_setHandler (kind other : ResourceType)
    (subscription : Subscription Callback) :
    (deployment.setHandler kind (.subscription subscription)).subscription? other =
      if other = kind then some subscription else deployment.subscription? other := by
  simp only [subscription?, setHandler, PerType.get_set]
  by_cases same : other = kind
  · simp [same]
  · simp [same]

/-- Noting that a response was taken changes neither names nor callbacks. -/
theorem aside_settle {kind : ResourceType} {subscription : Subscription Callback}
    (present : deployment.subscription? kind = some subscription) (version nonce : String) :
    Aside deployment
      (deployment.setHandler kind (.subscription (subscription.settle version nonce))) where
  relays other := by
    rw [relay?, subscription?_setHandler, relay?]
    by_cases same : other = kind
    · rw [if_pos same, same, present]
      rfl
    · rw [if_neg same]
  session := .refl _
  coherent := id
  agenda _ := id
  external valid := valid.of_fields rfl rfl rfl

/-- Taking up a frame is aside, unless it acknowledges a response. -/
theorem aside_proceed {frame : Frame} {rest : List Frame} (external : deployment.External)
    (pending : deployment.agenda = frame :: rest) (other : frame ≠ .acknowledge) :
    Aside { deployment with agenda := rest } deployment.proceed := by
  obtain ⟨own, next⟩ := external.drop pending
  unfold proceed
  rw [pending]
  cases frame with
  | script operations =>
    cases operations with
    | nil => exact .refl _
    | cons entry more =>
      have performed := own entry List.mem_cons_self
      have later : Script.External more :=
        fun each member => own each (List.mem_cons_of_mem _ member)
      have pushed := aside_push { deployment with agenda := rest } [.record entry.1, .script more]
        (by simpa [Frame.External] using later)
      exact pushed.trans (aside_perform _ performed)
  | record label => exact aside_emit _ _
  | yield reply => exact aside_answer _ reply
  | batch operations replies =>
    cases operations with
    | nil => exact aside_answer _ _
    | cons operation more =>
      have performed := own operation List.mem_cons_self
      have later : ∀ each ∈ more, each.External :=
        fun each member => own each (List.mem_cons_of_mem _ member)
      have pushed := aside_push { deployment with agenda := rest } [.gather more replies]
        (by simpa [Frame.External] using later)
      exact pushed.trans (aside_perform _ performed)
  | gather operations replies =>
    exact aside_push _ [.batch operations _] (by simpa [Frame.External] using own)
  | publish publications =>
    cases publications with
    | nil => exact .refl _
    | cons publication more =>
      have pushed := aside_push { deployment with agenda := rest } [.publish more]
        (by simp [Frame.External])
      exact pushed.trans (aside_publish _ publication)
  | notify publication opened start => exact aside_notifyNext _ next publication opened start
  | bind label id => exact .of_fields rfl rfl rfl rfl rfl
  | settle kind version nonce =>
    dsimp only
    split
    · rename_i subscription present
      exact aside_settle _ present version nonce
    · exact .refl _
  | acknowledge => exact absurd rfl other
  | accept generation => exact aside_accept _ generation

end MeshDiscovery.Deployment
