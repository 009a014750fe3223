import Mathlib.Data.List.Forall2
import MeshDiscovery.Deployment.Move
import MeshDiscovery.Proofs.Session.Coinciding

/-!
Clients whose sessions coincide and which otherwise differ at most in the results of operations and
in what the control plane has sent and nobody has read. Whatever happens to both, they still coincide
after it.
-/

namespace MeshDiscovery

/-- The event is about what consumers are told, not about the result of an operation. -/
def Event.isTold : Event → Bool
  | .handled .. | .updated .. | .notified .. => true
  | .performed .. => false

/-- Two frames differ at most in the results that a batch has collected. -/
inductive Frame.Coincides : Frame → Frame → Prop where
  | same (frame : Frame) : Coincides frame frame
  | batch (operations : List Operation) (replies others : List Reply) :
      Coincides (.batch operations replies) (.batch operations others)
  | gather (operations : List Operation) (replies others : List Reply) :
      Coincides (.gather operations replies) (.gather operations others)

/-- The control plane's end of a stream, apart from what nobody has read. -/
def ServerStream.emptied (server : ServerStream) : ServerStream :=
  { server with inbox := [] }

/-- Two control planes differ at most in what nobody has read. -/
structure ControlPlane.Coincides (left right : ControlPlane) : Prop where
  plan : right.plan = left.plan
  hanging : right.hanging = left.hanging
  admitted : right.admitted = left.admitted
  streams : right.streams.map ServerStream.emptied = left.streams.map ServerStream.emptied

namespace ControlPlane.Coincides

variable {left right : ControlPlane}

theorem trans {between : ControlPlane} (first : Coincides left between)
    (second : Coincides between right) : Coincides left right where
  plan := second.plan.trans first.plan
  hanging := second.hanging.trans first.hanging
  admitted := second.admitted.trans first.admitted
  streams := second.streams.trans first.streams

/-- Streams at the same place differ at most in what nobody has read. -/
theorem lookup (same : Coincides left right) (index : Nat) :
    (left.streams[index]? = none ∧ right.streams[index]? = none) ∨
      ∃ server inbox, left.streams[index]? = some server ∧
        right.streams[index]? = some { server with inbox } := by
  have emptied := congrArg (·[index]?) same.streams
  simp only [List.getElem?_map] at emptied
  cases found : left.streams[index]? with
  | none =>
    rw [found, Option.map_none, Option.map_eq_none_iff] at emptied
    exact .inl ⟨rfl, emptied⟩
  | some server =>
    rw [found, Option.map_some] at emptied
    obtain ⟨other, present, equal⟩ := Option.map_eq_some_iff.mp emptied
    refine .inr ⟨server, other.inbox, rfl, ?_⟩
    obtain ⟨generation, inbox, ended⟩ := other
    cases equal
    exact present

theorem set (same : Coincides left right) (index : Nat) (server : ServerStream)
    (one other : List Delivery) :
    Coincides { left with streams := left.streams.set index { server with inbox := one } }
      { right with streams := right.streams.set index { server with inbox := other } } :=
  { same with streams := by rw [List.map_set, List.map_set, same.streams]; rfl }

/-- What was not read is taken off a stream. -/
theorem taken {plane : ControlPlane} {index : Nat} {server : ServerStream}
    (found : plane.streams[index]? = some server) (rest : List Delivery) :
    Coincides { plane with streams := plane.streams.set index { server with inbox := rest } } plane
    where
  plan := rfl
  hanging := rfl
  admitted := rfl
  streams := by
    obtain ⟨inside, _⟩ := List.getElem?_eq_some_iff.mp found
    have unchanged : (plane.streams.map ServerStream.emptied).set index server.emptied =
        plane.streams.map ServerStream.emptied := by
      refine List.ext_getElem? fun place => ?_
      rw [List.getElem?_set]
      split
      · rename_i here
        rw [← here, List.getElem?_map, found, if_pos (by rwa [List.length_map])]
        rfl
      · rfl
    rw [List.map_set]
    exact unchanged.symm

end ControlPlane.Coincides

namespace Deployment

/-- Two clients coincide in their sessions, as sessions do, in their handlers with all names and
acknowledged versions, in their caches and listeners, in what consumers were told, and in what
remains to be done. -/
structure Coincides (left right : Deployment) : Prop where
  session : left.session.Coincides right.session
  held : right.held = left.held
  handlers : right.handlers = left.handlers
  cache : right.cache = left.cache
  labels : right.labels = left.labels
  plane : left.plane.Coincides right.plane
  told : right.events.filter Event.isTold = left.events.filter Event.isTold
  agenda : List.Forall₂ Frame.Coincides left.agenda right.agenda

namespace Coincides

variable {left right : Deployment}

theorem agenda_refl (frames : List Frame) : List.Forall₂ Frame.Coincides frames frames :=
  List.forall₂_same.mpr fun frame _ => .same frame

private theorem agenda_trans {first second third : List Frame}
    (left : List.Forall₂ Frame.Coincides first second)
    (right : List.Forall₂ Frame.Coincides second third) :
    List.Forall₂ Frame.Coincides first third := by
  induction left generalizing third with
  | nil => exact right
  | cons head _ ih =>
    cases right with
    | cons next rest =>
      refine .cons ?_ (ih rest)
      cases head with
      | same => exact next
      | batch operations replies => cases next <;> exact .batch operations replies _
      | gather operations replies => cases next <;> exact .gather operations replies _

theorem trans {between : Deployment} (first : Coincides left between)
    (second : Coincides between right) : Coincides left right where
  session := first.session.trans second.session
  held := second.held.trans first.held
  handlers := second.handlers.trans first.handlers
  cache := second.cache.trans first.cache
  labels := second.labels.trans first.labels
  plane := first.plane.trans second.plane
  told := second.told.trans first.told
  agenda := agenda_trans first.agenda second.agenda

theorem refl (deployment : Deployment) : Coincides deployment deployment where
  session := .refl _
  held := rfl
  handlers := rfl
  cache := rfl
  labels := rfl
  plane := ⟨rfl, rfl, rfl, rfl⟩
  told := rfl
  agenda := agenda_refl _

theorem subscription? (same : Coincides left right) (kind : ResourceType) :
    right.subscription? kind = left.subscription? kind := by
  rw [Deployment.subscription?, same.handlers, Deployment.subscription?]

theorem answer (same : Coincides left right) (one other : Reply) :
    Coincides (left.answer one) (right.answer other) :=
  { same with }

theorem push (same : Coincides left right) {one other : List Frame}
    (frames : List.Forall₂ Frame.Coincides one other) :
    Coincides (left.push one) (right.push other) :=
  { same with agenda := List.rel_append frames same.agenda }

theorem emit (same : Coincides left right) (event : Event) :
    Coincides (left.emit event) (right.emit event) :=
  { same with told := by simp only [Deployment.emit, List.filter_append, same.told] }

theorem emitResult (same : Coincides left right) (label : String) (one other : Reply) :
    Coincides (left.emit (.performed label one)) (right.emit (.performed label other)) :=
  { same with told := by simp [Deployment.emit, Event.isTold, same.told] }

theorem setHandler (same : Coincides left right) (kind : ResourceType) (handler : Handler) :
    Coincides (left.setHandler kind handler) (right.setHandler kind handler) :=
  { same with handlers := by simp only [Deployment.setHandler, same.handlers] }

theorem setSession (same : Coincides left right) {one other : Session}
    (sessions : one.Coincides other) :
    Coincides { left with session := one } { right with session := other } :=
  { same with session := sessions }

theorem setPlane (same : Coincides left right) {one other : ControlPlane}
    (planes : one.Coincides other) :
    Coincides { left with plane := one } { right with plane := other } :=
  { same with plane := planes }

theorem setCache (same : Coincides left right) (cache : Cache Listener) :
    Coincides { left with cache } { right with cache } :=
  { same with cache := rfl }

theorem hasTask (same : Coincides left right) (generation : Nat) (stage : Session.Stage) :
    right.session.hasTask generation stage = left.session.hasTask generation stage := by
  rw [Session.hasTask, same.session.tasks, Session.hasTask]

theorem isAlive (same : Coincides left right) : right.isAlive = left.isAlive := by
  rw [Deployment.isAlive, same.held, same.session.tasks, same.session.timers, Deployment.isAlive]

theorem ite {condition : Prop} [Decidable condition] {left' right' : Deployment}
    (yes : Coincides left right) (no : Coincides left' right') :
    Coincides (if condition then left else left') (if condition then right else right') := by
  split
  · exact yes
  · exact no

theorem subscribe (same : Coincides left right) (kind : ResourceType) (names : List String) :
    Coincides (left.subscribe kind names) (right.subscribe kind names) := by
  unfold Deployment.subscribe
  rw [same.subscription?]
  cases left.subscription? kind with
  | none => exact same
  | some subscription =>
    have subscribed := same.setHandler kind (.subscription (subscription.add names))
    dsimp only
    cases (subscription.add names).request? kind with
    | none => exact subscribed
    | some request =>
      dsimp only
      rw [subscribed.isAlive]
      exact .ite (subscribed.setSession (subscribed.session.request request)) subscribed

theorem followReferences (same : Coincides left right) (kind : ResourceType)
    (models : List kind.Model) :
    Coincides (left.followReferences kind models) (right.followReferences kind models) := by
  unfold Deployment.followReferences
  cases kind.referred? with
  | none => exact same
  | some target => exact .ite same (same.subscribe target _)

theorem runCallback (same : Coincides left right) (kind : ResourceType)
    (models : List kind.Model) :
    Coincides (left.runCallback kind models) (right.runCallback kind models) := by
  unfold Deployment.runCallback
  rw [same.subscription?]
  cases (left.subscription? kind).bind Subscription.callback with
  | none => exact same
  | some callback =>
    cases callback with
    | inform tag script => exact (same.emit _).push (agenda_refl _)
    | relay => exact (same.followReferences kind models).push (agenda_refl _)

theorem reportDefects (same : Coincides left right) (kind : ResourceType) (response : Response) :
    Coincides (left.reportDefects kind response) (right.reportDefects kind response) :=
  same.setSession ((same.session.reportAll _).countDecodeErrors kind _)

theorem handle (same : Coincides left right) (kind : ResourceType) (response : Response) :
    Coincides (left.handle kind response) (right.handle kind response) := by
  unfold Deployment.handle
  cases response.checkKind kind with
  | error problem => exact same.setSession (same.session.report _ _)
  | ok _ => exact ((same.reportDefects kind response).push (agenda_refl _)).runCallback kind _

theorem runHandler (same : Coincides left right) (kind : ResourceType) (response : Response) :
    Coincides (left.runHandler kind response) (right.runHandler kind response) := by
  unfold Deployment.runHandler
  rw [same.handlers]
  cases left.handlers.get kind with
  | none => exact same
  | some handler =>
    cases handler with
    | counter calls script => exact ((same.setHandler kind _).emit _).push (agenda_refl _)
    | subscription => exact same.handle kind response

theorem receive (same : Coincides left right) (generation : Nat) (response : Response) :
    Coincides (left.receive generation response) (right.receive generation response) := by
  have received := same.setSession (same.session.receive generation response)
  unfold Deployment.receive
  dsimp only
  rw [received.session.dispatch]
  cases (left.session.receive generation response).dispatch with
  | none => exact received
  | some dispatch => exact (received.push (agenda_refl _)).runHandler dispatch.kind response

theorem callListener (same : Coincides left right) (publication : Publication) (id : ListenerId)
    (listener : Listener) :
    Coincides (left.callListener publication id listener)
      (right.callListener publication id listener) := by
  have told := same.emit (.notified id listener.label publication)
  unfold Deployment.callListener
  dsimp only
  rw [told.cache]
  cases listener.scripts with
  | nil => exact told
  | cons script rest => exact (told.setCache _).push (agenda_refl _)

theorem publish (same : Coincides left right) (publication : Publication) :
    Coincides (left.publish publication) (right.publish publication) := by
  unfold Deployment.publish
  dsimp only
  rw [same.cache]
  have stored := same.setCache (left.cache.store publication)
  split
  · exact stored
  · exact stored.push (agenda_refl _)

theorem notifyNext (same : Coincides left right) (publication : Publication)
    (opened start : ListenerId) :
    Coincides (left.notifyNext publication opened start)
      (right.notifyNext publication opened start) := by
  unfold Deployment.notifyNext
  rw [same.cache]
  split
  · exact same
  · exact (same.push (agenda_refl _)).callListener publication _ _

theorem watch (same : Coincides left right) (axis : Axis) (key : String) (listener : Listener) :
    Coincides (left.watch axis key listener) (right.watch axis key listener) := by
  have registered := (same.setCache (left.cache.add axis key listener)).push
    (agenda_refl [.bind listener.label left.cache.nextId, .yield .done])
  unfold Deployment.watch
  dsimp only
  rw [same.cache, registered.cache]
  split
  · exact registered
  · exact registered.callListener _ _ listener

theorem register (same : Coincides left right) (kind : ResourceType) (handler : Handler) :
    Coincides (left.register kind handler) (right.register kind handler) := by
  unfold Deployment.register Session.register
  rw [same.session.handled]
  by_cases present : left.session.handled.get kind = true
  · rw [if_pos present, if_pos present]
    exact same.answer _ _
  · rw [if_neg present, if_neg present]
    exact ((same.setSession (same.session.setHandled _)).setHandler kind handler).answer _ _

theorem streamIndex (same : Coincides left right) (stream : Option Nat) :
    right.streamIndex stream = left.streamIndex stream := by
  have length := congrArg List.length same.plane.streams
  rw [List.length_map, List.length_map] at length
  rw [Deployment.streamIndex, length, Deployment.streamIndex]

/-- What the control plane sends is not read yet. -/
theorem deliver (same : Coincides left right) (stream : Option Nat) (delivery : Delivery) :
    Coincides (left.deliver stream delivery) (right.deliver stream delivery) := by
  unfold Deployment.deliver Deployment.isReading
  rw [same.streamIndex]
  dsimp only
  rcases same.plane.lookup (left.streamIndex stream) with ⟨none, noneRight⟩ |
    ⟨server, inbox, found, foundRight⟩
  · rw [none, noneRight]
    exact same.answer _ _
  · rw [found, foundRight]
    dsimp only
    rw [same.hasTask]
    exact .ite ((same.setPlane (same.plane.set _ server _ _)).answer _ _) (same.answer _ _)

theorem complete (same : Coincides left right) (stream : Option Nat) :
    Coincides (left.complete stream) (right.complete stream) := by
  unfold Deployment.complete
  rw [same.streamIndex]
  dsimp only
  rcases same.plane.lookup (left.streamIndex stream) with ⟨none, noneRight⟩ |
    ⟨server, inbox, found, foundRight⟩
  · rw [none, noneRight]
    exact same.answer _ _
  · rw [found, foundRight]
    have left := (same.setPlane (same.plane.set (left.streamIndex stream)
      { server with ended := true } server.inbox inbox)).setSession
        (same.session.shutChannel server.generation)
    exact .ite (same.answer _ _) (left.answer _ _)

theorem withClient (same : Coincides left right) {act : Deployment → Deployment}
    (acts : Coincides (act left) (act right)) :
    Coincides (left.withClient act) (right.withClient act) := by
  unfold Deployment.withClient
  rw [same.held]
  exact .ite acts (same.answer _ _)

theorem withSubscription (same : Coincides left right) (kind : ResourceType)
    {act actRight : Subscription Callback → Deployment}
    (acts : ∀ subscription, Coincides (act subscription) (actRight subscription)) :
    Coincides (left.withSubscription kind act) (right.withSubscription kind actRight) := by
  unfold Deployment.withSubscription
  rw [same.subscription?]
  cases left.subscription? kind with
  | none => exact same.answer _ _
  | some subscription => exact acts subscription

theorem unwatch (same : Coincides left right) (axis : Axis) (key label : String) :
    Coincides (left.unwatch axis key label) (right.unwatch axis key label) := by
  have bound : right.labels.get? label = left.labels.get? label := by rw [same.labels]
  unfold Deployment.unwatch
  rw [bound, same.cache]
  cases left.labels.get? label with
  | none => exact same.answer _ _
  | some id => exact (same.setCache _).answer _ _

theorem perform (same : Coincides left right) (operation : Operation) :
    Coincides (left.perform operation) (right.perform operation) := by
  cases operation with
  | register kind checkInterval =>
    apply same.withClient
    exact same.register kind _
  | registerCounter kind script =>
    apply same.withClient
    exact same.register kind _
  | request request =>
    apply same.withClient
    exact (same.setSession (same.session.request request)).answer _ _
  | close =>
    apply same.withClient
    exact (same.setSession same.session.close).answer _ _
  | watch axis key label scripts =>
    apply same.withClient
    exact same.watch axis key _
  | unwatch axis key label =>
    apply same.withClient
    exact same.unwatch axis key label
  | clientNames kind =>
    apply same.withClient
    apply same.withSubscription kind
    exact fun _ => same.answer _ _
  | lastRequest | node | state | describeSession | describeExchange | cached | cachedAll =>
    apply same.withClient
    exact same.answer _ _
  | subscribe kind names =>
    apply same.withSubscription kind
    exact fun _ => (same.subscribe kind names).answer _ _
  | decode kind response =>
    apply same.withSubscription kind
    intro _
    cases response.checkKind kind with
    | error problem => exact same.answer _ _
    | ok _ => exact ((same.reportDefects kind response).push (agenda_refl _)).runCallback kind _
  | handle kind response =>
    apply same.withSubscription kind
    exact fun _ => (same.push (agenda_refl _)).handle kind response
  | setCallback kind tag script =>
    apply same.withSubscription kind
    exact fun _ => (same.setHandler kind _).answer _ _
  | subscribedNames kind | lastAck kind | describeSubscription kind | subscriptionFacts kind =>
    apply same.withSubscription kind
    exact fun _ => same.answer _ _
  | respond response stream => exact same.deliver stream _
  | fail status stream => exact same.deliver stream _
  | complete stream => exact same.complete stream
  | batch operations => exact same.push (agenda_refl _)
  | release => exact { same with held := rfl }
  | plan steps =>
    have planned : ControlPlane.Coincides
        { left.plane with plan := left.plane.plan ++ steps }
        { right.plane with plan := right.plane.plan ++ steps } :=
      { same.plane with plan := by rw [same.plane.plan] }
    exact (same.setPlane planned).answer _ _
  | admitHanging =>
    have admitted : ControlPlane.Coincides
        { left.plane with admitted := left.plane.admitted ++ left.plane.hanging, hanging := [] }
        { right.plane with
          admitted := right.plane.admitted ++ right.plane.hanging, hanging := [] } :=
      ⟨same.plane.plan, rfl, by rw [same.plane.admitted, same.plane.hanging], same.plane.streams⟩
    exact (same.setPlane admitted).answer _ _
  | alive | unknown => exact same.answer _ _

theorem accept (same : Coincides left right) (generation : Nat) :
    Coincides (left.accept generation) (right.accept generation) := by
  have opened : ControlPlane.Coincides
      { left.plane with streams := left.plane.streams ++ [{ generation }] }
      { right.plane with streams := right.plane.streams ++ [{ generation }] } :=
    { same.plane with streams := by rw [List.map_append, same.plane.streams, List.map_append] }
  exact (same.setPlane opened).setSession (same.session.connectSucceeded generation)

theorem connect (same : Coincides left right) (generation : Nat) :
    Coincides (left.connect generation) (right.connect generation) := by
  have planned (rest : List (ConnectStep Operation)) : ControlPlane.Coincides
      { left.plane with plan := rest } { right.plane with plan := rest } :=
    { same.plane with plan := rfl }
  unfold Deployment.connect
  rw [same.plane.plan]
  cases left.plane.plan with
  | nil => exact same.accept generation
  | cons step rest =>
    have next := same.setPlane (planned rest)
    cases step with
    | accept => exact next.accept generation
    | refuse problem => exact next.setSession (same.session.connectFailed generation problem)
    | hang =>
      have hanging : ControlPlane.Coincides
          { left.plane with plan := rest, hanging := left.plane.hanging ++ [generation] }
          { right.plane with plan := rest, hanging := right.plane.hanging ++ [generation] } :=
        { planned rest with hanging := by rw [same.plane.hanging] }
      exact same.setPlane hanging
    | accompany script => exact next.push (agenda_refl _)

theorem start (same : Coincides left right) (generation : Nat) :
    Coincides (left.start generation) (right.start generation) := by
  have started := same.setSession (same.session.start generation)
  unfold Deployment.start
  rw [same.hasTask]
  dsimp only
  rw [started.hasTask]
  exact .ite (.ite (started.connect generation) started) same

theorem resume (same : Coincides left right) (generation : Nat) :
    Coincides (left.resume generation) (right.resume generation) := by
  have isAdmitted : right.isAdmitted generation = left.isAdmitted generation := by
    rw [Deployment.isAdmitted, same.hasTask, same.plane.admitted, Deployment.isAdmitted]
  have admitted : ControlPlane.Coincides
      { left.plane with admitted := left.plane.admitted.filter (· ≠ generation) }
      { right.plane with admitted := right.plane.admitted.filter (· ≠ generation) } :=
    { same.plane with admitted := by rw [same.plane.admitted] }
  unfold Deployment.resume
  rw [isAdmitted]
  exact .ite ((same.setPlane admitted).accept generation) same

/-- The call in progress is taken up alike. -/
theorem proceed (same : Coincides left right) : Coincides left.proceed right.proceed := by
  have agenda := same.agenda
  unfold Deployment.proceed
  generalize left.agenda = frames, right.agenda = others at agenda
  cases agenda with
  | nil => exact same
  | @cons frame other rest restRight first remaining =>
    have next : Coincides { left with agenda := rest } { right with agenda := restRight } :=
      { same with agenda := remaining }
    cases first with
    | batch operations replies others =>
      cases operations with
      | nil => exact next.answer _ _
      | cons operation more =>
        exact (next.push (.cons (.gather _ _ _) .nil)).perform operation
    | gather operations replies others => exact next.push (.cons (.batch _ _ _) .nil)
    | same =>
      cases frame with
      | script operations =>
        cases operations with
        | nil => exact next
        | cons entry more => exact (next.push (agenda_refl _)).perform entry.2
      | record label => exact next.emitResult label _ _
      | yield reply => exact next.answer _ _
      | batch operations replies =>
        cases operations with
        | nil => exact next.answer _ _
        | cons operation more => exact (next.push (agenda_refl _)).perform operation
      | gather operations replies => exact next.push (.cons (.batch _ _ _) .nil)
      | publish publications =>
        cases publications with
        | nil => exact next
        | cons publication more => exact (next.push (agenda_refl _)).publish publication
      | notify publication opened start => exact next.notifyNext publication opened start
      | bind label id => exact { next with labels := by rw [next.labels] }
      | settle kind version nonce =>
        dsimp only
        rw [next.subscription?]
        split
        · exact next.setHandler kind _
        · exact next
      | acknowledge => exact next.setSession next.session.acknowledge
      | accept generation => exact next.accept generation

/-- Any move but reading is made alike. -/
theorem move (same : Coincides left right) {step : Move}
    (unread : ∀ generation, step ≠ .read generation) :
    Coincides (left.move step) (right.move step) := by
  have agenda := same.agenda
  cases waiting : left.agenda with
  | cons frame rest =>
    rw [waiting] at agenda
    obtain ⟨_, _, _, _, waitingRight⟩ := List.forall₂_cons_left_iff.mp agenda
    cases step with
    | proceed =>
      simp only [Deployment.move]
      exact same.proceed
    | perform | start | resume | read | stop | fire | cancel | elapse =>
      simp only [Deployment.move, waiting, waitingRight]
      exact same
  | nil =>
    rw [waiting] at agenda
    have waitingRight := List.forall₂_nil_left_iff.mp agenda
    simp only [Deployment.move, waiting, waitingRight]
    cases step with
    | perform operation => exact same.perform operation
    | proceed => exact same.proceed
    | start generation => exact same.start generation
    | resume generation => exact same.resume generation
    | read generation => exact absurd rfl (unread generation)
    | stop generation => exact same.setSession (same.session.stopTask generation)
    | fire generation => exact same.setSession (same.session.fireTimer generation)
    | cancel generation => exact same.setSession (same.session.cancelTimer generation)
    | elapse time => exact same.setSession (same.session.elapse time)

end Coincides

end Deployment

end MeshDiscovery
