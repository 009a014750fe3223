import Mathlib.Data.List.Sort
import MeshDiscovery.Proofs.Deployment.Handing

namespace MeshDiscovery

/-- The names that subscriptions are asked to add, by kind, in order. -/
abbrev Calls := List (ResourceType × List String)

def Calls.given (calls : Calls) (kind : ResourceType) : List String :=
  (calls.filter fun call => call.1 = kind).flatMap Prod.snd

namespace Calls

variable {kind : ResourceType}

theorem given_append (first second : Calls) :
    given (first ++ second) kind = given first kind ++ given second kind := by
  simp [given]

theorem given_single (other : ResourceType) (names : List String) :
    given [(other, names)] kind = if other = kind then names else [] := by
  by_cases same : other = kind
  · simp [given, same]
  · simp [given, same]

end Calls

namespace NameSet

theorem insertAll_append (set : NameSet) (first second : List String) :
    set.insertAll (first ++ second) = (set.insertAll first).insertAll second :=
  List.foldl_append

theorem eq_of_mem_iff {left right : NameSet} (same : ∀ name, name ∈ left ↔ name ∈ right) :
    left = right := by
  have irreflexive : Std.Irrefl fun left right : String => left < right := ⟨String.lt_irrefl⟩
  have antisymmetric : Std.Antisymm fun left right : String => left < right :=
    ⟨fun _ _ before after => absurd after (String.lt_asymm before)⟩
  have lists : left.toList = right.toList := left.sorted.eq_of_mem_iff right.sorted same
  cases left
  cases right
  congr

/-- Adding more names changes nothing exactly if they are there already. -/
theorem ofList_append_eq_iff {names more : List String} :
    ofList names = ofList (names ++ more) ↔ more ⊆ names := by
  constructor
  · intro same name member
    have inAll : name ∈ ofList (names ++ more) := mem_ofList.mpr (List.mem_append_right _ member)
    rw [← same] at inAll
    exact mem_ofList.mp inAll
  · intro among
    refine eq_of_mem_iff fun name => ?_
    simp only [mem_ofList, List.mem_append]
    exact ⟨.inl, fun given => given.elim id (@among name)⟩

end NameSet

namespace Deployment

/-- The kinds that the session hands responses of are those that have a handler. -/
def Wired (deployment : Deployment) : Prop :=
  ∀ kind, deployment.session.handled.get kind = (deployment.handlers.get kind).isSome

/-- The names that are subscribed to for a kind. There are none without a subscription. -/
def named (deployment : Deployment) (kind : ResourceType) : NameSet :=
  match deployment.subscription? kind with
  | some subscription => subscription.names
  | none => .empty

theorem named_of_subscription? {deployment : Deployment} {kind : ResourceType}
    {subscription : Subscription Callback}
    (present : deployment.subscription? kind = some subscription) :
    deployment.named kind = subscription.names := by
  rw [named, present]

/-- Subscriptions stay, and they get the names that are asked for. -/
structure Widens (before after : Deployment) (calls : Calls) : Prop where
  wired : before.Wired → after.Wired
  stays : before.Wired → ∀ kind, (before.subscription? kind).isSome = true →
    (after.subscription? kind).isSome = true
  named : before.Wired → ∀ kind,
    after.named kind = (before.named kind).insertAll (calls.given kind)

namespace Widens

variable {before between after : Deployment} {calls more : Calls} {kind : ResourceType}

theorem of_fields (handlers : after.handlers = before.handlers)
    (handled : after.session.handled = before.session.handled) : Widens before after [] := by
  have same (kind : ResourceType) : after.subscription? kind = before.subscription? kind := by
    rw [subscription?, handlers, subscription?]
  refine ⟨fun wired kind => ?_, fun _ kind present => ?_, fun _ kind => ?_⟩
  · rw [handled, handlers, wired kind]
  · rw [same, present]
  · rw [Deployment.named, same]
    rfl

theorem trans (first : Widens before between calls) (second : Widens between after more) :
    Widens before after (calls ++ more) where
  wired wired := second.wired (first.wired wired)
  stays wired kind present :=
    second.stays (first.wired wired) kind (first.stays wired kind present)
  named wired kind := by
    rw [second.named (first.wired wired), first.named wired, Calls.given_append,
      NameSet.insertAll_append]

private theorem wired_setHandler (wired : before.Wired) {handler : Handler}
    (present : (before.handlers.get kind).isSome = true) :
    (before.setHandler kind handler).Wired := by
  intro other
  have same := wired other
  by_cases equal : other = kind
  · subst equal
    simp only [setHandler, PerType.get_set_self, Option.isSome_some]
    rw [same, present]
  · simp only [setHandler, PerType.get_set_of_ne _ _ equal]
    exact same

/-- A subscription is replaced by one that has more names. -/
theorem subscription {old new : Subscription Callback} (names : List String)
    (present : before.subscription? kind = some old)
    (grown : new.names = old.names.insertAll names) :
    Widens before (before.setHandler kind (.subscription new)) [(kind, names)] where
  wired wired := by
    refine wired_setHandler wired ?_
    rw [Agreeing.handler_of_subscription? present]
    rfl
  stays _ other found := by
    rw [subscription?_setHandler]
    split
    · rfl
    · exact found
  named _ other := by
    rw [Deployment.named, subscription?_setHandler, Calls.given_single]
    by_cases same : other = kind
    · subst same
      rw [if_pos rfl, if_pos rfl, named_of_subscription? present]
      exact grown
    · rw [if_neg same, if_neg (Ne.symm same)]
      rfl

theorem of_nothing (widens : Widens before after [(kind, [])]) : Widens before after [] where
  wired := widens.wired
  stays := widens.stays
  named wired other := by
    have given := widens.named wired other
    rwa [Calls.given_single, ite_self] at given

theorem replaced {old new : Subscription Callback}
    (present : before.subscription? kind = some old) (same : new.names = old.names) :
    Widens before (before.setHandler kind (.subscription new)) [] :=
  (subscription [] present same).of_nothing

private theorem unnamed {handler : Handler} (absent : before.subscription? kind = none)
    (nameless : ∀ subscription, handler = .subscription subscription → subscription.names = .empty) :
    (∀ other, (before.subscription? other).isSome = true →
        ((before.setHandler kind handler).subscription? other).isSome = true) ∧
      ∀ other, (before.setHandler kind handler).named other = before.named other := by
  have elsewhere {other : ResourceType} (different : other ≠ kind) :
      (before.setHandler kind handler).subscription? other = before.subscription? other := by
    simp only [subscription?, setHandler, PerType.get_set_of_ne _ _ different]
  refine ⟨fun other present => ?_, fun other => ?_⟩
  · have different : other ≠ kind := by
      rintro rfl
      rw [absent] at present
      cases present
    rw [elsewhere different, present]
  · by_cases same : other = kind
    · subst same
      rw [Deployment.named, Deployment.named, absent, subscription?, setHandler,
        PerType.get_set_self]
      cases handler with
      | counter => rfl
      | subscription subscription => exact nameless subscription rfl
    · rw [Deployment.named, elsewhere same]
      rfl

theorem counter {calls after : Nat} {script more : Script}
    (present : before.handlers.get kind = some (.counter calls script)) :
    Widens before (before.setHandler kind (.counter after more)) [] := by
  have absent : before.subscription? kind = none := by rw [subscription?, present]
  have nameless (subscription : Subscription Callback)
      (same : Handler.counter after more = .subscription subscription) :
      subscription.names = .empty := by cases same
  obtain ⟨stays, named⟩ := unnamed absent nameless
  exact ⟨fun wired => wired_setHandler wired (by rw [present]; rfl), fun _ => stays, fun _ => named⟩

/-- A handler is registered for a kind that has none. -/
theorem registered {session : Session} {handler : Handler}
    (bare : before.session.handled.get kind = false)
    (handled : session.handled = before.session.handled.set kind true)
    (nameless : ∀ subscription, handler = .subscription subscription → subscription.names = .empty) :
    Widens before (({ before with session } : Deployment).setHandler kind handler) [] := by
  have absent (wired : before.Wired) : before.subscription? kind = none := by
    have unhandled := wired kind
    rw [bare] at unhandled
    have none := Option.isNone_iff_eq_none.mp (Option.isSome_eq_false_iff.mp unhandled.symm)
    rw [subscription?, none]
  refine ⟨fun wired other => ?_, fun wired => (unnamed (absent wired) nameless).1, fun wired other => ?_⟩
  · simp only [setHandler, handled, PerType.get_set]
    split
    · rfl
    · exact wired other
  · exact (unnamed (absent wired) nameless).2 other

end Widens

/-- Beside that, what was to be done remains to be done, and the session deals with no other
response. -/
structure Grows (before after : Deployment) (calls : Calls) : Prop extends
    Widens before after calls where
  agenda : before.agenda <:+ after.agenda
  dispatch : after.session.dispatch = before.session.dispatch

namespace Grows

variable {before between after : Deployment} {calls more : Calls}

theorem of_fields (agenda : before.agenda <:+ after.agenda)
    (handlers : after.handlers = before.handlers)
    (handled : after.session.handled = before.session.handled)
    (dispatch : after.session.dispatch = before.session.dispatch) : Grows before after [] :=
  ⟨.of_fields handlers handled, agenda, dispatch⟩

theorem refl (deployment : Deployment) : Grows deployment deployment [] :=
  of_fields (List.suffix_refl _) rfl rfl rfl

theorem trans (first : Grows before between calls) (second : Grows between after more) :
    Grows before after (calls ++ more) :=
  ⟨first.toWidens.trans second.toWidens, first.agenda.trans second.agenda,
    second.dispatch.trans first.dispatch⟩

theorem then_quiet (first : Grows before between calls) (second : Grows between after []) :
    Grows before after calls := by
  have both := first.trans second
  rwa [List.append_nil] at both

theorem push (deployment : Deployment) (frames : List Frame) :
    Grows deployment (deployment.push frames) [] :=
  of_fields (List.suffix_append frames _) rfl rfl rfl

theorem session {session : Session} (deployment : Deployment)
    (handled : session.handled = deployment.session.handled)
    (dispatch : session.dispatch = deployment.session.dispatch) :
    Grows deployment { deployment with session } [] :=
  of_fields (List.suffix_refl _) rfl handled dispatch

theorem handler {kind : ResourceType} {handler : Handler}
    (widens : Widens before (before.setHandler kind handler) calls) :
    Grows before (before.setHandler kind handler) calls :=
  ⟨widens, List.suffix_refl _, rfl⟩

end Grows

variable (deployment : Deployment)

/-- What a subscription is asked to add, if it is there. -/
def asksToAdd (kind : ResourceType) (names : List String) : Calls :=
  if (deployment.subscription? kind).isSome then [(kind, names)] else []

theorem grows_subscribe (kind : ResourceType) (names : List String) :
    Grows deployment (deployment.subscribe kind names) (deployment.asksToAdd kind names) := by
  unfold subscribe asksToAdd
  split
  · rename_i absent
    rw [absent]
    exact .refl deployment
  · rename_i subscription present
    rw [present]
    have grown : Grows deployment
        (deployment.setHandler kind (.subscription (subscription.add names))) [(kind, names)] :=
      .handler (.subscription names present rfl)
    dsimp only
    split
    · exact grown
    · split
      · rename_i request _ _
        obtain ⟨_, _, _, _, _, requested⟩ := deployment.session.request_eq request
        exact grown.then_quiet (.session _ (by rw [setHandler, requested])
          (by rw [setHandler, requested]))
      · exact grown

/-- What is asked for when the references of a batch are followed. -/
def followed (kind : ResourceType) (models : List kind.Model) : Calls :=
  match kind.referred? with
  | none => []
  | some target =>
    if (kind.references models).isEmpty then []
    else deployment.asksToAdd target (kind.references models)

theorem grows_followReferences (kind : ResourceType) (models : List kind.Model) :
    Grows deployment (deployment.followReferences kind models)
      (deployment.followed kind models) := by
  unfold followReferences followed
  cases kind.referred? with
  | none => exact .refl deployment
  | some target =>
    dsimp only
    split
    · exact .refl deployment
    · exact grows_subscribe deployment target _

/-- What the callback of a kind asks for when it gets a batch. -/
def relayed (kind : ResourceType) (models : List kind.Model) : Calls :=
  match (deployment.subscription? kind).bind Subscription.callback with
  | some .relay => deployment.followed kind models
  | some (.inform ..) | none => []

theorem grows_runCallback (kind : ResourceType) (models : List kind.Model) :
    Grows deployment (deployment.runCallback kind models) (deployment.relayed kind models) := by
  unfold runCallback relayed
  split
  · rename_i none
    rw [none]
    exact .refl deployment
  · rename_i tag script some
    rw [some]
    exact .of_fields (List.suffix_append _ _) rfl rfl rfl
  · rename_i some
    rw [some]
    exact (grows_followReferences deployment kind models).then_quiet (.push _ _)

theorem grows_reportDefects (kind : ResourceType) (response : Response) :
    Grows deployment (deployment.reportDefects kind response) [] := by
  unfold reportDefects
  dsimp only
  rw [Agreeing.foldl_report]
  exact .session deployment rfl rfl

/-- What a subscription asks for when it gets a response. -/
def asksFor (kind : ResourceType) (response : Response) : Calls :=
  if response.typeUrl = kind.url then deployment.relayed kind (response.models kind) else []

private theorem grows_looking (kind : ResourceType) (response : Response) (frames : List Frame) :
    Grows deployment
      (((deployment.reportDefects kind response).push frames).runCallback kind
        (response.models kind)) (deployment.relayed kind (response.models kind)) := by
  have looked := (grows_reportDefects deployment kind response).then_quiet
    (.push (deployment.reportDefects kind response) frames)
  exact looked.trans (grows_runCallback _ kind (response.models kind))

theorem grows_handle (kind : ResourceType) (response : Response) :
    Grows deployment (deployment.handle kind response) (deployment.asksFor kind response) := by
  unfold handle asksFor Response.checkKind
  by_cases typed : response.typeUrl = kind.url
  · simp only [if_pos typed]
    exact grows_looking deployment kind response _
  · simp only [if_neg typed]
    exact .session deployment rfl rfl

private theorem grows_callListener (publication : Publication) (id : ListenerId)
    (listener : Listener) :
    Grows deployment (deployment.callListener publication id listener) [] := by
  unfold callListener
  split
  · exact .of_fields (List.suffix_refl _) rfl rfl rfl
  · exact .of_fields (List.suffix_append _ _) rfl rfl rfl

private theorem grows_watch (axis : Axis) (key : String) (listener : Listener) :
    Grows deployment (deployment.watch axis key listener) [] := by
  have registered : Grows deployment
      (({ deployment with cache := deployment.cache.add axis key listener } : Deployment).push
        [.bind listener.label deployment.cache.nextId, .yield .done]) [] :=
    .of_fields (List.suffix_append _ _) rfl rfl rfl
  unfold watch
  dsimp only
  split
  · exact registered
  · exact registered.then_quiet (grows_callListener _ _ _ listener)

private theorem grows_deliver (stream : Option Nat) (delivery : Delivery) :
    Grows deployment (deployment.deliver stream delivery) [] := by
  unfold deliver
  dsimp only
  split
  · exact .of_fields (List.suffix_refl _) rfl rfl rfl
  · split
    · exact .of_fields (List.suffix_refl _) rfl rfl rfl
    · exact .of_fields (List.suffix_refl _) rfl rfl rfl

private theorem grows_complete (stream : Option Nat) :
    Grows deployment (deployment.complete stream) [] := by
  unfold complete
  dsimp only
  split
  · exact .of_fields (List.suffix_refl _) rfl rfl rfl
  · split
    · exact .of_fields (List.suffix_refl _) rfl rfl rfl
    · exact .of_fields (List.suffix_refl _) rfl rfl rfl

private theorem grows_withClient {act : Deployment → Deployment}
    (grows : Grows deployment (act deployment) []) : Grows deployment (deployment.withClient act) [] := by
  unfold withClient
  split
  · exact grows
  · exact .of_fields (List.suffix_refl _) rfl rfl rfl

private theorem grows_withSubscription (kind : ResourceType)
    {act : Subscription Callback → Deployment}
    (grows : ∀ subscription, deployment.subscription? kind = some subscription →
      Grows deployment (act subscription) []) :
    Grows deployment (deployment.withSubscription kind act) [] := by
  unfold withSubscription
  split
  · rename_i subscription present
    exact grows subscription present
  · exact .of_fields (List.suffix_refl _) rfl rfl rfl

private theorem grows_register (kind : ResourceType) {handler : Handler}
    (nameless : ∀ subscription, handler = .subscription subscription → subscription.names = .empty) :
    Grows deployment (deployment.register kind handler) [] := by
  unfold register Session.register
  by_cases present : deployment.session.handled.get kind = true
  · rw [if_pos present]
    exact .of_fields (List.suffix_refl _) rfl rfl rfl
  · rw [if_neg present]
    have registered : Grows deployment
        (({ deployment with session := { deployment.session with
          handled := deployment.session.handled.set kind true } } : Deployment).setHandler kind
            handler) [] :=
      ⟨.registered (by simpa using present) rfl nameless, List.suffix_refl _, rfl⟩
    exact registered.then_quiet (.of_fields (List.suffix_refl _) rfl rfl rfl)

def asksOf : Operation → Calls
  | .subscribe kind names => deployment.asksToAdd kind names
  | .decode kind response | .handle kind response => deployment.asksFor kind response
  | _ => []

/-- Performing an operation asks for what it says, and changes nothing else of subscriptions. -/
theorem grows_perform (operation : Operation) :
    Grows deployment (deployment.perform operation) (deployment.asksOf operation) := by
  cases operation with
  | register kind checkInterval =>
    apply grows_withClient
    exact grows_register deployment kind fun _ same => by cases same; rfl
  | registerCounter kind script =>
    apply grows_withClient
    exact grows_register deployment kind fun _ same => by cases same
  | request request =>
    obtain ⟨_, _, _, _, _, requested⟩ := deployment.session.request_eq request
    apply grows_withClient
    refine .of_fields (List.suffix_refl _) rfl ?_ ?_
    · rw [answer, requested]
    · rw [answer, requested]
  | close =>
    apply grows_withClient
    unfold Session.close
    split <;> exact .of_fields (List.suffix_refl _) rfl rfl rfl
  | subscribe kind names =>
    unfold perform withSubscription
    dsimp only
    split
    · exact (grows_subscribe deployment kind names).then_quiet
        (.of_fields (List.suffix_refl _) rfl rfl rfl)
    · rename_i absent
      simp only [asksOf, asksToAdd, absent]
      exact .of_fields (List.suffix_refl _) rfl rfl rfl
  | decode kind response =>
    unfold perform withSubscription asksOf asksFor Response.checkKind
    dsimp only
    cases present : deployment.subscription? kind with
    | none =>
      simp only [relayed, present, Option.bind_none, ite_self]
      exact .of_fields (List.suffix_refl _) rfl rfl rfl
    | some subscription =>
      by_cases typed : response.typeUrl = kind.url
      · simp only [if_pos typed]
        exact grows_looking deployment kind response _
      · simp only [if_neg typed]
        exact .of_fields (List.suffix_refl _) rfl rfl rfl
  | handle kind response =>
    unfold perform withSubscription asksOf
    dsimp only
    cases present : deployment.subscription? kind with
    | none =>
      simp only [asksFor, relayed, present, Option.bind_none, ite_self]
      exact .of_fields (List.suffix_refl _) rfl rfl rfl
    | some subscription =>
      exact (Grows.push deployment [.yield .done]).trans
        (grows_handle (deployment.push [.yield .done]) kind response)
  | setCallback kind tag script =>
    apply grows_withSubscription
    intro subscription present
    have replaced : Widens deployment (deployment.setHandler kind
        (.subscription { subscription with callback := some (.inform tag script) })) [] :=
      .replaced present rfl
    exact (Grows.handler replaced).then_quiet (.of_fields (List.suffix_refl _) rfl rfl rfl)
  | respond response stream => exact grows_deliver _ stream _
  | fail status stream => exact grows_deliver _ stream _
  | complete stream => exact grows_complete _ stream
  | batch operations => exact .push _ _
  | watch axis key label scripts =>
    apply grows_withClient
    exact grows_watch deployment axis key _
  | unwatch axis key label =>
    apply grows_withClient
    unfold unwatch
    split <;> exact .of_fields (List.suffix_refl _) rfl rfl rfl
  | clientNames kind =>
    apply grows_withClient
    apply grows_withSubscription
    exact fun _ _ => .of_fields (List.suffix_refl _) rfl rfl rfl
  | lastRequest | node | state | describeSession | describeExchange | cached | cachedAll =>
    apply grows_withClient
    exact .of_fields (List.suffix_refl _) rfl rfl rfl
  | subscribedNames kind | lastAck kind | describeSubscription kind | subscriptionFacts kind =>
    apply grows_withSubscription
    exact fun _ _ => .of_fields (List.suffix_refl _) rfl rfl rfl
  | release | alive | plan | admitHanging | unknown =>
    exact .of_fields (List.suffix_refl _) rfl rfl rfl

private theorem grows_publish (publication : Publication) :
    Grows deployment (deployment.publish publication) [] := by
  unfold publish
  dsimp only
  split
  · exact .of_fields (List.suffix_refl _) rfl rfl rfl
  · exact .of_fields (List.suffix_append _ _) rfl rfl rfl

private theorem grows_notifyNext (publication : Publication) (opened start : ListenerId) :
    Grows deployment (deployment.notifyNext publication opened start) [] := by
  unfold notifyNext
  split
  · exact .refl deployment
  · exact (Grows.push deployment _).then_quiet (grows_callListener _ publication _ _)

private theorem grows_quiet {plane : ControlPlane} (step : Session.Step)
    (quiet : step.isQuiet = true) (unregistered : ∀ kind, step ≠ .register kind)
    (unskipped : ∀ kind count, step ≠ .skip kind count) :
    Grows deployment { deployment with plane, session := deployment.session.step step } [] := by
  obtain ⟨_, _, _, _, _, _, _, _, _, same⟩ :=
    deployment.session.quiet_eq quiet unregistered unskipped
  exact .of_fields (List.suffix_refl _) rfl (by rw [same]) (by rw [same])

private theorem grows_accept (generation : Nat) :
    Grows deployment (deployment.accept generation) [] :=
  grows_quiet deployment (.accept generation) rfl (by simp) (by simp)

private theorem grows_connect (generation : Nat) :
    Grows deployment (deployment.connect generation) [] := by
  unfold connect
  split
  · exact grows_accept deployment generation
  · rename_i step rest _
    have planned : Grows deployment
        { deployment with plane := { deployment.plane with plan := rest } } [] :=
      .of_fields (List.suffix_refl _) rfl rfl rfl
    cases step with
    | accept => exact planned.then_quiet (grows_accept _ generation)
    | refuse problem =>
      exact grows_quiet deployment (.refuse generation problem) rfl (by simp) (by simp)
    | hang => exact .of_fields (List.suffix_refl _) rfl rfl rfl
    | accompany script => exact planned.then_quiet (.push _ _)

theorem grows_start (generation : Nat) : Grows deployment (deployment.start generation) [] := by
  unfold start
  split
  · have started : Grows deployment
        { deployment with session := deployment.session.start generation } [] :=
      grows_quiet deployment (.start generation) rfl (by simp) (by simp)
    dsimp only
    split
    · exact started.then_quiet (grows_connect _ generation)
    · exact started
  · exact .refl deployment

theorem grows_resume (generation : Nat) : Grows deployment (deployment.resume generation) [] := by
  unfold resume
  split
  · have admitted : Grows deployment
        { deployment with
          plane := { deployment.plane with
            admitted := deployment.plane.admitted.filter (· ≠ generation) } } [] :=
      .of_fields (List.suffix_refl _) rfl rfl rfl
    exact admitted.then_quiet (grows_accept _ generation)
  · exact .refl deployment

/-- What subscriptions are asked for when a frame is taken up. -/
def asksIn : Frame → Calls
  | .script ((_, operation) :: _) | .batch (operation :: _) _ => deployment.asksOf operation
  | _ => []

/-- Taking up a frame that neither notes nor acknowledges a response. -/
theorem grows_proceed {frame : Frame} {rest : List Frame}
    (pending : deployment.agenda = frame :: rest) (acknowledged : frame ≠ .acknowledge)
    (unsettled : ∀ kind version nonce, frame ≠ .settle kind version nonce) :
    Grows { deployment with agenda := rest } deployment.proceed (deployment.asksIn frame) := by
  unfold proceed asksIn
  rw [pending]
  cases frame with
  | script operations =>
    cases operations with
    | nil => exact .refl _
    | cons entry more =>
      exact (Grows.push { deployment with agenda := rest } _).trans (grows_perform _ entry.2)
  | batch operations replies =>
    cases operations with
    | nil => exact .of_fields (List.suffix_refl _) rfl rfl rfl
    | cons operation more =>
      exact (Grows.push { deployment with agenda := rest } _).trans (grows_perform _ operation)
  | gather operations replies => exact .push _ _
  | publish publications =>
    cases publications with
    | nil => exact .refl _
    | cons publication more =>
      exact (Grows.push { deployment with agenda := rest } _).trans (grows_publish _ publication)
  | notify publication opened start => exact grows_notifyNext _ publication opened start
  | accept generation => exact grows_accept _ generation
  | settle kind version nonce => exact absurd rfl (unsettled kind version nonce)
  | acknowledge => exact absurd rfl acknowledged
  | record | yield | bind => exact .of_fields (List.suffix_refl _) rfl rfl rfl

/-- The first frame is taken off the agenda, and frames may be put in its place. -/
theorem suffix_proceed {frame : Frame} {rest : List Frame}
    (pending : deployment.agenda = frame :: rest) : rest <:+ deployment.proceed.agenda := by
  by_cases acknowledged : frame = .acknowledge
  · subst acknowledged
    simp only [proceed, pending]
    exact List.suffix_refl _
  by_cases settled : ∃ kind version nonce, frame = .settle kind version nonce
  · obtain ⟨kind, version, nonce, rfl⟩ := settled
    simp only [proceed, pending]
    split <;> exact List.suffix_refl _
  · exact (grows_proceed deployment pending acknowledged
      fun kind version nonce same => settled ⟨kind, version, nonce, same⟩).agenda

/-- Taking up any frame asks for what it says. -/
theorem widens_proceed {frame : Frame} {rest : List Frame}
    (pending : deployment.agenda = frame :: rest) :
    Widens deployment deployment.proceed (deployment.asksIn frame) := by
  have dropped : Widens deployment { deployment with agenda := rest } [] := .of_fields rfl rfl
  by_cases acknowledged : frame = .acknowledge
  · subst acknowledged
    obtain ⟨_, _, same⟩ := deployment.session.acknowledge_eq
    simp only [proceed, pending]
    exact .of_fields rfl (by rw [same])
  by_cases settled : ∃ kind version nonce, frame = .settle kind version nonce
  · obtain ⟨kind, version, nonce, rfl⟩ := settled
    simp only [proceed, pending]
    split
    · rename_i subscription present
      exact dropped.trans (.replaced present rfl)
    · exact dropped
  · exact dropped.trans (grows_proceed deployment pending acknowledged
      fun kind version nonce same => settled ⟨kind, version, nonce, same⟩).toWidens

/-- Whatever handles a response, a subscription asks for what it refers to. -/
theorem grows_runHandler (kind : ResourceType) (response : Response) :
    Grows deployment (deployment.runHandler kind response) (deployment.asksFor kind response) := by
  have silent {handler : Option Handler} (found : deployment.handlers.get kind = handler)
      (other : ∀ subscription, handler ≠ some (.subscription subscription)) :
      deployment.asksFor kind response = [] := by
    have none : deployment.subscription? kind = none := by
      unfold subscription?
      rw [found]
      split
      · rename_i subscription
        exact absurd rfl (other subscription)
      · rfl
    rw [asksFor, relayed, none, Option.bind_none, ite_self]
  unfold runHandler
  split
  · rename_i found
    rw [silent found (by simp)]
    exact .refl deployment
  · rename_i calls script found
    rw [silent found (by simp)]
    exact (Grows.handler (.counter found)).then_quiet
      (.of_fields (List.suffix_append _ _) rfl rfl rfl)
  · exact grows_handle deployment kind response

private theorem handled_receive (session : Session) (generation : Nat) (response : Response) :
    (session.receive generation response).handled = session.handled := by
  unfold Session.receive
  split
  · rfl
  · split
    · dsimp only
      split <;> rfl
    · rfl

private theorem handled_streamEnded (session : Session) (generation : Nat)
    (ending : Session.Ending) :
    (session.streamEnded generation ending).handled = session.handled := by
  unfold Session.streamEnded Session.scheduleRecovery
  split
  · dsimp only
    split <;> rfl
  · rfl

/-- What subscriptions are asked for when a response is received. -/
def asksOnReceipt (generation : Nat) (response : Response) : Calls :=
  match (deployment.session.receive generation response).dispatch with
  | none => []
  | some dispatch => deployment.asksFor dispatch.kind response

private theorem widens_receive (generation : Nat) (response : Response) :
    Widens deployment (deployment.receive generation response)
      (deployment.asksOnReceipt generation response) := by
  have received : Widens deployment
      { deployment with session := deployment.session.receive generation response } [] :=
    .of_fields rfl (handled_receive _ generation response)
  unfold receive asksOnReceipt
  dsimp only
  cases (deployment.session.receive generation response).dispatch with
  | none => exact received
  | some dispatch =>
    exact received.trans ((Grows.push _ [.acknowledge]).trans (grows_runHandler _ _ _)).toWidens

/-- The control plane after the first delivery to a generation was taken. -/
def taking (generation : Nat) : ControlPlane :=
  match deployment.server? generation with
  | none => deployment.plane
  | some (server, index) =>
    { deployment.plane with
      streams := deployment.plane.streams.set index { server with inbox := server.inbox.tail } }

/-- A task reads a response, or it comes to know that its stream has ended, if anything. -/
theorem read_cases (generation : Nat) :
    (∃ response, deployment.incoming? generation = some response ∧
      deployment.isReading generation = true ∧
      deployment.read generation =
        ({ deployment with plane := deployment.taking generation } : Deployment).receive generation
          response) ∨
    deployment.incoming? generation = none ∧
      (deployment.read generation = deployment ∨ ∃ plane ending, deployment.read generation =
        { deployment with
          plane
          session := deployment.session.streamEnded generation ending }) := by
  unfold incoming? read taking
  split
  · rename_i reading
    cases deployment.server? generation with
    | none => exact .inr ⟨rfl, .inl rfl⟩
    | some found =>
      obtain ⟨⟨number, inbox, ended⟩, index⟩ := found
      cases inbox with
      | nil =>
        refine .inr ⟨rfl, ?_⟩
        cases ended with
        | true => exact .inr ⟨deployment.plane, .completed, rfl⟩
        | false => exact .inl rfl
      | cons delivery rest =>
        cases delivery with
        | response response => exact .inl ⟨response, rfl, reading, rfl⟩
        | failure status => exact .inr ⟨rfl, .inr ⟨_, .failed status, rfl⟩⟩
  · exact .inr ⟨rfl, .inl rfl⟩

def asks (step : Move) : Calls :=
  match deployment.agenda, step with
  | frame :: _, .proceed => deployment.asksIn frame
  | _ :: _, _ => []
  | [], .perform operation => deployment.asksOf operation
  | [], .read generation =>
    (deployment.incoming? generation).toList.flatMap (deployment.asksOnReceipt generation)
  | [], _ => []

/-- What subscriptions are asked for as moves are made, in order. -/
def asked : Deployment → List Move → Calls
  | _, [] => []
  | deployment, step :: rest => deployment.asks step ++ (deployment.move step).asked rest

private theorem widens_read (generation : Nat) :
    Widens deployment (deployment.read generation)
      ((deployment.incoming? generation).toList.flatMap (deployment.asksOnReceipt generation)) := by
  rcases deployment.read_cases generation with ⟨response, incoming, _, same⟩ |
    ⟨nothing, same | ⟨plane, ending, same⟩⟩
  · have taken : Widens deployment { deployment with plane := deployment.taking generation } [] :=
      .of_fields rfl rfl
    have received := taken.trans (widens_receive _ generation response)
    rw [same, incoming, Option.toList_some, List.flatMap_singleton]
    exact received
  · rw [same, nothing]
    exact .of_fields rfl rfl
  · rw [same, nothing]
    exact .of_fields rfl (handled_streamEnded _ generation ending)

private theorem handled_stopTask (session : Session) (generation : Nat) :
    (session.stopTask generation).handled = session.handled := by
  unfold Session.stopTask
  split
  · split
    · rfl
    · split <;> rfl
  · rfl

/-- Every move gives subscriptions the names that it asks for, and no others. -/
theorem widens_move (step : Move) : Widens deployment (deployment.move step) (deployment.asks step) := by
  have idle : Widens deployment deployment [] := .of_fields rfl rfl
  cases waiting : deployment.agenda with
  | cons frame rest =>
    cases step with
    | proceed =>
      simp only [move, asks, waiting]
      exact widens_proceed deployment waiting
    | perform | start | resume | read | stop | fire | cancel | elapse =>
      simp only [move, asks, waiting]
      exact idle
  | nil =>
    simp only [move, asks, waiting]
    cases step with
    | perform operation => exact (grows_perform deployment operation).toWidens
    | proceed =>
      simp only [proceed, waiting]
      exact idle
    | start generation => exact (grows_start deployment generation).toWidens
    | resume generation => exact (grows_resume deployment generation).toWidens
    | read generation => exact widens_read deployment generation
    | stop generation => exact .of_fields rfl (handled_stopTask _ generation)
    | fire generation =>
      obtain ⟨_, _, _, _, _, _, same⟩ := deployment.session.fireTimer_eq generation
      refine .of_fields rfl ?_
      show (deployment.session.fireTimer generation).handled = deployment.session.handled
      rw [same]
    | cancel generation =>
      refine .of_fields rfl ?_
      unfold changeSession Session.cancelTimer
      dsimp only
      split <;> rfl
    | elapse time => exact .of_fields rfl rfl

end Deployment

end MeshDiscovery
