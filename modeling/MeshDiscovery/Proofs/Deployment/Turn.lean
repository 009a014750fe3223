import MeshDiscovery.Proofs.Deployment.Aside
import MeshDiscovery.Proofs.Exchange.Cache

/-!
Turns of those who share a cache. Batches are published one after another, as they arrive; consumers
watch and unsubscribe at any moment in between, also between two values of a batch. Only while a
value is told to its listeners do others have to wait with listeners of the same axis, whereas the
listeners that are called may watch and unsubscribe as they like.
-/

namespace MeshDiscovery

/-- A turn of someone who shares a cache. -/
inductive Turn where
  /-- A batch of resources arrives. -/
  | update (kind : ResourceType) (models : List kind.Model)
  | watch (axis : Axis) (key : String) (listener : Listener)
  | unwatch (axis : Axis) (key : String) (id : ListenerId)
  /-- The call in progress is taken up. -/
  | proceed

/-- Listeners do what consumers do. -/
def Turn.External : Turn → Prop
  | .watch _ _ listener => listener.External
  | _ => True

/-- What a turn does to a cache and its listeners. -/
inductive Incident where
  /-- Values are going to be published. -/
  | updated (publications : List Publication)
  | published (publication : Publication)
  | watched (axis : Axis) (key : String) (id : ListenerId)
  /-- A listener was removed, which was there. -/
  | removed (axis : Axis) (key : String) (id : ListenerId)
  deriving DecidableEq

/-- A frame of publishing values. -/
def Frame.isPublishing : Frame → Bool
  | .publish _ | .notify .. => true
  | _ => false

/-- Which listener is called with which value, if an event is a call. -/
def Event.call? : Event → Option (ListenerId × Publication)
  | .notified id _ publication => some (id, publication)
  | _ => none

/-- A value that is told to the listeners of a roster, from some number on. -/
structure Telling where
  publication : Publication
  opened : ListenerId
  start : ListenerId
  deriving DecidableEq

namespace Deployment

def calls (deployment : Deployment) : List (ListenerId × Publication) :=
  deployment.events.filterMap Event.call?

/-- The values that a listener was called with, oldest first. -/
def received (deployment : Deployment) (id : ListenerId) : List Publication :=
  (deployment.calls.filter fun call => call.1 = id).map Prod.snd

/-- What remains to be done for publishing values. -/
def publishing (deployment : Deployment) : List Frame :=
  deployment.agenda.filter Frame.isPublishing

/-- What is told to listeners at the moment. -/
def telling? (deployment : Deployment) : Option Telling :=
  match deployment.publishing with
  | .notify publication opened start :: _ => some ⟨publication, opened, start⟩
  | _ => none

/-- A value is told to listeners of an axis. -/
def isTelling (deployment : Deployment) (axis : Axis) : Bool :=
  deployment.telling?.any fun telling => telling.publication.axis = axis

/-- Takes a turn. One that has to wait changes nothing. -/
def turn (deployment : Deployment) : Turn → Deployment
  | .update kind models =>
    if deployment.publishing.isEmpty then deployment.push [.publish (kind.publications models)]
    else deployment
  | .watch axis key listener =>
    if deployment.isTelling axis then deployment else deployment.watch axis key listener
  | .unwatch axis key id =>
    if deployment.isTelling axis then deployment
    else { deployment with cache := (deployment.cache.remove axis key id).2 }
  | .proceed => deployment.proceed

def turns (deployment : Deployment) (steps : List Turn) : Deployment :=
  steps.foldl turn deployment

def removal? (deployment : Deployment) (axis : Axis) (key : String) (id : ListenerId) :
    Option Incident :=
  if (deployment.cache.remove axis key id).1 then some (.removed axis key id) else none

/-- What a listener does to listeners when it performs an operation. -/
def incidentOf? (deployment : Deployment) : Operation → Option Incident
  | .watch axis key _ _ =>
    if deployment.held then some (.watched axis key deployment.cache.nextId) else none
  | .unwatch axis key label =>
    if deployment.held then (deployment.labels.get? label).bind (deployment.removal? axis key)
    else none
  | _ => none

/-- What the next turn does. -/
def incident? (deployment : Deployment) : Turn → Option Incident
  | .update kind models =>
    if deployment.publishing.isEmpty then some (.updated (kind.publications models)) else none
  | .watch axis key _ =>
    if deployment.isTelling axis then none else some (.watched axis key deployment.cache.nextId)
  | .unwatch axis key id =>
    if deployment.isTelling axis then none else deployment.removal? axis key id
  | .proceed =>
    match deployment.agenda with
    | .script ((_, operation) :: _) :: _ | .batch (operation :: _) _ :: _ =>
      deployment.incidentOf? operation
    | .publish (publication :: _) :: _ => some (.published publication)
    | _ => none

def incidents : Deployment → List Turn → List Incident
  | _, [] => []
  | deployment, step :: rest =>
    (deployment.incident? step).toList ++ (deployment.turn step).incidents rest

@[simp] theorem turns_nil (deployment : Deployment) : deployment.turns [] = deployment :=
  rfl

@[simp] theorem turns_cons (deployment : Deployment) (step : Turn) (rest : List Turn) :
    deployment.turns (step :: rest) = (deployment.turn step).turns rest :=
  rfl

theorem turns_append (deployment : Deployment) (first later : List Turn) :
    deployment.turns (first ++ later) = (deployment.turns first).turns later :=
  List.foldl_append

theorem incidents_append (deployment : Deployment) (first later : List Turn) :
    deployment.incidents (first ++ later) =
      deployment.incidents first ++ (deployment.turns first).incidents later := by
  induction first generalizing deployment with
  | nil => rfl
  | cons step rest ih =>
    rw [List.cons_append, incidents, ih, incidents, List.append_assoc, turns_cons]

/-- Beside the publication in progress, some calls are made and the cache becomes like a given
one. -/
structure Effects (before after : Deployment) (cache : Cache Listener)
    (calls : List (ListenerId × Publication)) : Prop where
  cache : after.cache.Alike cache
  calls : after.calls = before.calls ++ calls
  publishing : after.publishing = before.publishing

/-- What a turn may do. -/
inductive Turned (before after : Deployment) : Option Incident → Prop where
  | quiet (effects : Effects before after before.cache []) : Turned before after none
  /-- A listener is called with the value there is before it returns from watching. -/
  | watched {axis : Axis} {key : String} (listener : Listener)
      (effects : Effects before after (before.cache.add axis key listener)
        ((before.cache.current? axis key).toList.map fun value => (before.cache.nextId, value))) :
      Turned before after (some (.watched axis key before.cache.nextId))
  | removed {axis : Axis} {key : String} {id : ListenerId}
      (member : id ∈ before.cache.ids axis key)
      (effects : Effects before after (before.cache.remove axis key id).2 []) :
      Turned before after (some (.removed axis key id))
  | updated {publications : List Publication} (idle : before.publishing = [])
      (cache : after.cache.Alike before.cache) (calls : after.calls = before.calls)
      (publishing : after.publishing = [.publish publications]) :
      Turned before after (some (.updated publications))
  /-- A value is stored before its listeners are called. -/
  | published {publication : Publication} {more : List Publication} {outer : List Frame}
      (next : before.publishing = .publish (publication :: more) :: outer)
      (cache : after.cache.Alike (before.cache.store publication))
      (calls : after.calls = before.calls)
      (publishing : after.publishing =
        ((before.cache.opened? publication.axis publication.key).map fun opened =>
          Frame.notify publication opened 0).toList ++ .publish more :: outer) :
      Turned before after (some (.published publication))
  | finished {outer : List Frame} (next : before.publishing = .publish [] :: outer)
      (cache : after.cache.Alike before.cache) (calls : after.calls = before.calls)
      (publishing : after.publishing = outer) : Turned before after none
  | called {publication : Publication} {opened start id : ListenerId} {outer : List Frame}
      (next : before.publishing = .notify publication opened start :: outer)
      (upcoming : before.cache.upcoming? publication.axis publication.key opened start = some id)
      (cache : after.cache.Alike before.cache)
      (calls : after.calls = before.calls ++ [(id, publication)])
      (publishing : after.publishing = .notify publication opened (id + 1) :: outer) :
      Turned before after none
  | told {publication : Publication} {opened start : ListenerId} {outer : List Frame}
      (next : before.publishing = .notify publication opened start :: outer)
      (upcoming : before.cache.upcoming? publication.axis publication.key opened start = none)
      (cache : after.cache.Alike before.cache) (calls : after.calls = before.calls)
      (publishing : after.publishing = outer) : Turned before after none

namespace Effects

variable {before between after : Deployment} {cache : Cache Listener}
  {calls more : List (ListenerId × Publication)}

theorem of_fields (cache : after.cache = before.cache) (events : after.events = before.events)
    (agenda : after.agenda = before.agenda) : Effects before after before.cache [] where
  cache := by rw [cache]; exact .refl _
  calls := by rw [Deployment.calls, events, List.append_nil]; rfl
  publishing := by rw [Deployment.publishing, agenda]; rfl

theorem trans (first : Effects before between cache calls)
    (second : Effects between after between.cache more) :
    Effects before after cache (calls ++ more) where
  cache := second.cache.trans first.cache
  calls := by rw [second.calls, first.calls, List.append_assoc]
  publishing := second.publishing.trans first.publishing

end Effects

variable {deployment : Deployment}

theorem effects_answer (deployment : Deployment) (reply : Reply) :
    Effects deployment (deployment.answer reply) deployment.cache [] :=
  .of_fields rfl rfl rfl

theorem effects_push (deployment : Deployment) {frames : List Frame}
    (other : ∀ frame ∈ frames, frame.isPublishing = false) :
    Effects deployment (deployment.push frames) deployment.cache [] where
  cache := .refl _
  calls := (List.append_nil _).symm
  publishing := by
    have none : frames.filter Frame.isPublishing = [] :=
      List.filter_eq_nil_iff.mpr fun frame member => by simp [other frame member]
    rw [publishing, push, List.filter_append, none]
    rfl

theorem effects_take {frame : Frame} {rest : List Frame}
    (pending : deployment.agenda = frame :: rest) (other : frame.isPublishing = false) :
    Effects deployment { deployment with agenda := rest } deployment.cache [] where
  cache := .refl _
  calls := (List.append_nil _).symm
  publishing := by simp [publishing, pending, other]

theorem publishing_next {frame : Frame} {rest : List Frame}
    (pending : deployment.agenda = frame :: rest) (own : frame.isPublishing = true) :
    deployment.publishing = frame :: rest.filter Frame.isPublishing := by
  rw [publishing, pending, List.filter_cons_of_pos own]

theorem calls_emit (deployment : Deployment) (event : Event) :
    (deployment.emit event).calls = deployment.calls ++ event.call?.toList := by
  rw [calls, emit, List.filterMap_append]
  cases event <;> rfl

/-- A listener is called once, and what it does on the call comes later. -/
theorem effects_callListener (deployment : Deployment) (publication : Publication)
    (id : ListenerId) (listener : Listener) :
    Effects deployment (deployment.callListener publication id listener) deployment.cache
      [(id, publication)] := by
  have told : Effects deployment (deployment.emit (.notified id listener.label publication))
      deployment.cache [(id, publication)] :=
    ⟨.refl _, calls_emit deployment _, rfl⟩
  unfold callListener
  split
  · exact told
  · rename_i script rest _
    have spent : Effects (deployment.emit (.notified id listener.label publication))
        { deployment.emit (.notified id listener.label publication) with
          cache := deployment.cache.setListeners publication.axis
            ((deployment.cache.listeners publication.axis).modify publication.key id
              fun listener => { listener with scripts := rest }) }
        deployment.cache [] :=
      ⟨Cache.alike_modify deployment.cache publication.axis publication.key id _,
        (List.append_nil _).symm, rfl⟩
    exact told.trans (spent.trans (effects_push _ (by simp [Frame.isPublishing])))

theorem effects_watch (deployment : Deployment) (axis : Axis) (key : String)
    (listener : Listener) :
    Effects deployment (deployment.watch axis key listener)
      (deployment.cache.add axis key listener)
      ((deployment.cache.current? axis key).toList.map fun value =>
        (deployment.cache.nextId, value)) := by
  have added : Effects deployment
      { deployment with cache := deployment.cache.add axis key listener }
      (deployment.cache.add axis key listener) [] :=
    ⟨.refl _, (List.append_nil _).symm, rfl⟩
  have registered := added.trans (effects_push _
    (by simp [Frame.isPublishing] : ∀ frame ∈ [Frame.bind listener.label deployment.cache.nextId,
      .yield .done], frame.isPublishing = false))
  have current : (deployment.cache.add axis key listener).current? axis key =
      deployment.cache.current? axis key := Cache.current?_add ..
  unfold watch
  dsimp only
  rw [push, current]
  cases deployment.cache.current? axis key with
  | none => exact registered
  | some publication => exact registered.trans (effects_callListener _ publication _ listener)

theorem publishing_publish (deployment : Deployment) (publication : Publication) :
    (deployment.publish publication).cache = deployment.cache.store publication ∧
      (deployment.publish publication).calls = deployment.calls ∧
      (deployment.publish publication).publishing =
        ((deployment.cache.opened? publication.axis publication.key).map fun opened =>
          Frame.notify publication opened 0).toList ++ deployment.publishing := by
  have same : ((deployment.cache.store publication).listeners publication.axis).opened?
      publication.key = deployment.cache.opened? publication.axis publication.key :=
    Cache.opened?_store ..
  unfold publish
  dsimp only
  rw [same]
  cases deployment.cache.opened? publication.axis publication.key with
  | none => exact ⟨rfl, rfl, rfl⟩
  | some opened => exact ⟨rfl, rfl, rfl⟩

theorem removal?_cases (deployment : Deployment) (axis : Axis) (key : String) (id : ListenerId) :
    deployment.removal? axis key id = none ∨
      deployment.removal? axis key id = some (.removed axis key id) := by
  unfold removal?
  split
  · exact .inr rfl
  · exact .inl rfl

/-- Operations add or remove a listener at most. -/
theorem incidentOf?_cases (deployment : Deployment) (operation : Operation) :
    deployment.incidentOf? operation = none ∨
      ∃ axis key id, deployment.incidentOf? operation = some (.watched axis key id) ∨
        deployment.incidentOf? operation = some (.removed axis key id) := by
  cases operation with
  | watch axis key =>
    rw [incidentOf?]
    split
    · exact .inr ⟨axis, key, _, .inl rfl⟩
    · exact .inl rfl
  | unwatch axis key label =>
    rw [incidentOf?]
    split
    · cases deployment.labels.get? label with
      | none => exact .inl rfl
      | some id =>
        rw [Option.bind_some]
        rcases deployment.removal?_cases axis key id with absent | removed
        · exact .inl absent
        · exact .inr ⟨axis, key, id, .inr removed⟩
    · exact .inl rfl
  | _ => exact .inl rfl

theorem turned_removal {after : Deployment} {axis : Axis} {key : String} {id : ListenerId}
    (occupied : deployment.cache.Occupied)
    (effects : Effects deployment after (deployment.cache.remove axis key id).2 []) :
    Turned deployment after (deployment.removal? axis key id) := by
  unfold removal?
  cases found : (deployment.cache.remove axis key id).1 with
  | true =>
    have member : id ∈ deployment.cache.ids axis key := by
      simpa [Cache.remove_fst] using found
    exact .removed member effects
  | false =>
    rw [Cache.remove_snd_of_absent occupied found] at effects
    exact .quiet effects

private theorem effects_withClient {act : Deployment → Deployment}
    (acts : Effects deployment (act deployment) deployment.cache []) :
    Effects deployment (deployment.withClient act) deployment.cache [] := by
  unfold withClient
  split
  · exact acts
  · exact effects_answer deployment _

private theorem effects_withSubscription (kind : ResourceType)
    {act : Subscription Callback → Deployment}
    (acts : ∀ subscription, Effects deployment (act subscription) deployment.cache []) :
    Effects deployment (deployment.withSubscription kind act) deployment.cache [] := by
  unfold withSubscription
  split
  · exact acts _
  · exact effects_answer deployment _

private theorem effects_deliver (stream : Option Nat) (delivery : Delivery) :
    Effects deployment (deployment.deliver stream delivery) deployment.cache [] := by
  unfold deliver
  dsimp only
  split
  · exact effects_answer deployment _
  · split
    · exact .of_fields rfl rfl rfl
    · exact effects_answer deployment _

private theorem effects_complete (stream : Option Nat) :
    Effects deployment (deployment.complete stream) deployment.cache [] := by
  unfold complete
  dsimp only
  split
  · exact effects_answer deployment _
  · split
    · exact effects_answer deployment _
    · exact .of_fields rfl rfl rfl

private theorem turned_performPlain (occupied : deployment.cache.Occupied) {operation : Operation}
    (plain : operation.isPlain = true) :
    Turned deployment (deployment.perform operation) (deployment.incidentOf? operation) := by
  cases operation with
  | lastRequest | node | state | describeSession | describeExchange | close | cached | cachedAll =>
    refine .quiet ?_
    apply effects_withClient
    exact .of_fields rfl rfl rfl
  | release | admitHanging | alive | unknown => exact .quiet (.of_fields rfl rfl rfl)
  | subscribedNames kind | lastAck kind | describeSubscription kind | subscriptionFacts kind =>
    refine .quiet ?_
    apply effects_withSubscription
    intro subscription
    exact effects_answer deployment _
  | clientNames kind =>
    refine .quiet ?_
    apply effects_withClient
    apply effects_withSubscription
    intro subscription
    exact effects_answer deployment _
  | respond response stream => exact .quiet (effects_deliver stream _)
  | fail status stream => exact .quiet (effects_deliver stream _)
  | complete stream => exact .quiet (effects_complete stream)
  | unwatch axis key label =>
    rw [perform, incidentOf?, withClient]
    split
    · rw [unwatch]
      cases deployment.labels.get? label with
      | none => exact .quiet (effects_answer deployment _)
      | some id => exact turned_removal occupied ⟨.refl _, (List.append_nil _).symm, rfl⟩
    · exact .quiet (effects_answer deployment _)
  | register | registerCounter | request | subscribe | decode | handle | setCallback | plan | batch
  | watch => cases plain

theorem turned_perform (occupied : deployment.cache.Occupied) {operation : Operation}
    (external : operation.External) :
    Turned deployment (deployment.perform operation) (deployment.incidentOf? operation) := by
  cases external with
  | plain plain => exact turned_performPlain occupied plain
  | plan each => exact .quiet (.of_fields rfl rfl rfl)
  | batch each => exact .quiet (effects_push deployment (by simp [Frame.isPublishing]))
  | @watch axis key label scripts each =>
    rw [perform, incidentOf?, withClient]
    split
    · exact .watched ⟨label, scripts⟩ (effects_watch deployment axis key _)
    · exact .quiet (effects_answer deployment _)

/-- What happens after a frame was taken up happens in a turn with it. -/
theorem Turned.after_taking {before between after : Deployment}
    {incident : Option Incident} (turned : Turned between after incident)
    (cache : between.cache = before.cache) (calls : between.calls = before.calls)
    (publishing : between.publishing = before.publishing) : Turned before after incident := by
  have effects {reached : Cache Listener} {made : List (ListenerId × Publication)}
      (effects : Effects between after reached made) : Effects before after reached made :=
    ⟨effects.cache, effects.calls.trans (by rw [calls]), effects.publishing.trans publishing⟩
  cases turned with
  | quiet quiet => exact .quiet (cache ▸ effects quiet)
  | watched listener watched =>
    rw [cache] at watched ⊢
    exact .watched listener (effects watched)
  | removed member removed =>
    rw [cache] at member removed
    exact .removed member (effects removed)
  | updated idle same made next =>
    rw [publishing] at idle
    exact .updated idle (cache ▸ same) (made.trans calls) next
  | published next same made later =>
    rw [publishing] at next
    rw [cache] at same later
    exact .published next same (made.trans calls) later
  | finished next same made later =>
    exact .finished (publishing ▸ next) (cache ▸ same) (made.trans calls) later
  | called next upcoming same made later =>
    exact .called (publishing ▸ next) (cache ▸ upcoming) (cache ▸ same) (calls ▸ made) later
  | told next upcoming same made later =>
    exact .told (publishing ▸ next) (cache ▸ upcoming) (cache ▸ same) (made.trans calls) later

private theorem turned_next (occupied : deployment.cache.Occupied) {frame : Frame}
    {rest frames : List Frame} (pending : deployment.agenda = frame :: rest) (other : frame.isPublishing = false)
    (later : ∀ each ∈ frames, each.isPublishing = false) {operation : Operation}
    (external : operation.External) :
    Turned deployment
      ((({ deployment with agenda := rest } : Deployment).push frames).perform operation)
      (deployment.incidentOf? operation) := by
  have taken := (effects_take pending other).trans (effects_push _ later)
  have still : (({ deployment with agenda := rest } : Deployment).push frames).cache.Occupied :=
    occupied
  have performed : Turned (({ deployment with agenda := rest } : Deployment).push frames)
      ((({ deployment with agenda := rest } : Deployment).push frames).perform operation)
      (deployment.incidentOf? operation) := turned_perform still external
  exact performed.after_taking rfl rfl taken.publishing

private theorem turned_publish {publication : Publication} {more : List Publication}
    {rest : List Frame} (pending : deployment.agenda = .publish (publication :: more) :: rest) :
    Turned deployment deployment.proceed (some (.published publication)) := by
  have next := publishing_next pending rfl
  obtain ⟨cache, calls, publishing⟩ := publishing_publish
    (({ deployment with agenda := rest } : Deployment).push [.publish more]) publication
  simp only [proceed, pending]
  exact .published next (cache ▸ .refl _) calls publishing

private theorem turned_notify {publication : Publication} {opened start : ListenerId}
    {rest : List Frame} (pending : deployment.agenda = .notify publication opened start :: rest) :
    Turned deployment deployment.proceed none := by
  have next := publishing_next pending rfl
  have upcoming := deployment.cache.upcoming?_eq publication.axis publication.key opened start
  simp only [proceed, pending, notifyNext]
  split
  · rename_i nobody
    rw [nobody] at upcoming
    exact .told next upcoming.symm (.refl _) rfl rfl
  · rename_i id listener found
    rw [found] at upcoming
    have called := effects_callListener
      (({ deployment with agenda := rest } : Deployment).push
        [.notify publication opened (id + 1)]) publication id listener
    exact .called next upcoming.symm called.cache called.calls called.publishing

/-- Taking up a frame does what it says. -/
theorem turned_proceed (external : deployment.External) :
    Turned deployment deployment.proceed (deployment.incident? .proceed) := by
  cases pending : deployment.agenda with
  | nil =>
    simp only [proceed, incident?, pending]
    exact .quiet (.of_fields rfl rfl rfl)
  | cons frame rest =>
    have own := (external.drop pending).1
    cases frame with
    | script operations =>
      cases operations with
      | nil =>
        simp only [proceed, incident?, pending]
        exact .quiet (effects_take pending rfl)
      | cons entry more =>
        simp only [proceed, incident?, pending]
        exact turned_next external.occupied pending rfl (by simp [Frame.isPublishing])
          (own entry List.mem_cons_self)
    | batch operations replies =>
      cases operations with
      | nil =>
        simp only [proceed, incident?, pending]
        exact .quiet ((effects_take pending rfl).trans (effects_answer _ _))
      | cons operation more =>
        simp only [proceed, incident?, pending]
        exact turned_next external.occupied pending rfl (by simp [Frame.isPublishing])
          (own operation List.mem_cons_self)
    | publish publications =>
      cases publications with
      | nil =>
        have next := publishing_next pending rfl
        simp only [proceed, incident?, pending]
        exact .finished next (.refl _) rfl rfl
      | cons publication more =>
        have incident : deployment.incident? .proceed = some (.published publication) := by
          simp only [incident?, pending]
        rw [incident]
        exact turned_publish pending
    | notify publication opened start =>
      have incident : deployment.incident? .proceed = none := by simp only [incident?, pending]
      rw [incident]
      exact turned_notify pending
    | record label =>
      have taken := effects_take pending rfl
      have recorded : Effects { deployment with agenda := rest }
          (({ deployment with agenda := rest } : Deployment).emit
            (.performed label deployment.result)) deployment.cache [] :=
        ⟨.refl _, calls_emit _ _, rfl⟩
      simp only [proceed, incident?, pending]
      exact .quiet (taken.trans recorded)
    | settle kind version nonce =>
      simp only [proceed, incident?, pending]
      split
      · exact .quiet ((effects_take pending rfl).trans (.of_fields rfl rfl rfl))
      · exact .quiet (effects_take pending rfl)
    | gather operations replies =>
      simp only [proceed, incident?, pending]
      exact .quiet ((effects_take pending rfl).trans
        (effects_push _ (by simp [Frame.isPublishing])))
    | yield | bind | acknowledge | accept =>
      simp only [proceed, incident?, pending]
      exact .quiet ((effects_take pending rfl).trans (.of_fields rfl rfl rfl))

/-- A turn does what it is known for. -/
theorem turned_turn (external : deployment.External) (step : Turn) :
    Turned deployment (deployment.turn step) (deployment.incident? step) := by
  cases step with
  | update kind models =>
    simp only [turn, incident?]
    split
    · rename_i idle
      have idle : deployment.publishing = [] := List.isEmpty_iff.mp idle
      refine .updated idle (.refl _) rfl ?_
      have pushed : (deployment.push [.publish (kind.publications models)]).publishing =
          .publish (kind.publications models) :: deployment.publishing := rfl
      rw [pushed, idle]
    · exact .quiet (.of_fields rfl rfl rfl)
  | watch axis key listener =>
    simp only [turn, incident?]
    split
    · exact .quiet (.of_fields rfl rfl rfl)
    · exact .watched listener (effects_watch deployment axis key listener)
  | unwatch axis key id =>
    simp only [turn, incident?]
    split
    · exact .quiet (.of_fields rfl rfl rfl)
    · exact turned_removal external.occupied ⟨.refl _, (List.append_nil _).symm, rfl⟩
  | proceed => exact turned_proceed external

/-- The operations that are to be performed are external at each turn. -/
theorem External.turn (external : deployment.External) {step : Turn} (own : step.External) :
    (deployment.turn step).External := by
  cases step with
  | update kind models =>
    simp only [Deployment.turn]
    split
    · exact external.push (by simp [Frame.External])
    · exact external
  | watch axis key listener =>
    simp only [Deployment.turn]
    split
    · exact external
    · exact (aside_watch deployment axis key own).external external
  | unwatch axis key id =>
    simp only [Deployment.turn]
    split
    · exact external
    · exact external.remove axis key id
  | proceed =>
    show deployment.proceed.External
    cases pending : deployment.agenda with
    | nil =>
      simp only [Deployment.proceed, pending]
      exact external
    | cons frame rest =>
      have next := (external.drop pending).2
      by_cases last : frame = .acknowledge
      · subst last
        simp only [Deployment.proceed, pending]
        exact next.of_fields rfl rfl rfl
      · exact (aside_proceed deployment external pending last).external next

/-- What happens from one state to another, in order. Turns are one way to get there. -/
inductive Course : Deployment → List Incident → Deployment → Prop where
  | refl (deployment : Deployment) : Course deployment [] deployment
  | step {before between after : Deployment} {incident : Option Incident} {later : List Incident}
      (external : between.External) (turned : Turned before between incident)
      (rest : Course between later after) : Course before (incident.toList ++ later) after

theorem Course.single {before after : Deployment} {incident : Option Incident}
    (external : after.External) (turned : Turned before after incident) :
    Course before incident.toList after := by
  have one := Course.step external turned (.refl after)
  rwa [List.append_nil] at one

theorem course_turns (external : deployment.External) {steps : List Turn}
    (own : ∀ step ∈ steps, step.External) :
    Course deployment (deployment.incidents steps) (deployment.turns steps) := by
  induction steps generalizing deployment with
  | nil => exact .refl deployment
  | cons step rest ih =>
    obtain ⟨first, others⟩ := List.forall_mem_cons.mp own
    have next := external.turn first
    exact .step next (turned_turn external step) (ih next others)

end Deployment

end MeshDiscovery
