import MeshDiscovery.Deployment.Basic

namespace MeshDiscovery.Deployment

/-- Adds names to the subscription for a kind and requests all of it, as far as there is something
to request and the session is still there. -/
def subscribe (deployment : Deployment) (kind : ResourceType) (names : List String) : Deployment :=
  match deployment.subscription? kind with
  | none => deployment
  | some subscription =>
    let grown := subscription.add names
    let subscribed := deployment.setHandler kind (.subscription grown)
    match grown.request? kind with
    | none => subscribed
    | some request =>
      if subscribed.isAlive then { subscribed with session := subscribed.session.request request }
      else subscribed

/-- Subscribes to what a batch refers to, if it refers to anything. -/
def followReferences (deployment : Deployment) (kind : ResourceType) (models : List kind.Model) :
    Deployment :=
  match kind.referred? with
  | none => deployment
  | some target =>
    if (kind.references models).isEmpty then deployment
    else deployment.subscribe target (kind.references models)

/-- Runs the callback of a kind, if there is one, with a batch of resources. -/
def runCallback (deployment : Deployment) (kind : ResourceType) (models : List kind.Model) :
    Deployment :=
  match (deployment.subscription? kind).bind Subscription.callback with
  | none => deployment
  | some (.inform tag script) => (deployment.emit (.updated tag kind models)).push [.script script]
  | some .relay =>
    (deployment.followReferences kind models).push [.publish (kind.publications models)]

/-- Reports and counts the entries of a response that cannot be read. -/
def reportDefects (deployment : Deployment) (kind : ResourceType) (response : Response) :
    Deployment :=
  let reported := (response.defectNotices kind).foldl Session.report deployment.session
  { deployment with
    session := reported.count (·.countDecodeErrors kind (response.defects kind).length) }

/-- A subscription takes a response of its kind, or rejects it. -/
def handle (deployment : Deployment) (kind : ResourceType) (response : Response) : Deployment :=
  match response.checkKind kind with
  | .error problem =>
    { deployment with session := deployment.session.report (.responseRejected kind problem) }
  | .ok _ =>
    ((deployment.reportDefects kind response).push
      [.settle kind response.version response.nonce]).runCallback kind (response.models kind)

def runHandler (deployment : Deployment) (kind : ResourceType) (response : Response) : Deployment :=
  match deployment.handlers.get kind with
  | none => deployment
  | some (.counter calls script) =>
    ((deployment.setHandler kind (.counter (calls + 1) script)).emit
      (.handled kind (calls + 1) response.version response.nonce response.resources.length)).push
        [.script script]
  | some (.subscription _) => deployment.handle kind response

/-- Calls a listener with a value. It performs the script for this call, if it has one left. -/
def callListener (deployment : Deployment) (publication : Publication) (id : ListenerId)
    (listener : Listener) : Deployment :=
  let told := deployment.emit (.notified id listener.label publication)
  match listener.scripts with
  | [] => told
  | script :: rest =>
    let registry := (told.cache.listeners publication.axis).modify publication.key id
      fun listener => { listener with scripts := rest }
    { told with cache := told.cache.setListeners publication.axis registry }.push [.script script]

/-- Publishes a value: it is stored first, then the listeners of its name are called in turn. -/
def publish (deployment : Deployment) (publication : Publication) : Deployment :=
  let stored := { deployment with cache := deployment.cache.store publication }
  match (stored.cache.listeners publication.axis).opened? publication.key with
  | none => stored
  | some opened => stored.push [.notify publication opened 0]

/-- Calls the next listener of a roster, if there is one. The roster is looked at anew each time, so
that listeners which were added meanwhile are called and removed ones are not. -/
def notifyNext (deployment : Deployment) (publication : Publication)
    (opened start : ListenerId) : Deployment :=
  match (deployment.cache.listeners publication.axis).next? publication.key opened start with
  | none => deployment
  | some (id, listener) =>
    (deployment.push [.notify publication opened (id + 1)]).callListener publication id listener

/-- Registers a listener. If its name has a value, it is called with it at once; its label is bound
when it returns. -/
def watch (deployment : Deployment) (axis : Axis) (key : String) (listener : Listener) :
    Deployment :=
  let id := deployment.cache.nextId
  let registered :=
    { deployment with cache := deployment.cache.add axis key listener }.push
      [.bind listener.label id, .yield .done]
  match registered.cache.current? axis key with
  | none => registered
  | some publication => registered.callListener publication id listener

end MeshDiscovery.Deployment
