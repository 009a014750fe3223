import MeshDiscovery.Deployment.Consume

namespace MeshDiscovery.Deployment

/-- Performs an operation on the client, which its owner must not have given up. -/
def withClient (deployment : Deployment) (act : Deployment → Deployment) : Deployment :=
  if deployment.held then act deployment else deployment.answer .noSession

def withSubscription (deployment : Deployment) (kind : ResourceType)
    (act : Subscription Callback → Deployment) : Deployment :=
  match deployment.subscription? kind with
  | some subscription => act subscription
  | none => deployment.answer .noSubscription

/-- Registers a handler for a kind, unless the kind has one. -/
def register (deployment : Deployment) (kind : ResourceType) (handler : Handler) : Deployment :=
  match deployment.session.register kind with
  | .ok session => ({ deployment with session }.setHandler kind handler).answer .registered
  | .error problem => deployment.answer (.refused problem)

/-- The control plane sends something on a stream. -/
def deliver (deployment : Deployment) (stream : Option Nat) (delivery : Delivery) : Deployment :=
  let index := deployment.streamIndex stream
  match deployment.plane.streams[index]? with
  | none => deployment.answer .noStream
  | some server =>
    if !server.ended && deployment.isReading server.generation then
      let streams := deployment.plane.streams.set index
        { server with inbox := server.inbox ++ [delivery] }
      { deployment with plane := { deployment.plane with streams } }.answer .sent
    else deployment.answer .streamClosed

/-- The control plane leaves a stream: it takes no more requests, and what it has sent is still
read. -/
def complete (deployment : Deployment) (stream : Option Nat) : Deployment :=
  let index := deployment.streamIndex stream
  match deployment.plane.streams[index]? with
  | none => deployment.answer .noStream
  | some server =>
    if server.ended then deployment.answer .done
    else
      let streams := deployment.plane.streams.set index { server with ended := true }
      { deployment with
        plane := { deployment.plane with streams }
        session := deployment.session.shutChannel server.generation }.answer .done

def describeExchange (deployment : Deployment) : String :=
  "ResourceExchange \x7b session: " ++ deployment.session.describe ++ ", clusters: "
    ++ toString deployment.cache.clusters.size ++ ", virtual_hosts: "
    ++ toString deployment.cache.virtualHosts.size ++ " \x7d"

/-- Everything that is cached on an axis, in the order of the names. -/
def cachedAll (deployment : Deployment) : Axis → List Publication
  | .route => deployment.cache.virtualHosts.entries.map fun entry => .route entry.1 entry.2
  | .cluster => deployment.cache.clusters.entries.map fun entry => .cluster entry.1 entry.2

/-- Removes a listener by the label that is bound to it. -/
def unwatch (deployment : Deployment) (axis : Axis) (key label : String) : Deployment :=
  match deployment.labels.get? label with
  | none => deployment.answer .noListener
  | some id =>
    let (removed, cache) := deployment.cache.remove axis key id
    { deployment with cache }.answer (.flag removed)

def perform (deployment : Deployment) : Operation → Deployment
  | .register kind checkInterval =>
    deployment.withClient (·.register kind (.subscription { checkInterval }))
  | .registerCounter kind script => deployment.withClient (·.register kind (.counter 0 script))
  | .request request =>
    deployment.withClient fun client =>
      { client with session := client.session.request request }.answer .done
  | .lastRequest kind =>
    deployment.withClient fun client => client.answer (.request (client.session.recorded.get kind))
  | .node => deployment.withClient fun client => client.answer (.node client.session.node)
  | .state => deployment.withClient fun client => client.answer (.state client.session.state)
  | .describeSession =>
    deployment.withClient fun client => client.answer (.text client.session.describe)
  | .describeExchange =>
    deployment.withClient fun client => client.answer (.text client.describeExchange)
  | .close =>
    deployment.withClient fun client =>
      { client with session := client.session.close }.answer .done
  | .release => { deployment with held := false }.answer .done
  | .alive => deployment.answer (.flag deployment.isAlive)
  | .subscribe kind names =>
    deployment.withSubscription kind fun subscription =>
      (deployment.subscribe kind names).answer (.names (subscription.add names).names.toList)
  | .subscribedNames kind =>
    deployment.withSubscription kind fun subscription =>
      deployment.answer (.names subscription.names.toList)
  | .clientNames kind =>
    deployment.withClient (·.withSubscription kind fun subscription =>
      deployment.answer (.names subscription.names.toList))
  | .lastAck kind =>
    deployment.withSubscription kind fun subscription =>
      deployment.answer (.ack subscription.lastAck)
  | .describeSubscription kind =>
    deployment.withSubscription kind fun subscription =>
      deployment.answer (.text (subscription.describe kind))
  | .subscriptionFacts kind =>
    deployment.withSubscription kind fun subscription =>
      deployment.answer (.subscriptionFacts kind subscription.checkInterval)
  | .decode kind response =>
    deployment.withSubscription kind fun _ =>
      match response.checkKind kind with
      | .error problem => deployment.answer (.rejected problem)
      | .ok _ =>
        ((deployment.reportDefects kind response).push
          [.yield (.models kind (response.models kind))]).runCallback kind (response.models kind)
  | .handle kind response =>
    deployment.withSubscription kind fun _ => (deployment.push [.yield .done]).handle kind response
  | .setCallback kind tag script =>
    deployment.withSubscription kind fun subscription =>
      (deployment.setHandler kind
        (.subscription { subscription with callback := some (.inform tag script) })).answer .done
  | .respond response stream => deployment.deliver stream (.response response)
  | .fail status stream => deployment.deliver stream (.failure status)
  | .complete stream => deployment.complete stream
  | .plan steps =>
    { deployment with
      plane := { deployment.plane with plan := deployment.plane.plan ++ steps } }.answer .done
  | .admitHanging =>
    { deployment with
      plane := { deployment.plane with
        admitted := deployment.plane.admitted ++ deployment.plane.hanging, hanging := [] } }.answer
          .done
  | .batch operations => deployment.push [.batch operations []]
  | .watch axis key label scripts =>
    deployment.withClient (·.watch axis key ⟨label, scripts⟩)
  | .unwatch axis key label => deployment.withClient (·.unwatch axis key label)
  | .cached axis key =>
    deployment.withClient fun client =>
      client.answer (.publication (client.cache.current? axis key))
  | .cachedAll axis =>
    deployment.withClient fun client => client.answer (.publications (client.cachedAll axis))
  | .unknown => deployment.answer .unknownOperation

end MeshDiscovery.Deployment
