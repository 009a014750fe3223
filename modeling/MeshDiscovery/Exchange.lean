import MeshDiscovery.ClientConfig
import MeshDiscovery.Deployment.Schedule

namespace MeshDiscovery.Exchange

/-- The subscription of an exchange for one of the kinds. -/
def subscription (config : ClientConfig) : Subscription Callback :=
  { checkInterval := config.checkInterval, callback := some .relay }

/-- A client with a subscription for each kind, before anything is requested. -/
def register (config : ClientConfig) (session : Session) : Deployment where
  session := { session with handled := .const true }
  handlers := .const (some (.subscription (subscription config)))

/-- Starts an exchange. It needs a runtime for the tasks of its session. -/
def start (runtime : Bool) (config : ClientConfig) : Except SessionError Deployment :=
  (Session.new runtime config.node).map fun session =>
    let subscribed := ((register config session).subscribe .listener []).subscribe .cluster []
    subscribed.changeSession
      (·.report (.exchangeStarted config.node.id config.uri.render))

end MeshDiscovery.Exchange
