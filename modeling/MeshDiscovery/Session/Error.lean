import MeshDiscovery.ResourceType
import MeshDiscovery.Status

namespace MeshDiscovery

/-- Why a session cannot do what it is asked for. -/
inductive SessionError where
  /-- There is nothing that could run the session's tasks. -/
  | noRuntime
  /-- The control plane cannot be reached. -/
  | unreachable (reason : String)
  /-- The stream failed. -/
  | stream (status : Status)
  /-- The kind of resource has a handler already. -/
  | duplicateHandler (kind : ResourceType)
  /-- No handler takes resources of the type. -/
  | unhandledType (typeUrl : String)
  deriving DecidableEq, Repr

def SessionError.message : SessionError → String
  | noRuntime => "no tokio runtime available"
  | unreachable reason => s!"failed to connect: {reason}"
  | stream status => s!"stream failed: {status.render}"
  | duplicateHandler kind => s!"a handler for {kind.shortName} resources is already registered"
  | unhandledType typeUrl => s!"no handler registered for type url {Text.quote typeUrl}"

end MeshDiscovery
