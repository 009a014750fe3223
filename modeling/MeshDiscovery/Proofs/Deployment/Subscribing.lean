import MeshDiscovery.Proofs.Deployment.Reachable

namespace MeshDiscovery

namespace Session

end Session

namespace Deployment

variable {deployment : Deployment} {kind : ResourceType} {subscription : Subscription Callback}

end Deployment

end MeshDiscovery
