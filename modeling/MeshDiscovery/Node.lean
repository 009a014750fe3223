/-!
The identity that a client presents to the control plane. Unless an id is given, it names the pod
the client runs in, in the form that meshes use for sidecars.
-/

namespace MeshDiscovery

/-- The variables of a pod's environment that an identity is built from. -/
structure Environment where
  instanceIp : Option String := none
  podName : Option String := none
  podNamespace : Option String := none
  clusterId : Option String := none
  deriving DecidableEq, Repr, Inhabited

namespace Environment

/-- The environment with one variable set; variables of other names play no part. -/
def define (environment : Environment) (name value : String) : Environment :=
  match name with
  | "INSTANCE_IP" => { environment with instanceIp := some value }
  | "POD_NAME" => { environment with podName := some value }
  | "POD_NAMESPACE" => { environment with podNamespace := some value }
  | "ISTIO_META_CLUSTER_ID" => { environment with clusterId := some value }
  | _ => environment

/-- The environment with variables set by definitions, of which the last one for a variable wins. -/
def ofList (definitions : List (String × String)) : Environment :=
  definitions.foldl (fun environment entry => environment.define entry.1 entry.2) {}

end Environment

structure Node where
  id : String
  cluster : String
  userAgentName : String
  userAgentVersion : String
  deriving DecidableEq, Repr, Inhabited

inductive NodeChoice where
  | id (text : String)
  | cluster (text : String)
  | podIp (text : String)
  | podName (text : String)
  | podNamespace (text : String)
  | clusterDomain (text : String)
  deriving DecidableEq, Repr

/-- What is known about an identity before it is built. -/
structure NodeSettings where
  id : Option String := none
  cluster : Option String := none
  podIp : Option String := none
  podName : Option String := none
  podNamespace : Option String := none
  clusterDomain : Option String := none
  deriving DecidableEq, Repr, Inhabited

namespace NodeSettings

def ofEnvironment (environment : Environment) : NodeSettings where
  podIp := environment.instanceIp
  podName := environment.podName
  podNamespace := environment.podNamespace
  cluster := environment.clusterId

def choose (settings : NodeSettings) : NodeChoice → NodeSettings
  | .id text => { settings with id := some text }
  | .cluster text => { settings with cluster := some text }
  | .podIp text => { settings with podIp := some text }
  | .podName text => { settings with podName := some text }
  | .podNamespace text => { settings with podNamespace := some text }
  | .clusterDomain text => { settings with clusterDomain := some text }

/-- The settings with explicit choices, made in order. -/
def chooseAll (settings : NodeSettings) (choices : List NodeChoice) : NodeSettings :=
  choices.foldl choose settings

def effectiveIp (settings : NodeSettings) : String :=
  settings.podIp.getD "127.0.0.1"

def effectivePod (settings : NodeSettings) : String :=
  settings.podName.getD "localhost"

def effectiveNamespace (settings : NodeSettings) : String :=
  settings.podNamespace.getD "default"

def effectiveDomain (settings : NodeSettings) : String :=
  settings.clusterDomain.getD "cluster.local"

/-- The id of a sidecar: its kind, address, pod and domain, separated by tildes. -/
def sidecarId (settings : NodeSettings) : String :=
  let space := settings.effectiveNamespace
  "sidecar~" ++ settings.effectiveIp ++ "~" ++ settings.effectivePod ++ "." ++ space ++ "~"
    ++ space ++ ".svc." ++ settings.effectiveDomain

def node (settings : NodeSettings) : Node where
  id := settings.id.getD settings.sidecarId
  cluster := settings.cluster.getD "Kubernetes"
  userAgentName := "pilot"
  userAgentVersion := "0.1.0"

end NodeSettings

end MeshDiscovery
