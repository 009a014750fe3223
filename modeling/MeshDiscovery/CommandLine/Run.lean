import MeshDiscovery.CommandLine.Log
import MeshDiscovery.Exchange

namespace MeshDiscovery.CommandLine

namespace Arguments

/-- Metrics can only be served at a socket address. -/
def checkMetricsAddr (arguments : Arguments) : Except RunError Unit :=
  match arguments.metricsAddr with
  | none => .ok ()
  | some address =>
    if (SocketAddress.parse address).isSome then .ok () else .error .metricsAddress

def nodeChoices (arguments : Arguments) : List NodeChoice :=
  (arguments.nodeId.map .id).toList ++ (arguments.nodeCluster.map .cluster).toList

def node (arguments : Arguments) (environment : Environment) : Node :=
  ((NodeSettings.ofEnvironment environment).chooseAll arguments.nodeChoices).node

def configure (arguments : Arguments) (environment : Environment) :
    Except ConfigError ClientConfig :=
  (ClientConfig.ofServer environment arguments.server).bind fun config =>
    { config with node := arguments.node environment }.addAllMetadata arguments.metadata

def watches (arguments : Arguments) : List Operation :=
  arguments.watchRoutes.map (fun service => .watch .route service service [])
    ++ arguments.watchClusters.map fun cluster => .watch .cluster cluster cluster []

end Arguments

/-- A program at work. -/
structure Running where
  config : ClientConfig
  deployment : Deployment
  /-- What was logged so far, oldest first. -/
  log : List Entry

namespace Running

/-- The client has come further; what it reports and the changes it tells are logged. -/
def advanceTo (running : Running) (deployment : Deployment) : Running :=
  let notices := deployment.session.notices.drop running.deployment.session.notices.length
  let events := deployment.events.drop running.deployment.events.length
  { running with
    deployment
    log := running.log ++ notices.map .notice ++ events.filterMap Entry.ofEvent? }

def perform (running : Running) (operation : Operation) : Running :=
  running.advanceTo (running.deployment.perform operation).finish

/-- Performs an operation and lets everything run until it waits. -/
def performAndSettle (running : Running) (operation : Operation) : Running :=
  (running.perform operation).advanceTo (running.perform operation).deployment.settle

def write (running : Running) (entry : Entry) : Running :=
  { running with log := running.log ++ [entry] }

def start (arguments : Arguments) (environment : Environment) : Except RunError Running := do
  arguments.checkMetricsAddr
  let config ← (arguments.configure environment).mapError .config
  let deployment ← (Exchange.start true config).mapError .session
  let started : Running := ⟨config, deployment, deployment.session.notices.map .notice⟩
  return arguments.watches.foldl perform started

/-- The number of routes that the client has subscribed to. -/
def subscribedRoutes (running : Running) : Nat :=
  match running.deployment.subscription? .routeConfiguration with
  | some subscription => subscription.names.toList.length
  | none => 0

/-- Logs what has been discovered so far. -/
def summarize (running : Running) : Running :=
  let cache := running.deployment.cache
  running.write (.summary running.deployment.session.state running.subscribedRoutes
    cache.virtualHosts.size cache.clusters.size)

def shutDown (running : Running) : Running :=
  (running.write .shuttingDown).perform .close

/-- Lets time pass, in milliseconds, while every attempt to connect is refused. -/
def waitRefused (running : Running) (problem : SessionError) (span : Nat) : Running :=
  let deployment := running.deployment
  let plan := List.replicate (span / Session.reconnectDelay + 2) (.refuse problem)
  let refusing : Deployment := { deployment with plane := { deployment.plane with plan } }
  running.advanceTo (refusing.settle.advance span)

end Running

/-- What is at the other end of the connection. -/
inductive Peer where
  /-- Every attempt to connect is refused. -/
  | unreachable (reason : String)
  /-- A control plane that sends responses, each one after the one before was dealt with. -/
  | scripted (responses : List Response)

/-- The client meets its peer, and everything runs until it waits. -/
def Running.face (running : Running) : Peer → Running
  | .unreachable reason => running.performAndSettle (.plan [.refuse (.unreachable reason)])
  | .scripted responses =>
    responses.foldl (fun running response => running.performAndSettle (.respond response none))
      (running.performAndSettle (.plan []))

/-- What a run shows to the outside. -/
structure Outcome where
  /-- The exit code, unless the run goes on. -/
  exitCode : Option Nat
  log : List Entry := []
  /-- The headers that the stream was opened with, if there is one. -/
  headers : List Header := []
  /-- The requests that the peer got, in order. -/
  requests : List Request := []

/-- What a run shows that has come to some point. -/
def Running.outcome (running : Running) (exitCode : Option Nat) : Outcome where
  exitCode
  log := running.log
  headers :=
    if running.deployment.plane.streams.isEmpty then [] else Header.onStream running.config.metadata
  requests :=
    if running.deployment.plane.streams.isEmpty then []
    else running.deployment.session.channels.flatMap Session.Channel.queued

/-- Runs the program up to its first summary, and to its end if it is interrupted then. -/
def run (environment : Environment) (line : List String) (peer : Peer) (interrupted : Bool) :
    Outcome :=
  match Arguments.read line with
  | .error problem => { exitCode := some problem.exitCode }
  | .ok arguments =>
    match Running.start arguments environment with
    | .error problem => { exitCode := some 1, log := [.exiting problem] }
    | .ok running =>
      let summarized := (running.face peer).summarize
      if interrupted then summarized.shutDown.outcome (some 0) else summarized.outcome none

end MeshDiscovery.CommandLine
