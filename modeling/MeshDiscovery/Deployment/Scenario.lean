import MeshDiscovery.Deployment.Schedule

namespace MeshDiscovery

namespace Scenario

inductive Step where
  | perform (operation : Operation)
  /-- Lets time pass, in milliseconds. -/
  | advance (span : Nat)

/-- What can be observed after a step. -/
structure Report where
  result : Reply
  /-- The state of the session, as long as the owner has not given the client up. -/
  state : Option SessionState
  connects : Nat
  /-- The requests that the control plane has got since the last report, with the numbers of their
  streams. -/
  sent : List (Nat × Request)
  /-- What consumers have seen since the last report. -/
  events : List Event
  /-- What was reported since the last report. -/
  notices : List Notice

/-- How much was observed before. -/
structure Mark where
  events : Nat := 0
  notices : Nat := 0
  /-- The number of requests got on each stream. -/
  requests : List Nat := []

/-- The requests that the control plane can see on a stream. A stream that it has left shows none.
-/
def visibleRequests (deployment : Deployment) (server : ServerStream) : List Request :=
  if server.ended then []
  else ((deployment.session.channel? server.generation).map Session.Channel.queued).getD []

/-- The requests that were not observed before, by stream. -/
def newRequests (deployment : Deployment) (mark : Mark) : List (Nat × Request) :=
  deployment.plane.streams.zipIdx.flatMap fun (server, index) =>
    ((visibleRequests deployment server).drop (mark.requests.getD index 0)).map fun request =>
      (index, request)

/-- What is observed of a client, and how much was observed with that. -/
def observe (deployment : Deployment) (mark : Mark) : Report × Mark :=
  ({ result := deployment.result
     state := if deployment.held then some deployment.session.state else none
     connects := deployment.session.connects
     sent := newRequests deployment mark
     events := deployment.events.drop mark.events
     notices := deployment.session.notices.drop mark.notices },
   { events := deployment.events.length
     notices := deployment.session.notices.length
     requests :=
      deployment.plane.streams.map fun server => (visibleRequests deployment server).length })

/-- Performs a step and lets everything run until it waits. -/
def performStep (deployment : Deployment) : Step → Deployment
  | .perform operation =>
    let performed := (deployment.move (.perform operation)).finish
    { performed.settle with result := performed.result }
  | .advance span => { deployment.advance span with result := .done }

/-- Performs steps in order, with a report after each one. -/
def runSteps (deployment : Deployment) (mark : Mark) : List Step → List Report × Deployment
  | [] => ([], deployment)
  | step :: rest =>
    let after := performStep deployment step
    let (report, seen) := observe after mark
    let (reports, final) := runSteps after seen rest
    (report :: reports, final)

/-- What is written down of a scenario. -/
structure Transcript where
  start : Report
  steps : List Report
  metrics : Metrics

/-- Runs a scenario from a client that was just set up. -/
def run (deployment : Deployment) (steps : List Step) : Transcript :=
  let settled := { deployment.settle with result := .done }
  let (start, mark) := observe settled {}
  let (reports, final) := runSteps settled mark steps
  ⟨start, reports, final.session.metrics⟩

end Scenario

end MeshDiscovery
