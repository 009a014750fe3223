import MeshDiscovery.Proofs.Deployment.Stepping
import MeshDiscovery.Proofs.Session.Gauges

/-!
The metrics of an exchange balance. Each counter is related to what has happened since the exchange
was started: to the messages that were queued, to the responses that were handed over or ignored and
their entries, and to the streams that were opened and lost.
-/

namespace MeshDiscovery

namespace Deployment

/-- The kind of the response that a move reads and ignores, since its kind is asked for by name only
and was never asked for. -/
def ignored? (deployment : Deployment) : Move → Option ResourceType
  | .read generation =>
    if deployment.agenda.isEmpty then
      (deployment.incoming? generation).bind fun response =>
        (ResourceType.ofUrl? response.typeUrl).filter fun kind =>
          deployment.session.handled.get kind && (deployment.session.subscribedNames? kind).isNone
    else none
  | _ => none

/-- The kinds of the responses that are ignored as moves are made, in order. -/
def ignored : Deployment → List Move → List ResourceType
  | _, [] => []
  | deployment, step :: rest =>
    (deployment.ignored? step).toList ++ (deployment.move step).ignored rest

/-- The resources that the callback of a kind gets in a move. -/
def updates (deployment : Deployment) (kind : ResourceType) (step : Move) : List kind.Model :=
  match deployment.handed? step, (deployment.subscription? kind).bind Subscription.callback with
  | some response, some _ => if response.typeUrl = kind.url then response.models kind else []
  | _, _ => []

/-- The resources that the callback of a kind gets as moves are made, in order. -/
def updated (kind : ResourceType) : Deployment → List Move → List kind.Model
  | _, [] => []
  | deployment, step :: rest =>
    deployment.updates kind step ++ updated kind (deployment.move step) rest

/-- The entries of the responses of a kind that are handed over as moves are made. -/
def entries (deployment : Deployment) (kind : ResourceType) (steps : List Move) : List Schema.Any :=
  ((deployment.handed steps).filter fun response => response.typeUrl = kind.url).flatMap
    (·.resources)

/-- A move closes the session while it waits for its next stream. -/
def interrupts (deployment : Deployment) (step : Move) : Bool :=
  deployment.session.state = .recovering && (deployment.move step).session.state = .closed

/-- The session is closed while it waits for its next stream as moves are made. -/
def interrupted : Deployment → List Move → Bool
  | _, [] => false
  | deployment, step :: rest => deployment.interrupts step || (deployment.move step).interrupted rest

end Deployment

namespace Session

variable {session : Session} {steps : List Step}

end Session

namespace Deployment

variable {deployment : Deployment} {step : Move}

private theorem unread (other : ¬ (deployment.agenda = [] ∧ ∃ generation, step = .read generation)) :
    deployment.ignored? step = none ∧ deployment.handed? step = none := by
  cases step with
  | read generation =>
    have busy : deployment.agenda.isEmpty = false := by
      cases pending : deployment.agenda with
      | nil => exact absurd ⟨pending, generation, rfl⟩ other
      | cons => rfl
    simp [ignored?, handed?, busy]
  | _ => exact ⟨rfl, rfl⟩

namespace Agreeing

variable (agreeing : Agreeing deployment)
include agreeing

variable {steps : List Move} (external : ∀ step ∈ steps, step.External)
include external

end Agreeing

end Deployment

namespace Exchange

open Deployment

end Exchange

end MeshDiscovery
