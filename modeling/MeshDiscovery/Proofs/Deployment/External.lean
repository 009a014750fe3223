import MeshDiscovery.Deployment.Move
import MeshDiscovery.Proofs.Exchange.Cache

namespace MeshDiscovery

/-- An operation that has no others inside and leaves the subscriptions alone. -/
def Operation.isPlain : Operation → Bool
  | .lastRequest _ | .node | .state | .describeSession | .describeExchange | .close | .release
  | .alive | .subscribedNames _ | .clientNames _ | .lastAck _ | .describeSubscription _
  | .subscriptionFacts _ | .respond .. | .fail .. | .complete _ | .admitHanging | .unwatch ..
  | .cached .. | .cachedAll _ | .unknown => true
  | .register .. | .registerCounter .. | .request _ | .subscribe .. | .decode .. | .handle ..
  | .setCallback .. | .plan _ | .batch _ | .watch .. => false

/-- An operation that leaves the subscriptions alone, with all that is inside it. -/
inductive Operation.External : Operation → Prop where
  | plain {operation : Operation} (plain : operation.isPlain = true) : External operation
  | plan {steps : List (ConnectStep Operation)}
      (each : ∀ script, .accompany script ∈ steps → ∀ entry ∈ script, External entry.2) :
      External (.plan steps)
  | batch {operations : List Operation} (each : ∀ operation ∈ operations, External operation) :
      External (.batch operations)
  | watch {axis : Axis} {key label : String} {scripts : List Script}
      (each : ∀ script ∈ scripts, ∀ entry ∈ script, External entry.2) :
      External (.watch axis key label scripts)

def Script.External (script : Script) : Prop :=
  ∀ entry ∈ script, entry.2.External

/-- Everything else than performing an operation is the client's own move. -/
def Move.External : Move → Prop
  | .perform operation => operation.External
  | _ => True

def Frame.External : Frame → Prop
  | .script operations => Script.External operations
  | .batch operations _ | .gather operations _ => ∀ operation ∈ operations, operation.External
  | _ => True

def Listener.External (listener : Listener) : Prop :=
  ∀ script ∈ listener.scripts, Script.External script

/-- All operations that are still to be performed are external, and the names that are listened to
are those with listeners. -/
structure Deployment.External (deployment : Deployment) : Prop where
  agenda : ∀ frame ∈ deployment.agenda, frame.External
  planned : ∀ script, .accompany script ∈ deployment.plane.plan → Script.External script
  listening : ∀ axis key, ∀ entry ∈ (deployment.cache.listeners axis).members key,
    entry.2.External
  occupied : deployment.cache.Occupied

namespace Deployment

variable {deployment : Deployment}

theorem External.of_fields {after : Deployment} (external : deployment.External)
    (agenda : after.agenda = deployment.agenda) (plan : after.plane.plan = deployment.plane.plan)
    (cache : after.cache = deployment.cache) : after.External where
  agenda := by rw [agenda]; exact external.agenda
  planned := by rw [plan]; exact external.planned
  listening := by rw [cache]; exact external.listening
  occupied := by rw [cache]; exact external.occupied

theorem External.push (external : deployment.External) {frames : List Frame}
    (more : ∀ frame ∈ frames, frame.External) : (deployment.push frames).External where
  agenda := by
    intro frame member
    rcases List.mem_append.mp member with new | old
    · exact more frame new
    · exact external.agenda frame old
  planned := external.planned
  listening := external.listening
  occupied := external.occupied

theorem External.drop {frame : Frame} {rest : List Frame} (external : deployment.External)
    (pending : deployment.agenda = frame :: rest) :
    frame.External ∧ ({ deployment with agenda := rest } : Deployment).External := by
  have all := external.agenda
  rw [pending] at all
  refine ⟨all frame List.mem_cons_self, ?_, external.planned, external.listening,
    external.occupied⟩
  intro other member
  exact all other (List.mem_cons_of_mem frame member)

theorem External.remove (external : deployment.External) (axis : Axis) (key : String)
    (id : ListenerId) :
    ({ deployment with cache := (deployment.cache.remove axis key id).2 } :
      Deployment).External where
  agenda := external.agenda
  planned := external.planned
  listening other name entry member :=
    external.listening other name entry (Cache.mem_members_remove _ member)
  occupied := external.occupied.remove axis key id

theorem External.add (external : deployment.External) (axis : Axis) (key : String)
    {listener : Listener} (own : listener.External) :
    ({ deployment with cache := deployment.cache.add axis key listener } :
      Deployment).External where
  agenda := external.agenda
  planned := external.planned
  listening other name entry member := by
    rcases Cache.mem_members_add _ member with old | new
    · exact external.listening other name entry old
    · rw [new]
      exact own
  occupied := external.occupied.add axis key listener

theorem External.store (external : deployment.External) (publication : Publication) :
    ({ deployment with cache := deployment.cache.store publication } : Deployment).External := by
  refine ⟨external.agenda, external.planned, ?_, external.occupied.store publication⟩
  intro axis key entry member
  have stored : entry ∈ ((deployment.cache.store publication).listeners axis).members key := member
  rw [Cache.listeners_store] at stored
  exact external.listening axis key entry stored

/-- A listener that has used up a script keeps the others. -/
theorem External.spend (external : deployment.External) (axis : Axis) (key : String)
    (id : ListenerId) {rest : List Script} (own : ∀ script ∈ rest, Script.External script) :
    ({ deployment with
        cache := deployment.cache.setListeners axis
          ((deployment.cache.listeners axis).modify key id fun listener =>
            { listener with scripts := rest }) } : Deployment).External := by
  refine ⟨external.agenda, external.planned, fun other name entry member => ?_,
    external.occupied.modify axis key id _⟩
  rcases Cache.mem_members_modify _ member with ⟨kept, _⟩ | ⟨before, replaced⟩
  · exact external.listening other name entry kept
  · rw [replaced]
    exact own

end Deployment

end MeshDiscovery
