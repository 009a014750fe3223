import MeshDiscovery.Proofs.Deployment.History
import MeshDiscovery.Proofs.Session.Link

/-!
What happens to an exchange from outside: responses are read, streams are lost and opened anew, and
consumers watch and unsubscribe. A response belongs to the axis on which its kind is discovered,
and so does what a consumer does; what happens to the streams belongs to both.
-/

namespace MeshDiscovery

/-- The axis on which resources of a kind are discovered. -/
def ResourceType.axis : ResourceType → Axis
  | .listener | .routeConfiguration => .route
  | .cluster | .clusterLoadAssignment => .cluster

/-- A message about one of the kinds of an axis. -/
def Request.isOn (axis : Axis) (request : Request) : Bool :=
  (ResourceType.ofUrl? request.typeUrl).any fun kind => kind.axis = axis

/-- Something that happens to an exchange from outside. -/
inductive Occurrence where
  /-- A response is read from the stream of a generation. -/
  | received (generation : Nat) (response : Response)
  | signalled (signal : Session.Signal)
  | watched (axis : Axis) (key : String) (id : ListenerId)
  /-- A consumer unsubscribes, whether or not the listener is there. -/
  | unwatched (axis : Axis) (key : String) (id : ListenerId)
  deriving DecidableEq

namespace Occurrence

/-- The axis to which an occurrence belongs, if it does not belong to both or neither. -/
def axis? : Occurrence → Option Axis
  | received _ response => (ResourceType.ofUrl? response.typeUrl).map ResourceType.axis
  | signalled _ => none
  | watched axis _ _ | unwatched axis _ _ => some axis

/-- The occurrence does not belong to the other axis. -/
def concerns (axis : Axis) (occurrence : Occurrence) : Bool :=
  occurrence.axis?.all fun own => own = axis

def rename (rename : ListenerId → ListenerId) : Occurrence → Occurrence
  | watched axis key id => watched axis key (rename id)
  | unwatched axis key id => unwatched axis key (rename id)
  | received generation response => received generation response
  | signalled signal => signalled signal

end Occurrence

/-- What a session comes to know by a step. -/
def Session.learns (session : Session) : Step → List Occurrence
  | .read generation response =>
    if session.hasTask generation .reading && !session.isBusy generation then
      [.received generation response]
    else []
  | step => (session.signal? step).toList.map .signalled

namespace Deployment

/-- The operation that a move performs. -/
def operation? (deployment : Deployment) (step : Move) : Option Operation :=
  match deployment.agenda, step with
  | [], .perform operation => some operation
  | .script ((_, operation) :: _) :: _, .proceed
  | .batch (operation :: _) _ :: _, .proceed => some operation
  | _, _ => none

/-- What an operation does to the listeners of consumers. -/
def consumes? (deployment : Deployment) : Operation → Option Occurrence
  | .watch axis key _ _ =>
    if deployment.held then some (.watched axis key deployment.cache.nextId) else none
  | .unwatch axis key label =>
    if deployment.held then
      (deployment.labels.get? label).map fun id => .unwatched axis key id
    else none
  | _ => none

/-- What consumers do to listeners in a move. -/
def consumed? (deployment : Deployment) (step : Move) : Option Occurrence :=
  (deployment.operation? step).bind deployment.consumes?

/-- What happens from outside in a move. -/
def occurrencesIn (deployment : Deployment) (step : Move) : List Occurrence :=
  Session.trace Session.learns deployment.session (deployment.stepsOf step) ++
    (deployment.consumed? step).toList

/-- What happens from outside as moves are made, in order. -/
def occurrences : Deployment → List Move → List Occurrence
  | _, [] => []
  | deployment, step :: rest =>
    deployment.occurrencesIn step ++ (deployment.move step).occurrences rest

/-- A response is dealt with: its values are being published, or it is to be acknowledged. -/
def isDispatching (deployment : Deployment) : Bool :=
  deployment.session.dispatch.isSome || !deployment.publishing.isEmpty

/-- Nothing happens from outside while a response is dealt with. The listeners that are called with
its values do not call back, and whatever else happens waits. -/
def undisturbed : Deployment → List Move → Bool
  | _, [] => true
  | deployment, step :: rest =>
    (!deployment.isDispatching || (deployment.occurrencesIn step).isEmpty) &&
      (deployment.move step).undisturbed rest

variable {deployment : Deployment}

theorem not_dispatching_iff : deployment.isDispatching = false ↔
    deployment.session.dispatch = none ∧ deployment.publishing = [] := by
  simp [isDispatching]

theorem Agreeing.not_dispatching (agreeing : Agreeing deployment)
    (waiting : deployment.agenda = []) : deployment.isDispatching = false :=
  not_dispatching_iff.mpr ⟨agreeing.idle waiting, by rw [publishing, waiting]; rfl⟩

/-- Routine steps and closing learn of signals only. -/
theorem trace_learns {steps : List Session.Step}
    (unread : ∀ step ∈ steps, ∀ generation response, step ≠ .read generation response)
    (session : Session) :
    Session.trace Session.learns session steps = (session.signals steps).map .signalled := by
  induction steps generalizing session with
  | nil => rfl
  | cons step rest ih =>
    obtain ⟨own, others⟩ := List.forall_mem_cons.mp unread
    have first : session.learns step = (session.signal? step).toList.map .signalled := by
      cases step with
      | read generation response => exact absurd rfl (own generation response)
      | _ => rfl
    rw [Session.trace, ih others, first, ← List.map_append]
    rfl

/-- What a move does to the cache: it performs the operation of a consumer, it hands a response over,
or it goes on publishing. -/
inductive Happens (deployment : Deployment) (step : Move) : Prop where
  | watched (axis : Axis) (key : String)
      (consumed : deployment.consumed? step = some (.watched axis key deployment.cache.nextId))
      (happening : deployment.happening? step = some (.watched axis key deployment.cache.nextId))
  | unwatched (axis : Axis) (key : String) (id : ListenerId)
      (consumed : deployment.consumed? step = some (.unwatched axis key id))
      (happening : deployment.happening? step = deployment.removal? axis key id)
  | handed (consumed : deployment.consumed? step = none)
      (happening : deployment.happening? step =
        (deployment.handed? step).map fun response => .updated response.publications)
  | published (consumed : deployment.consumed? step = none) (value : Publication)
      (unhanded : deployment.handed? step = none)
      (happening : deployment.happening? step = some (.published value))

private theorem happens_of_operation {step : Move} (operation : Operation)
    (performs : deployment.operation? step = some operation)
    (happening : deployment.happening? step = deployment.incidentOf? operation)
    (unhanded : deployment.handed? step = none) : deployment.Happens step := by
  have consumed : deployment.consumed? step = deployment.consumes? operation := by
    rw [consumed?, performs, Option.bind_some]
  have nothing (none : deployment.consumes? operation = none)
      (same : deployment.incidentOf? operation = Option.none) : deployment.Happens step :=
    .handed (consumed.trans none) (by rw [happening, same, unhanded]; rfl)
  cases operation with
  | watch axis key label scripts =>
    simp only [consumes?, incidentOf?] at consumed happening nothing
    split at consumed
    · exact .watched axis key consumed (happening.trans (if_pos ‹_›))
    · exact nothing (if_neg ‹_›) (if_neg ‹_›)
  | unwatch axis key label =>
    simp only [consumes?, incidentOf?] at consumed happening nothing
    split at consumed
    · rename_i held
      rw [if_pos held] at happening nothing
      cases bound : deployment.labels.get? label with
      | none => exact nothing (by rw [bound]; rfl) (by rw [if_pos held, bound]; rfl)
      | some id =>
        rw [bound] at consumed happening
        exact .unwatched axis key id consumed happening
    · exact nothing (if_neg ‹_›) (if_neg ‹_›)
  | _ => exact nothing rfl rfl

theorem happens (deployment : Deployment) (step : Move) : deployment.Happens step := by
  cases step with
  | perform operation =>
    cases pending : deployment.agenda with
    | nil =>
      exact happens_of_operation operation (by simp only [operation?, pending])
        (by simp [happening?, pending]) rfl
    | cons frame rest =>
      exact .handed (by simp [consumed?, operation?, pending]) (by simp [happening?, handed?, pending])
  | proceed =>
    cases pending : deployment.agenda with
    | nil =>
      exact .handed (by simp [consumed?, operation?, pending])
        (by simp [happening?, incident?, handed?, pending])
    | cons frame rest =>
      have quiet (unperformed : deployment.operation? .proceed = none)
          (silent : deployment.happening? .proceed = none) : deployment.Happens .proceed :=
        .handed (by rw [consumed?, unperformed]; rfl) (by rw [silent]; rfl)
      cases frame with
      | script operations =>
        cases operations with
        | nil => exact quiet (by simp [operation?, pending]) (by simp [happening?, incident?, pending])
        | cons entry more =>
          exact happens_of_operation entry.2 (by simp only [operation?, pending])
            (by simp only [happening?, incident?, pending]) rfl
      | batch operations replies =>
        cases operations with
        | nil => exact quiet (by simp [operation?, pending]) (by simp [happening?, incident?, pending])
        | cons operation more =>
          exact happens_of_operation operation (by simp only [operation?, pending])
            (by simp only [happening?, incident?, pending]) rfl
      | publish publications =>
        cases publications with
        | nil => exact quiet (by simp [operation?, pending]) (by simp [happening?, incident?, pending])
        | cons value more =>
          exact .published (by simp [consumed?, operation?, pending]) value rfl
            (by simp only [happening?, incident?, pending])
      | _ => exact quiet (by simp [operation?, pending]) (by simp [happening?, incident?, pending])
  | read generation =>
    refine .handed ?_ rfl
    cases pending : deployment.agenda <;> simp [consumed?, operation?, pending]
  | _ =>
    refine .handed ?_ rfl
    cases pending : deployment.agenda <;> simp [consumed?, operation?, pending]

end Deployment

end MeshDiscovery
