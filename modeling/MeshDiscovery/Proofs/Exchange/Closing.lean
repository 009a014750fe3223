import MeshDiscovery.Proofs.Deployment.History
import MeshDiscovery.Proofs.Exchange.Cascade
import MeshDiscovery.Proofs.Session.Closing

/-!
An exchange after it was closed. Closing ends its session, but neither the publication in progress
nor the reading of a response that has arrived: what is left of these is cached and told to
listeners as before, and nothing else is.
-/

namespace MeshDiscovery

namespace Deployment

variable {deployment : Deployment}

/-- As moves are made, what can be read stays the same, and listeners are called only as they are
registered. -/
def Frozen (deployment : Deployment) (steps : List Move) : Prop :=
  (∀ axis, (deployment.moves steps).cachedAll axis = deployment.cachedAll axis) ∧
    (deployment.moves steps).calls = deployment.calls ++ deployment.greetings steps

/-- The values that remain to be published as moves are made, in order: those of the batch in
progress and those that are handed over yet. -/
def remaining (deployment : Deployment) (steps : List Move) : List Publication :=
  deployment.unpublished ++ (deployment.handed steps).flatMap Response.publications

/-- The values that remain to be published under a name, in order. -/
def remainingOn (deployment : Deployment) (steps : List Move) (axis : Axis) (key : String) :
    List Publication :=
  (deployment.remaining steps).filter fun value => value.axis = axis ∧ value.key = key

namespace Agreeing

private theorem closed_move (agreeing : Agreeing deployment)
    (closed : deployment.session.phase = .closed) {step : Move} (external : step.External) :
    (deployment.move step).session.phase = .closed ∧
      (deployment.move step).session.tasks.Sublist deployment.session.tasks := by
  obtain ⟨_, steps, session, _⟩ := agreeing.driven external
  have ceased := Session.ceased_run closed steps
  rw [session]
  exact ⟨ceased.phase, ceased.tasks⟩

private theorem closed_moves (agreeing : Agreeing deployment)
    (closed : deployment.session.phase = .closed) {steps : List Move}
    (external : ∀ step ∈ steps, step.External) :
    (deployment.moves steps).session.phase = .closed := by
  induction steps generalizing deployment with
  | nil => exact closed
  | cons step rest ih =>
    obtain ⟨own, others⟩ := List.forall_mem_cons.mp external
    exact ih (agreeing.move own) (agreeing.closed_move closed own).1 others

private theorem handed_of_unread (agreeing : Agreeing deployment)
    (closed : deployment.session.phase = .closed)
    (unread : ∀ generation, deployment.isReading generation = false) {steps : List Move}
    (external : ∀ step ∈ steps, step.External) : deployment.handed steps = [] := by
  -- A closed exchange begins to read no further stream.
  induction steps generalizing deployment with
  | nil => rfl
  | cons step rest ih =>
    obtain ⟨own, others⟩ := List.forall_mem_cons.mp external
    obtain ⟨still, fewer⟩ := agreeing.closed_move closed own
    have unhanded : deployment.handed? step = none := by
      cases step with
      | read generation => simp [handed?, incoming?, unread]
      | _ => rfl
    have stillUnread (generation : Nat) :
        (deployment.move step).isReading generation = false := by
      have absent := unread generation
      simp only [isReading, Session.hasTask, List.contains_eq_mem, decide_eq_false_iff_not]
        at absent ⊢
      exact fun member => absent (fewer.subset member)
    rw [handed, unhanded, ih (agreeing.move own) still stillUnread others]
    rfl

variable {steps : List Move}

private theorem frozen (agreeing : Agreeing deployment) (orderly : Orderly deployment)
    (external : ∀ step ∈ steps, step.External) (nothing : deployment.remaining steps = [])
    (quiet : deployment.telling? = none) : deployment.Frozen steps := by
  obtain ⟨published, unhanded⟩ := List.append_eq_nil_iff.mp nothing
  have unchanged := agreeing.published_moves external
  rw [published, unhanded, List.append_nil, List.append_eq_nil_iff] at unchanged
  refine ⟨fun axis => cachedAll_eq_iff.mpr fun key => ?_,
    agreeing.calls_moves orderly external published quiet unhanded⟩
  have none : publishedOn axis key (deployment.happenings steps) = [] := by
    rw [publishedOn_happenings, unchanged.1, List.filter_nil]
  rw [current?_course (agreeing.course_moves external), none]
  rfl

private theorem publishedOn_of_waiting (agreeing : Agreeing deployment)
    (external : ∀ step ∈ steps, step.External) (waiting : (deployment.moves steps).agenda = [])
    (axis : Axis) (key : String) :
    publishedOn axis key (deployment.happenings steps) = deployment.remainingOn steps axis key := by
  rw [publishedOn_happenings, agreeing.published_of_waiting external waiting]
  rfl

private theorem cachedAll_moves_iff (agreeing : Agreeing deployment)
    (external : ∀ step ∈ steps, step.External) (waiting : (deployment.moves steps).agenda = [])
    (axis : Axis) :
    (deployment.moves steps).cachedAll axis = deployment.cachedAll axis ↔
      ∀ key value, (deployment.remainingOn steps axis key).getLast? = some value →
        deployment.cache.current? axis key = some value := by
  rw [cachedAll_eq_iff]
  refine forall_congr' fun key => ?_
  rw [current?_course (agreeing.course_moves external),
    agreeing.publishedOn_of_waiting external waiting]
  cases (deployment.remainingOn steps axis key).getLast? with
  | none => simp
  | some value => simp [eq_comm]

private theorem received_moves (agreeing : Agreeing deployment) (orderly : Orderly deployment)
    (informed : deployment.Informed) (external : ∀ step ∈ steps, step.External)
    (waiting : (deployment.moves steps).agenda = []) {axis : Axis} {key : String} {id : ListenerId}
    (member : id ∈ deployment.cache.ids axis key)
    (kept : .removed axis key id ∉ deployment.happenings steps) :
    (deployment.moves steps).received id =
      deployment.received id ++ deployment.owed axis key id ++
        deployment.remainingOn steps axis key := by
  obtain ⟨seen, follows⟩ := informed axis key id member
  have received := (follows.course orderly (agreeing.course_moves external) kept).received
  rw [owed_of_quiet (telling?_of_waiting waiting), List.append_nil,
    agreeing.publishedOn_of_waiting external waiting] at received
  rw [received, follows.received]

end Agreeing

end Deployment

namespace Exchange

open Deployment

/-- A closed exchange stays closed. It is frozen if no value remains to be published or told;
whatever remains is published in order nevertheless, with the names that it changes and the
listeners that it calls. Of responses, only those remain that came on a stream which is still being
read. -/
theorem closed_exchange_publishes_what_remains (config : ClientConfig) (earlier later : List Move)
    (external : ∀ step ∈ earlier ++ later, step.External) :
    ∃ started, start true config = .ok started ∧
      let closed := started.moves earlier
      let after := closed.moves later
      closed.session.phase = .closed →
        after.session.phase = .closed ∧
          closed.published later ++ after.unpublished = closed.remaining later ∧
          (closed.remaining later = [] → closed.telling? = none → closed.Frozen later) ∧
          ((∀ generation, closed.isReading generation = false) → closed.handed later = []) ∧
          (after.agenda = [] → ∀ axis,
            (after.cachedAll axis = closed.cachedAll axis ↔
              ∀ key value, (closed.remainingOn later axis key).getLast? = some value →
                closed.cache.current? axis key = some value) ∧
            ∀ key, ∀ id ∈ closed.cache.ids axis key,
              .removed axis key id ∉ closed.happenings later →
                after.received id = closed.received id ++ closed.owed axis key id ++
                  closed.remainingOn later axis key) := by
  obtain ⟨started, isStarted, agreeing⟩ := agreeing_start config
  obtain ⟨_, same, orderly, _⟩ := orderly_start config
  cases same.symm.trans isStarted
  have before : ∀ step ∈ earlier, step.External :=
    fun step member => external step (List.mem_append_left later member)
  have afterwards : ∀ step ∈ later, step.External :=
    fun step member => external step (List.mem_append_right earlier member)
  refine ⟨started, isStarted, ?_⟩
  intro closed after isClosed
  have course := agreeing.course_moves before
  have informed : closed.Informed := .course orderly (.of_empty (cache_start isStarted)) course
  have agreeing := agreeing.moves before
  have orderly := orderly.course course
  refine ⟨agreeing.closed_moves isClosed afterwards, agreeing.published_moves afterwards,
    agreeing.frozen orderly afterwards,
    fun unread => agreeing.handed_of_unread isClosed unread afterwards, fun waiting axis => ?_⟩
  exact ⟨agreeing.cachedAll_moves_iff afterwards waiting axis, fun key id member kept =>
    agreeing.received_moves orderly informed afterwards waiting member kept⟩

/-- An exchange that is closed between calls, with its stream left, only greets its listeners. -/
theorem closing_between_calls_freezes :
    let config : ClientConfig :=
      ⟨⟨none, "control:15010", "", none⟩, ⟨"n", "mesh", "client", "1"⟩, 10000, []⟩
    let clusters : Response :=
      { typeUrl := ResourceType.cluster.url
        version := "1"
        nonce := "n1"
        resources := [ResourceType.cluster.pack { name := "a" }] }
    let endpoints : Response :=
      { typeUrl := ResourceType.clusterLoadAssignment.url
        version := "1"
        nonce := "n2"
        resources := [ResourceType.clusterLoadAssignment.pack { clusterName := "a" }] }
    let earlier : List Move :=
      [.start 0, .perform (.respond clusters none), .read 0, .proceed, .proceed, .proceed,
        .perform (.respond endpoints none), .read 0, .proceed, .proceed, .proceed, .proceed,
        .perform (.respond endpoints none), .perform .close]
    let later : List Move :=
      [.stop 0, .read 0, .perform (.watch .cluster "a" "l" []), .proceed, .proceed]
    (∀ step ∈ earlier ++ later, step.External) ∧
      ∃ started, start true config = .ok started ∧
        (started.moves earlier).session.phase = .closed ∧
          (started.moves earlier).Frozen later ∧
          (started.moves earlier).greetings later = [(0, .cluster "a" ⟨"a", []⟩)] := by
  intro config clusters endpoints earlier later
  have external : ∀ step ∈ earlier ++ later, step.External := by
    have responds (response : Response) : (Operation.respond response none).External := .plain rfl
    have watches : (Operation.watch .cluster "a" "l" []).External := .watch (by simp)
    have closes : Operation.close.External := .plain rfl
    simp [earlier, later, Move.External, responds, watches, closes]
  obtain ⟨started, isStarted, known⟩ :=
    closed_exchange_publishes_what_remains config earlier later external
  have observed : ((start true config).toOption.map fun started =>
      let closed := started.moves earlier
      (closed.session.phase, closed.remaining later, closed.telling?, closed.greetings later)) =
      some (.closed, [], none, [(0, .cluster "a" ⟨"a", []⟩)]) := by
    decide +kernel
  simp only [isStarted, Except.toOption, Option.map_some, Option.some.injEq,
    Prod.mk.injEq] at observed
  obtain ⟨closed, nothing, quiet, greeted⟩ := observed
  obtain ⟨_, _, frozen, _⟩ := known closed
  exact ⟨external, started, isStarted, closed, frozen nothing quiet, greeted⟩

/-- A listener closes the exchange as the first of two assignments is told; the other one is cached
after that. -/
theorem closing_listener_is_followed_by_update :
    let config : ClientConfig :=
      ⟨⟨none, "control:15010", "", none⟩, ⟨"n", "mesh", "client", "1"⟩, 10000, []⟩
    let clusters : Response :=
      { typeUrl := ResourceType.cluster.url
        version := "1"
        nonce := "n1"
        resources :=
          [ResourceType.cluster.pack { name := "a" }, ResourceType.cluster.pack { name := "b" }] }
    let endpoints : Response :=
      { typeUrl := ResourceType.clusterLoadAssignment.url
        version := "1"
        nonce := "n2"
        resources :=
          [ResourceType.clusterLoadAssignment.pack { clusterName := "a" },
            ResourceType.clusterLoadAssignment.pack { clusterName := "b" }] }
    let earlier : List Move :=
      [.start 0, .perform (.watch .cluster "a" "l" [[("destroy", .close)]]), .proceed, .proceed,
        .perform (.respond clusters none), .read 0, .proceed, .proceed, .proceed,
        .perform (.respond endpoints none), .read 0, .proceed, .proceed, .proceed]
    let later : List Move := .replicate 7 .proceed
    (∀ step ∈ earlier ++ later, step.External) ∧
      ∃ started, start true config = .ok started ∧
        let closed := started.moves earlier
        closed.session.phase = .closed ∧
          closed.cachedAll .cluster = [.cluster "a" ⟨"a", []⟩] ∧
          (closed.moves later).cachedAll .cluster =
            [.cluster "a" ⟨"a", []⟩, .cluster "b" ⟨"b", []⟩] ∧
          ¬ closed.Frozen later := by
  intro config clusters endpoints earlier later
  have external : ∀ step ∈ earlier ++ later, step.External := by
    have responds (response : Response) : (Operation.respond response none).External := .plain rfl
    have closes : Operation.close.External := .plain rfl
    have watches : (Operation.watch .cluster "a" "l" [[("destroy", .close)]]).External :=
      .watch (by simp [closes])
    simp [earlier, later, Move.External, responds, watches]
  have observed : ((start true config).toOption.map fun started =>
      let closed := started.moves earlier
      (closed.session.phase, closed.cachedAll .cluster, (closed.moves later).cachedAll .cluster)) =
      some (.closed, [.cluster "a" ⟨"a", []⟩],
        [.cluster "a" ⟨"a", []⟩, .cluster "b" ⟨"b", []⟩]) := by
    decide +kernel
  obtain ⟨started, isStarted, _⟩ := agreeing_start config
  simp only [isStarted, Except.toOption, Option.map_some, Option.some.injEq,
    Prod.mk.injEq] at observed
  obtain ⟨closed, first, both⟩ := observed
  refine ⟨external, started, isStarted, closed, first, both, fun frozen => ?_⟩
  have same := frozen.1 .cluster
  rw [first, both] at same
  cases same

end Exchange

end MeshDiscovery
