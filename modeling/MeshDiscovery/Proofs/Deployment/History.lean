import Mathlib.Data.List.Sort
import MeshDiscovery.Proofs.Deployment.Driving
import MeshDiscovery.Proofs.Deployment.Round

namespace MeshDiscovery.Deployment

variable {deployment before after : Deployment} {incident : Option Incident}

/-- What a move does to the cache and its listeners. -/
def happening? (deployment : Deployment) : Move → Option Incident
  | .proceed => deployment.incident? .proceed
  | .perform operation =>
    if deployment.agenda.isEmpty then deployment.incidentOf? operation else none
  | .read generation =>
    (deployment.handed? (.read generation)).map fun response => .updated response.publications
  | _ => none

def happenings : Deployment → List Move → List Incident
  | _, [] => []
  | deployment, step :: rest =>
    (deployment.happening? step).toList ++ (deployment.move step).happenings rest

private theorem effects_accept (generation : Nat) :
    Effects deployment (deployment.accept generation) deployment.cache [] :=
  .of_fields rfl rfl rfl

private theorem effects_connect (generation : Nat) :
    Effects deployment (deployment.connect generation) deployment.cache [] := by
  unfold connect
  split
  · exact effects_accept generation
  · dsimp only
    split
    · exact .of_fields rfl rfl rfl
    · exact .of_fields rfl rfl rfl
    · exact .of_fields rfl rfl rfl
    · rename_i rest _ script _
      have taken : Effects deployment
          { deployment with plane := { deployment.plane with plan := rest } } deployment.cache [] :=
        .of_fields rfl rfl rfl
      exact taken.trans (effects_push _ (by simp [Frame.isPublishing] :
        ∀ frame ∈ [Frame.script script, .accept generation], frame.isPublishing = false))

private theorem effects_start (generation : Nat) :
    Effects deployment (deployment.start generation) deployment.cache [] := by
  unfold start
  split
  · dsimp only
    split
    · have started : Effects deployment
          { deployment with session := deployment.session.start generation } deployment.cache [] :=
        .of_fields rfl rfl rfl
      exact started.trans (effects_connect generation)
    · exact .of_fields rfl rfl rfl
  · exact .of_fields rfl rfl rfl

private theorem effects_resume (generation : Nat) :
    Effects deployment (deployment.resume generation) deployment.cache [] := by
  unfold resume
  split
  · exact .of_fields rfl rfl rfl
  · exact .of_fields rfl rfl rfl

private theorem turned_relaying (deployment : Deployment) {kind : ResourceType}
    {response : Response} (waiting : deployment.agenda = []) (typed : response.typeUrl = kind.url) :
    Turned deployment (deployment.relaying kind response)
      (some (.updated response.publications)) := by
  have published : response.publications = kind.publications (response.models kind) := by
    rw [Response.publications, typed, ResourceType.ofUrl?_url]
  obtain ⟨session, handlers, same⟩ := deployment.relaying_eq kind response
  rw [published, same]
  refine .updated ?_ (.refl _) rfl ?_
  · rw [publishing, waiting]
    rfl
  · rw [publishing, waiting]
    rfl

namespace Agreeing

/-- A move does what it is known for. -/
theorem turned_move (agreeing : Agreeing deployment) {step : Move} (external : step.External) :
    Turned deployment (deployment.move step) (deployment.happening? step) := by
  have nothing {after : Deployment} (cache : after.cache = deployment.cache)
      (events : after.events = deployment.events) (agenda : after.agenda = deployment.agenda) :
      Turned deployment after none :=
    .quiet (.of_fields cache events agenda)
  unfold Deployment.move
  split
  · exact turned_proceed agreeing.external
  · rename_i other _ _ _ _ busy late
    have none : deployment.happening? other = none := by
      cases other with
      | proceed => exact absurd rfl late
      | perform | read => simp [happening?, handed?, busy]
      | _ => rfl
    rw [none]
    exact nothing rfl rfl rfl
  · rename_i operation waiting
    rw [happening?, waiting]
    exact turned_perform agreeing.external.occupied external
  · exact .quiet (effects_start _)
  · exact .quiet (effects_resume _)
  · rename_i generation waiting
    have reading := agreeing.reading waiting generation
    rw [happening?]
    generalize deployment.handed? (.read generation) = handed at reading ⊢
    generalize deployment.read generation = after at reading ⊢
    cases reading with
    | aside plane steps plan silent => exact nothing rfl rfl rfl
    | relayed plane kind response plan typed reading current =>
      have relayed := turned_relaying { deployment with
        plane, session := deployment.session.step (.read generation response) } waiting typed
      exact relayed.after_taking rfl rfl rfl
  · exact nothing rfl rfl rfl
  · exact nothing rfl rfl rfl
  · exact nothing rfl rfl rfl
  · exact nothing rfl rfl rfl

/-- Moves are a course, with what happens as they are made. -/
theorem course_moves (agreeing : Agreeing deployment) {steps : List Move}
    (external : ∀ step ∈ steps, step.External) :
    Course deployment (deployment.happenings steps) (deployment.moves steps) := by
  induction steps generalizing deployment with
  | nil => exact .refl deployment
  | cons step rest ih =>
    obtain ⟨own, others⟩ := List.forall_mem_cons.mp external
    have next := agreeing.move own
    exact .step next.external (agreeing.turned_move own)
      (ih next others)

end Agreeing

private theorem handed_incidentOf? (deployment : Deployment) (operation : Operation) :
    (deployment.incidentOf? operation).toList.flatMap Incident.handed = [] := by
  rcases deployment.incidentOf?_cases operation with none | ⟨_, _, _, watched | removed⟩
  · rw [none]
    rfl
  · rw [watched]
    rfl
  · rw [removed]
    rfl

private theorem handed_proceed (deployment : Deployment) :
    (deployment.incident? .proceed).toList.flatMap Incident.handed = [] := by
  unfold incident?
  dsimp only
  split
  · exact handed_incidentOf? deployment _
  · exact handed_incidentOf? deployment _
  · rfl
  · rfl

private theorem handed_happening? (deployment : Deployment) (step : Move) :
    (deployment.happening? step).toList.flatMap Incident.handed =
      (deployment.handed? step).toList.flatMap Response.publications := by
  cases step with
  | proceed => exact handed_proceed deployment
  | perform operation =>
    rw [happening?]
    split
    · exact handed_incidentOf? deployment operation
    · rfl
  | read generation =>
    rw [happening?]
    cases deployment.handed? (.read generation) <;> rfl
  | _ => rfl

theorem handed_happenings (deployment : Deployment) (steps : List Move) :
    (deployment.happenings steps).flatMap Incident.handed =
      (deployment.handed steps).flatMap Response.publications := by
  induction steps generalizing deployment with
  | nil => rfl
  | cons step rest ih =>
    rw [happenings, List.flatMap_append, handed_happening?, ih, handed, List.flatMap_append]

/-- The values that are published as moves are made, in order. -/
def published (deployment : Deployment) (steps : List Move) : List Publication :=
  (deployment.happenings steps).filterMap Incident.value?

theorem Agreeing.published_moves (agreeing : Agreeing deployment) {steps : List Move}
    (external : ∀ step ∈ steps, step.External) :
    deployment.published steps ++ (deployment.moves steps).unpublished =
      deployment.unpublished ++ (deployment.handed steps).flatMap Response.publications := by
  rw [← handed_happenings]
  exact (Orderly.flow_course (agreeing.course_moves external)).symm

theorem unpublished_of_waiting (waiting : deployment.agenda = []) :
    deployment.unpublished = [] := by
  rw [unpublished, publishing, waiting]
  rfl

theorem Agreeing.published_of_waiting (agreeing : Agreeing deployment) {steps : List Move}
    (external : ∀ step ∈ steps, step.External) (waiting : (deployment.moves steps).agenda = []) :
    deployment.published steps =
      deployment.unpublished ++ (deployment.handed steps).flatMap Response.publications := by
  have published := agreeing.published_moves external
  rwa [unpublished_of_waiting waiting, List.append_nil] at published

theorem publishedOn_happenings (deployment : Deployment) (steps : List Move) (axis : Axis)
    (key : String) :
    publishedOn axis key (deployment.happenings steps) =
      (deployment.published steps).filter fun value => value.axis = axis ∧ value.key = key :=
  publishedOn_eq axis key _

theorem telling?_of_waiting (waiting : deployment.agenda = []) : deployment.telling? = none := by
  rw [telling?, publishing, waiting]
  rfl

/-- The call of a listener that comes with its registration, if its name has a value. -/
def greeting? (deployment : Deployment) : Incident → Option (ListenerId × Publication)
  | .watched axis key id => (deployment.cache.current? axis key).map fun value => (id, value)
  | _ => none

/-- The calls that come with registrations as moves are made, in order. -/
def greetings : Deployment → List Move → List (ListenerId × Publication)
  | _, [] => []
  | deployment, step :: rest =>
    ((deployment.happening? step).bind deployment.greeting?).toList ++
      (deployment.move step).greetings rest

private theorem calls_turned (turned : Turned before after incident)
    (quiet : before.telling? = none) :
    after.calls = before.calls ++ (incident.bind before.greeting?).toList := by
  cases turned with
  | quiet effects | removed _ effects => exact effects.calls
  | watched _ effects =>
    rw [effects.calls]
    show _ = before.calls ++ (Option.map _ _).toList
    rw [Option.toList_map]
  | updated _ _ calls | published _ _ calls | finished _ _ calls =>
    exact calls.trans (List.append_nil _).symm
  | called next | told next =>
    rw [telling?_of_notify next] at quiet
    cases quiet

/-- As long as nothing is left to be published or told and nothing else is handed over, listeners
are called only as they are registered. -/
theorem Agreeing.calls_moves (agreeing : Agreeing deployment) (orderly : Orderly deployment)
    {steps : List Move} (external : ∀ step ∈ steps, step.External)
    (nothing : deployment.unpublished = []) (quiet : deployment.telling? = none)
    (unhanded : (deployment.handed steps).flatMap Response.publications = []) :
    (deployment.moves steps).calls = deployment.calls ++ deployment.greetings steps := by
  induction steps generalizing deployment with
  | nil => exact (List.append_nil _).symm
  | cons step rest ih =>
    obtain ⟨own, others⟩ := List.forall_mem_cons.mp external
    have next := agreeing.move own
    have turned := agreeing.turned_move own
    rw [handed, List.flatMap_append, List.append_eq_nil_iff, ← handed_happening?] at unhanded
    have flow := Orderly.flow_course (Course.single next.external turned)
    rw [nothing, unhanded.1, List.append_nil, eq_comm, List.append_eq_nil_iff] at flow
    have silent := Incident.filterMap_value?_eq_nil_iff.mp flow.1
    have still : (deployment.move step).telling? = none := by
      rcases telling?_turned orderly turned silent with same | none | ⟨_, _, told, _⟩
      · exact same.trans quiet
      · exact none
      · rw [quiet] at told
        cases told
    have later := ih next (orderly.turned next.external turned) others flow.2 still unhanded.2
    rw [greetings, ← List.append_assoc, ← calls_turned turned quiet]
    exact later

/-- What every registered listener has seen and is going to see is known. -/
def Informed (deployment : Deployment) : Prop :=
  ∀ axis key, ∀ id ∈ deployment.cache.ids axis key, ∃ seen, Follows deployment axis key id seen

private theorem Informed.turned (orderly : Orderly before) (reached : Orderly after)
    (informed : before.Informed) (turned : Turned before after incident) : after.Informed := by
  intro axis key id member
  by_cases old : id ∈ before.cache.ids axis key
  · obtain ⟨seen, follows⟩ := informed axis key id old
    refine ⟨_, follows.turned orderly turned fun removed => ?_⟩
    exact (Gone.of_removed orderly (removed ▸ turned)).1.absent axis key member
  · have left := ids_course (Course.single reached.external turned) axis key
    rw [left] at member
    cases incident with
    | none => exact absurd member old
    | some happened =>
      change id ∈ happened.leave axis key (before.cache.ids axis key) at member
      cases happened with
      | updated | published => exact absurd member old
      | removed other name gone =>
        rw [Incident.leave] at member
        split at member
        · exact absurd (List.mem_filter.mp member).1 old
        · exact absurd member old
      | watched other name added =>
        rw [Incident.leave] at member
        split at member
        · rename_i own
          obtain ⟨rfl, rfl⟩ := own
          rcases List.mem_append.mp member with earlier | now
          · exact absurd earlier old
          · rw [List.mem_singleton.mp now]
            exact ⟨_, (follows_watched orderly reached turned).2⟩
        · exact absurd member old

theorem Informed.course (orderly : Orderly before) (informed : before.Informed)
    {incidents : List Incident} (course : Course before incidents after) : after.Informed := by
  induction course with
  | refl _ => exact informed
  | step external turned _ ih =>
    have reached := orderly.turned external turned
    exact ih reached (informed.turned orderly reached turned)

theorem Informed.of_empty (empty : deployment.cache = {}) : deployment.Informed := by
  intro axis key id member
  rw [empty] at member
  cases axis <;> cases member

theorem mem_cachedAll {axis : Axis} {value : Publication} :
    value ∈ deployment.cachedAll axis ↔
      value.axis = axis ∧ deployment.cache.current? axis value.key = some value := by
  cases axis <;> cases value <;>
    simp [cachedAll, Cache.current?, Publication.axis, Publication.key, NameMap.mem_entries_iff]

private theorem entries_eq {α : Type} {left right : NameMap α}
    (same : ∀ name, left.get? name = right.get? name) : left.entries = right.entries := by
  have irreflexive : Std.Irrefl fun left right : String × α => left.1 < right.1 :=
    ⟨fun entry => String.lt_irrefl entry.1⟩
  have antisymmetric : Std.Antisymm fun left right : String × α => left.1 < right.1 :=
    ⟨fun _ _ before after => absurd after (String.lt_asymm before)⟩
  refine left.sorted.eq_of_mem_iff right.sorted fun entry => ?_
  rw [NameMap.mem_entries_iff, NameMap.mem_entries_iff, same]

/-- The same can be read exactly if the same is cached under each name. -/
theorem cachedAll_eq_iff {axis : Axis} :
    after.cachedAll axis = before.cachedAll axis ↔
      ∀ key, after.cache.current? axis key = before.cache.current? axis key := by
  have found (deployment : Deployment) (key : String) (value : Publication) :
      deployment.cache.current? axis key = some value ↔
        value ∈ deployment.cachedAll axis ∧ value.key = key := by
    rw [mem_cachedAll]
    constructor
    · intro current
      obtain ⟨rfl, rfl⟩ := Cache.place_of_current? current
      exact ⟨⟨rfl, current⟩, rfl⟩
    · rintro ⟨⟨_, current⟩, rfl⟩
      exact current
  constructor
  · intro same key
    refine Option.ext fun value => ?_
    rw [found, found, same]
  · intro same
    cases axis with
    | route =>
      have entries := entries_eq fun key => Option.map_injective
        (fun _ _ equal => (Publication.route.inj equal).2) (same key)
      exact congrArg (List.map _) entries
    | cluster =>
      have entries := entries_eq fun key => Option.map_injective
        (fun _ _ equal => (Publication.cluster.inj equal).2) (same key)
      exact congrArg (List.map _) entries

end MeshDiscovery.Deployment
