import MeshDiscovery.Proofs.Deployment.History
import MeshDiscovery.Proofs.Exchange.References

/-!
The cache is the last word of the control plane. What the readable entries of the responses say
under a name, in the order in which they arrive, is what is published under it, and the last of that
is what is cached.
-/

namespace MeshDiscovery

open Resource (VirtualHost)

namespace Response

/-- The entries of a response that can be read as resources of a kind, in order. -/
def readable (response : Response) (kind : ResourceType) : List kind.Encoded :=
  if response.typeUrl = kind.url then
    response.resources.filterMap fun entry =>
      if entry.typeUrl = kind.url then Wire.Message.decode (α := kind.Encoded) entry.value else none
  else []

/-- The virtual hosts that route for a service, in order. -/
def hostsFor (response : Response) (service : String) : List Schema.VirtualHost :=
  ((response.readable .routeConfiguration).flatMap (·.virtualHosts)).filter fun host =>
    VirtualHost.stripPort host.name = service

/-- The endpoints that are assigned by a name, in order. -/
def assignmentsBy (response : Response) (name : String) : List Schema.ClusterLoadAssignment :=
  (response.readable .clusterLoadAssignment).filter fun assignment => assignment.clusterName = name

/-- What a response says under a name, as it is published. -/
def saidOn (response : Response) (axis : Axis) (key : String) : List Publication :=
  match axis with
  | .route => (response.hostsFor key).map fun host => .route key (.ofMessage host)
  | .cluster =>
    (response.assignmentsBy key).map fun assignment => .cluster key (.ofMessage assignment)

/-- The response without the entries that are skipped. -/
def withoutDefects (response : Response) : Response :=
  match ResourceType.ofUrl? response.typeUrl with
  | some kind =>
    { response with
      resources := response.resources.filter fun entry => (kind.decodeEntry entry).toOption.isSome }
  | none => response

variable {response : Response} {kind : ResourceType}

theorem mem_readable {message : kind.Encoded} :
    message ∈ response.readable kind ↔ response.Holds kind message := by
  unfold readable Holds
  by_cases typed : response.typeUrl = kind.url
  · rw [if_pos typed, List.mem_filterMap]
    simp [typed]
  · simp [typed]

theorem mem_hostsFor {service : String} {host : Schema.VirtualHost} :
    host ∈ response.hostsFor service ↔
      ∃ routes : Schema.RouteConfiguration, response.Holds .routeConfiguration routes ∧
        host ∈ routes.virtualHosts ∧ VirtualHost.stripPort host.name = service := by
  rw [hostsFor, List.mem_filter, List.mem_flatMap, decide_eq_true_eq]
  constructor
  · rintro ⟨⟨routes, readable, inside⟩, own⟩
    exact ⟨routes, mem_readable.mp readable, inside, own⟩
  · rintro ⟨routes, holds, inside, own⟩
    exact ⟨⟨routes, mem_readable.mpr holds, inside⟩, own⟩

theorem mem_assignmentsBy {name : String} {assignment : Schema.ClusterLoadAssignment} :
    assignment ∈ response.assignmentsBy name ↔
      response.Holds .clusterLoadAssignment assignment ∧ assignment.clusterName = name := by
  rw [assignmentsBy, List.mem_filter, decide_eq_true_eq]
  exact and_congr_left fun _ => mem_readable

theorem models_eq (typed : response.typeUrl = kind.url) :
    response.models kind = (response.readable kind).map kind.convert := by
  rw [readable, if_pos typed, List.map_filterMap]
  refine List.filterMap_congr fun entry _ => ?_
  unfold ResourceType.decodeEntry
  split
  · cases Wire.Message.decode (α := kind.Encoded) entry.value <;> rfl
  · rfl

theorem publications_eq (typed : response.typeUrl = kind.url) :
    response.publications = kind.publications (response.models kind) := by
  rw [publications, typed, ResourceType.ofUrl?_url]

theorem readable_of_other {other : ResourceType} (typed : response.typeUrl = kind.url)
    (different : other ≠ kind) : response.readable other = [] :=
  if_neg fun same => different (ResourceType.url_injective (same.symm.trans typed))

/-- Entries that are skipped say nothing. -/
theorem publications_withoutDefects (response : Response) :
    response.withoutDefects.publications = response.publications := by
  unfold withoutDefects
  split
  · rename_i kind known
    have typed := ResourceType.ofUrl?_eq_some_iff.mp known
    have kept (entries : List Schema.Any) : ({ response with resources := entries } :
        Response).publications =
          kind.publications (entries.filterMap fun entry => (kind.decodeEntry entry).toOption) :=
      publications_eq typed
    rw [kept, List.filterMap_filter, publications_eq typed, models]
    congr 1
    refine List.filterMap_congr fun entry _ => ?_
    cases (kind.decodeEntry entry).toOption <;> rfl
  · rfl

private theorem publications_of_hosts (configs : List Schema.RouteConfiguration) :
    ResourceType.routeConfiguration.publications
        (configs.map (ResourceType.convert .routeConfiguration)) =
      (configs.flatMap (·.virtualHosts)).map fun host =>
        .route (VirtualHost.stripPort host.name) (.ofMessage host) := by
  simp only [ResourceType.publications, List.flatMap_map, List.map_flatMap]
  congr 1
  funext config
  simp only [ResourceType.convert, Resource.RouteConfiguration.byService,
    Resource.RouteConfiguration.ofMessage, List.map_map]
  rfl

private theorem publications_of_assignments (assignments : List Schema.ClusterLoadAssignment) :
    ResourceType.clusterLoadAssignment.publications
        (assignments.map (ResourceType.convert .clusterLoadAssignment)) =
      assignments.map fun assignment =>
        .cluster assignment.clusterName (.ofMessage assignment) := by
  rw [ResourceType.publications, List.map_map]
  rfl

private theorem filter_named {α : Type} (axis : Axis) (name : α → String)
    (publish : String → α → Publication)
    (place : ∀ key item, (publish key item).axis = axis ∧ (publish key item).key = key)
    (items : List α) (key : String) :
    ((items.map fun item => publish (name item) item).filter fun value =>
        value.axis = axis ∧ value.key = key) =
      (items.filter fun item => name item = key).map (publish key) := by
  rw [List.filter_map]
  simp only [Function.comp_def, place, true_and]
  refine List.map_congr_left fun item member => ?_
  rw [of_decide_eq_true (List.mem_filter.mp member).2]

private theorem filter_other {α : Type} (axis : Axis) (publish : α → Publication)
    (other : ∀ item, (publish item).axis ≠ axis) (items : List α) (key : String) :
    ((items.map publish).filter fun value => value.axis = axis ∧ value.key = key) = [] := by
  refine List.filter_eq_nil_iff.mpr fun value member => ?_
  obtain ⟨item, _, rfl⟩ := List.mem_map.mp member
  simp [other item]

/-- What is published of a response under a name is what the response says under it. -/
theorem publicationsOn_eq (response : Response) (axis : Axis) (key : String) :
    (response.publications.filter fun value => value.axis = axis ∧ value.key = key) =
      response.saidOn axis key := by
  cases known : ResourceType.ofUrl? response.typeUrl with
  | none =>
    have silent (kind : ResourceType) : response.readable kind = [] := by
      refine if_neg fun typed => ?_
      rw [typed, ResourceType.ofUrl?_url] at known
      cases known
    rw [publications, known]
    cases axis <;> simp [saidOn, hostsFor, assignmentsBy, silent]
  | some kind =>
    have typed := ResourceType.ofUrl?_eq_some_iff.mp known
    rw [publications_eq typed, models_eq typed]
    cases kind with
    | listener | cluster =>
      cases axis <;>
        simp [ResourceType.publications, saidOn, hostsFor, assignmentsBy, readable_of_other typed]
    | routeConfiguration =>
      rw [publications_of_hosts]
      cases axis with
      | route =>
        exact filter_named .route (fun host : Schema.VirtualHost => VirtualHost.stripPort host.name)
          (fun service host => .route service (.ofMessage host)) (fun _ _ => ⟨rfl, rfl⟩) _ key
      | cluster =>
        rw [filter_other .cluster _ (by simp [Publication.axis])]
        simp [saidOn, assignmentsBy, readable_of_other typed]
    | clusterLoadAssignment =>
      rw [publications_of_assignments]
      cases axis with
      | cluster =>
        exact filter_named .cluster Schema.ClusterLoadAssignment.clusterName
          (fun name assignment => .cluster name (.ofMessage assignment)) (fun _ _ => ⟨rfl, rfl⟩) _
            key
      | route =>
        rw [filter_other .route _ (by simp [Publication.axis])]
        simp [saidOn, hostsFor, readable_of_other typed]

end Response

namespace Deployment

variable {deployment : Deployment}

def cachedKeys (deployment : Deployment) (axis : Axis) : List String :=
  (deployment.cachedAll axis).map Publication.key

theorem cachedKeys_ascending (deployment : Deployment) (axis : Axis) :
    (deployment.cachedKeys axis).Pairwise (· < ·) := by
  cases axis with
  | route =>
    simp only [cachedKeys, cachedAll, List.map_map]
    exact List.pairwise_map.mpr deployment.cache.virtualHosts.sorted
  | cluster =>
    simp only [cachedKeys, cachedAll, List.map_map]
    exact List.pairwise_map.mpr deployment.cache.clusters.sorted

theorem mem_cachedKeys {axis : Axis} {key : String} :
    key ∈ deployment.cachedKeys axis ↔ (deployment.cache.current? axis key).isSome = true := by
  rw [cachedKeys, List.mem_map, Option.isSome_iff_exists]
  constructor
  · rintro ⟨value, cached, rfl⟩
    obtain ⟨rfl, current⟩ := mem_cachedAll.mp cached
    exact ⟨value, current⟩
  · rintro ⟨value, current⟩
    obtain ⟨rfl, rfl⟩ := Cache.place_of_current? current
    exact ⟨value, mem_cachedAll.mpr ⟨rfl, current⟩, rfl⟩

/-- The move that publishes a value: the call in progress has it next. -/
def Publishes (deployment : Deployment) (step : Move) (value : Publication) : Prop :=
  step = .proceed ∧ ∃ more rest, deployment.agenda = .publish (value :: more) :: rest

private theorem incidentOf?_ne_published (operation : Operation) (value : Publication) :
    deployment.incidentOf? operation ≠ some (.published value) := by
  rcases deployment.incidentOf?_cases operation with none | ⟨_, _, _, watched | removed⟩
  · simp [none]
  · simp [watched]
  · simp [removed]

private theorem publishes_of_happening? {step : Move} {value : Publication}
    (happening : deployment.happening? step = some (.published value)) :
    deployment.Publishes step value := by
  cases step with
  | proceed =>
    refine ⟨rfl, ?_⟩
    simp only [happening?, incident?] at happening
    split at happening
    · exact absurd happening (incidentOf?_ne_published _ value)
    · exact absurd happening (incidentOf?_ne_published _ value)
    · rename_i publication more rest pending
      cases happening
      exact ⟨more, rest, pending⟩
    · cases happening
  | perform operation =>
    rw [happening?] at happening
    split at happening
    · exact absurd happening (incidentOf?_ne_published _ value)
    · cases happening
  | read generation =>
    obtain ⟨response, _, other⟩ := Option.map_eq_some_iff.mp happening
    cases other
  | _ => cases happening

namespace Agreeing

variable {steps : List Move}

/-- A move that publishes a value replaces what was cached under its name; others leave the cache
as it is. -/
theorem current?_move (agreeing : Agreeing deployment) {step : Move} (external : step.External) :
    (∃ value, deployment.Publishes step value ∧ ∀ axis key,
      (deployment.move step).cache.current? axis key =
        if value.axis = axis ∧ value.key = key then some value
        else deployment.cache.current? axis key) ∨
      ∀ axis, (deployment.move step).cachedAll axis = deployment.cachedAll axis := by
  have current := current?_course (Course.single (agreeing.move external).external
    (agreeing.turned_move external))
  cases happening : deployment.happening? step with
  | none =>
    rw [happening] at current
    exact .inr fun axis => cachedAll_eq_iff.mpr fun key => current axis key
  | some incident =>
    rw [happening] at current
    cases incident with
    | published value =>
      refine .inl ⟨value, publishes_of_happening? happening, fun axis key => ?_⟩
      rw [current, Option.toList_some, publishedOn_published]
      split <;> rfl
    | updated | watched | removed =>
      exact .inr fun axis => cachedAll_eq_iff.mpr fun key => current axis key

theorem cachedKeys_moves (agreeing : Agreeing deployment)
    (external : ∀ step ∈ steps, step.External) (axis : Axis) :
    deployment.cachedKeys axis ⊆ (deployment.moves steps).cachedKeys axis := by
  intro key member
  rw [mem_cachedKeys] at member ⊢
  rw [current?_course (agreeing.course_moves external), Option.isSome_or, member, Bool.or_true]

/-- Where nothing was cached, the last of what was published under a name is cached. -/
theorem current?_moves (agreeing : Agreeing deployment) (fresh : deployment.cache = {})
    (external : ∀ step ∈ steps, step.External) (axis : Axis) (key : String) :
    (deployment.moves steps).cache.current? axis key =
      ((deployment.published steps).filter fun value =>
        value.axis = axis ∧ value.key = key).getLast? := by
  have uncached : deployment.cache.current? axis key = none := by
    rw [fresh]
    cases axis <;> rfl
  rw [current?_course (agreeing.course_moves external), publishedOn_happenings, uncached,
    Option.or_none]

theorem current?_said (agreeing : Agreeing deployment) (fresh : deployment.cache = {})
    (nothing : deployment.unpublished = []) (external : ∀ step ∈ steps, step.External)
    (waiting : (deployment.moves steps).agenda = []) (axis : Axis) (key : String) :
    (deployment.moves steps).cache.current? axis key =
      ((deployment.handed steps).flatMap fun response => response.saidOn axis key).getLast? := by
  rw [agreeing.current?_moves fresh external, agreeing.published_of_waiting external waiting,
    nothing, List.nil_append, List.filter_flatMap]
  simp only [Response.publicationsOn_eq]

end Agreeing

/-- What can be read is what the responses have said last: the conversion of the last virtual host
that routes for a service and of the last endpoints that are assigned by a name. -/
structure LastWord (deployment : Deployment) (responses : List Response) : Prop where
  hosts : ∀ service host, .route service host ∈ deployment.cachedAll .route ↔
    ∃ message, (responses.flatMap (·.hostsFor service)).getLast? = some message ∧
      host = .ofMessage message
  clusters : ∀ name cluster, .cluster name cluster ∈ deployment.cachedAll .cluster ↔
    ∃ message, (responses.flatMap (·.assignmentsBy name)).getLast? = some message ∧
      cluster = .ofMessage message
  services : ∀ service, service ∈ deployment.cachedKeys .route ↔
    ∃ response ∈ responses, ∃ routes : Schema.RouteConfiguration,
      response.Holds .routeConfiguration routes ∧
        ∃ host ∈ routes.virtualHosts, VirtualHost.stripPort host.name = service
  names : ∀ name, name ∈ deployment.cachedKeys .cluster ↔
    ∃ response ∈ responses, ∃ assignment : Schema.ClusterLoadAssignment,
      response.Holds .clusterLoadAssignment assignment ∧ assignment.clusterName = name

private theorem isSome_getLast?_iff {α : Type} {items : List α} :
    items.getLast?.isSome = true ↔ ∃ item, item ∈ items := by
  rw [List.getLast?_isSome]
  exact ⟨List.exists_mem_of_ne_nil items, fun ⟨_, member⟩ => List.ne_nil_of_mem member⟩

private theorem LastWord.of_current? {responses : List Response}
    (current : ∀ axis key, deployment.cache.current? axis key =
      (responses.flatMap fun response => response.saidOn axis key).getLast?) :
    deployment.LastWord responses where
  hosts service host := by
    simp only [mem_cachedAll, Publication.axis, Publication.key, current, Response.saidOn,
      ← List.map_flatMap, List.getLast?_map, Option.map_eq_some_iff, true_and]
    simp [eq_comm]
  clusters name cluster := by
    simp only [mem_cachedAll, Publication.axis, Publication.key, current, Response.saidOn,
      ← List.map_flatMap, List.getLast?_map, Option.map_eq_some_iff, true_and]
    simp [eq_comm]
  services service := by
    simp only [mem_cachedKeys, current, Response.saidOn, ← List.map_flatMap, List.getLast?_map,
      Option.isSome_map, isSome_getLast?_iff, List.mem_flatMap, Response.mem_hostsFor]
    grind
  names name := by
    simp only [mem_cachedKeys, current, Response.saidOn, ← List.map_flatMap, List.getLast?_map,
      Option.isSome_map, isSome_getLast?_iff, List.mem_flatMap, Response.mem_assignmentsBy]
    grind

end Deployment

namespace Exchange

open Deployment

/-- The cache is the last word of the control plane: at any moment it holds the last of what was
said under each name, up to what remains to be published, and between calls all that was said. No
name is ever removed, and nothing but the publication of a value changes what can be read. -/
theorem cache_is_last_word (config : ClientConfig) (steps : List Move)
    (external : ∀ step ∈ steps, step.External) :
    ∃ started, start true config = .ok started ∧
      let exchange := started.moves steps
      let responses := started.handed steps
      (∃ said, (responses.map Response.withoutDefects).flatMap Response.publications =
          said ++ exchange.unpublished ∧
        ∀ axis value, value ∈ exchange.cachedAll axis ↔
          (said.filter fun other => other.axis = axis ∧ other.key = value.key).getLast? =
            some value) ∧
      (exchange.agenda = [] → exchange.LastWord responses) ∧
      (∀ axis, (exchange.cachedKeys axis).Pairwise (· < ·)) ∧
      (∀ later, (∀ step ∈ later, step.External) → ∀ axis,
        exchange.cachedKeys axis ⊆ (exchange.moves later).cachedKeys axis) ∧
      ∀ step, step.External →
        (∃ value, exchange.Publishes step value ∧ ∀ axis key,
          (exchange.move step).cache.current? axis key =
            if value.axis = axis ∧ value.key = key then some value
            else exchange.cache.current? axis key) ∨
          ∀ axis, (exchange.move step).cachedAll axis = exchange.cachedAll axis := by
  obtain ⟨started, isStarted, agreeing⟩ := agreeing_start config
  obtain ⟨_, same, _, nothing⟩ := orderly_start config
  cases same.symm.trans isStarted
  have fresh := cache_start isStarted
  have reached := agreeing.moves external
  refine ⟨started, isStarted, ⟨started.published steps, ?_, fun axis value => ?_⟩,
    fun waiting => .of_current? (agreeing.current?_said fresh nothing external waiting),
    (started.moves steps).cachedKeys_ascending, fun later others => reached.cachedKeys_moves others,
    fun step own => reached.current?_move own⟩
  · rw [agreeing.published_moves external, nothing, List.nil_append, List.flatMap_map]
    simp only [Response.publications_withoutDefects]
  · rw [mem_cachedAll, agreeing.current?_moves fresh external]
    constructor
    · rintro ⟨rfl, last⟩
      exact last
    · intro last
      have member := List.mem_of_getLast? last
      have own : value.axis = axis := (of_decide_eq_true (List.mem_filter.mp member).2).1
      exact ⟨own, own ▸ last⟩

/-- Two virtual hosts of one batch route for the same service, one of them on another port: the
later one is found under the name of the service. -/
theorem later_port_replaces_earlier :
    let config : ClientConfig :=
      ⟨⟨none, "control:15010", "", none⟩, ⟨"n", "mesh", "client", "1"⟩, 10000, []⟩
    let manager : Schema.HttpConnectionManager := { routes := some (.rds ⟨"r"⟩) }
    let listeners : Response :=
      { typeUrl := ResourceType.listener.url
        version := "1"
        nonce := "n1"
        resources := [ResourceType.listener.pack
          { name := "l"
            apiListener := some ⟨some (.pack Schema.HttpConnectionManager.url manager)⟩ }] }
    let routes : Response :=
      { typeUrl := ResourceType.routeConfiguration.url
        version := "1"
        nonce := "n2"
        resources := [
          ResourceType.routeConfiguration.pack
            { name := "r", virtualHosts := [{ name := "svc:80" }, { name := "svc:8080" }] },
          ⟨"other", []⟩] }
    let steps : List Move :=
      [.start 0, .perform (.respond listeners none), .read 0, .proceed, .proceed, .proceed,
        .perform (.respond routes none), .read 0] ++ .replicate 6 .proceed
    (∀ step ∈ steps, step.External) ∧
      ∃ started, start true config = .ok started ∧ (started.moves steps).agenda = [] ∧
        .route "svc" ⟨"svc:8080", [], []⟩ ∈ (started.moves steps).cachedAll .route := by
  intro config manager listeners routes steps
  have external : ∀ step ∈ steps, step.External := by
    have responds (response : Response) : (Operation.respond response none).External := .plain rfl
    simp [steps, Move.External, responds]
  obtain ⟨started, isStarted, _, lastWord, _⟩ := cache_is_last_word config steps external
  have observed : ((start true config).toOption.map fun started =>
      ((started.moves steps).agenda.isEmpty,
        ((started.handed steps).flatMap (·.hostsFor "svc")).getLast?)) =
      some (true, some { name := "svc:8080" }) := by
    decide +kernel
  simp only [isStarted, Except.toOption, Option.map_some, Option.some.injEq,
    Prod.mk.injEq] at observed
  obtain ⟨waiting, last⟩ := observed
  have found := (lastWord (List.isEmpty_iff.mp waiting)).hosts "svc" ⟨"svc:8080", [], []⟩
  exact ⟨external, started, isStarted, List.isEmpty_iff.mp waiting, found.mpr ⟨_, last, rfl⟩⟩

end Exchange

end MeshDiscovery
