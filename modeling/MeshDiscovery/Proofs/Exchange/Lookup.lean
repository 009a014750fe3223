import MeshDiscovery.Proofs.Exchange.Cascade
import MeshDiscovery.Proofs.Exchange.LastWord

namespace MeshDiscovery

/-- The endpoints that a response assigns by a name, in order. -/
def Response.assignments (response : Response) (name : String) : List Resource.Cluster :=
  if response.typeUrl = ResourceType.clusterLoadAssignment.url then
    (response.models .clusterLoadAssignment).filter fun assignment => assignment.name = name
  else []

private theorem Response.assignments_eq (response : Response) (name : String) :
    response.assignments name = (response.assignmentsBy name).map Resource.Cluster.ofMessage := by
  unfold assignments assignmentsBy
  split
  · rename_i typed
    rw [models_eq typed, List.filter_map]
    rfl
  · rename_i foreign
    rw [readable, if_neg foreign]
    rfl

namespace Deployment

variable {deployment : Deployment}

/-- Consumers find endpoints under the name of a cluster, whichever way they look. -/
def Resolves (deployment : Deployment) (name : String) (endpoints : List Resource.Endpoint) :
    Prop :=
  ∃ found : Resource.Cluster, found.endpoints = endpoints ∧
    deployment.cache.current? .cluster name = some (.cluster name found) ∧
    .cluster name found ∈ deployment.cachedAll .cluster ∧
    ∀ id ∈ deployment.cache.ids .cluster name,
      (deployment.received id).getLast? = some (.cluster name found)

private theorem Informed.getLast?_received (informed : deployment.Informed)
    (waiting : deployment.agenda = []) {axis : Axis} {key : String} {id : ListenerId}
    (member : id ∈ deployment.cache.ids axis key) :
    (deployment.received id).getLast? = deployment.cache.current? axis key := by
  obtain ⟨seen, follows⟩ := informed axis key id member
  have received := follows.received
  rw [owed_of_quiet (telling?_of_waiting waiting), List.append_nil] at received
  rw [received]
  exact follows.latest

private theorem resolves_iff (informed : deployment.Informed) (waiting : deployment.agenda = [])
    {name : String} {endpoints : List Resource.Endpoint} :
    deployment.Resolves name endpoints ↔ ∃ found : Resource.Cluster, found.endpoints = endpoints ∧
      deployment.cache.current? .cluster name = some (.cluster name found) := by
  constructor
  · rintro ⟨found, same, cached, _⟩
    exact ⟨found, same, cached⟩
  · rintro ⟨found, same, cached⟩
    refine ⟨found, same, cached, ?_, fun id member => ?_⟩
    · exact mem_cachedAll.mpr ⟨rfl, cached⟩
    · rw [informed.getLast?_received waiting member, cached]

end Deployment

namespace Exchange

open Deployment

private theorem current?_assigned {started : Deployment} (agreeing : Agreeing started)
    (fresh : started.cache = {}) (nothing : started.unpublished = []) {steps : List Move}
    (external : ∀ step ∈ steps, step.External) (waiting : (started.moves steps).agenda = [])
    (name : String) :
    (started.moves steps).cache.current? .cluster name =
      ((started.handed steps).flatMap (·.assignments name)).getLast?.map (.cluster name) := by
  have said (response : Response) :
      response.saidOn .cluster name = (response.assignments name).map (.cluster name) := by
    rw [response.assignments_eq, List.map_map]
    rfl
  rw [agreeing.current?_said fresh nothing external waiting]
  simp only [said, ← List.map_flatMap, List.getLast?_map]

/-- Between calls, the name of a cluster finds the endpoints that were assigned last by the name
that it gives for them exactly if that is its own name, or if the same endpoints were assigned last
by its own name as well. The name that it gives is subscribed to in any case. -/
theorem cluster_name_finds_endpoints (config : ClientConfig) (steps : List Move)
    (external : ∀ step ∈ steps, step.External) :
    ∃ started, start true config = .ok started ∧
      let exchange := started.moves steps
      let responses := started.handed steps
      let latest? (name : String) := (responses.flatMap (·.assignments name)).getLast?
      exchange.agenda = [] →
        ∀ response ∈ responses, ∀ cluster : Schema.Cluster, response.Holds .cluster cluster →
          ∀ given, cluster.RefersTo given →
            given ∈ exchange.wanted .clusterLoadAssignment ∧
              ∀ latest, latest? given = some latest →
                (exchange.Resolves cluster.name latest.endpoints ↔
                  given = cluster.name ∨
                    ∃ other, latest? cluster.name = some other ∧
                      other.endpoints = latest.endpoints) := by
  obtain ⟨started, isStarted, agreeing⟩ := agreeing_start config
  obtain ⟨_, same, orderly, nothing⟩ := orderly_start config
  cases same.symm.trans isStarted
  refine ⟨started, isStarted, ?_⟩
  intro exchange responses latest? waiting response member cluster holds given refers
  have fresh := cache_start isStarted
  have informed : exchange.Informed :=
    .course orderly (.of_empty fresh) (agreeing.course_moves external)
  refine ⟨(agreeing.mem_wanted_moves external _ _).mpr
    (.inr ⟨response, member, .endpoints holds refers⟩), fun latest assigned => ?_⟩
  have cached := current?_assigned agreeing fresh nothing external waiting cluster.name
  rw [resolves_iff informed waiting]
  constructor
  · rintro ⟨found, same, current⟩
    rw [cached] at current
    obtain ⟨other, last, equal⟩ := Option.map_eq_some_iff.mp current
    cases equal
    exact .inr ⟨_, last, same⟩
  · rintro (rfl | ⟨other, last, same⟩)
    · exact ⟨latest, rfl, cached.trans (congrArg (Option.map _) assigned)⟩
    · exact ⟨other, same, cached.trans (congrArg (Option.map _) last)⟩

/-- A cluster whose endpoints are assigned by its own name is found with its listener told. -/
theorem own_name_finds_endpoints :
    let config : ClientConfig :=
      ⟨⟨none, "control:15010", "", none⟩, ⟨"n", "mesh", "client", "1"⟩, 10000, []⟩
    let cluster : Schema.Cluster := { name := "a" }
    let clusters : Response :=
      { typeUrl := ResourceType.cluster.url
        version := "1"
        nonce := "n1"
        resources := [ResourceType.cluster.pack cluster] }
    let endpoints : Response :=
      { typeUrl := ResourceType.clusterLoadAssignment.url
        version := "1"
        nonce := "n2"
        resources := [ResourceType.clusterLoadAssignment.pack
          { clusterName := "a"
            endpoints := [{ lbEndpoints := [{ host := some (.endpoint
              { address := some ⟨some (.socket
                { address := "10.0.0.1", port := some (.value 1) })⟩ }) }] }] }] }
    let steps : List Move :=
      [.start 0, .perform (.watch .cluster "a" "l" []), .proceed, .proceed,
        .perform (.respond clusters none), .read 0, .proceed, .proceed, .proceed,
        .perform (.respond endpoints none), .read 0] ++ .replicate 6 .proceed
    (∀ step ∈ steps, step.External) ∧
      ∃ started, start true config = .ok started ∧
        (started.moves steps).Resolves "a" [⟨"10.0.0.1", 1, true⟩] := by
  intro config cluster clusters endpoints steps
  have external : ∀ step ∈ steps, step.External := by
    have responds (response : Response) : (Operation.respond response none).External := .plain rfl
    have watches : (Operation.watch .cluster "a" "l" []).External := .watch (by simp)
    simp [steps, Move.External, responds, watches]
  obtain ⟨started, isStarted, finds⟩ := cluster_name_finds_endpoints config steps external
  have observed : ((start true config).toOption.map fun started =>
      ((started.moves steps).agenda.isEmpty, started.handed steps,
        ((started.handed steps).flatMap (·.assignments "a")).getLast?)) =
      some (true, [clusters, endpoints], some ⟨"a", [⟨"10.0.0.1", 1, true⟩]⟩) := by
    decide +kernel
  simp only [isStarted, Except.toOption, Option.map_some, Option.some.injEq,
    Prod.mk.injEq] at observed
  obtain ⟨waiting, handed, assigned⟩ := observed
  have holds : clusters.Holds .cluster cluster :=
    ⟨rfl, _, List.mem_singleton.mpr rfl, rfl, by decide +kernel⟩
  have refers : cluster.RefersTo "a" := .inr ⟨fun _ given => (by cases given), rfl⟩
  obtain ⟨_, resolved⟩ := finds (List.isEmpty_iff.mp waiting) clusters
    (by rw [handed]; exact List.mem_cons_self) cluster holds "a" refers
  exact ⟨external, started, isStarted, (resolved _ assigned).mpr (.inl rfl)⟩

/-- Endpoints that are assigned by another name than that of the cluster are not found under the
name of the cluster. -/
theorem other_name_hides_endpoints :
    let config : ClientConfig :=
      ⟨⟨none, "control:15010", "", none⟩, ⟨"n", "mesh", "client", "1"⟩, 10000, []⟩
    let cluster : Schema.Cluster := { name := "a", edsClusterConfig := some ⟨"e"⟩ }
    let clusters : Response :=
      { typeUrl := ResourceType.cluster.url
        version := "1"
        nonce := "n1"
        resources := [ResourceType.cluster.pack cluster] }
    let endpoints : Response :=
      { typeUrl := ResourceType.clusterLoadAssignment.url
        version := "1"
        nonce := "n2"
        resources := [ResourceType.clusterLoadAssignment.pack
          { clusterName := "e"
            endpoints := [{ lbEndpoints := [{ host := some (.endpoint
              { address := some ⟨some (.socket
                { address := "10.0.0.1", port := some (.value 1) })⟩ }) }] }] }] }
    let steps : List Move :=
      [.start 0, .perform (.respond clusters none), .read 0, .proceed, .proceed, .proceed,
        .perform (.respond endpoints none), .read 0] ++ .replicate 6 .proceed
    clusters.Holds .cluster cluster ∧ cluster.RefersTo "e" ∧
      ∃ started, start true config = .ok started ∧
        (started.moves steps).agenda = [] ∧ started.handed steps = [clusters, endpoints] ∧
        ((started.handed steps).flatMap (·.assignments "e")).getLast? =
          some ⟨"e", [⟨"10.0.0.1", 1, true⟩]⟩ ∧
        ¬ (started.moves steps).Resolves "a" [⟨"10.0.0.1", 1, true⟩] := by
  intro config cluster clusters endpoints steps
  have holds : clusters.Holds .cluster cluster :=
    ⟨rfl, _, List.mem_singleton.mpr rfl, rfl, by decide +kernel⟩
  have observed : ((start true config).toOption.map fun started =>
      ((started.moves steps).agenda.isEmpty, started.handed steps,
        ((started.handed steps).flatMap (·.assignments "e")).getLast?,
        (started.moves steps).cache.current? .cluster "a")) =
      some (true, [clusters, endpoints], some ⟨"e", [⟨"10.0.0.1", 1, true⟩]⟩, none) := by
    decide +kernel
  obtain ⟨started, isStarted, _⟩ := agreeing_start config
  simp only [isStarted, Except.toOption, Option.map_some, Option.some.injEq,
    Prod.mk.injEq] at observed
  obtain ⟨waiting, handed, assigned, unknown⟩ := observed
  refine ⟨holds, .inl ⟨rfl, by decide⟩, started, isStarted, List.isEmpty_iff.mp waiting, handed,
    assigned, ?_⟩
  rintro ⟨found, _, cached, _⟩
  rw [unknown] at cached
  cases cached

end Exchange

end MeshDiscovery
