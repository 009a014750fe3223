import MeshDiscovery.Exchange.Publication
import MeshDiscovery.Subscription

namespace MeshDiscovery

namespace Schema

/-- A configuration is packed in a filter of a filter chain of the listener, or in its API listener.
The default filter chain is not looked at. -/
def Listener.Packs (listener : Listener) (config : Any) : Prop :=
  (∃ chain ∈ listener.filterChains, ∃ filter ∈ chain.filters,
    filter.config = some (.typed config)) ∨
    listener.apiListener = some ⟨some config⟩

/-- A connection manager of the listener discovers its routes under the name. -/
def Listener.RefersTo (listener : Listener) (route : String) : Prop :=
  route ≠ "" ∧ ∃ (config : Any) (manager : HttpConnectionManager), listener.Packs config ∧
    config.typeUrl = HttpConnectionManager.url ∧ Wire.Message.decode config.value = some manager ∧
    manager.routes = some (.rds ⟨route⟩)

/-- The endpoints of the cluster are discovered under the name: the one that is given for them, or
else that of the cluster. -/
def Cluster.RefersTo (cluster : Cluster) (name : String) : Prop :=
  (cluster.edsClusterConfig = some ⟨name⟩ ∧ name ≠ "") ∨
    ((∀ config, cluster.edsClusterConfig = some config → config.serviceName = "") ∧
      name = cluster.name)

end Schema

/-- An entry of a response is a readable resource of a kind. -/
def Response.Holds (response : Response) (kind : ResourceType) (message : kind.Encoded) : Prop :=
  response.typeUrl = kind.url ∧ ∃ entry ∈ response.resources,
    entry.typeUrl = kind.url ∧ Wire.Message.decode (α := kind.Encoded) entry.value = some message

/-- A readable entry of a response refers to a resource of a kind by name. -/
inductive Response.RefersTo (response : Response) : ResourceType → String → Prop where
  | routes {listener : Schema.Listener} {name : String}
      (holds : response.Holds .listener listener) (refers : listener.RefersTo name) :
      RefersTo response .routeConfiguration name
  | endpoints {cluster : Schema.Cluster} {name : String}
      (holds : response.Holds .cluster cluster) (refers : cluster.RefersTo name) :
      RefersTo response .clusterLoadAssignment name

namespace Resource

theorem Listener.mem_packedConfigs {message : Schema.Listener} {config : Schema.Any} :
    config ∈ packedConfigs message ↔ message.Packs config := by
  have typed (filter : Schema.Filter) :
      typedConfig? filter = some config ↔ filter.config = some (.typed config) := by
    unfold typedConfig?
    split
    · rename_i other present
      simp [present]
    · rename_i other
      simp only [reduceCtorEq, false_iff]
      exact other config
  have api : message.apiListener.bind Schema.ApiListener.config = some config ↔
      message.apiListener = some ⟨some config⟩ := by
    rw [Option.bind_eq_some_iff]
    constructor
    · rintro ⟨⟨_⟩, present, rfl⟩
      exact present
    · intro present
      exact ⟨_, present, rfl⟩
  simp only [packedConfigs, Schema.Listener.Packs, List.mem_append, List.mem_flatMap,
    List.mem_filterMap, typed, Option.mem_toList, api]

theorem Listener.packedRoute?_eq_some_iff {config : Schema.Any} {route : String} :
    packedRoute? config = some route ↔ route ≠ "" ∧
      ∃ manager : Schema.HttpConnectionManager,
        config.typeUrl = Schema.HttpConnectionManager.url ∧
        Wire.Message.decode config.value = some manager ∧
        manager.routes = some (.rds ⟨route⟩) := by
  have managed (manager : Schema.HttpConnectionManager) :
      managedRoute? manager = some route ↔
        route ≠ "" ∧ manager.routes = some (.rds ⟨route⟩) := by
    unfold managedRoute?
    split
    · rename_i rds present
      obtain ⟨name⟩ := rds
      by_cases unnamed : name = ""
      · simp only [present, if_pos unnamed]
        grind
      · simp only [present, if_neg unnamed]
        grind
    · rename_i other
      simp only [reduceCtorEq, false_iff]
      exact fun ⟨_, present⟩ => other _ present
  unfold packedRoute?
  split
  · rename_i typed
    simp only [Option.bind_eq_some_iff, managed, typed, true_and]
    grind
  · rename_i typed
    simp [typed]

theorem Listener.mem_routeNames {message : Schema.Listener} {route : String} :
    route ∈ (ofMessage message).routeNames ↔ message.RefersTo route := by
  simp only [ofMessage, NameSet.mem_ofList, List.mem_filterMap, mem_packedConfigs,
    packedRoute?_eq_some_iff, Schema.Listener.RefersTo]
  grind

theorem ClusterConfig.endpointResourceName_eq_iff {message : Schema.Cluster} {name : String} :
    (ofMessage message).endpointResourceName = name ↔ message.RefersTo name := by
  unfold ofMessage endpointResourceName Schema.Cluster.RefersTo
  cases message.edsClusterConfig with
  | none => grind
  | some config =>
    obtain ⟨service⟩ := config
    simp only [Option.map_some, Option.filter]
    grind

end Resource

namespace Response

theorem mem_models {response : Response} {kind : ResourceType} {model : kind.Model}
    (typed : response.typeUrl = kind.url) :
    model ∈ response.models kind ↔
      ∃ message, response.Holds kind message ∧ kind.convert message = model := by
  have decoded (entry : Schema.Any) : (kind.decodeEntry entry).toOption = some model ↔
      ∃ message, (entry.typeUrl = kind.url ∧
        Wire.Message.decode (α := kind.Encoded) entry.value = some message) ∧
          kind.convert message = model := by
    unfold ResourceType.decodeEntry
    by_cases own : entry.typeUrl = kind.url
    · rw [if_pos own]
      cases found : Wire.Message.decode (α := kind.Encoded) entry.value with
      | some message =>
        simp only [Except.toOption, Option.some.injEq, own, true_and, exists_eq_left']
      | none => simp only [Except.toOption, reduceCtorEq, and_false, false_and, exists_false]
    · rw [if_neg own]
      simp only [Except.toOption, reduceCtorEq, own, false_and, exists_false]
  simp only [models, List.mem_filterMap, decoded, Holds, typed, true_and]
  grind

/-- The names that follow from a response are those that its readable entries refer to. -/
theorem mem_references {response : Response} {kind target : ResourceType}
    (typed : response.typeUrl = kind.url) (referred : kind.referred? = some target)
    {name : String} :
    name ∈ kind.references (response.models kind) ↔ response.RefersTo target name := by
  cases kind with
  | listener =>
    cases referred
    simp only [ResourceType.references, List.mem_flatMap, NameSet.mem_toList]
    constructor
    · rintro ⟨listener, member, route⟩
      obtain ⟨message, holds, rfl⟩ := (mem_models typed).mp member
      exact .routes holds (Resource.Listener.mem_routeNames.mp route)
    · rintro ⟨holds, refers⟩
      exact ⟨_, (mem_models typed).mpr ⟨_, holds, rfl⟩,
        Resource.Listener.mem_routeNames.mpr refers⟩
  | cluster =>
    cases referred
    simp only [ResourceType.references, List.mem_map]
    constructor
    · rintro ⟨cluster, member, named⟩
      obtain ⟨message, holds, rfl⟩ := (mem_models typed).mp member
      exact .endpoints holds (Resource.ClusterConfig.endpointResourceName_eq_iff.mp named)
    · intro refers
      cases refers with
      | endpoints holds refers =>
        exact ⟨_, (mem_models typed).mpr ⟨_, holds, rfl⟩,
          Resource.ClusterConfig.endpointResourceName_eq_iff.mpr refers⟩
  | routeConfiguration | clusterLoadAssignment => cases referred

theorem RefersTo.referred {response : Response} {target : ResourceType} {name : String}
    (refers : response.RefersTo target name) {kind : ResourceType}
    (typed : response.typeUrl = kind.url) : kind.referred? = some target := by
  cases refers with
  | routes holds _ => cases ResourceType.url_injective (holds.1.symm.trans typed); rfl
  | endpoints holds _ => cases ResourceType.url_injective (holds.1.symm.trans typed); rfl

end Response

end MeshDiscovery
