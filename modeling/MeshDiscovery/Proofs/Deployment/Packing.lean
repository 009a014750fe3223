import Mathlib.Data.List.Basic
import MeshDiscovery.Proofs.Deployment.Decoding
import MeshDiscovery.Proofs.Schema.Endpoint
import MeshDiscovery.Proofs.Schema.Listener

namespace MeshDiscovery

open Wire (Field)
open Wire.Message (IsCountable Restorable)

namespace ResourceType

instance instRestorableEncoded : (kind : ResourceType) → Restorable kind.Encoded
  | listener => inferInstanceAs (Restorable Schema.Listener)
  | routeConfiguration => inferInstanceAs (Restorable Schema.RouteConfiguration)
  | cluster => inferInstanceAs (Restorable Schema.Cluster)
  | clusterLoadAssignment => inferInstanceAs (Restorable Schema.ClusterLoadAssignment)

private theorem levels_le (kind : ResourceType) :
    Restorable.levels kind.Encoded ≤ Wire.Message.maxLevels := by
  cases kind <;> decide

theorem message?_pack (kind : ResourceType) {message : kind.Encoded}
    (countable : IsCountable message) : kind.message? (kind.pack message) = some message :=
  (if_pos rfl).trans (Wire.Message.decode_encode kind.levels_le countable)

end ResourceType

namespace Schema

/-- What is packed in a listener: a connection manager, or a message of another type. -/
inductive Packed where
  | manager (inner : HttpConnectionManager)
  | foreign (config : Any) (other : config.typeUrl ≠ HttpConnectionManager.url)

namespace Packed

def pack : Packed → Any
  | .manager inner => .pack HttpConnectionManager.url inner
  | .foreign config _ => config

def manager? : Packed → Option HttpConnectionManager
  | .manager inner => some inner
  | .foreign .. => none

end Packed

inductive ConfigDraft where
  | packed (config : Packed)
  | discovered (source : Blank)

structure FilterDraft where
  name : String
  config : Option ConfigDraft

structure ChainDraft where
  filters : List FilterDraft
  name : String

structure ListenerDraft where
  name : String
  chains : List ChainDraft
  api : Option (Option Packed)
  defaultChain : Option ChainDraft

def ConfigDraft.build : ConfigDraft → FilterConfig
  | .packed config => .typed config.pack
  | .discovered source => .discovered source

namespace FilterDraft

def build (draft : FilterDraft) : Filter :=
  ⟨draft.name, draft.config.map ConfigDraft.build⟩

def packed? (draft : FilterDraft) : Option Packed :=
  match draft.config with
  | some (.packed config) => some config
  | _ => none

end FilterDraft

namespace ChainDraft

def build (draft : ChainDraft) : FilterChain :=
  ⟨draft.filters.map FilterDraft.build, draft.name⟩

def packed (draft : ChainDraft) : List Packed :=
  draft.filters.filterMap FilterDraft.packed?

end ChainDraft

namespace ListenerDraft

variable (draft : ListenerDraft)

def build : Listener where
  name := draft.name
  filterChains := draft.chains.map ChainDraft.build
  apiListener := draft.api.map fun config => ⟨config.map Packed.pack⟩
  defaultFilterChain := draft.defaultChain.map ChainDraft.build

/-- What is packed in the filters of the listed chains and in the API listener, in order. -/
def listed : List Packed :=
  draft.chains.flatMap ChainDraft.packed ++ (draft.api.bind id).toList

/-- The connection managers that a listener refers to routes by, as far as it is looked at. -/
def listedManagers : List HttpConnectionManager :=
  draft.listed.filterMap Packed.manager?

def defaultManagers : List HttpConnectionManager :=
  (draft.defaultChain.toList.flatMap ChainDraft.packed).filterMap Packed.manager?

def managers : List HttpConnectionManager :=
  draft.listedManagers ++ draft.defaultManagers

end ListenerDraft

end Schema

namespace Resource.Listener

open Schema

private theorem typedConfig?_build (draft : FilterDraft) :
    typedConfig? draft.build = draft.packed?.map Packed.pack := by
  obtain ⟨name, config⟩ := draft
  cases config with
  | none => rfl
  | some config => cases config <;> rfl

/-- What a listener that was built from a draft has packed is what the draft says. -/
theorem packedConfigs_build (draft : ListenerDraft) :
    packedConfigs draft.build = draft.listed.map Packed.pack := by
  have chain (chain : ChainDraft) :
      chain.build.filters.filterMap typedConfig? = chain.packed.map Packed.pack := by
    simp only [ChainDraft.build, ChainDraft.packed, List.filterMap_map, List.map_filterMap,
      Function.comp_def, typedConfig?_build]
  have api : draft.build.apiListener.bind ApiListener.config =
      (draft.api.bind id).map Packed.pack := by
    cases given : draft.api with
    | none => simp only [ListenerDraft.build, given]; rfl
    | some config => simp only [ListenerDraft.build, given]; rfl
  rw [packedConfigs, api, ListenerDraft.listed, List.map_append, Option.toList_map]
  simp only [ListenerDraft.build, List.flatMap_map, List.map_flatMap, chain]

private theorem packedConfigs_countable {message : Schema.Listener}
    (countable : IsCountable message) {config : Any} (member : config ∈ packedConfigs message) :
    IsCountable config := by
  rcases List.mem_append.mp member with inChains | inApi
  · obtain ⟨chain, ofListener, inChain⟩ := List.mem_flatMap.mp inChains
    obtain ⟨filter, ofChain, typed⟩ := List.mem_filterMap.mp inChain
    have chainField : Field.ofMessage 3 chain ∈ Wire.Message.fields message := by
      simp only [Wire.Message.fields, List.mem_append, List.mem_map]
      exact .inl (.inl (.inr ⟨chain, ofListener, rfl⟩))
    have filterField : Field.ofMessage 3 filter ∈ Wire.Message.fields chain := by
      simp only [Wire.Message.fields, List.mem_append, List.mem_map]
      exact .inl ⟨filter, ofChain, rfl⟩
    have configField : Field.ofMessage 4 config ∈ Wire.Message.fields filter := by
      obtain ⟨name, source⟩ := filter
      cases source with
      | none => cases typed
      | some source =>
        cases source with
        | typed inner =>
          cases typed
          exact List.mem_append_right _ List.mem_cons_self
        | discovered source => cases typed
    exact ((countable.nested chainField).nested filterField).nested configField
  · obtain ⟨api, ofListener, ofApi⟩ := Option.bind_eq_some_iff.mp (Option.mem_toList.mp inApi)
    have apiField : Field.ofMessage 19 api ∈ Wire.Message.fields message := by
      simp [Wire.Message.fields, ofListener]
    have configField : Field.ofMessage 1 config ∈ Wire.Message.fields api := by
      simp [Wire.Message.fields, ofApi]
    exact (countable.nested apiField).nested configField

private theorem inner_countable {α : Type} [Wire.Message α] {typeUrl : String} {inner : α}
    (countable : IsCountable (Any.pack typeUrl inner)) : IsCountable inner := by
  by_cases blank : Wire.Message.encode inner = []
  · show (Wire.Message.encode inner).length < Wire.Varint.bound
    rw [blank]
    decide
  · have value : Wire.Field.mk 2 (.content (Wire.Message.encode inner)) ∈
        Wire.Message.fields (Any.pack typeUrl inner) := by
      refine List.mem_append_right _ ?_
      simp [Field.ofNonemptyBytes, Any.pack, blank]
    exact countable.field value

private theorem packedRoute?_pack {config : Packed} (countable : IsCountable config.pack) :
    packedRoute? config.pack = config.manager?.bind managedRoute? := by
  cases config with
  | manager inner =>
    have shallow : Restorable.levels HttpConnectionManager ≤ Wire.Message.maxLevels := by decide
    have read := Wire.Message.decode_encode shallow (inner_countable countable)
    simp only [packedRoute?, Packed.pack, Any.pack, read]
    rfl
  | foreign config other => exact if_neg other

/-- A listener refers to the routes of the connection managers that its listed chains and its API
listener were built from. -/
theorem routeNames_build {draft : ListenerDraft} (countable : IsCountable draft.build) :
    (ofMessage draft.build).routeNames =
      NameSet.ofList (draft.listedManagers.filterMap managedRoute?) := by
  have configs := packedConfigs_build draft
  have routes : (packedConfigs draft.build).filterMap packedRoute? =
      draft.listedManagers.filterMap managedRoute? := by
    rw [configs, List.filterMap_map, ListenerDraft.listedManagers, List.filterMap_filterMap]
    refine List.filterMap_congr fun config member => packedRoute?_pack ?_
    apply packedConfigs_countable countable
    rw [configs]
    exact List.mem_map_of_mem member
  exact congrArg NameSet.ofList routes

end Resource.Listener

namespace Deployment

open Schema

variable {deployment : Deployment} {kind : ResourceType} {subscription : Subscription Callback}

private theorem complaining_pack {message : kind.Encoded} (countable : IsCountable message)
    (deployment : Deployment) (version nonce : String) :
    deployment.complaining kind ⟨kind.url, version, nonce, [kind.pack message]⟩ = deployment := by
  have none : Response.complaints ⟨kind.url, version, nonce, [kind.pack message]⟩ kind = [] := by
    have read := kind.message?_pack countable
    simp [Response.complaints, ResourceType.complaints, ResourceType.complaint?, read]
  have uncounted (table : PerType Nat) : table.set kind (table.get kind) = table := by
    cases kind <;> rfl
  simp only [complaining, none, List.append_nil, List.length_nil, Nat.add_zero, uncounted]

/-- A message that is packed into a response under the url of its kind is decoded to its own model,
and nothing else. Only messages with 2 ^ 64 bytes or more are left out, whose length cannot be
written before them. A listener refers to the routes that the connection managers packed in its
listed filter chains and its API listener refer to. These are all that it was built from exactly if
its default chain refers to no further ones. -/
theorem packed_message_is_read_back (present : deployment.subscription? kind = some subscription)
    {message : kind.Encoded} (countable : IsCountable message) (version nonce : String) :
    let response : Response := ⟨kind.url, version, nonce, [kind.pack message]⟩
    let models := [kind.convert message]
    let decoding := deployment.perform (.decode kind response)
    decoding = (deployment.push [.yield (.models kind models)]).callBack subscription.callback
        kind models ∧
      (∀ after, Returns deployment.agenda decoding after ↔
        ∃ called, Returns (.yield (.models kind models) :: deployment.agenda) decoding called ∧
          after = { called with agenda := deployment.agenda, result := .models kind models }) ∧
      ∀ draft : ListenerDraft, IsCountable draft.build →
        let routeNames := (Resource.Listener.ofMessage draft.build).routeNames
        routeNames =
            NameSet.ofList (draft.listedManagers.filterMap Resource.Listener.managedRoute?) ∧
          (routeNames =
              NameSet.ofList (draft.managers.filterMap Resource.Listener.managedRoute?) ↔
            draft.defaultManagers.filterMap Resource.Listener.managedRoute? ⊆
              draft.listedManagers.filterMap Resource.Listener.managedRoute?) := by
  intro response models decoding
  have typed : response.typeUrl = kind.url := rfl
  have taken : response.resources.filterMap kind.model? = models := by
    have read := kind.message?_pack countable
    simp [response, models, ResourceType.model?, read]
  refine ⟨?_, ?_, fun draft small => ?_⟩
  · have decoded : decoding = _ := perform_decode present typed
    rw [decoded, taken, complaining_pack countable]
  · have returns := decode_returns present typed
    rwa [taken] at returns
  · have listed := Resource.Listener.routeNames_build small
    refine ⟨listed, ?_⟩
    rw [listed, ListenerDraft.managers, List.filterMap_append]
    exact NameSet.ofList_append_eq_iff

/-- A listener with a connection manager, a foreign message and an API listener is decoded to the
two routes that the connection managers refer to. -/
theorem packed_listener_is_read_back :
    let manager (name : String) : Packed := .manager ⟨some (.rds ⟨name⟩)⟩
    let foreign : Packed := .foreign ⟨"other", [255]⟩ (by decide)
    let filter (config : Packed) : FilterDraft := ⟨"f", some (.packed config)⟩
    let draft : ListenerDraft :=
      ⟨"l", [⟨[filter foreign, filter (manager "r")], "c"⟩], some (some (manager "q")), none⟩
    let deployment := ({ session := .fresh ⟨"n", "mesh", "client", "1"⟩ } : Deployment).moves
      [.perform (.register .listener 10)]
    let response : Response :=
      ⟨ResourceType.listener.url, "1", "a", [ResourceType.listener.pack draft.build]⟩
    ∃ subscription after,
      deployment.subscription? .listener = some subscription ∧ IsCountable draft.build ∧
        Returns deployment.agenda (deployment.perform (.decode .listener response)) after ∧
        after.result = .models .listener [⟨"l", NameSet.ofList ["q", "r"]⟩] := by
  intro manager foreign filter draft deployment response
  obtain ⟨subscription, present⟩ :=
    Option.isSome_iff_exists.mp (by decide +kernel : (deployment.subscription? .listener).isSome)
  have waiting : deployment.agenda = [] := rfl
  obtain ⟨after, returns⟩ := Returns.exists_of_return? waiting
    (by decide +kernel : (return? 0 9 (deployment.perform (.decode .listener response))).isSome)
  have countable : IsCountable draft.build := by
    show (Wire.Message.encode draft.build).length < Wire.Varint.bound
    decide +kernel
  obtain ⟨_, decoded, refers⟩ :=
    packed_message_is_read_back present countable "1" "a"
  obtain ⟨called, _, rfl⟩ := (decoded after).mp returns
  refine ⟨subscription, _, present, countable, returns, ?_⟩
  have names : (Resource.Listener.ofMessage draft.build).routeNames = NameSet.ofList ["q", "r"] :=
    (refers draft countable).1.trans (by decide +kernel)
  exact congrArg (fun names => Reply.models .listener [⟨"l", names⟩]) names

/-- The route that the connection manager of a default chain refers to is missed. -/
theorem default_chain_refers_to_nothing :
    let manager : HttpConnectionManager := ⟨some (.rds ⟨"r"⟩)⟩
    let filter : FilterDraft := ⟨"f", some (.packed (.manager manager))⟩
    let draft : ListenerDraft := ⟨"l", [], none, some ⟨[filter], "c"⟩⟩
    let deployment := ({ session := .fresh ⟨"n", "mesh", "client", "1"⟩ } : Deployment).moves
      [.perform (.register .listener 10)]
    let response : Response :=
      ⟨ResourceType.listener.url, "1", "a", [ResourceType.listener.pack draft.build]⟩
    draft.managers.filterMap Resource.Listener.managedRoute? = ["r"] ∧
      ∃ after, Returns deployment.agenda (deployment.perform (.decode .listener response)) after ∧
        after.result = .models .listener [⟨"l", .empty⟩] := by
  intro manager filter draft deployment response
  obtain ⟨subscription, present⟩ :=
    Option.isSome_iff_exists.mp (by decide +kernel : (deployment.subscription? .listener).isSome)
  have waiting : deployment.agenda = [] := rfl
  obtain ⟨after, returns⟩ := Returns.exists_of_return? waiting
    (by decide +kernel : (return? 0 9 (deployment.perform (.decode .listener response))).isSome)
  obtain ⟨called, _, rfl⟩ := (decode_returns present rfl after).mp returns
  refine ⟨by decide +kernel, _, returns, ?_⟩
  have models : response.resources.filterMap (ResourceType.model? .listener) = [⟨"l", .empty⟩] := by
    decide +kernel
  exact congrArg (Reply.models .listener) models

end Deployment

end MeshDiscovery
