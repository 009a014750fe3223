import Mathlib.Data.List.Forall2
import MeshDiscovery.Resource.Cluster
import MeshDiscovery.Resource.Route

/-! What the resources keep of their messages: every virtual host and every route in its place,
with the conditions and actions that are supported, and every endpoint that has a socket address. -/

namespace MeshDiscovery.Resource

/-- A path condition that is supported, and what it is kept as. -/
inductive RouteMatch.Keeps : Schema.PathSpecifier → RouteMatch → Prop where
  | pathPrefix (text : String) : Keeps (.pathPrefix text) (.pathPrefix text)
  | path (text : String) : Keeps (.path text) (.path text)
  | safeRegex (matcher : Schema.RegexMatcher) :
      Keeps (.safeRegex matcher) (.safeRegex matcher.regex)

theorem RouteMatch.ofMessage_eq_iff {condition : Option Schema.RouteMatch} {kept : RouteMatch}
    (supported : kept ≠ .unsupported) :
    ofMessage condition = kept ↔
      ∃ path, condition.bind Schema.RouteMatch.path = some path ∧ Keeps path kept := by
  constructor
  · rintro rfl
    unfold ofMessage at supported ⊢
    split at supported
    · exact ⟨_, ‹_›, .pathPrefix _⟩
    · exact ⟨_, ‹_›, .path _⟩
    · exact ⟨_, ‹_›, .safeRegex _⟩
    · exact absurd rfl supported
  · rintro ⟨path, given, keeps⟩
    unfold ofMessage
    rw [given]
    cases keeps <;> rfl

/-- An action that is supported, and what it is kept as. -/
inductive RouteAction.Keeps : Schema.Action → RouteAction → Prop where
  | cluster (name : String) : Keeps (.route ⟨some (.cluster name)⟩) (.cluster name)
  | weightedClusters (weighted : Schema.WeightedCluster) :
      Keeps (.route ⟨some (.weightedClusters weighted)⟩)
        (.weightedClusters (weighted.clusters.map Schema.ClusterWeight.name))

theorem RouteAction.ofMessage_eq_iff {action : Option Schema.Action} {kept : RouteAction}
    (supported : kept ≠ .unsupported) :
    ofMessage action = kept ↔ ∃ given, action = some given ∧ Keeps given kept := by
  constructor
  · rintro rfl
    rcases action with _ | ⟨_ | _⟩ | _ | _ | _ | _
    case mp.some.route.some chosen =>
      cases chosen with
      | cluster name => exact ⟨_, rfl, .cluster name⟩
      | weightedClusters weighted => exact ⟨_, rfl, .weightedClusters weighted⟩
      | _ => exact absurd rfl supported
    all_goals exact absurd rfl supported
  · rintro ⟨given, rfl, keeps⟩
    cases keeps <;> rfl

/-- A route goes by its name and has what is supported of its condition and action. -/
structure Route.Keeps (message : Schema.Route) (route : Route) : Prop where
  name : route.name = message.name
  condition : ∀ kept, kept ≠ .unsupported → (route.condition = kept ↔
    ∃ path, message.condition.bind Schema.RouteMatch.path = some path ∧ RouteMatch.Keeps path kept)
  action : ∀ kept, kept ≠ .unsupported → (route.action = kept ↔
    ∃ given, message.action = some given ∧ RouteAction.Keeps given kept)

/-- A virtual host goes by its name and has all domains and all routes, in order. -/
structure VirtualHost.Keeps (message : Schema.VirtualHost) (host : VirtualHost) : Prop where
  name : host.name = message.name
  domains : host.domains = message.domains
  routes : List.Forall₂ Route.Keeps message.routes host.routes

theorem Route.keeps_ofMessage (message : Schema.Route) : Keeps message (ofMessage message) where
  name := rfl
  condition _ supported := RouteMatch.ofMessage_eq_iff supported
  action _ supported := RouteAction.ofMessage_eq_iff supported

theorem VirtualHost.keeps_ofMessage (message : Schema.VirtualHost) :
    Keeps message (ofMessage message) where
  name := rfl
  domains := rfl
  routes := List.forall₂_map_right_iff.mpr (List.forall₂_same.mpr fun route _ =>
    Route.keeps_ofMessage route)

/-- A route configuration keeps all of its virtual hosts, in order. -/
theorem RouteConfiguration.keeps_ofMessage (message : Schema.RouteConfiguration) :
    (ofMessage message).name = message.name ∧
      List.Forall₂ VirtualHost.Keeps message.virtualHosts (ofMessage message).virtualHosts :=
  ⟨rfl, List.forall₂_map_right_iff.mpr (List.forall₂_same.mpr fun host _ =>
    VirtualHost.keeps_ofMessage host)⟩

namespace Endpoint

/-- An endpoint of a message stands at a socket address, given in full. -/
def StandsAt (lb : Schema.LbEndpoint) (socket : Schema.SocketAddress) : Prop :=
  ∃ endpoint address, lb.host = some (.endpoint endpoint) ∧ endpoint.address = some address ∧
    address.location = some (.socket socket)

/-- An endpoint has the address, the port and the health of a message. A port that is not a number
is kept as zero. -/
def Keeps (lb : Schema.LbEndpoint) (endpoint : Endpoint) : Prop :=
  ∃ socket, StandsAt lb socket ∧ endpoint.address = socket.address ∧
    (socket.port = some (.value endpoint.port) ∨
      endpoint.port = 0 ∧ ∀ port, socket.port ≠ some (.value port)) ∧
    (endpoint.healthy = true ↔ lb.health ≠ 2 ∧ lb.health ≠ 3 ∧ lb.health ≠ 4)

theorem socketOf?_eq_some_iff {lb : Schema.LbEndpoint} {socket : Schema.SocketAddress} :
    socketOf? lb = some socket ↔ StandsAt lb socket := by
  constructor
  · intro found
    unfold socketOf? at found
    split at found
    · rename_i endpoint host
      split at found
      · rename_i location
        obtain ⟨address, given, located⟩ := Option.bind_eq_some_iff.mp location
        cases found
        exact ⟨endpoint, address, host, given, located⟩
      · cases found
    · cases found
  · rintro ⟨endpoint, address, host, given, located⟩
    simp [socketOf?, host, given, located]

instance (lb : Schema.LbEndpoint) : Decidable (∃ socket, StandsAt lb socket) :=
  decidable_of_iff ((socketOf? lb).isSome = true) (by
    simp only [Option.isSome_iff_exists, socketOf?_eq_some_iff])

theorem portOf_eq_iff {socket : Schema.SocketAddress} {port : UInt32} :
    portOf socket = port ↔ socket.port = some (.value port) ∨
      port = 0 ∧ ∀ number, socket.port ≠ some (.value number) := by
  unfold portOf
  split
  · rename_i number given
    simp [given]
  · rename_i unnumbered
    constructor
    · exact fun zero => .inr ⟨zero.symm, unnumbered⟩
    · rintro (given | ⟨rfl, _⟩)
      · exact absurd given (unnumbered port)
      · rfl

theorem ofMessage?_eq_some_iff {lb : Schema.LbEndpoint} {endpoint : Endpoint} :
    ofMessage? lb = some endpoint ↔ Keeps lb endpoint := by
  have health (healthy : Bool) :
      (!unhealthyStates.contains lb.health) = healthy ↔
        (healthy = true ↔ lb.health ≠ 2 ∧ lb.health ≠ 3 ∧ lb.health ≠ 4) := by
    cases healthy <;> simp [unhealthyStates]
  obtain ⟨address, port, healthy⟩ := endpoint
  simp only [ofMessage?, Option.map_eq_some_iff, socketOf?_eq_some_iff, mk.injEq, portOf_eq_iff,
    health, Keeps]
  refine exists_congr fun socket => and_congr_right fun _ => ?_
  rw [eq_comm]

/-- Of any endpoints, those that stand at a socket address are kept, in order. -/
theorem keeps_filterMap (given : List Schema.LbEndpoint) :
    List.Forall₂ Keeps (given.filter fun lb => ∃ socket, StandsAt lb socket)
      (given.filterMap ofMessage?) := by
  induction given with
  | nil => exact .nil
  | cons lb rest ih =>
    cases read : ofMessage? lb with
    | none =>
      have nowhere : ¬∃ socket, StandsAt lb socket := by
        simpa [ofMessage?, ← socketOf?_eq_some_iff] using
          Option.eq_none_iff_forall_ne_some.mp (Option.map_eq_none_iff.mp read)
      rwa [List.filter_cons_of_neg (by simpa using nowhere), List.filterMap_cons_none read]
    | some endpoint =>
      have keeps := ofMessage?_eq_some_iff.mp read
      have somewhere : ∃ socket, StandsAt lb socket := keeps.imp fun _ stands => stands.1
      rw [List.filter_cons_of_pos (by simpa using somewhere), List.filterMap_cons_some read]
      exact .cons keeps ih

end Endpoint

/-- A cluster keeps every endpoint that stands at a socket address, locality after locality. -/
theorem Cluster.keeps_ofMessage (message : Schema.ClusterLoadAssignment) :
    let given := message.endpoints.flatMap Schema.LocalityLbEndpoints.lbEndpoints
    (ofMessage message).name = message.clusterName ∧
      List.Forall₂ Endpoint.Keeps (given.filter fun lb => ∃ socket, Endpoint.StandsAt lb socket)
        (ofMessage message).endpoints :=
  ⟨rfl, Endpoint.keeps_filterMap _⟩

end MeshDiscovery.Resource
