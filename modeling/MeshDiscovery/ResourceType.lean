namespace MeshDiscovery

/-- A kind of resource that a control plane serves. -/
inductive ResourceType where
  | listener
  | routeConfiguration
  | cluster
  | clusterLoadAssignment
  deriving DecidableEq, Repr, Inhabited

namespace ResourceType

/-- Every kind, in the order in which subscriptions are replayed. -/
def all : List ResourceType :=
  [listener, routeConfiguration, cluster, clusterLoadAssignment]

def messageName : ResourceType → String
  | listener => "Listener"
  | routeConfiguration => "RouteConfiguration"
  | cluster => "Cluster"
  | clusterLoadAssignment => "ClusterLoadAssignment"

/-- The abbreviation of the kind's discovery service. -/
def shortName : ResourceType → String
  | listener => "lds"
  | routeConfiguration => "rds"
  | cluster => "cds"
  | clusterLoadAssignment => "eds"

/-- The type url that names the kind in requests, responses and packed resources. -/
def url : ResourceType → String
  | listener => "type.googleapis.com/envoy.config.listener.v3.Listener"
  | routeConfiguration => "type.googleapis.com/envoy.config.route.v3.RouteConfiguration"
  | cluster => "type.googleapis.com/envoy.config.cluster.v3.Cluster"
  | clusterLoadAssignment => "type.googleapis.com/envoy.config.endpoint.v3.ClusterLoadAssignment"

/-- The kind that a type url names, if it names one of the four. -/
def ofUrl? (text : String) : Option ResourceType :=
  all.find? fun kind => kind.url = text

def ofShortName? (text : String) : Option ResourceType :=
  all.find? fun kind => kind.shortName = text

/-- A wildcard root may be subscribed to without naming any resource. -/
def isWildcardRoot : ResourceType → Bool
  | listener | cluster => true
  | routeConfiguration | clusterLoadAssignment => false

theorem mem_all (kind : ResourceType) : kind ∈ all := by
  cases kind <;> decide

theorem url_injective {left right : ResourceType} (same : left.url = right.url) :
    left = right := by
  revert same
  cases left <;> cases right <;> decide

theorem ofUrl?_url (kind : ResourceType) : ofUrl? kind.url = some kind := by
  cases kind <;> decide

theorem url_of_ofUrl? {text : String} {kind : ResourceType} (found : ofUrl? text = some kind) :
    kind.url = text := by
  simpa using List.find?_some found

theorem ofUrl?_eq_some_iff {text : String} {kind : ResourceType} :
    ofUrl? text = some kind ↔ text = kind.url :=
  ⟨fun found => (url_of_ofUrl? found).symm, fun same => same ▸ ofUrl?_url kind⟩

end ResourceType

/-- A table with one entry for each kind of resource. -/
@[ext]
structure PerType (α : Type) where
  listener : α
  routeConfiguration : α
  cluster : α
  clusterLoadAssignment : α
  deriving DecidableEq, Repr, Inhabited

namespace PerType

variable {α : Type}

/-- The table that holds the same entry for every kind. -/
def const (value : α) : PerType α :=
  ⟨value, value, value, value⟩

def get (table : PerType α) : ResourceType → α
  | .listener => table.listener
  | .routeConfiguration => table.routeConfiguration
  | .cluster => table.cluster
  | .clusterLoadAssignment => table.clusterLoadAssignment

def set (table : PerType α) (kind : ResourceType) (value : α) : PerType α :=
  match kind with
  | .listener => { table with listener := value }
  | .routeConfiguration => { table with routeConfiguration := value }
  | .cluster => { table with cluster := value }
  | .clusterLoadAssignment => { table with clusterLoadAssignment := value }

def modify (table : PerType α) (kind : ResourceType) (change : α → α) : PerType α :=
  table.set kind (change (table.get kind))

def toList (table : PerType α) : List α :=
  ResourceType.all.map table.get

@[simp] theorem get_const (value : α) (kind : ResourceType) : (const value).get kind = value := by
  cases kind <;> rfl

@[simp] theorem get_set_self (table : PerType α) (kind : ResourceType) (value : α) :
    (table.set kind value).get kind = value := by
  cases kind <;> rfl

theorem get_set_of_ne (table : PerType α) {kind other : ResourceType} (value : α)
    (different : other ≠ kind) : (table.set kind value).get other = table.get other := by
  cases kind <;> cases other <;> first | rfl | exact absurd rfl different

theorem get_set (table : PerType α) (kind other : ResourceType) (value : α) :
    (table.set kind value).get other = if other = kind then value else table.get other := by
  cases kind <;> cases other <;> rfl

@[simp] theorem get_modify_self (table : PerType α) (kind : ResourceType) (change : α → α) :
    (table.modify kind change).get kind = change (table.get kind) := by
  simp [modify]

theorem get_modify_of_ne (table : PerType α) {kind other : ResourceType} (change : α → α)
    (different : other ≠ kind) : (table.modify kind change).get other = table.get other :=
  get_set_of_ne table _ different

end PerType

end MeshDiscovery
