import MeshDiscovery.Exchange.Publication
import MeshDiscovery.Exchange.Registry

/-!
What was published last under each name, and who listens. Both axes share one sequence of listener
numbers.
-/

namespace MeshDiscovery

structure Cache (α : Type) where
  virtualHosts : NameMap Resource.VirtualHost := .empty
  clusters : NameMap Resource.Cluster := .empty
  routeListeners : Registry α := {}
  clusterListeners : Registry α := {}
  nextId : ListenerId := 0

namespace Cache

variable {α : Type}

instance : Inhabited (Cache α) :=
  ⟨{}⟩

/-- Keeps a published value in place of any earlier one of the same name. -/
def store (cache : Cache α) : Publication → Cache α
  | .route service host => { cache with virtualHosts := cache.virtualHosts.insert service host }
  | .cluster name cluster => { cache with clusters := cache.clusters.insert name cluster }

def current? (cache : Cache α) (axis : Axis) (key : String) : Option Publication :=
  match axis with
  | .route => (cache.virtualHosts.get? key).map (.route key)
  | .cluster => (cache.clusters.get? key).map (.cluster key)

def listeners (cache : Cache α) : Axis → Registry α
  | .route => cache.routeListeners
  | .cluster => cache.clusterListeners

def setListeners (cache : Cache α) (axis : Axis) (registry : Registry α) : Cache α :=
  match axis with
  | .route => { cache with routeListeners := registry }
  | .cluster => { cache with clusterListeners := registry }

/-- Registers a listener for a name under the next number. -/
def add (cache : Cache α) (axis : Axis) (key : String) (listener : α) : Cache α :=
  let registered := cache.setListeners axis ((cache.listeners axis).add key cache.nextId listener)
  { registered with nextId := cache.nextId + 1 }

/-- Removes a listener from a name and says whether it was there. -/
def remove (cache : Cache α) (axis : Axis) (key : String) (id : ListenerId) : Bool × Cache α :=
  let (removed, registry) := (cache.listeners axis).remove key id
  (removed, cache.setListeners axis registry)

end Cache

end MeshDiscovery
