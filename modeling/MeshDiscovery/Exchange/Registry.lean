import MeshDiscovery.NameMap

/-!
Listeners by the name they listen to. A name is present as long as it has listeners: the first one
opens a roster, and the roster is closed with the last one. A roster that is opened again later is
another one, and is told apart by the listener it was opened for.
-/

namespace MeshDiscovery

/-- The number of a listener. Numbers are given out in ascending order and never twice. -/
abbrev ListenerId := Nat

/-- The listeners of one name in the order of their registration. -/
structure Roster (α : Type) where
  /-- The listener that the roster was opened for. -/
  opened : ListenerId
  members : List (ListenerId × α)
  deriving Repr

structure Registry (α : Type) where
  rosters : NameMap (Roster α) := .empty

namespace Registry

variable {α : Type}

instance : Inhabited (Registry α) :=
  ⟨{}⟩

/-- The listeners of a name in the order of their registration. -/
def members (registry : Registry α) (key : String) : List (ListenerId × α) :=
  ((registry.rosters.get? key).map Roster.members).getD []

def add (registry : Registry α) (key : String) (id : ListenerId) (listener : α) : Registry α :=
  let roster :=
    match registry.rosters.get? key with
    | some roster => { roster with members := roster.members ++ [(id, listener)] }
    | none => ⟨id, [(id, listener)]⟩
  ⟨registry.rosters.insert key roster⟩

/-- Removes a listener from a name and says whether it was there. A name that nobody listens to
afterwards is dropped. -/
def remove (registry : Registry α) (key : String) (id : ListenerId) : Bool × Registry α :=
  match registry.rosters.get? key with
  | none => (false, registry)
  | some roster =>
    let rest := roster.members.filter fun entry => entry.1 ≠ id
    (roster.members.any fun entry => entry.1 = id,
      ⟨if rest.isEmpty then registry.rosters.erase key
        else registry.rosters.insert key { roster with members := rest }⟩)

/-- The roster of a name, told by the listener that it was opened for. -/
def opened? (registry : Registry α) (key : String) : Option ListenerId :=
  (registry.rosters.get? key).map Roster.opened

/-- The first listener of a name from some number on, as long as the roster is the one that was
opened for the given listener. -/
def next? (registry : Registry α) (key : String) (opened start : ListenerId) :
    Option (ListenerId × α) :=
  match registry.rosters.get? key with
  | none => none
  | some roster =>
    if roster.opened = opened then roster.members.find? fun entry => start ≤ entry.1 else none

/-- Replaces a listener by what a function makes of it. -/
def modify (registry : Registry α) (key : String) (id : ListenerId) (change : α → α) :
    Registry α :=
  match registry.rosters.get? key with
  | none => registry
  | some roster =>
    let members := roster.members.map fun entry =>
      if entry.1 = id then (id, change entry.2) else entry
    ⟨registry.rosters.insert key { roster with members }⟩

end Registry

end MeshDiscovery
