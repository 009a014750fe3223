namespace MeshDiscovery

structure NameSet where
  /-- The names in strictly ascending order. -/
  toList : List String
  sorted : toList.Pairwise (· < ·)
  deriving DecidableEq

namespace NameSet

/-- Puts a name at its place in an ascending list that may hold it already. -/
def place (name : String) : List String → List String
  | [] => [name]
  | head :: rest =>
    if name < head then name :: head :: rest
    else if name = head then head :: rest
    else head :: place name rest

theorem mem_place {name other : String} {names : List String} :
    other ∈ place name names ↔ other = name ∨ other ∈ names := by
  induction names with
  | nil => simp [place]
  | cons head rest ih =>
    simp only [place]
    split
    · simp
    · split
      · rename_i same
        subst same
        simp
      · simp only [List.mem_cons, ih]
        grind

theorem place_sorted (name : String) {names : List String} (sorted : names.Pairwise (· < ·)) :
    (place name names).Pairwise (· < ·) := by
  induction names with
  | nil => simp [place]
  | cons head rest ih =>
    obtain ⟨first, tail⟩ := List.pairwise_cons.mp sorted
    simp only [place]
    split
    · rename_i before
      refine List.pairwise_cons.mpr ⟨fun other member => ?_, sorted⟩
      rcases List.mem_cons.mp member with same | inside
      · exact same ▸ before
      · exact String.lt_trans before (first other inside)
    · split
      · exact sorted
      · rename_i notBefore different
        refine List.pairwise_cons.mpr ⟨fun other member => ?_, ih tail⟩
        rcases mem_place.mp member with same | inside
        · subst same
          grind
        · exact first other inside

def empty : NameSet :=
  ⟨[], List.Pairwise.nil⟩

instance : Inhabited NameSet :=
  ⟨empty⟩

instance : Membership String NameSet :=
  ⟨fun set name => name ∈ set.toList⟩

def insert (set : NameSet) (name : String) : NameSet :=
  ⟨place name set.toList, place_sorted name set.sorted⟩

def insertAll (set : NameSet) (names : List String) : NameSet :=
  names.foldl insert set

def ofList (names : List String) : NameSet :=
  empty.insertAll names

def isEmpty (set : NameSet) : Bool :=
  set.toList.isEmpty

@[simp] theorem mem_toList {set : NameSet} {name : String} : name ∈ set.toList ↔ name ∈ set :=
  Iff.rfl

@[simp] theorem not_mem_empty (name : String) : ¬ name ∈ empty :=
  List.not_mem_nil

@[simp] theorem mem_insert {set : NameSet} {name other : String} :
    other ∈ set.insert name ↔ other = name ∨ other ∈ set :=
  mem_place

@[simp] theorem mem_insertAll {set : NameSet} {names : List String} {other : String} :
    other ∈ set.insertAll names ↔ other ∈ names ∨ other ∈ set := by
  induction names generalizing set with
  | nil => simp [insertAll]
  | cons head rest ih =>
    have step : set.insertAll (head :: rest) = (set.insert head).insertAll rest := rfl
    rw [step, ih]
    simp only [mem_insert, List.mem_cons]
    grind

@[simp] theorem mem_ofList {names : List String} {other : String} :
    other ∈ ofList names ↔ other ∈ names := by
  simp [ofList]

end NameSet

end MeshDiscovery
