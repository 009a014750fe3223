/-!
Maps from names to values, kept as lists of entries in strictly ascending order of the names.
-/

namespace MeshDiscovery

structure NameMap (α : Type) where
  /-- The entries in strictly ascending order of their names. -/
  entries : List (String × α)
  sorted : entries.Pairwise (fun left right => left.1 < right.1)

namespace NameMap

variable {α : Type}

/-- Puts an entry at its place in an ascending list, in place of an entry of the same name. -/
def place (name : String) (value : α) : List (String × α) → List (String × α)
  | [] => [(name, value)]
  | head :: rest =>
    if name < head.1 then (name, value) :: head :: rest
    else if name = head.1 then (name, value) :: rest
    else head :: place name value rest

def find? (name : String) : List (String × α) → Option α
  | [] => none
  | head :: rest => if head.1 = name then some head.2 else find? name rest

theorem mem_place {name : String} {value : α} {entry : String × α} {entries : List (String × α)}
    (member : entry ∈ place name value entries) : entry = (name, value) ∨ entry ∈ entries := by
  induction entries with
  | nil => simpa [place] using member
  | cons head rest ih =>
    simp only [place] at member
    split at member
    · simpa using member
    · split at member
      · rcases List.mem_cons.mp member with same | inside
        · exact Or.inl same
        · exact Or.inr (List.mem_cons_of_mem _ inside)
      · rcases List.mem_cons.mp member with same | inside
        · exact Or.inr (same ▸ List.mem_cons_self)
        · rcases ih inside with same | deeper
          · exact Or.inl same
          · exact Or.inr (List.mem_cons_of_mem _ deeper)

theorem place_sorted (name : String) (value : α) {entries : List (String × α)}
    (sorted : entries.Pairwise (fun left right => left.1 < right.1)) :
    (place name value entries).Pairwise (fun left right => left.1 < right.1) := by
  induction entries with
  | nil => simp [place]
  | cons head rest ih =>
    obtain ⟨first, tail⟩ := List.pairwise_cons.mp sorted
    simp only [place]
    split
    · rename_i before
      refine List.pairwise_cons.mpr ⟨fun other member => ?_, sorted⟩
      rcases List.mem_cons.mp member with same | inside
      · exact same ▸ before
      · exact String.lt_trans before (first other inside)
    · split
      · rename_i same
        exact List.pairwise_cons.mpr ⟨fun other member => same ▸ first other member, tail⟩
      · rename_i notBefore different
        refine List.pairwise_cons.mpr ⟨fun other member => ?_, ih tail⟩
        rcases mem_place member with same | inside
        · subst same
          grind
        · exact first other inside

theorem find?_place_self (name : String) (value : α) (entries : List (String × α)) :
    find? name (place name value entries) = some value := by
  induction entries with
  | nil => simp [place, find?]
  | cons head rest ih =>
    simp only [place]
    split
    · simp [find?]
    · split
      · simp [find?]
      · rename_i different
        rw [find?, if_neg (fun same => different same.symm)]
        exact ih

theorem find?_place_of_ne {name other : String} (different : other ≠ name) (value : α)
    (entries : List (String × α)) :
    find? other (place name value entries) = find? other entries := by
  induction entries with
  | nil => simp [place, find?, Ne.symm different]
  | cons head rest ih =>
    simp only [place]
    split
    · simp [find?, Ne.symm different]
    · split
      · rename_i same
        simp [find?, Ne.symm different, ← same]
      · simp [find?, ih]

def empty : NameMap α :=
  ⟨[], List.Pairwise.nil⟩

instance : Inhabited (NameMap α) :=
  ⟨empty⟩

def get? (map : NameMap α) (name : String) : Option α :=
  find? name map.entries

def insert (map : NameMap α) (name : String) (value : α) : NameMap α :=
  ⟨place name value map.entries, place_sorted name value map.sorted⟩

def erase (map : NameMap α) (name : String) : NameMap α :=
  ⟨map.entries.filter (fun entry => entry.1 ≠ name), map.sorted.filter _⟩

def size (map : NameMap α) : Nat :=
  map.entries.length

def names (map : NameMap α) : List String :=
  map.entries.map Prod.fst

@[simp] theorem get?_empty (name : String) : (empty : NameMap α).get? name = none :=
  rfl

@[simp] theorem get?_insert_self (map : NameMap α) (name : String) (value : α) :
    (map.insert name value).get? name = some value :=
  find?_place_self name value map.entries

theorem get?_insert_of_ne (map : NameMap α) {name other : String} (different : other ≠ name)
    (value : α) : (map.insert name value).get? other = map.get? other :=
  find?_place_of_ne different value map.entries

/-- In an ascending list, the value of a name is the one it is listed with. -/
theorem find?_eq_some_iff {name : String} {value : α} {entries : List (String × α)}
    (sorted : entries.Pairwise (fun left right => left.1 < right.1)) :
    find? name entries = some value ↔ (name, value) ∈ entries := by
  induction entries with
  | nil => simp [find?]
  | cons head rest ih =>
    obtain ⟨first, tail⟩ := List.pairwise_cons.mp sorted
    rw [find?, List.mem_cons]
    split
    · rename_i same
      have alone : (name, value) ∉ rest := fun inside => by
        have before := first _ inside
        rw [same] at before
        exact String.lt_irrefl name before
      simp [alone, Prod.ext_iff, same, eq_comm]
    · rename_i different
      rw [ih tail]
      simp [Prod.ext_iff, Ne.symm different]

theorem find?_filter_ne (name other : String) (entries : List (String × α)) :
    find? other (entries.filter fun entry => entry.1 ≠ name) =
      if other = name then none else find? other entries := by
  induction entries with
  | nil => simp [find?]
  | cons head rest ih =>
    simp only [List.filter_cons]
    split <;> simp only [find?, ih] <;> grind

theorem get?_erase (map : NameMap α) (name other : String) :
    (map.erase name).get? other = if other = name then none else map.get? other :=
  find?_filter_ne name other map.entries

/-- Setting the value that a name has already changes nothing. -/
theorem place_of_find? {name : String} {value : α} {entries : List (String × α)}
    (sorted : entries.Pairwise (fun left right => left.1 < right.1))
    (found : find? name entries = some value) : place name value entries = entries := by
  induction entries with
  | nil => cases found
  | cons head rest ih =>
    obtain ⟨first, tail⟩ := List.pairwise_cons.mp sorted
    rw [find?] at found
    rw [place]
    split at found
    · rename_i same
      cases found
      rw [if_neg (same ▸ String.lt_irrefl head.1), if_pos same.symm, ← same]
    · rename_i different
      have later : head.1 < name := first _ ((find?_eq_some_iff tail).mp found)
      rw [if_neg (fun before => String.lt_irrefl name (String.lt_trans before later)),
        if_neg (Ne.symm different), ih tail found]

theorem insert_of_get? {map : NameMap α} {name : String} {value : α}
    (present : map.get? name = some value) : map.insert name value = map := by
  cases map with
  | mk entries sorted =>
    rw [insert]
    congr
    exact place_of_find? sorted present

theorem mem_entries_iff {map : NameMap α} {name : String} {value : α} :
    (name, value) ∈ map.entries ↔ map.get? name = some value :=
  (find?_eq_some_iff map.sorted).symm

theorem mem_names_iff {map : NameMap α} {name : String} :
    name ∈ map.names ↔ ∃ value, map.get? name = some value := by
  simp only [names, List.mem_map, Prod.exists, exists_and_right, exists_eq_right, mem_entries_iff]

end NameMap

end MeshDiscovery
