import MeshDiscovery.Proofs.Exchange.Registry

namespace MeshDiscovery.Cache

variable {α : Type}

/-- The numbers of the listeners of a name in the order of their registration. -/
def ids (cache : Cache α) (axis : Axis) (key : String) : List ListenerId :=
  (cache.listeners axis).ids key

/-- The roster of a name, told by the listener that it was opened for. -/
def opened? (cache : Cache α) (axis : Axis) (key : String) : Option ListenerId :=
  (cache.listeners axis).opened? key

/-- The number of the listener that is called next, when those of a roster are called in turn. -/
def upcoming? (cache : Cache α) (axis : Axis) (key : String) (opened start : ListenerId) :
    Option ListenerId :=
  if cache.opened? axis key = some opened then (cache.ids axis key).find? (start ≤ ·) else none

/-- The caches differ in what their listeners are going to do at most. -/
structure Alike (left right : Cache α) : Prop where
  ids : ∀ axis key, left.ids axis key = right.ids axis key
  opened? : ∀ axis key, left.opened? axis key = right.opened? axis key
  current? : ∀ axis key, left.current? axis key = right.current? axis key
  nextId : left.nextId = right.nextId

namespace Alike

variable {left middle right : Cache α}

theorem refl (cache : Cache α) : Alike cache cache :=
  ⟨fun _ _ => rfl, fun _ _ => rfl, fun _ _ => rfl, rfl⟩

theorem trans (first : Alike left middle) (second : Alike middle right) : Alike left right where
  ids axis key := (first.ids axis key).trans (second.ids axis key)
  opened? axis key := (first.opened? axis key).trans (second.opened? axis key)
  current? axis key := (first.current? axis key).trans (second.current? axis key)
  nextId := first.nextId.trans second.nextId

end Alike

variable (cache : Cache α)

section Operations

theorem current?_setListeners (axis other : Axis) (key : String) (registry : Registry α) :
    (cache.setListeners axis registry).current? other key = cache.current? other key := by
  cases axis <;> cases other <;> rfl

theorem nextId_setListeners (axis : Axis) (registry : Registry α) :
    (cache.setListeners axis registry).nextId = cache.nextId := by
  cases axis <;> rfl

/-- What a listener is going to do is its own business. -/
theorem alike_modify (axis : Axis) (key : String) (id : ListenerId) (change : α → α) :
    Alike (cache.setListeners axis ((cache.listeners axis).modify key id change)) cache where
  ids other name := by
    rw [ids, listeners_setListeners]
    split
    · rename_i same
      rw [Registry.ids_modify, ids, same]
    · rfl
  opened? other name := by
    rw [opened?, listeners_setListeners]
    split
    · rename_i same
      rw [Registry.opened?_modify, opened?, same]
    · rfl
  current? other name := cache.current?_setListeners axis other name _
  nextId := cache.nextId_setListeners axis _

theorem opened?_of_mem_ids {axis : Axis} {key : String} {id : ListenerId}
    (member : id ∈ cache.ids axis key) : ∃ opened, cache.opened? axis key = some opened :=
  Registry.opened?_of_mem_ids _ member

theorem upcoming?_eq (axis : Axis) (key : String) (opened start : ListenerId) :
    ((cache.listeners axis).next? key opened start).map Prod.fst =
      cache.upcoming? axis key opened start :=
  Registry.next?_map_fst _ key opened start

theorem ids_add (axis other : Axis) (key name : String) (listener : α) :
    (cache.add axis key listener).ids other name =
      if other = axis ∧ name = key then cache.ids axis key ++ [cache.nextId]
      else cache.ids other name := by
  rw [ids, listeners_add]
  by_cases sameAxis : other = axis
  · by_cases sameKey : name = key
    · simp [sameAxis, sameKey, Registry.ids_add, ids]
    · simp [sameAxis, sameKey, Registry.ids_add, ids]
  · simp [sameAxis, ids]

theorem opened?_add (axis other : Axis) (key name : String) (listener : α) :
    (cache.add axis key listener).opened? other name =
      if other = axis ∧ name = key then some ((cache.opened? axis key).getD cache.nextId)
      else cache.opened? other name := by
  rw [opened?, listeners_add]
  by_cases sameAxis : other = axis
  · by_cases sameKey : name = key
    · simp [sameAxis, sameKey, Registry.opened?_add, opened?]
    · simp [sameAxis, sameKey, Registry.opened?_add, opened?]
  · simp [sameAxis, opened?]

theorem current?_add (axis other : Axis) (key name : String) (listener : α) :
    (cache.add axis key listener).current? other name = cache.current? other name :=
  cache.current?_setListeners axis other name _

@[simp] theorem nextId_add (axis : Axis) (key : String) (listener : α) :
    (cache.add axis key listener).nextId = cache.nextId + 1 :=
  rfl

private theorem remove_snd (axis : Axis) (key : String) (id : ListenerId) :
    (cache.remove axis key id).2 =
      cache.setListeners axis ((cache.listeners axis).remove key id).2 :=
  rfl

theorem ids_remove (axis other : Axis) (key name : String) (id : ListenerId) :
    (cache.remove axis key id).2.ids other name =
      if other = axis ∧ name = key then (cache.ids axis key).filter (· ≠ id)
      else cache.ids other name := by
  rw [ids, remove_snd, listeners_setListeners]
  by_cases sameAxis : other = axis
  · by_cases sameKey : name = key
    · simp [sameAxis, sameKey, Registry.ids_remove, ids]
    · simp [sameAxis, sameKey, Registry.ids_remove, ids]
  · simp [sameAxis, ids]

theorem opened?_remove (axis other : Axis) (key name : String) (id : ListenerId) :
    (cache.remove axis key id).2.opened? other name = cache.opened? other name ∨
      (cache.remove axis key id).2.opened? other name = none ∧
        (cache.remove axis key id).2.ids other name = [] := by
  rw [opened?, ids, remove_snd, listeners_setListeners]
  split
  · rename_i same
    rw [opened?, same]
    exact Registry.opened?_remove _ key name id
  · exact .inl rfl

theorem current?_remove (axis other : Axis) (key name : String) (id : ListenerId) :
    (cache.remove axis key id).2.current? other name = cache.current? other name :=
  cache.current?_setListeners axis other name _

@[simp] theorem nextId_remove (axis : Axis) (key : String) (id : ListenerId) :
    (cache.remove axis key id).2.nextId = cache.nextId :=
  cache.nextId_setListeners axis _

theorem remove_fst (axis : Axis) (key : String) (id : ListenerId) :
    (cache.remove axis key id).1 = decide (id ∈ cache.ids axis key) :=
  Registry.remove_fst _ key id

theorem ids_store (publication : Publication) (axis : Axis) (key : String) :
    (cache.store publication).ids axis key = cache.ids axis key := by
  rw [ids, listeners_store, ids]

theorem opened?_store (publication : Publication) (axis : Axis) (key : String) :
    (cache.store publication).opened? axis key = cache.opened? axis key := by
  rw [opened?, listeners_store, opened?]

theorem current?_store (publication : Publication) (axis : Axis) (key : String) :
    (cache.store publication).current? axis key =
      if publication.axis = axis ∧ publication.key = key then some publication
      else cache.current? axis key := by
  cases publication <;> cases axis <;>
    simp only [store, current?, Publication.axis, Publication.key, reduceCtorEq, false_and,
      true_and, if_false]
  all_goals
    split
    · rename_i same
      simp [same]
    · rename_i other
      rw [NameMap.get?_insert_of_ne _ (Ne.symm other)]

@[simp] theorem nextId_store (publication : Publication) :
    (cache.store publication).nextId = cache.nextId := by
  cases publication <;> rfl

end Operations

theorem mem_ids_of_upcoming? {cache : Cache α} {axis : Axis} {key : String}
    {opened start next : ListenerId}
    (upcoming : cache.upcoming? axis key opened start = some next) :
    next ∈ cache.ids axis key := by
  unfold upcoming? at upcoming
  split at upcoming
  · exact List.mem_of_find?_eq_some upcoming
  · cases upcoming

theorem lt_of_upcoming?_eq_none {cache : Cache α} {axis : Axis} {key : String}
    {opened start : ListenerId} (nobody : cache.upcoming? axis key opened start = none)
    (present : cache.opened? axis key = some opened) :
    ∀ id ∈ cache.ids axis key, id < start := by
  rw [upcoming?, if_pos present] at nobody
  intro id member
  simpa using List.find?_eq_none.mp nobody id member

theorem place_of_current? {cache : Cache α} {axis : Axis} {key : String}
    {publication : Publication} (current : cache.current? axis key = some publication) :
    publication.axis = axis ∧ publication.key = key := by
  cases axis <;> obtain ⟨_, _, rfl⟩ := Option.map_eq_some_iff.mp current <;> exact ⟨rfl, rfl⟩

/-- Every name that is present on an axis has listeners. -/
def Occupied (cache : Cache α) : Prop :=
  ∀ axis, (cache.listeners axis).Occupied

namespace Occupied

variable {cache : Cache α}

theorem empty : Occupied ({} : Cache α) := by
  intro axis
  cases axis <;> exact .empty

private theorem setListeners (occupied : Occupied cache) (axis : Axis) {registry : Registry α}
    (own : registry.Occupied) : Occupied (cache.setListeners axis registry) := by
  intro other
  rw [listeners_setListeners]
  split
  · exact own
  · exact occupied other

theorem add (occupied : Occupied cache) (axis : Axis) (key : String) (listener : α) :
    Occupied (cache.add axis key listener) :=
  occupied.setListeners axis ((occupied axis).add key cache.nextId listener)

theorem remove (occupied : Occupied cache) (axis : Axis) (key : String) (id : ListenerId) :
    Occupied (cache.remove axis key id).2 :=
  occupied.setListeners axis ((occupied axis).remove key id)

theorem modify (occupied : Occupied cache) (axis : Axis) (key : String) (id : ListenerId)
    (change : α → α) :
    Occupied (cache.setListeners axis ((cache.listeners axis).modify key id change)) :=
  occupied.setListeners axis ((occupied axis).modify key id change)

theorem store (occupied : Occupied cache) (publication : Publication) :
    Occupied (cache.store publication) := by
  intro axis
  rw [listeners_store]
  exact occupied axis

end Occupied

theorem remove_snd_of_absent {cache : Cache α} (occupied : Occupied cache) {axis : Axis}
    {key : String} {id : ListenerId} (absent : (cache.remove axis key id).1 = false) :
    (cache.remove axis key id).2 = cache := by
  rw [remove_snd, Registry.remove_snd_of_absent (occupied axis) absent]
  cases axis <;> rfl

/-- Listeners stand in the order of their numbers, which were given out once each. -/
structure Orderly (cache : Cache α) : Prop where
  ascending : ∀ axis key, (cache.ids axis key).Pairwise (· < ·)
  given : ∀ axis key, ∀ id ∈ cache.ids axis key, id < cache.nextId
  /-- No listener is registered twice. -/
  alone : ∀ {axis key other name id}, id ∈ cache.ids axis key → id ∈ cache.ids other name →
    axis = other ∧ key = name
  opened : ∀ axis key opened, cache.opened? axis key = some opened → opened < cache.nextId

namespace Orderly

variable {cache : Cache α}

theorem empty : Orderly ({} : Cache α) := by
  refine ⟨?_, ?_, ?_, ?_⟩
  · intro axis key
    cases axis <;> exact .nil
  · intro axis key id member
    cases axis <;> cases member
  · intro axis key other name id member
    cases axis <;> cases member
  · intro axis key opened present
    cases axis <;> cases present

theorem alike {other : Cache α} (orderly : Orderly cache) (alike : Alike other cache) :
    Orderly other where
  ascending axis key := by
    rw [alike.ids]
    exact orderly.ascending axis key
  given axis key id member := by
    rw [alike.ids] at member
    rw [alike.nextId]
    exact orderly.given axis key id member
  alone here there := by
    rw [alike.ids] at here there
    exact orderly.alone here there
  opened axis key opened present := by
    rw [alike.opened?] at present
    rw [alike.nextId]
    exact orderly.opened axis key opened present

theorem store (orderly : Orderly cache) (publication : Publication) :
    Orderly (cache.store publication) where
  ascending axis key := by
    rw [ids_store]
    exact orderly.ascending axis key
  given axis key id member := by
    rw [ids_store] at member
    rw [nextId_store]
    exact orderly.given axis key id member
  alone here there := by
    rw [ids_store] at here there
    exact orderly.alone here there
  opened axis key opened present := by
    rw [opened?_store] at present
    rw [nextId_store]
    exact orderly.opened axis key opened present

private theorem mem_ids_add {axis other : Axis} {key name : String} {listener : α}
    {id : ListenerId} (member : id ∈ (cache.add axis key listener).ids other name) :
    id ∈ cache.ids other name ∨ id = cache.nextId ∧ other = axis ∧ name = key := by
  rw [ids_add] at member
  split at member
  · rename_i same
    obtain ⟨rfl, rfl⟩ := same
    rcases List.mem_append.mp member with old | new
    · exact .inl old
    · exact .inr ⟨List.mem_singleton.mp new, rfl, rfl⟩
  · exact .inl member

theorem add (orderly : Orderly cache) (axis : Axis) (key : String) (listener : α) :
    Orderly (cache.add axis key listener) where
  ascending other name := by
    rw [ids_add]
    split
    · refine List.pairwise_append.mpr ⟨orderly.ascending axis key, by simp, ?_⟩
      intro id member next isNext
      rw [List.mem_singleton.mp isNext]
      exact orderly.given axis key id member
    · exact orderly.ascending other name
  given other name id member := by
    rcases mem_ids_add member with old | ⟨rfl, _⟩
    · exact Nat.lt_succ_of_lt (orderly.given other name id old)
    · exact Nat.lt_succ_self _
  alone {first firstKey second secondKey id} here there := by
    rcases mem_ids_add here with old | ⟨rfl, rfl, rfl⟩
    · rcases mem_ids_add there with also | ⟨rfl, _⟩
      · exact orderly.alone old also
      · exact absurd (orderly.given first firstKey _ old) (Nat.lt_irrefl _)
    · rcases mem_ids_add there with also | ⟨_, rfl, rfl⟩
      · exact absurd (orderly.given second secondKey _ also) (Nat.lt_irrefl _)
      · exact ⟨rfl, rfl⟩
  opened other name opened present := by
    rw [opened?_add] at present
    rw [nextId_add]
    split at present
    · cases before : cache.opened? axis key with
      | none =>
        rw [before] at present
        cases present
        exact Nat.lt_succ_self _
      | some roster =>
        rw [before] at present
        cases present
        exact Nat.lt_succ_of_lt (orderly.opened axis key roster before)
    · exact Nat.lt_succ_of_lt (orderly.opened other name opened present)

theorem mem_ids_of_remove {axis other : Axis} {key name : String} {removed id : ListenerId}
    (member : id ∈ (cache.remove axis key removed).2.ids other name) :
    id ∈ cache.ids other name := by
  rw [ids_remove] at member
  split at member
  · rename_i same
    obtain ⟨rfl, rfl⟩ := same
    exact (List.mem_filter.mp member).1
  · exact member

theorem remove (orderly : Orderly cache) (axis : Axis) (key : String) (id : ListenerId) :
    Orderly (cache.remove axis key id).2 where
  ascending other name := by
    rw [ids_remove]
    split
    · exact (orderly.ascending axis key).filter _
    · exact orderly.ascending other name
  given other name present member := by
    rw [nextId_remove]
    exact orderly.given other name present (mem_ids_of_remove member)
  alone here there := orderly.alone (mem_ids_of_remove here) (mem_ids_of_remove there)
  opened other name opened present := by
    rw [nextId_remove]
    rcases cache.opened?_remove axis other key name id with same | ⟨closed, _⟩
    · rw [same] at present
      exact orderly.opened other name opened present
    · rw [closed] at present
      cases present

private theorem least_of_find? {ids : List ListenerId} {start next : ListenerId}
    (ascending : ids.Pairwise (· < ·)) (found : ids.find? (start ≤ ·) = some next) :
    ∀ id ∈ ids, start ≤ id → next ≤ id := by
  induction ids with
  | nil => cases found
  | cons first rest ih =>
    obtain ⟨before, tail⟩ := List.pairwise_cons.mp ascending
    intro id member late
    by_cases reached : start ≤ first
    · have same : first = next := by simpa [List.find?_cons, reached] using found
      rcases List.mem_cons.mp member with rfl | inside
      · exact Nat.le_of_eq same.symm
      · exact same ▸ Nat.le_of_lt (before id inside)
    · have found : rest.find? (start ≤ ·) = some next := by
        simpa [List.find?_cons, reached] using found
      rcases List.mem_cons.mp member with rfl | inside
      · exact absurd late reached
      · exact ih tail found id inside late

/-- The number that is found first stands in front of those after it. -/
theorem filter_of_find? {ids : List ListenerId} {start next : ListenerId}
    (ascending : ids.Pairwise (· < ·)) (found : ids.find? (start ≤ ·) = some next) :
    ids.filter (start ≤ ·) = next :: ids.filter (next + 1 ≤ ·) := by
  obtain ⟨reached, earlier, later, rfl, past⟩ := List.find?_eq_some_iff_append.mp found
  have reached : start ≤ next := of_decide_eq_true reached
  have past : ∀ id ∈ earlier, id < start := fun id member => by simpa using past id member
  have ahead : ∀ id ∈ later, next < id :=
    (List.pairwise_cons.mp (List.pairwise_append.mp ascending).2.1).1
  have before (bound : ListenerId) (inside : start ≤ bound) :
      earlier.filter (bound ≤ ·) = [] := by
    refine List.filter_eq_nil_iff.mpr fun id member => ?_
    simpa using Nat.lt_of_lt_of_le (past id member) inside
  have after (bound : ListenerId) (inside : bound ≤ next + 1) :
      later.filter (bound ≤ ·) = later := by
    refine List.filter_eq_self.mpr fun id member => ?_
    exact decide_eq_true (Nat.le_trans inside (ahead id member))
  have first : (next :: later).filter (start ≤ ·) = next :: later.filter (start ≤ ·) :=
    List.filter_cons_of_pos (decide_eq_true reached)
  have skipped : (next :: later).filter (next + 1 ≤ ·) = later.filter (next + 1 ≤ ·) :=
    List.filter_cons_of_neg (by simp)
  rw [List.filter_append, List.filter_append, first, skipped, before start (Nat.le_refl _),
    before (next + 1) (Nat.le_succ_of_le reached), after start (Nat.le_succ_of_le reached),
    after (next + 1) (Nat.le_refl _)]
  rfl

/-- The next listener of a roster is the first one that was not called yet. -/
theorem upcoming (orderly : Orderly cache) {axis : Axis} {key : String}
    {opened start next : ListenerId}
    (upcoming : cache.upcoming? axis key opened start = some next) :
    cache.opened? axis key = some opened ∧ start ≤ next ∧
      ∀ id ∈ cache.ids axis key, start ≤ id → next ≤ id := by
  unfold upcoming? at upcoming
  split at upcoming
  · rename_i present
    have reached := List.find?_some upcoming
    exact ⟨present, of_decide_eq_true reached,
      least_of_find? (orderly.ascending axis key) upcoming⟩
  · cases upcoming

end Orderly

end MeshDiscovery.Cache
