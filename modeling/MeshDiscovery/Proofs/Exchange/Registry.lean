import MeshDiscovery.Exchange.Cache

namespace MeshDiscovery

namespace Registry

variable {α : Type} (registry : Registry α)

theorem members_insert (key other : String) (roster : Roster α) :
    (Registry.mk (registry.rosters.insert key roster)).members other =
      if other = key then roster.members else registry.members other := by
  by_cases same : other = key
  · simp [members, same]
  · simp [members, same, NameMap.get?_insert_of_ne]

theorem members_add (key other : String) (id : ListenerId) (listener : α) :
    (registry.add key id listener).members other =
      if other = key then registry.members key ++ [(id, listener)] else registry.members other := by
  rw [add, members_insert]
  split
  · cases present : registry.rosters.get? key with
    | none => simp [members, present]
    | some roster => simp [members, present]
  · rfl

/-- A listener is removed from its name, wherever it stands. -/
theorem members_remove (key other : String) (id : ListenerId) :
    (registry.remove key id).2.members other =
      if other = key then (registry.members key).filter fun entry => entry.1 ≠ id
      else registry.members other := by
  unfold remove
  cases present : registry.rosters.get? key with
  | none =>
    by_cases same : other = key
    · subst same
      simp [members, present]
    · rw [if_neg same]
  | some roster =>
    have listed : registry.members key = roster.members := by simp [members, present]
    rw [listed]
    dsimp only
    split
    · rename_i last
      rw [members, NameMap.get?_erase]
      by_cases same : other = key
      · rw [if_pos same, if_pos same]
        exact (List.isEmpty_iff.mp last).symm
      · rw [if_neg same, if_neg same]
        rfl
    · exact members_insert registry key other _

/-- A listener is replaced where it stands. -/
theorem members_modify (key other : String) (id : ListenerId) (change : α → α) :
    (registry.modify key id change).members other =
      if other = key then
        (registry.members key).map fun entry => if entry.1 = id then (id, change entry.2) else entry
      else registry.members other := by
  unfold modify
  cases present : registry.rosters.get? key with
  | none =>
    by_cases same : other = key
    · subst same
      simp [members, present]
    · rw [if_neg same]
  | some roster =>
    have listed : registry.members key = roster.members := by simp [members, present]
    rw [listed]
    exact members_insert registry key other _

theorem mem_members_of_next? {key : String} {opened start : ListenerId} {entry : ListenerId × α}
    (next : registry.next? key opened start = some entry) : entry ∈ registry.members key := by
  unfold next? at next
  split at next
  · cases next
  · rename_i roster present
    split at next
    · simpa [members, present] using List.mem_of_find?_eq_some next
    · cases next

/-- The numbers of the listeners of a name in the order of their registration. -/
def ids (key : String) : List ListenerId :=
  (registry.members key).map Prod.fst

theorem opened?_of_mem_ids {key : String} {id : ListenerId} (member : id ∈ registry.ids key) :
    ∃ opened, registry.opened? key = some opened := by
  cases present : registry.rosters.get? key with
  | none => simp [ids, members, present] at member
  | some roster => exact ⟨roster.opened, by simp [opened?, present]⟩

private theorem opened?_insert (key other : String) (roster : Roster α) :
    (Registry.mk (registry.rosters.insert key roster)).opened? other =
      if other = key then some roster.opened else registry.opened? other := by
  by_cases same : other = key
  · simp [opened?, same]
  · simp [opened?, same, NameMap.get?_insert_of_ne]

theorem opened?_add (key other : String) (id : ListenerId) (listener : α) :
    (registry.add key id listener).opened? other =
      if other = key then some ((registry.opened? key).getD id) else registry.opened? other := by
  rw [add, opened?_insert]
  split
  · cases present : registry.rosters.get? key with
    | none => simp [opened?, present]
    | some roster => simp [opened?, present]
  · rfl

/-- A roster is closed with its last listener only. -/
theorem opened?_remove (key other : String) (id : ListenerId) :
    (registry.remove key id).2.opened? other = registry.opened? other ∨
      (registry.remove key id).2.opened? other = none ∧
        (registry.remove key id).2.ids other = [] := by
  unfold remove
  cases present : registry.rosters.get? key with
  | none => exact .inl rfl
  | some roster =>
    dsimp only
    split
    · by_cases same : other = key
      · exact .inr (by simp [opened?, ids, members, NameMap.get?_erase, same])
      · exact .inl (by simp [opened?, NameMap.get?_erase, same])
    · rw [opened?_insert]
      by_cases same : other = key
      · exact .inl (by simp [opened?, present, same])
      · exact .inl (if_neg same)

theorem opened?_modify (key other : String) (id : ListenerId) (change : α → α) :
    (registry.modify key id change).opened? other = registry.opened? other := by
  unfold modify
  cases present : registry.rosters.get? key with
  | none => rfl
  | some roster =>
    dsimp only
    rw [opened?_insert]
    by_cases same : other = key
    · simp [opened?, present, same]
    · exact if_neg same

theorem ids_add (key other : String) (id : ListenerId) (listener : α) :
    (registry.add key id listener).ids other =
      if other = key then registry.ids key ++ [id] else registry.ids other := by
  rw [ids, members_add]
  split <;> simp [ids]

theorem ids_remove (key other : String) (id : ListenerId) :
    (registry.remove key id).2.ids other =
      if other = key then (registry.ids key).filter (· ≠ id) else registry.ids other := by
  rw [ids, members_remove]
  split
  · simp [ids, List.filter_map, Function.comp_def]
  · rfl

/-- A listener that is replaced keeps its number. -/
theorem ids_modify (key other : String) (id : ListenerId) (change : α → α) :
    (registry.modify key id change).ids other = registry.ids other := by
  rw [ids, members_modify]
  split
  · rename_i same
    rw [same, ids, List.map_map]
    apply List.map_congr_left
    intro entry _
    simp only [Function.comp_apply]
    split
    · rename_i found
      exact found.symm
    · rfl
  · rfl

theorem remove_fst (key : String) (id : ListenerId) :
    (registry.remove key id).1 = decide (id ∈ registry.ids key) := by
  unfold remove
  cases present : registry.rosters.get? key with
  | none => simp [ids, members, present]
  | some roster =>
    have listed : registry.ids key = roster.members.map Prod.fst := by simp [ids, members, present]
    rw [listed]
    simp [List.any_eq]

/-- The number of the next listener of a roster. -/
theorem next?_map_fst (key : String) (opened start : ListenerId) :
    (registry.next? key opened start).map Prod.fst =
      if registry.opened? key = some opened then (registry.ids key).find? (start ≤ ·)
      else none := by
  unfold next?
  cases present : registry.rosters.get? key with
  | none => simp [opened?, present]
  | some roster =>
    simp only [opened?, present, Option.map_some, Option.some.injEq]
    split
    · rw [ids, members, present, Option.map_some, Option.getD_some, List.find?_map]
      rfl
    · rfl

/-- Every name that is present has listeners. -/
def Occupied (registry : Registry α) : Prop :=
  ∀ key roster, registry.rosters.get? key = some roster → roster.members ≠ []

variable {registry}

namespace Occupied

theorem empty : Occupied ({} : Registry α) := by
  intro key roster present
  cases present

private theorem insert (occupied : Occupied registry) (key : String) {roster : Roster α}
    (some : roster.members ≠ []) : Occupied ⟨registry.rosters.insert key roster⟩ := by
  intro other found present
  by_cases same : other = key
  · rw [same, NameMap.get?_insert_self] at present
    cases present
    exact some
  · rw [NameMap.get?_insert_of_ne _ same] at present
    exact occupied other found present

theorem add (occupied : Occupied registry) (key : String) (id : ListenerId) (listener : α) :
    Occupied (registry.add key id listener) := by
  rw [Registry.add]
  apply occupied.insert
  split
  · simp
  · simp

/-- A name is dropped with its last listener, so those that stay have some. -/
theorem remove (occupied : Occupied registry) (key : String) (id : ListenerId) :
    Occupied (registry.remove key id).2 := by
  unfold Registry.remove
  split
  · exact occupied
  · dsimp only
    split
    · intro other roster present
      rw [NameMap.get?_erase] at present
      split at present
      · cases present
      · exact occupied other roster present
    · rename_i rest
      exact occupied.insert key fun none => rest (List.isEmpty_iff.mpr none)

theorem modify (occupied : Occupied registry) (key : String) (id : ListenerId) (change : α → α) :
    Occupied (registry.modify key id change) := by
  unfold Registry.modify
  split
  · exact occupied
  · rename_i roster present
    apply occupied.insert
    simpa using occupied key roster present

end Occupied

theorem Occupied.mem_names_iff (occupied : Occupied registry) {key : String} :
    key ∈ registry.rosters.names ↔ registry.ids key ≠ [] := by
  rw [NameMap.mem_names_iff]
  cases present : registry.rosters.get? key with
  | none => simp [ids, members, present]
  | some roster => simpa [ids, members, present] using occupied key roster present

/-- Where every name has listeners, a removal that finds nothing changes nothing. -/
theorem remove_snd_of_absent (occupied : Occupied registry) {key : String} {id : ListenerId}
    (absent : (registry.remove key id).1 = false) : (registry.remove key id).2 = registry := by
  rw [remove_fst, decide_eq_false_iff_not] at absent
  unfold remove
  cases present : registry.rosters.get? key with
  | none => rfl
  | some roster =>
    have listed : registry.ids key = roster.members.map Prod.fst := by simp [ids, members, present]
    have whole : (roster.members.filter fun entry => entry.1 ≠ id) = roster.members := by
      apply List.filter_eq_self.mpr
      intro entry member
      refine decide_eq_true fun same => absent ?_
      rw [listed, ← same]
      exact List.mem_map_of_mem member
    have some : ¬ roster.members.isEmpty = true := by
      simpa using occupied key roster present
    dsimp only
    rw [whole, if_neg some, NameMap.insert_of_get? present]

end Registry

namespace Cache

variable {α : Type} (cache : Cache α)

theorem listeners_setListeners (axis other : Axis) (registry : Registry α) :
    (cache.setListeners axis registry).listeners other =
      if other = axis then registry else cache.listeners other := by
  cases axis <;> cases other <;> rfl

theorem listeners_store (publication : Publication) (axis : Axis) :
    (cache.store publication).listeners axis = cache.listeners axis := by
  cases publication <;> cases axis <;> rfl

theorem listeners_add (axis other : Axis) (key : String) (listener : α) :
    (cache.add axis key listener).listeners other =
      if other = axis then (cache.listeners axis).add key cache.nextId listener
      else cache.listeners other :=
  listeners_setListeners cache axis other _

theorem members_add (axis other : Axis) (key name : String) (listener : α) :
    ((cache.add axis key listener).listeners other).members name =
      if other = axis ∧ name = key then
        (cache.listeners axis).members key ++ [(cache.nextId, listener)]
      else (cache.listeners other).members name := by
  rw [listeners_add]
  by_cases sameAxis : other = axis
  · by_cases sameKey : name = key
    · simp [sameAxis, sameKey, Registry.members_add]
    · simp [sameAxis, sameKey, Registry.members_add]
  · simp [sameAxis]

theorem members_remove (axis other : Axis) (key name : String) (id : ListenerId) :
    ((cache.remove axis key id).2.listeners other).members name =
      if other = axis ∧ name = key then
        ((cache.listeners axis).members key).filter fun entry => entry.1 ≠ id
      else (cache.listeners other).members name := by
  have removed : (cache.remove axis key id).2 =
      cache.setListeners axis ((cache.listeners axis).remove key id).2 := rfl
  rw [removed, listeners_setListeners]
  by_cases sameAxis : other = axis
  · by_cases sameKey : name = key
    · simp [sameAxis, sameKey, Registry.members_remove]
    · simp [sameAxis, sameKey, Registry.members_remove]
  · simp [sameAxis]

/-- A listener that is there after one was added was there before or is the one that was added. -/
theorem mem_members_add {axis other : Axis} {key name : String} {listener : α}
    {entry : ListenerId × α}
    (member : entry ∈ ((cache.add axis key listener).listeners other).members name) :
    entry ∈ (cache.listeners other).members name ∨ entry = (cache.nextId, listener) := by
  rw [members_add] at member
  split at member
  · rename_i same
    rw [same.1, same.2]
    exact (List.mem_append.mp member).imp_right List.mem_singleton.mp
  · exact .inl member

/-- A listener that is there after one was removed was there before. -/
theorem mem_members_remove {axis other : Axis} {key name : String} {id : ListenerId}
    {entry : ListenerId × α}
    (member : entry ∈ ((cache.remove axis key id).2.listeners other).members name) :
    entry ∈ (cache.listeners other).members name := by
  rw [members_remove] at member
  split at member
  · rename_i same
    rw [same.1, same.2]
    exact (List.mem_filter.mp member).1
  · exact member

/-- A listener that is there after one was replaced is another one, or what it was replaced by. -/
theorem mem_members_modify {axis other : Axis} {key name : String} {id : ListenerId}
    {change : α → α} {entry : ListenerId × α}
    (member : entry ∈ ((cache.setListeners axis
      ((cache.listeners axis).modify key id change)).listeners other).members name) :
    (entry ∈ (cache.listeners other).members name ∧
        ¬ (other = axis ∧ name = key ∧ entry.1 = id)) ∨
      ∃ listener, entry = (id, change listener) := by
  rw [listeners_setListeners] at member
  split at member
  · rename_i sameAxis
    rw [Registry.members_modify] at member
    split at member
    · rename_i sameKey
      obtain ⟨before, present, same⟩ := List.mem_map.mp member
      split at same
      · exact .inr ⟨before.2, same.symm⟩
      · rename_i different
        rw [← same, sameAxis, sameKey]
        exact .inl ⟨present, fun all => different all.2.2⟩
    · rename_i otherKey
      rw [sameAxis]
      exact .inl ⟨member, fun all => otherKey all.2.1⟩
  · rename_i otherAxis
    exact .inl ⟨member, fun all => otherAxis all.1⟩

end Cache

end MeshDiscovery
