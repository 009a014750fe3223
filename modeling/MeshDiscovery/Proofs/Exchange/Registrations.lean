import MeshDiscovery.Proofs.Exchange.Cache
import Mathlib.Data.List.Nodup

/-!
Listeners as those who registered them see it: a registration gives a number, and a removal says
whether it found the listener. Whatever is registered and removed, on both axes and in any order,
the registries hold exactly what these answers leave.
-/

namespace MeshDiscovery

/-- What is done with the listeners of a cache. -/
inductive Change (α : Type) where
  | add (axis : Axis) (key : String) (listener : α)
  /-- A listener is removed, as far as it is there. -/
  | remove (axis : Axis) (key : String) (id : ListenerId)
  /-- A number is given out to a listener of another cache. -/
  | skip

/-- The number of a listener with the name that it was given for. -/
structure Handle where
  axis : Axis
  key : String
  id : ListenerId
  deriving DecidableEq

variable {α : Type}

namespace Cache

def change (cache : Cache α) : Change α → Cache α
  | .add axis key listener => cache.add axis key listener
  | .remove axis key id => (cache.remove axis key id).2
  | .skip => { cache with nextId := cache.nextId + 1 }

def changes (cache : Cache α) (history : List (Change α)) : Cache α :=
  history.foldl change cache

/-- The listener that a change registers, with its handle. -/
def registered? (cache : Cache α) : Change α → Option (Handle × α)
  | .add axis key listener => some (⟨axis, key, cache.nextId⟩, listener)
  | .remove .. | .skip => none

/-- The handle of the listener that a change removes, if it says that it was there. -/
def removed? (cache : Cache α) : Change α → Option Handle
  | .remove axis key id => if (cache.remove axis key id).1 then some ⟨axis, key, id⟩ else none
  | .add .. | .skip => none

/-- The listeners that are registered by changes, in order. -/
def registrations : Cache α → List (Change α) → List (Handle × α)
  | _, [] => []
  | cache, change :: rest =>
    (cache.registered? change).toList ++ (cache.change change).registrations rest

/-- The handles of the listeners that are removed by changes, in order. -/
def removals : Cache α → List (Change α) → List Handle
  | _, [] => []
  | cache, change :: rest => (cache.removed? change).toList ++ (cache.change change).removals rest

end Cache

/-- What was registered under a name and not removed, in order. -/
def remaining (axis : Axis) (key : String) (registered : List (Handle × α))
    (removed : List Handle) : List (ListenerId × α) :=
  (registered.filter fun entry =>
    entry.1.axis = axis ∧ entry.1.key = key ∧ entry.1 ∉ removed).map fun entry =>
      (entry.1.id, entry.2)

section Remaining

variable {axis : Axis} {key : String} {registered : List (Handle × α)} {removed : List Handle}

theorem mem_remaining {id : ListenerId} {listener : α} :
    (id, listener) ∈ remaining axis key registered removed ↔
      (⟨axis, key, id⟩, listener) ∈ registered ∧ ⟨axis, key, id⟩ ∉ removed := by
  rw [remaining, List.mem_map]
  constructor
  · rintro ⟨⟨⟨_, _, _⟩, _⟩, member, same⟩
    cases same
    obtain ⟨present, kept⟩ := List.mem_filter.mp member
    obtain ⟨rfl, rfl, still⟩ := of_decide_eq_true kept
    exact ⟨present, still⟩
  · rintro ⟨present, still⟩
    exact ⟨_, List.mem_filter.mpr ⟨present, decide_eq_true ⟨rfl, rfl, still⟩⟩, rfl⟩

theorem mem_ids_remaining {id : ListenerId} :
    id ∈ (remaining axis key registered removed).map Prod.fst ↔
      (∃ listener, (⟨axis, key, id⟩, listener) ∈ registered) ∧ ⟨axis, key, id⟩ ∉ removed := by
  simp only [List.mem_map, Prod.exists, exists_and_right, exists_eq_right, mem_remaining]

theorem ids_remaining_sublist :
    ((remaining axis key registered removed).map Prod.fst).Sublist
      (registered.map fun entry => entry.1.id) := by
  rw [remaining, List.map_map]
  exact List.filter_sublist.map _

/-- What is registered remains under its own name, behind the others. -/
theorem remaining_add {handle : Handle} (listener : α) (still : handle ∉ removed) :
    remaining axis key (registered ++ [(handle, listener)]) removed =
      if axis = handle.axis ∧ key = handle.key then
        remaining axis key registered removed ++ [(handle.id, listener)]
      else remaining axis key registered removed := by
  rw [remaining, List.filter_append, List.map_append]
  split
  · rename_i own
    obtain ⟨rfl, rfl⟩ := own
    simp [still, remaining]
  · rename_i other
    have elsewhere : ¬ (handle.axis = axis ∧ handle.key = key ∧ handle ∉ removed) :=
      fun all => other ⟨all.1.symm, all.2.1.symm⟩
    simp [elsewhere, remaining]

/-- What is removed remains no longer, and nothing else is missing. -/
theorem remaining_remove (handle : Handle) :
    remaining axis key registered (removed ++ [handle]) =
      if axis = handle.axis ∧ key = handle.key then
        (remaining axis key registered removed).filter fun entry => entry.1 ≠ handle.id
      else remaining axis key registered removed := by
  split
  · rename_i own
    obtain ⟨rfl, rfl⟩ := own
    rw [remaining, remaining, List.filter_map, List.filter_filter]
    congr 1
    apply List.filter_congr
    rintro ⟨⟨axis, key, id⟩, listener⟩ _
    obtain ⟨_, _, gone⟩ := handle
    simp only [List.mem_append, List.mem_singleton, Handle.mk.injEq, Function.comp_apply]
    grind
  · rename_i other
    rw [remaining, remaining]
    congr 1
    apply List.filter_congr
    rintro ⟨found, listener⟩ _
    have different : found.axis = axis → found.key = key → found ≠ handle := by
      rintro rfl rfl rfl
      exact other ⟨rfl, rfl⟩
    simp only [List.mem_append, List.mem_singleton]
    grind

end Remaining

namespace Cache

/-- A cache holds the listeners that were registered and not removed. -/
structure Holds (cache : Cache α) (registered : List (Handle × α)) (removed : List Handle) :
    Prop where
  occupied : cache.Occupied
  members : ∀ axis key,
    (cache.listeners axis).members key = remaining axis key registered removed
  /-- Numbers are given out in ascending order. -/
  ascending : (registered.map fun entry => entry.1.id).Pairwise (· < ·)
  given : ∀ entry ∈ registered, entry.1.id < cache.nextId
  known : ∀ handle ∈ removed, ∃ listener, (handle, listener) ∈ registered
  /-- No listener is removed twice. -/
  once : (removed.map Handle.id).Nodup

namespace Holds

variable {cache : Cache α} {registered : List (Handle × α)} {removed : List Handle}

theorem empty : Holds ({} : Cache α) [] [] where
  occupied := .empty
  members axis key := by cases axis <;> rfl
  ascending := .nil
  given := by simp
  known := by simp
  once := .nil

theorem eq_of_id (holds : Holds cache registered removed) {first second : Handle × α}
    (isFirst : first ∈ registered) (isSecond : second ∈ registered)
    (same : first.1.id = second.1.id) : first = second :=
  List.inj_on_of_nodup_map (holds.ascending.imp Nat.ne_of_lt) isFirst isSecond same

theorem mem_ids_iff (holds : Holds cache registered removed) {axis : Axis} {key : String}
    {id : ListenerId} :
    id ∈ cache.ids axis key ↔
      (∃ listener, (⟨axis, key, id⟩, listener) ∈ registered) ∧ ⟨axis, key, id⟩ ∉ removed := by
  rw [ids, Registry.ids, holds.members, mem_ids_remaining]

theorem remove_fst_iff (holds : Holds cache registered removed) (axis : Axis) (key : String)
    (id : ListenerId) :
    (cache.remove axis key id).1 = true ↔
      (∃ listener, (⟨axis, key, id⟩, listener) ∈ registered) ∧ ⟨axis, key, id⟩ ∉ removed := by
  rw [remove_fst, decide_eq_true_iff, holds.mem_ids_iff]

theorem ids_ascending (holds : Holds cache registered removed) (axis : Axis) (key : String) :
    (cache.ids axis key).Pairwise (· < ·) := by
  rw [ids, Registry.ids, holds.members]
  exact holds.ascending.sublist ids_remaining_sublist

private theorem add (holds : Holds cache registered removed) (axis : Axis) (key : String)
    (listener : α) :
    Holds (cache.add axis key listener) (registered ++ [(⟨axis, key, cache.nextId⟩, listener)])
      removed := by
  have fresh : ⟨axis, key, cache.nextId⟩ ∉ removed := by
    intro member
    obtain ⟨_, present⟩ := holds.known _ member
    exact Nat.lt_irrefl _ (holds.given _ present)
  refine ⟨holds.occupied.add axis key listener, ?_, ?_, ?_, ?_, holds.once⟩
  · intro other name
    rw [members_add, remaining_add listener fresh, holds.members, holds.members]
    split
    · rename_i same
      rw [same.1, same.2]
    · rfl
  · rw [List.map_append]
    refine List.pairwise_append.mpr ⟨holds.ascending, List.pairwise_singleton _ _, ?_⟩
    intro id member next isNext
    obtain ⟨entry, present, rfl⟩ := List.mem_map.mp member
    rw [List.map_singleton, List.mem_singleton] at isNext
    rw [isNext]
    exact holds.given entry present
  · intro entry member
    rw [nextId_add]
    rcases List.mem_append.mp member with old | new
    · exact Nat.lt_succ_of_lt (holds.given entry old)
    · rw [List.mem_singleton.mp new]
      exact Nat.lt_succ_self _
  · intro handle member
    obtain ⟨known, present⟩ := holds.known handle member
    exact ⟨known, List.mem_append_left _ present⟩

private theorem remove (holds : Holds cache registered removed) {axis : Axis} {key : String}
    {id : ListenerId} (found : (cache.remove axis key id).1 = true) :
    Holds (cache.remove axis key id).2 registered (removed ++ [⟨axis, key, id⟩]) := by
  obtain ⟨⟨listener, present⟩, still⟩ := (holds.remove_fst_iff axis key id).mp found
  refine ⟨holds.occupied.remove axis key id, ?_, holds.ascending, ?_, ?_, ?_⟩
  · intro other name
    rw [members_remove, remaining_remove, holds.members, holds.members]
    split
    · rename_i same
      rw [same.1, same.2]
    · rfl
  · intro entry member
    rw [nextId_remove]
    exact holds.given entry member
  · intro handle member
    rcases List.mem_append.mp member with old | new
    · exact holds.known handle old
    · rw [List.mem_singleton.mp new]
      exact ⟨listener, present⟩
  · rw [List.map_append, List.map_singleton, ← List.concat_eq_append]
    refine holds.once.concat ?_
    -- A number that was removed before was given out for this very name.
    intro member
    obtain ⟨handle, gone, same⟩ := List.mem_map.mp member
    obtain ⟨_, known⟩ := holds.known handle gone
    cases holds.eq_of_id known present same
    exact still gone

private theorem skip (holds : Holds cache registered removed) :
    Holds { cache with nextId := cache.nextId + 1 } registered removed where
  occupied axis := by
    cases axis
    · exact holds.occupied .route
    · exact holds.occupied .cluster
  members axis key := by
    rw [← holds.members]
    cases axis <;> rfl
  ascending := holds.ascending
  given entry member := Nat.lt_succ_of_lt (holds.given entry member)
  known := holds.known
  once := holds.once

/-- A change does what its answer says. -/
theorem change (holds : Holds cache registered removed) (change : Change α) :
    Holds (cache.change change) (registered ++ (cache.registered? change).toList)
      (removed ++ (cache.removed? change).toList) := by
  cases change with
  | add axis key listener =>
    rw [removed?, Option.toList_none, List.append_nil]
    exact holds.add axis key listener
  | remove axis key id =>
    rw [registered?, Option.toList_none, List.append_nil, removed?, Cache.change]
    cases found : (cache.remove axis key id).1 with
    | true => exact holds.remove found
    | false =>
      rw [remove_snd_of_absent holds.occupied found]
      simpa using holds
  | skip =>
    rw [registered?, removed?, Option.toList_none, Option.toList_none, List.append_nil,
      List.append_nil]
    exact holds.skip

theorem changes (holds : Holds cache registered removed) (history : List (Change α)) :
    Holds (cache.changes history) (registered ++ cache.registrations history)
      (removed ++ cache.removals history) := by
  induction history generalizing cache registered removed with
  | nil => simpa [registrations, removals, Cache.changes] using holds
  | cons change rest ih =>
    rw [registrations, removals, ← List.append_assoc, ← List.append_assoc]
    exact ih (holds.change change)

private theorem filter_ne_eq_nil_iff {ids : List ListenerId} (alone : ids.Nodup)
    {id : ListenerId} : ids.filter (· ≠ id) = [] ↔ ids = [] ∨ ids = [id] := by
  have erased : ids.filter (· ≠ id) = ids.erase id := by
    rw [alone.erase_eq_filter]
    exact List.filter_congr fun other _ => by rw [Bool.eq_iff_iff]; simp
  rw [erased, List.erase_eq_nil_iff]

/-- A removal drops a name exactly if it takes the last listener of it. -/
theorem mem_names_remove (holds : Holds cache registered removed) (axis other : Axis)
    (key name : String) (id : ListenerId) :
    name ∈ ((cache.remove axis key id).2.listeners other).rosters.names ↔
      name ∈ (cache.listeners other).rosters.names ∧
        ¬ (other = axis ∧ name = key ∧ cache.ids axis key = [id]) := by
  have alone : (cache.ids axis key).Nodup := (holds.ids_ascending axis key).imp Nat.ne_of_lt
  rw [((holds.occupied.remove axis key id) other).mem_names_iff,
    (holds.occupied other).mem_names_iff]
  show (cache.remove axis key id).2.ids other name ≠ [] ↔ cache.ids other name ≠ [] ∧ _
  rw [ids_remove]
  split
  · rename_i same
    obtain ⟨rfl, rfl⟩ := same
    rw [ne_eq, filter_ne_eq_nil_iff alone]
    simp
  · rename_i elsewhere
    have kept : ¬ (other = axis ∧ name = key ∧ cache.ids axis key = [id]) :=
      fun all => elsewhere ⟨all.1, all.2.1⟩
    simp [kept]

end Holds

/-- Whatever is registered and removed, every name that is present has listeners, and they are those
that were registered under it and not removed, in order. Their numbers differ, and each stands under
one name of one axis. A removal finds its listener exactly if the number was given out for this very
name and was not removed before, so it is found once. The name is dropped exactly with its last
listener, and a removal that finds nothing changes nothing. -/
theorem registries_hold_what_was_registered (history : List (Change α)) :
    let cache := ({} : Cache α).changes history
    let registered := ({} : Cache α).registrations history
    let removed := ({} : Cache α).removals history
    (∀ axis, ∀ entry ∈ (cache.listeners axis).rosters.entries, entry.2.members ≠ []) ∧
      (registered.map fun entry => entry.1.id).Pairwise (· < ·) ∧
      (∀ axis key,
        (cache.listeners axis).members key = remaining axis key registered removed ∧
          (cache.ids axis key).Nodup ∧
          ∀ id ∈ cache.ids axis key, ∀ other name, id ∈ cache.ids other name →
            other = axis ∧ name = key) ∧
      (removed.map Handle.id).Nodup ∧
      ∀ axis key id,
        let answer := cache.remove axis key id
        (answer.1 = true ↔
          (∃ listener, (⟨axis, key, id⟩, listener) ∈ registered) ∧ ⟨axis, key, id⟩ ∉ removed) ∧
        (answer.1 = false → answer.2 = cache) ∧
        ∀ other name, name ∈ (answer.2.listeners other).rosters.names ↔
          name ∈ (cache.listeners other).rosters.names ∧
            ¬ (other = axis ∧ name = key ∧ cache.ids axis key = [id]) := by
  intro cache registered removed
  have holds : Holds cache registered removed := Holds.empty.changes history
  refine ⟨?_, holds.ascending, ?_, holds.once, ?_⟩
  · rintro axis ⟨key, roster⟩ present
    exact holds.occupied axis key roster (NameMap.mem_entries_iff.mp present)
  · intro axis key
    refine ⟨holds.members axis key, (holds.ids_ascending axis key).imp Nat.ne_of_lt, ?_⟩
    intro id here other name there
    obtain ⟨⟨_, isHere⟩, _⟩ := holds.mem_ids_iff.mp here
    obtain ⟨⟨_, isThere⟩, _⟩ := holds.mem_ids_iff.mp there
    cases holds.eq_of_id isHere isThere rfl
    exact ⟨rfl, rfl⟩
  · intro axis key id answer
    exact ⟨holds.remove_fst_iff axis key id, remove_snd_of_absent holds.occupied,
      fun other name => holds.mem_names_remove axis other key name id⟩

/-- A listener is not removed through the other axis, under another name or a second time. -/
theorem first_fitting_removal_counts :
    let history : List (Change String) :=
      [.add .route "a" "x", .add .cluster "a" "y", .skip, .add .route "a" "z",
        .remove .cluster "a" 0, .remove .route "b" 0, .remove .route "a" 0, .remove .route "a" 0,
        .remove .cluster "a" 1]
    let cache := ({} : Cache String).changes history
    ({} : Cache String).removals history = [⟨.route, "a", 0⟩, ⟨.cluster, "a", 1⟩] ∧
      (cache.listeners .route).members "a" = [(3, "z")] ∧
      (cache.remove .route "a" 0).1 = false ∧ (cache.remove .route "a" 0).2 = cache ∧
      (cache.remove .route "a" 3).1 = true ∧
      "a" ∉ ((cache.remove .route "a" 3).2.listeners .route).rosters.names := by
  intro history cache
  have registered : ({} : Cache String).registrations history =
      [(⟨.route, "a", 0⟩, "x"), (⟨.cluster, "a", 1⟩, "y"), (⟨.route, "a", 3⟩, "z")] := by
    decide +kernel
  have removed : ({} : Cache String).removals history =
      [⟨.route, "a", 0⟩, ⟨.cluster, "a", 1⟩] := by
    decide +kernel
  obtain ⟨_, _, members, _, answers⟩ := registries_hold_what_was_registered history
  rw [registered, removed] at members answers
  obtain ⟨_, unchanged, _⟩ := answers .route "a" 0
  obtain ⟨found, _, names⟩ := answers .route "a" 3
  have missed : (cache.remove .route "a" 0).1 = false := by decide +kernel
  have last : cache.ids .route "a" = [3] := by decide +kernel
  exact ⟨removed, (members .route "a").1, missed, unchanged missed,
    found.mpr ⟨⟨"z", by decide⟩, by decide⟩,
    fun member => ((names .route "a").mp member).2 ⟨rfl, rfl, last⟩⟩

end Cache

end MeshDiscovery
