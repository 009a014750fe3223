import MeshDiscovery.Proofs.Deployment.Round
import Mathlib.Algebra.BigOperators.Intervals

/-!
Publications end. Whatever a listener does on a call was given to it beforehand, and what it gives
to listeners that it registers is part of that, so the work that is left shrinks at each step until
all listeners of the name were called.
-/

namespace MeshDiscovery

/-- What is left to do for a frame at most; publishing counts for nothing. -/
noncomputable def Frame.effort : Frame → Nat
  | .script operations | .batch operations _ => 4 * sizeOf operations
  | .gather operations _ => 4 * sizeOf operations + 1
  | .publish _ | .notify .. => 0
  | .record _ | .yield _ | .bind .. | .settle .. | .acknowledge | .accept _ => 1

/-- What a listener is still going to do at most. -/
noncomputable def Listener.effort (listener : Listener) : Nat :=
  4 * sizeOf listener.scripts

namespace Deployment

variable {deployment before after : Deployment} {budget : Nat}

/-- The work of an agenda and of the listeners, with one for each number that was given out. -/
noncomputable def workload (agenda : List Frame) (load : ListenerId → Nat)
    (nextId : ListenerId) : Nat :=
  (agenda.map Frame.effort).sum + ∑ id ∈ Finset.range nextId, load id + nextId

/-- What is left to do for the calls in progress and what the listeners are going to do is within a
budget. -/
def Affords (deployment : Deployment) (budget : Nat) : Prop :=
  ∃ load : ListenerId → Nat,
    (∀ axis key, ∀ entry ∈ (deployment.cache.listeners axis).members key,
      entry.2.effort ≤ load entry.1) ∧
    workload deployment.agenda load deployment.cache.nextId ≤ budget

private theorem workload_append (frames agenda : List Frame) (load : ListenerId → Nat)
    (nextId : ListenerId) :
    workload (frames ++ agenda) load nextId =
      (frames.map Frame.effort).sum + workload agenda load nextId := by
  rw [workload, workload, List.map_append, List.sum_append]
  omega

private theorem workload_add (agenda : List Frame) (load : ListenerId → Nat) (nextId : ListenerId)
    (effort : Nat) :
    workload agenda (Function.update load nextId effort) (nextId + 1) =
      workload agenda load nextId + effort + 1 := by
  have others : ∑ id ∈ Finset.range nextId, Function.update load nextId effort id =
      ∑ id ∈ Finset.range nextId, load id := by
    refine Finset.sum_congr rfl fun id member => ?_
    rw [Function.update_of_ne (Nat.ne_of_lt (Finset.mem_range.mp member))]
  rw [workload, workload, Finset.sum_range_succ, others, Function.update_self]
  omega

private theorem workload_spend (agenda : List Frame) (load : ListenerId → Nat)
    {id nextId : ListenerId} (given : id < nextId) (effort : Nat) :
    workload agenda (Function.update load id effort) nextId + load id =
      workload agenda load nextId + effort := by
  have member := Finset.mem_range.mpr given
  have before := Finset.add_sum_erase (Finset.range nextId) load member
  rw [workload, workload, Finset.sum_update_of_mem member, ← before,
    Finset.sdiff_singleton_eq_erase]
  omega

namespace Affords

theorem mono {more : Nat} (affords : deployment.Affords budget) (grown : budget ≤ more) :
    deployment.Affords more := by
  obtain ⟨load, own, total⟩ := affords
  exact ⟨load, own, Nat.le_trans total grown⟩

theorem of_fields (affords : before.Affords budget) (agenda : after.agenda = before.agenda)
    (cache : after.cache = before.cache) : after.Affords budget := by
  obtain ⟨load, own, total⟩ := affords
  refine ⟨load, ?_, ?_⟩
  · rw [cache]
    exact own
  · rw [agenda, cache]
    exact total

theorem nextId_le (affords : deployment.Affords budget) : deployment.cache.nextId ≤ budget := by
  obtain ⟨_, _, total⟩ := affords
  exact Nat.le_trans (Nat.le_add_left _ _) total

theorem push (affords : deployment.Affords budget) (frames : List Frame) :
    (deployment.push frames).Affords ((frames.map Frame.effort).sum + budget) := by
  obtain ⟨load, own, total⟩ := affords
  refine ⟨load, own, ?_⟩
  rw [Deployment.push, workload_append]
  exact Nat.add_le_add_left total _

theorem take {frame : Frame} {rest : List Frame} (affords : deployment.Affords budget)
    (pending : deployment.agenda = frame :: rest) :
    ∃ remaining, budget = frame.effort + remaining ∧
      ({ deployment with agenda := rest } : Deployment).Affords remaining := by
  obtain ⟨load, own, total⟩ := affords
  rw [pending, ← List.singleton_append, workload_append, List.map_singleton,
    List.sum_singleton] at total
  refine ⟨budget - frame.effort, by omega, load, own, ?_⟩
  show workload rest load deployment.cache.nextId ≤ _
  omega

/-- A listener that is registered is new work. -/
theorem add (affords : deployment.Affords budget) (ordered : deployment.cache.Orderly)
    (axis : Axis) (key : String) (listener : Listener) :
    ({ deployment with cache := deployment.cache.add axis key listener } : Deployment).Affords
      (budget + listener.effort + 1) := by
  obtain ⟨load, own, total⟩ := affords
  refine ⟨Function.update load deployment.cache.nextId listener.effort, ?_, ?_⟩
  · intro other name entry member
    rcases Cache.mem_members_add _ member with old | new
    · have given := ordered.given other name entry.1 (List.mem_map_of_mem old)
      rw [Function.update_of_ne (Nat.ne_of_lt given)]
      exact own other name entry old
    · rw [new, Function.update_self]
  · show workload deployment.agenda _ (deployment.cache.nextId + 1) ≤ _
    rw [workload_add]
    omega

theorem remove (affords : deployment.Affords budget) (axis : Axis) (key : String)
    (id : ListenerId) :
    ({ deployment with cache := (deployment.cache.remove axis key id).2 } :
      Deployment).Affords budget := by
  obtain ⟨load, own, total⟩ := affords
  refine ⟨load, fun other name entry member => ?_, ?_⟩
  · exact own other name entry (Cache.mem_members_remove _ member)
  · show workload deployment.agenda load (deployment.cache.remove axis key id).2.nextId ≤ _
    rw [Cache.nextId_remove]
    exact total

/-- A script that a listener performs is no longer ahead of it. -/
theorem spend (affords : deployment.Affords budget) (ordered : deployment.cache.Orderly)
    {axis : Axis} {key : String} {id : ListenerId} {listener : Listener}
    (member : (id, listener) ∈ (deployment.cache.listeners axis).members key) {script : Script}
    {rest : List Script} (scripts : listener.scripts = script :: rest) :
    (({ deployment with
      cache := deployment.cache.setListeners axis
        ((deployment.cache.listeners axis).modify key id fun listener =>
          { listener with scripts := rest }) } : Deployment).push [.script script]).Affords
      budget := by
  obtain ⟨load, own, total⟩ := affords
  have isId : id ∈ deployment.cache.ids axis key := List.mem_map_of_mem member
  have cost : 4 * sizeOf script + 4 * sizeOf rest ≤ load id := by
    have whole := own axis key _ member
    simp only [Listener.effort, scripts, List.cons.sizeOf_spec] at whole
    omega
  refine ⟨Function.update load id (4 * sizeOf rest), fun other name entry present => ?_, ?_⟩
  · rcases Cache.mem_members_modify _ present with ⟨old, apart⟩ | ⟨before, replaced⟩
    · have different : entry.1 ≠ id := by
        intro same
        have isThere : entry.1 ∈ deployment.cache.ids other name := List.mem_map_of_mem old
        obtain ⟨rfl, rfl⟩ := ordered.alone (same ▸ isThere) isId
        exact apart ⟨rfl, rfl, same⟩
      rw [Function.update_of_ne different]
      exact own other name entry old
    · rw [replaced, Function.update_self]
      exact Nat.le_refl _
  · show workload ([.script script] ++ deployment.agenda) _
      (deployment.cache.setListeners axis _).nextId ≤ budget
    have balance := workload_spend deployment.agenda load (ordered.given axis key id isId)
      (4 * sizeOf rest)
    rw [Cache.nextId_setListeners, workload_append, List.map_singleton, List.sum_singleton,
      Frame.effort]
    omega

/-- What a listener does on a call was ahead of it before. -/
theorem callListener (affords : deployment.Affords budget) (ordered : deployment.cache.Orderly)
    (publication : Publication) {id : ListenerId} {listener : Listener}
    (member : (id, listener) ∈
      (deployment.cache.listeners publication.axis).members publication.key) :
    (deployment.callListener publication id listener).Affords budget := by
  have told : (deployment.emit (.notified id listener.label publication)).Affords budget :=
    affords.of_fields rfl rfl
  unfold Deployment.callListener
  split
  · exact told
  · rename_i script rest scripts
    exact told.spend ordered member scripts

theorem watch (affords : deployment.Affords budget) (ordered : deployment.cache.Orderly)
    (axis : Axis) (key : String) (listener : Listener) :
    (deployment.watch axis key listener).Affords (budget + listener.effort + 3) := by
  have added := (affords.add ordered axis key listener).push
    [.bind listener.label deployment.cache.nextId, .yield .done]
  have registered := added.mono
    (show 2 + (budget + listener.effort + 1) ≤ budget + listener.effort + 3 by omega)
  unfold Deployment.watch
  dsimp only
  split
  · exact registered
  · rename_i publication cached
    obtain ⟨rfl, rfl⟩ := Cache.place_of_current? cached
    refine registered.callListener (ordered.add ..) publication ?_
    show _ ∈ ((deployment.cache.add _ _ listener).listeners _).members _
    rw [Cache.listeners_add, if_pos rfl, Registry.members_add, if_pos rfl]
    exact List.mem_append_right _ (List.mem_singleton.mpr rfl)

end Affords

private theorem performPlain_eq (deployment : Deployment) {operation : Operation}
    (plain : operation.isPlain = true) :
    (deployment.perform operation).agenda = deployment.agenda ∧
      ((deployment.perform operation).cache = deployment.cache ∨ ∃ axis key id,
        (deployment.perform operation).cache = (deployment.cache.remove axis key id).2) := by
  cases operation with
  | lastRequest | node | state | describeSession | describeExchange | close | cached | cachedAll =>
    rw [perform, withClient]
    split
    · exact ⟨rfl, .inl rfl⟩
    · exact ⟨rfl, .inl rfl⟩
  | release | admitHanging | alive | unknown => exact ⟨rfl, .inl rfl⟩
  | subscribedNames kind | lastAck kind | describeSubscription kind | subscriptionFacts kind =>
    rw [perform, withSubscription]
    split
    · exact ⟨rfl, .inl rfl⟩
    · exact ⟨rfl, .inl rfl⟩
  | clientNames kind =>
    rw [perform, withClient, withSubscription]
    split
    · split
      · exact ⟨rfl, .inl rfl⟩
      · exact ⟨rfl, .inl rfl⟩
    · exact ⟨rfl, .inl rfl⟩
  | respond response stream | fail status stream =>
    rw [perform, deliver]
    dsimp only
    split
    · exact ⟨rfl, .inl rfl⟩
    · split
      · exact ⟨rfl, .inl rfl⟩
      · exact ⟨rfl, .inl rfl⟩
  | complete stream =>
    rw [perform, complete]
    dsimp only
    split
    · exact ⟨rfl, .inl rfl⟩
    · split
      · exact ⟨rfl, .inl rfl⟩
      · exact ⟨rfl, .inl rfl⟩
  | unwatch axis key label =>
    rw [perform, withClient]
    split
    · rw [unwatch]
      split
      · exact ⟨rfl, .inl rfl⟩
      · exact ⟨rfl, .inr ⟨_, _, _, rfl⟩⟩
    · exact ⟨rfl, .inl rfl⟩
  | register | registerCounter | request | subscribe | decode | handle | setCallback | plan | batch
  | watch => cases plain

/-- An operation costs no more than it is long. -/
theorem Affords.perform (affords : deployment.Affords budget)
    (ordered : deployment.cache.Orderly) {operation : Operation}
    (external : operation.External) :
    (deployment.perform operation).Affords (budget + 4 * sizeOf operation) := by
  cases external with
  | plain plain =>
    obtain ⟨agenda, same | ⟨axis, key, id, removed⟩⟩ := deployment.performPlain_eq plain
    · exact (affords.of_fields agenda same).mono (Nat.le_add_right _ _)
    · exact ((affords.remove axis key id).of_fields agenda removed).mono (Nat.le_add_right _ _)
  | plan each => exact (affords.of_fields rfl rfl).mono (Nat.le_add_right _ _)
  | @batch operations each =>
    refine (affords.push [.batch operations []]).mono ?_
    simp only [List.map_singleton, List.sum_singleton, Frame.effort, Operation.batch.sizeOf_spec]
    omega
  | @watch axis key label scripts each =>
    have size : 4 * sizeOf scripts + 3 ≤ 4 * sizeOf (Operation.watch axis key label scripts) := by
      simp only [Operation.watch.sizeOf_spec]
      omega
    rw [Deployment.perform, withClient]
    split
    · exact (affords.watch ordered axis key ⟨label, scripts⟩).mono (by
        simp only [Listener.effort]
        omega)
    · exact (affords.of_fields rfl rfl).mono (Nat.le_add_right _ _)

/-- Taking up a frame that publishes nothing leaves less to do. -/
theorem Affords.proceed (affords : deployment.Affords budget) (orderly : Orderly deployment)
    {frame : Frame} {rest : List Frame} (pending : deployment.agenda = frame :: rest)
    (other : frame.isPublishing = false) :
    ∃ less, less < budget ∧ deployment.proceed.Affords less := by
  obtain ⟨remaining, rfl, taken⟩ := affords.take pending
  have own := (orderly.external.drop pending).1
  unfold Deployment.proceed
  rw [pending]
  cases frame with
  | script operations =>
    cases operations with
    | nil => exact ⟨remaining, by simp [Frame.effort], taken⟩
    | cons entry more =>
      have pushed := taken.push [.record entry.1, .script more]
      refine ⟨_, ?_, pushed.perform orderly.cache (own entry List.mem_cons_self)⟩
      obtain ⟨label, operation⟩ := entry
      simp [Frame.effort]
      omega
  | batch operations replies =>
    cases operations with
    | nil => exact ⟨remaining, by simp [Frame.effort], taken.of_fields rfl rfl⟩
    | cons operation more =>
      have pushed := taken.push [.gather more replies]
      refine ⟨_, ?_, pushed.perform orderly.cache (own operation List.mem_cons_self)⟩
      simp [Frame.effort]
      omega
  | gather operations replies =>
    refine ⟨_, ?_, taken.push [.batch operations _]⟩
    simp [Frame.effort]
  | publish | notify => cases other
  | settle kind version nonce =>
    refine ⟨remaining, by simp [Frame.effort], ?_⟩
    dsimp only
    split
    · exact taken.of_fields rfl rfl
    · exact taken
  | record | yield | bind | acknowledge | accept =>
    exact ⟨remaining, by simp [Frame.effort], taken.of_fields rfl rfl⟩

private theorem listener_unique (ordered : deployment.cache.Orderly) {axis other : Axis}
    {key name : String} {id : ListenerId} {first second : Listener}
    (here : (id, first) ∈ (deployment.cache.listeners axis).members key)
    (there : (id, second) ∈ (deployment.cache.listeners other).members name) : first = second := by
  have isHere : id ∈ deployment.cache.ids axis key := List.mem_map_of_mem here
  have isThere : id ∈ deployment.cache.ids other name := List.mem_map_of_mem there
  obtain ⟨rfl, rfl⟩ := ordered.alone isHere isThere
  have distinct : (((deployment.cache.listeners axis).members key).map Prod.fst).Nodup :=
    (ordered.ascending axis key).imp Nat.ne_of_lt
  exact congrArg Prod.snd (List.inj_on_of_nodup_map distinct here there rfl)

private theorem exists_affords (ordered : deployment.cache.Orderly) :
    ∃ budget, deployment.Affords budget := by
  have each (id : ListenerId) : ∃ effort, ∀ axis key (listener : Listener),
      (id, listener) ∈ (deployment.cache.listeners axis).members key →
        listener.effort ≤ effort := by
    by_cases known : ∃ axis key, ∃ listener : Listener,
        (id, listener) ∈ (deployment.cache.listeners axis).members key
    · obtain ⟨_, _, listener, present⟩ := known
      refine ⟨listener.effort, fun axis key other member => ?_⟩
      rw [listener_unique ordered member present]
    · exact ⟨0, fun axis key listener member => absurd ⟨axis, key, listener, member⟩ known⟩
  choose load within using each
  exact ⟨_, load, fun axis key entry member => within entry.1 axis key entry.2 member,
    Nat.le_refl _⟩

private theorem silent_of_telling (orderly : Orderly deployment) {telling : Telling}
    (current : deployment.telling? = some telling) :
    (deployment.incident? .proceed).bind Incident.value? = none := by
  have turned := turned_proceed orderly.external
  generalize deployment.incident? .proceed = incident at turned
  cases turned with
  | published next =>
    rw [telling?_of_publish next] at current
    cases current
  | _ => rfl

private theorem proceed_telling (orderly : Orderly deployment) (affords : deployment.Affords budget)
    {telling : Telling} (current : deployment.telling? = some telling) :
    deployment.proceed.telling? = none ∨ ∃ later left,
      deployment.proceed.telling? = some later ∧ deployment.proceed.Affords left ∧
        left + telling.start < budget + later.start := by
  -- A step leaves less to do, or the next call is of a later listener.
  cases pending : deployment.agenda with
  | nil =>
    rw [telling?_of_idle (by rw [publishing, pending]; rfl)] at current
    cases current
  | cons frame rest =>
    by_cases other : frame.isPublishing = false
    · obtain ⟨left, less, affords⟩ := affords.proceed orderly pending other
      rcases telling?_turned orderly (turned_proceed orderly.external)
          (silent_of_telling orderly current) with same | none | ⟨_, id, was, reached, ahead⟩
      · exact .inr ⟨telling, left, same.trans current, affords, Nat.add_lt_add_right less _⟩
      · exact .inl none
      · cases current.symm.trans was
        refine .inr ⟨_, left, ahead, affords, ?_⟩
        have further : telling.start < id + 1 := Nat.lt_succ_of_le reached
        exact Nat.add_lt_add less further
    · have next := publishing_next pending (by simpa using other)
      cases frame with
      | publish publications =>
        rw [telling?_of_publish next] at current
        cases current
      | notify publication opened start =>
        cases (telling?_of_notify next).symm.trans current
        obtain ⟨_, more, beneath⟩ := (next ▸ orderly.layers).beneath
        have upcoming := deployment.cache.upcoming?_eq publication.axis publication.key opened start
        simp only [Deployment.proceed, pending, notifyNext]
        split
        · exact .inl (telling?_of_publish beneath)
        · rename_i id listener found
          have member := Registry.mem_members_of_next? _ found
          rw [found] at upcoming
          obtain ⟨_, reached, _⟩ := orderly.cache.upcoming upcoming.symm
          obtain ⟨remaining, same, taken⟩ := affords.take pending
          have pushed := (taken.push [.notify publication opened (id + 1)]).callListener
            orderly.cache publication member
          have called := (effects_callListener (({ deployment with agenda := rest } :
            Deployment).push [.notify publication opened (id + 1)]) publication id
              listener).publishing
          refine .inr ⟨⟨publication, opened, id + 1⟩, _, telling?_of_notify called, pushed, ?_⟩
          simpa [Frame.effort, same] using Nat.lt_succ_of_le reached
      | _ => exact absurd rfl other

/-- Taking up the call in progress so often ends the publication in progress and publishes nothing
else. -/
private def EndsIn (deployment : Deployment) (count : Nat) : Prop :=
  (deployment.turns (List.replicate count .proceed)).telling? = none ∧
    (deployment.incidents (List.replicate count .proceed)).filterMap Incident.value? = []

private theorem EndsIn.succ {count : Nat} (ends : deployment.proceed.EndsIn count)
    (silent : (deployment.incident? .proceed).bind Incident.value? = none) :
    deployment.EndsIn (count + 1) := by
  refine ⟨ends.1, ?_⟩
  rw [List.replicate_succ, incidents, List.filterMap_append, List.append_eq_nil_iff]
  exact ⟨Incident.filterMap_value?_eq_nil_iff.mpr silent, ends.2⟩

private theorem endsIn_of_telling (size : Nat) (orderly : Orderly deployment)
    (affords : deployment.Affords budget) {telling : Telling}
    (current : deployment.telling? = some telling) (enough : budget < size + telling.start) :
    ∃ count, deployment.EndsIn count := by
  -- The induction is on the work that is left together with the listeners that were not called.
  induction size generalizing deployment budget telling with
  | zero =>
    have started := Nat.le_trans (orderly.telling current).start affords.nextId_le
    omega
  | succ size ih =>
    have silent := silent_of_telling orderly current
    rcases proceed_telling orderly affords current with none | ⟨later, left, next, rest, less⟩
    · exact ⟨1, .succ ⟨none, rfl⟩ silent⟩
    · have plain : Turn.External .proceed := True.intro
      have reached : Orderly deployment.proceed := orderly.turn plain
      obtain ⟨count, ends⟩ := ih reached rest next (by omega)
      exact ⟨count + 1, ends.succ silent⟩

theorem publication_ends (orderly : Orderly deployment) :
    ∃ count, (deployment.turns (List.replicate count .proceed)).telling? = none ∧
      (deployment.incidents (List.replicate count .proceed)).filterMap Incident.value? = [] := by
  obtain ⟨budget, affords⟩ := exists_affords orderly.cache
  cases current : deployment.telling? with
  | none => exact ⟨0, current, rfl⟩
  | some telling =>
    exact endsIn_of_telling (budget + 1) orderly affords current
      (Nat.lt_of_lt_of_le (Nat.lt_succ_self budget) (Nat.le_add_right _ _))

private theorem begun_of_published {publication : Publication} (orderly : Orderly before)
    (turned : Turned before after (some (.published publication))) :
    after.Tells publication ∧ after.calls = before.calls ∧
      after.awaiting publication.axis publication.key before.cache.nextId =
        before.cache.ids publication.axis publication.key ∧
      ∀ axis key,
        after.cache.current? axis key =
          if publication.axis = axis ∧ publication.key = key then some publication
          else before.cache.current? axis key := by
  cases turned with
  | published next cache calls publishing =>
    have stored (axis : Axis) (key : String) :
        after.cache.current? axis key =
          if publication.axis = axis ∧ publication.key = key then some publication
          else before.cache.current? axis key := by
      rw [cache.current?, Cache.current?_store]
    have ids : after.cache.ids publication.axis publication.key =
        before.cache.ids publication.axis publication.key := by
      rw [cache.ids, Cache.ids_store]
    cases roster : before.cache.opened? publication.axis publication.key with
    | none =>
      rw [roster] at publishing
      have quiet := telling?_of_publish publishing
      have nobody : before.cache.ids publication.axis publication.key = [] := by
        refine List.eq_nil_iff_forall_not_mem.mpr fun id member => ?_
        obtain ⟨opened, present⟩ := before.cache.opened?_of_mem_ids member
        rw [roster] at present
        cases present
      refine ⟨fun telling current => ?_, calls, by rw [awaiting_of_quiet quiet, nobody], stored⟩
      rw [quiet] at current
      cases current
    | some opened =>
      rw [roster] at publishing
      have present : after.cache.opened? publication.axis publication.key = some opened := by
        rw [cache.opened?, Cache.opened?_store]
        exact roster
      refine ⟨fun telling current => ?_, calls, ?_, stored⟩
      · cases (telling?_of_notify publishing).symm.trans current
        rfl
      · rw [awaiting_of_own publishing present, ids]
        refine List.filter_eq_self.mpr fun id member => ?_
        simpa using orderly.cache.given _ _ id member

end Deployment

namespace Exchange

open Deployment

/-- A publication ends, whatever its listeners do to the listeners of any name. It has called each
of those that were registered under its name before it once, in the order of their registration,
apart from those that were removed ahead of their turn. The cache then holds what was published under
its name and what it held before under any other, and the listeners are those that watching and
unsubscribing have left. A listener that was removed is
never called again. -/
theorem publication_withstands_listeners (config : ClientConfig) (earlier during : List Turn)
    (publication : Publication) (external : ∀ step ∈ earlier ++ during, step.External) :
    ∃ started, start true config = .ok started ∧
      let before := started.turns earlier
      let begun := before.turn .proceed
      let old := before.cache.ids publication.axis publication.key
      (before.incident? .proceed = some (.published publication) →
        (begun.incidents during).filterMap Incident.value? = [] →
        ∃ count,
          let run := during ++ List.replicate count .proceed
          let after := begun.turns run
          after.telling? = none ∧
            (∃ made, after.calls = before.calls ++ made ∧
              (made.filter fun call => call.1 < before.cache.nextId) =
                (old.filter fun id =>
                  !isForestalled publication.axis publication.key id begun run).map
                    fun id => (id, publication)) ∧
            old.Pairwise (· < ·) ∧
            ∀ axis key,
              after.cache.current? axis key =
                (if publication.axis = axis ∧ publication.key = key then some publication
                  else before.cache.current? axis key) ∧
              after.cache.ids axis key =
                (begun.incidents run).foldl (Incident.leave axis key)
                  (before.cache.ids axis key)) ∧
        ∀ (first later : List Turn) axis key id,
          (∀ step ∈ first ++ later, step.External) → .removed axis key id ∈ before.incidents first →
            (before.turns (first ++ later)).received id = (before.turns first).received id := by
  obtain ⟨started, isStarted, orderly, _⟩ := orderly_start config
  have inDuring : ∀ step ∈ during, step.External :=
    fun step member => external step (by simp [member])
  refine ⟨started, isStarted, ?_⟩
  intro before begun old
  have orderlyBefore : Orderly before :=
    orderly.turns fun step member => external step (by simp [member])
  have plain : Turn.External .proceed := True.intro
  have orderlyBegun : Orderly begun := orderlyBefore.turn plain
  refine ⟨fun published silent => ?_, ?_⟩
  · have turned := published ▸ turned_turn orderlyBefore.external .proceed
    obtain ⟨tells, calls, awaited, stored⟩ := begun_of_published orderlyBefore turned
    obtain ⟨count, ended, silentToo⟩ := publication_ends (orderlyBegun.turns inDuring)
    refine ⟨count, ?_⟩
    intro run after
    have inRun : ∀ step ∈ run, step.External := by
      intro step member
      rcases List.mem_append.mp member with own | proceeds
      · exact inDuring step own
      · rw [List.eq_of_mem_replicate proceeds]
        exact plain
    have ended : after.telling? = none := by
      show (begun.turns run).telling? = none
      rw [turns_append]
      exact ended
    have nothing : (begun.incidents run).filterMap Incident.value? = [] := by
      rw [incidents_append, List.filterMap_append, silent, silentToo]
      rfl
    have course := course_turns orderlyBegun.external inRun
    have began := Course.single orderlyBegun.external turned
    refine ⟨ended, ?_, orderlyBefore.cache.ascending _ _, fun axis key => ⟨?_, ?_⟩⟩
    · obtain ⟨made, told, further, called, round⟩ :=
        round_turns orderlyBegun tells (nextId_turned turned) inRun nothing
      rw [awaiting_of_quiet ended, List.append_nil, awaited] at round
      exact ⟨made, by rw [further, calls], by rw [called, round]⟩
    · rw [current?_course course, publishedOn_eq, nothing]
      exact stored axis key
    · rw [ids_course course, ids_course began]
      rfl
  · intro first later axis key id own removed
    have inFirst : ∀ step ∈ first, step.External :=
      fun step member => own step (List.mem_append_left _ member)
    have gone := Gone.of_course orderlyBefore (course_turns orderlyBefore.external inFirst) removed
    rw [turns_append]
    exact gone.turns (orderlyBefore.turns inFirst)
      fun step member => own step (List.mem_append_right _ member)

private theorem isForestalled_of_waiting {deployment : Deployment} {axis : Axis} {key : String}
    {id : ListenerId} {first : List Turn} (count : Nat)
    (waiting : (deployment.turns first).agenda = []) :
    isForestalled axis key id deployment (first ++ List.replicate count .proceed) =
      isForestalled axis key id deployment first := by
  have rests {idle : Deployment} (waiting : idle.agenda = []) :
      isForestalled axis key id idle (List.replicate count .proceed) = false := by
    have still : idle.turn .proceed = idle := by simp only [turn, proceed, waiting]
    have nothing : idle.incident? .proceed = none := by simp only [incident?, waiting]
    induction count with
    | zero => rfl
    | succ count ih =>
      rw [List.replicate_succ, isForestalled, nothing, still, ih]
      rfl
  induction first generalizing deployment with
  | nil => exact rests waiting
  | cons step rest ih => rw [List.cons_append, isForestalled, ih waiting, isForestalled]

/-- A listener that removes the next one and itself and registers another one leaves the last of the
old listeners to be called after it, and the value is cached. -/
theorem forestalled_listener_is_passed_over :
    let config : ClientConfig :=
      ⟨⟨none, "control:15010", "", none⟩, ⟨"n", "mesh", "client", "1"⟩, 10000, []⟩
    let cluster : Resource.Cluster := ⟨"a", [⟨"10.0.0.1", 1, true⟩]⟩
    let value : Publication := .cluster "a" cluster
    let script : Script :=
      [("next", .unwatch .cluster "a" "next"), ("own", .unwatch .cluster "a" "own"),
        ("new", .watch .cluster "a" "new" [])]
    let earlier : List Turn :=
      [.watch .cluster "a" ⟨"own", [script]⟩, .proceed, .proceed,
        .watch .cluster "a" ⟨"next", []⟩, .proceed, .proceed,
        .watch .cluster "a" ⟨"last", []⟩, .proceed, .proceed,
        .update .clusterLoadAssignment [cluster]]
    let during : List Turn := .replicate 15 .proceed
    (∀ step ∈ earlier ++ during, step.External) ∧
      ∃ started count, start true config = .ok started ∧
        let before := started.turns earlier
        let run := during ++ List.replicate count .proceed
        let after := (before.turn .proceed).turns run
        before.cache.ids .cluster "a" = [0, 1, 2] ∧ after.telling? = none ∧
          after.cache.current? .cluster "a" = some value ∧
          ∃ made, after.calls = before.calls ++ made ∧
            (made.filter fun call => call.1 < 3) = [(0, value), (2, value)] := by
  intro config cluster value script earlier during
  have external : ∀ step ∈ earlier ++ during, step.External := by
    have own : Script.External script := by
      intro entry member
      obtain rfl | rfl | rfl : entry = ("next", .unwatch .cluster "a" "next") ∨
          entry = ("own", .unwatch .cluster "a" "own") ∨
          entry = ("new", .watch .cluster "a" "new" []) := by simpa [script] using member
      · exact .plain rfl
      · exact .plain rfl
      · exact .watch (by simp)
    simp [earlier, during, Turn.External, Listener.External, own]
  obtain ⟨started, isStarted, ends, _⟩ :=
    publication_withstands_listeners config earlier during value external
  have observed : ((start true config).toOption.map fun started =>
      let before := started.turns earlier
      let begun := before.turn .proceed
      (before.incident? .proceed, (begun.incidents during).filterMap Incident.value?,
        before.cache.ids .cluster "a", before.cache.nextId)) =
      some (some (.published value), [], [0, 1, 2], 3) := by
    decide +kernel
  have forestalled : ((start true config).toOption.map fun started =>
      let begun := (started.turns earlier).turn .proceed
      ((begun.turns during).agenda.isEmpty, isForestalled .cluster "a" 0 begun during,
        isForestalled .cluster "a" 1 begun during, isForestalled .cluster "a" 2 begun during)) =
      some (true, false, true, false) := by
    decide +kernel
  simp only [isStarted, Except.toOption, Option.map_some, Option.some.injEq,
    Prod.mk.injEq] at observed forestalled
  obtain ⟨published, silent, old, given⟩ := observed
  obtain ⟨waiting, first, second, third⟩ := forestalled
  obtain ⟨count, ended, ⟨made, calls, called⟩, _, cached⟩ := ends published silent
  have stored := (cached .cluster "a").1
  rw [if_pos ⟨rfl, rfl⟩] at stored
  refine ⟨external, started, count, isStarted, old, ended, stored, made, calls, ?_⟩
  have rests (id : ListenerId) :
      isForestalled .cluster "a" id ((started.turns earlier).turn .proceed)
          (during ++ List.replicate count .proceed) =
        isForestalled .cluster "a" id ((started.turns earlier).turn .proceed) during :=
    isForestalled_of_waiting count (List.isEmpty_iff.mp waiting)
  simp only [value, Publication.axis, Publication.key, rests, old, given] at called
  rw [called]
  simp [first, second, third, value]

end Exchange

end MeshDiscovery
