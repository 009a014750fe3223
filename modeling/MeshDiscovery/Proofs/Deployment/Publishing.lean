import MeshDiscovery.Proofs.Deployment.Turn
import MeshDiscovery.Proofs.Exchange.Subscriptions

namespace MeshDiscovery

namespace Incident

/-- The values that are going to be published. -/
def handed : Incident → List Publication
  | .updated publications => publications
  | _ => []

/-- The value that is published, if one is. -/
def value? : Incident → Option Publication
  | .published publication => some publication
  | _ => none

end Incident

/-- A value that is being told is the one that is cached, and the listeners that it was told to were
there. -/
structure Telling.Valid (telling : Telling) (cache : Cache Listener) : Prop where
  current : cache.current? telling.publication.axis telling.publication.key =
    some telling.publication
  opened : telling.opened < cache.nextId
  start : telling.start ≤ cache.nextId

namespace Deployment

/-- What remains to be published of a batch. -/
def unpublished (deployment : Deployment) : List Publication :=
  deployment.publishing.flatMap fun frame =>
    match frame with
    | .publish publications => publications
    | _ => []

/-- At most one batch is being published, and of it at most one value is being told. -/
inductive Layers (cache : Cache Listener) : List Frame → Prop where
  | idle : Layers cache []
  | batch (more : List Publication) : Layers cache [.publish more]
  | telling {publication : Publication} {opened start : ListenerId} (more : List Publication)
      (valid : Telling.Valid ⟨publication, opened, start⟩ cache) :
      Layers cache [.notify publication opened start, .publish more]

/-- What holds of a cache and its publication in progress. -/
structure Orderly (deployment : Deployment) : Prop where
  external : deployment.External
  cache : deployment.cache.Orderly
  called : ∀ call ∈ deployment.calls, call.1 < deployment.cache.nextId
  layers : Layers deployment.cache deployment.publishing

variable {deployment before after : Deployment} {incident : Option Incident}

theorem telling?_congr (same : after.publishing = before.publishing) :
    after.telling? = before.telling? := by
  rw [telling?, same, telling?]

theorem telling?_of_notify {publication : Publication} {opened start : ListenerId}
    {outer : List Frame}
    (next : deployment.publishing = .notify publication opened start :: outer) :
    deployment.telling? = some ⟨publication, opened, start⟩ := by
  rw [telling?, next]

theorem telling?_of_publish {publications : List Publication} {outer : List Frame}
    (next : deployment.publishing = .publish publications :: outer) :
    deployment.telling? = none := by
  rw [telling?, next]

theorem telling?_of_idle (idle : deployment.publishing = []) : deployment.telling? = none := by
  rw [telling?, idle]

namespace Layers

variable {cache : Cache Listener} {publication : Publication} {opened start : ListenerId}
  {outer : List Frame}

theorem kept {other : Cache Listener} {frames : List Frame} (layers : Layers cache frames)
    (current : ∀ axis key, other.current? axis key = cache.current? axis key)
    (grown : cache.nextId ≤ other.nextId) : Layers other frames := by
  cases layers with
  | idle => exact .idle
  | batch more => exact .batch more
  | telling more valid =>
    exact .telling more ⟨(current _ _).trans valid.current, Nat.lt_of_lt_of_le valid.opened grown,
      Nat.le_trans valid.start grown⟩

theorem outermost {publications : List Publication}
    (layers : Layers cache (.publish publications :: outer)) : outer = [] := by
  cases layers
  rfl

theorem beneath (layers : Layers cache (.notify publication opened start :: outer)) :
    Telling.Valid ⟨publication, opened, start⟩ cache ∧ ∃ more, outer = [.publish more] := by
  cases layers with
  | telling more valid => exact ⟨valid, more, rfl⟩

end Layers

namespace Orderly

theorem telling (orderly : Orderly deployment) {telling : Telling}
    (current : deployment.telling? = some telling) : telling.Valid deployment.cache := by
  unfold telling? at current
  split at current
  · rename_i next
    cases current
    exact (next ▸ orderly.layers).beneath.1
  · cases current

private theorem of_alike {cache : Cache Listener} (external : after.External)
    (alike : after.cache.Alike cache) (ordered : cache.Orderly)
    (called : ∀ call ∈ after.calls, call.1 < cache.nextId)
    (layers : Layers cache after.publishing) : Orderly after where
  external := external
  cache := ordered.alike alike
  called := by
    rw [alike.nextId]
    exact called
  layers := layers.kept alike.current? (Nat.le_of_eq alike.nextId.symm)

private theorem of_effects {cache : Cache Listener} {made : List (ListenerId × Publication)}
    (orderly : Orderly before) (external : after.External)
    (effects : Effects before after cache made) (ordered : cache.Orderly)
    (current : ∀ axis key, cache.current? axis key = before.cache.current? axis key)
    (grown : before.cache.nextId ≤ cache.nextId)
    (called : ∀ call ∈ made, call.1 < cache.nextId) : Orderly after := by
  refine of_alike external effects.cache ordered ?_ ?_
  · rw [effects.calls]
    intro call member
    rcases List.mem_append.mp member with earlier | now
    · exact Nat.lt_of_lt_of_le (orderly.called call earlier) grown
    · exact called call now
  · rw [effects.publishing]
    exact orderly.layers.kept current grown

/-- No turn disturbs the order. -/
theorem turned (orderly : Orderly before) (external : after.External)
    (turned : Turned before after incident) : Orderly after := by
  cases turned with
  | quiet effects =>
    exact orderly.of_effects external effects orderly.cache (fun _ _ => rfl) (Nat.le_refl _)
      (by simp)
  | @watched axis key listener effects =>
    refine orderly.of_effects external effects (orderly.cache.add axis key listener)
      (fun _ _ => Cache.current?_add ..) (Nat.le_succ _) ?_
    intro call member
    obtain ⟨value, _, rfl⟩ := List.mem_map.mp member
    exact Nat.lt_succ_self _
  | @removed axis key id _ effects =>
    exact orderly.of_effects external effects (orderly.cache.remove axis key id)
      (fun _ _ => Cache.current?_remove ..) (Nat.le_of_eq (Cache.nextId_remove ..).symm) (by simp)
  | updated _ cache calls publishing =>
    refine of_alike external cache orderly.cache (calls ▸ orderly.called) ?_
    rw [publishing]
    exact .batch _
  | @published publication more outer next cache calls publishing =>
    have alone : outer = [] := (next ▸ orderly.layers).outermost
    refine of_alike external cache (orderly.cache.store publication) ?_ ?_
    · rw [calls, Cache.nextId_store]
      exact orderly.called
    · rw [publishing, alone]
      cases roster : before.cache.opened? publication.axis publication.key with
      | none => exact .batch more
      | some opened =>
        refine .telling more ⟨?_, ?_, Nat.zero_le _⟩
        · rw [Cache.current?_store]
          exact if_pos ⟨rfl, rfl⟩
        · rw [Cache.nextId_store]
          exact orderly.cache.opened _ _ opened roster
  | finished next cache calls publishing =>
    have alone := (next ▸ orderly.layers).outermost
    refine of_alike external cache orderly.cache (calls ▸ orderly.called) ?_
    rw [publishing, alone]
    exact .idle
  | @called publication opened start id outer next upcoming cache calls publishing =>
    have given := orderly.cache.given _ _ id (Cache.mem_ids_of_upcoming? upcoming)
    obtain ⟨valid, more, rest⟩ := (next ▸ orderly.layers).beneath
    refine of_alike external cache orderly.cache ?_ ?_
    · rw [calls]
      intro call member
      rcases List.mem_append.mp member with earlier | now
      · exact orderly.called call earlier
      · rw [List.mem_singleton.mp now]
        exact given
    · rw [publishing, rest]
      exact .telling more ⟨valid.current, valid.opened, given⟩
  | told next _ cache calls publishing =>
    obtain ⟨_, more, rest⟩ := (next ▸ orderly.layers).beneath
    refine of_alike external cache orderly.cache (calls ▸ orderly.called) ?_
    rw [publishing, rest]
    exact .batch more

theorem turn (orderly : Orderly deployment) {step : Turn} (own : step.External) :
    Orderly (deployment.turn step) :=
  orderly.turned (orderly.external.turn own) (turned_turn orderly.external step)

theorem course (orderly : Orderly before) {incidents : List Incident}
    (course : Course before incidents after) : Orderly after := by
  induction course with
  | refl _ => exact orderly
  | step external turned _ ih => exact ih (orderly.turned external turned)

theorem turns (orderly : Orderly deployment) {steps : List Turn}
    (external : ∀ step ∈ steps, step.External) : Orderly (deployment.turns steps) :=
  orderly.course (course_turns orderly.external external)

/-- Whoever is called in a turn is called with the value that was cached before. -/
theorem made (orderly : Orderly before) (turned : Turned before after incident) :
    ∃ made, after.calls = before.calls ++ made ∧
      ∀ call ∈ made, before.cache.current? call.2.axis call.2.key = some call.2 := by
  cases turned with
  | quiet effects | removed _ effects => exact ⟨[], effects.calls, by simp⟩
  | watched listener effects =>
    refine ⟨_, effects.calls, ?_⟩
    intro call member
    obtain ⟨value, cached, rfl⟩ := List.mem_map.mp member
    have current := Option.mem_toList.mp cached
    obtain ⟨rfl, rfl⟩ := Cache.place_of_current? current
    exact current
  | @called publication opened start id outer next _ _ calls =>
    refine ⟨[(id, publication)], calls, ?_⟩
    intro call member
    rw [List.mem_singleton.mp member]
    exact (orderly.telling (telling?_of_notify next)).current
  | updated _ _ calls | published _ _ calls | finished _ _ calls | told _ _ _ calls =>
    exact ⟨[], by rw [calls, List.append_nil], by simp⟩

private theorem unpublished_congr (same : after.publishing = before.publishing) :
    after.unpublished = before.unpublished := by
  rw [unpublished, same, unpublished]

private theorem flow_turned (turned : Turned before after incident) :
    before.unpublished ++ incident.toList.flatMap Incident.handed =
      incident.toList.filterMap Incident.value? ++ after.unpublished := by
  cases turned with
  | quiet effects | watched _ effects | removed _ effects =>
    rw [unpublished_congr effects.publishing]
    simp [Incident.handed, Incident.value?]
  | updated idle _ _ publishing =>
    simp [unpublished, idle, publishing, Incident.handed, Incident.value?]
  | @published publication _ _ next _ _ publishing =>
    cases roster : before.cache.opened? publication.axis publication.key with
    | none => simp [unpublished, next, publishing, roster, Incident.handed, Incident.value?]
    | some opened => simp [unpublished, next, publishing, roster, Incident.handed, Incident.value?]
  | finished next _ _ publishing | called next _ _ _ publishing | told next _ _ _ publishing =>
    simp [unpublished, next, publishing]

theorem flow_course {incidents : List Incident} (course : Course before incidents after) :
    before.unpublished ++ incidents.flatMap Incident.handed =
      incidents.filterMap Incident.value? ++ after.unpublished := by
  induction course with
  | refl _ => simp
  | step _ turned _ ih =>
    rw [List.flatMap_append, List.filterMap_append, ← List.append_assoc, flow_turned turned,
      List.append_assoc, ih, List.append_assoc]

theorem flow (orderly : Orderly deployment) {steps : List Turn}
    (external : ∀ step ∈ steps, step.External) :
    deployment.unpublished ++ (deployment.incidents steps).flatMap Incident.handed =
      (deployment.incidents steps).filterMap Incident.value? ++
        (deployment.turns steps).unpublished :=
  flow_course (course_turns orderly.external external)

end Orderly

end Deployment

namespace Exchange

open Deployment

/-- Starting an exchange touches its session and its subscriptions only. -/
theorem start_eq (config : ClientConfig) :
    ∃ session handlers, start true config =
      .ok { register config (Session.fresh config.node) with session, handlers } := by
  obtain ⟨_, _, listeners⟩ :=
    (register config (Session.fresh config.node)).subscribe_eq .listener []
  obtain ⟨_, _, clusters⟩ :=
    ((register config (Session.fresh config.node)).subscribe .listener []).subscribe_eq .cluster []
  have started : start true config =
      .ok ((((register config (Session.fresh config.node)).subscribe .listener []).subscribe
        .cluster []).changeSession
          (·.report (.exchangeStarted config.node.id config.uri.render))) := rfl
  rw [started, clusters, listeners]
  exact ⟨_, _, rfl⟩

theorem cache_start {config : ClientConfig} {started : Deployment}
    (isStarted : start true config = .ok started) : started.cache = {} := by
  obtain ⟨_, _, same⟩ := start_eq config
  cases same.symm.trans isStarted
  rfl

theorem orderly_start (config : ClientConfig) :
    ∃ started, start true config = .ok started ∧ Orderly started ∧ started.unpublished = [] := by
  obtain ⟨started, isStarted, agreeing⟩ := agreeing_start config
  obtain ⟨session, handlers, same⟩ := start_eq config
  cases same.symm.trans isStarted
  refine ⟨_, isStarted, ⟨agreeing.external, .empty, ?_, .idle⟩, rfl⟩
  intro call member
  cases member

end Exchange

end MeshDiscovery
