import MeshDiscovery.Proofs.Deployment.Watching

namespace MeshDiscovery

namespace Deployment

variable {before after : Deployment}

/-- A listener joins the roster that is being told a value if it is for the same name and the roster
was not closed since. -/
def joins (deployment : Deployment) (telling : Telling) (axis : Axis) (key : String) : Prop :=
  telling.publication.axis = axis ∧ telling.publication.key = key ∧
    deployment.cache.opened? axis key = some telling.opened

instance (deployment : Deployment) (telling : Telling) (axis : Axis) (key : String) :
    Decidable (deployment.joins telling axis key) :=
  inferInstanceAs (Decidable (_ ∧ _ ∧ _))

private theorem owed_of_watched {axis : Axis} {key : String} {id : ListenerId} {telling : Telling}
    (orderly : Orderly before) (current : before.telling? = some telling)
    (turned : Turned before after (some (.watched axis key id))) :
    after.owed axis key id =
      if before.joins telling axis key then [telling.publication] else [] := by
  obtain ⟨_, opened, start⟩ := orderly.telling current
  cases turned with
  | watched listener effects =>
    rw [owed, telling?_congr effects.publishing, current, effects.cache.opened?, Cache.opened?_add,
      if_pos ⟨rfl, rfl⟩]
    cases roster : before.cache.opened? axis key with
    | none =>
      -- A roster that is opened now is not the one that is being told.
      simp [joins, roster, Nat.ne_of_gt opened]
    | some other =>
      simp [joins, roster, start]

end Deployment

namespace Exchange

open Deployment

/-- A listener that is registered by another one, while that is told a value, is called with the
value of its name, if there is one, before it returns. The publication in progress calls it with the
same value again if it has joined the roster that is being told, and not at all otherwise; from
there on it is called with what is published under its name. -/
theorem nested_listener_is_called_again_if_it_joins (config : ClientConfig)
    (earlier during : List Turn) (telling : Telling) (axis : Axis) (key : String) (id : ListenerId)
    (external : ∀ step ∈ earlier ++ during, step.External) :
    ∃ started, start true config = .ok started ∧
      let before := started.turns earlier
      let watched := before.turn .proceed
      let after := watched.turns during
      before.telling? = some telling →
        before.incident? .proceed = some (.watched axis key id) →
        watched.received id = (before.cache.current? axis key).toList ∧
          (before.joins telling axis key →
            before.cache.current? axis key = some telling.publication) ∧
          (.removed axis key id ∉ watched.incidents during → after.isTelling axis = false →
            after.received id = (before.cache.current? axis key).toList ++
              (if before.joins telling axis key then [telling.publication] else []) ++
              publishedOn axis key (watched.incidents during)) := by
  obtain ⟨started, isStarted, orderly, _⟩ := orderly_start config
  have inDuring : ∀ step ∈ during, step.External :=
    fun step member => external step (by simp [member])
  refine ⟨started, isStarted, ?_⟩
  intro before watched after current incident
  have orderlyBefore : Orderly before :=
    orderly.turns fun step member => external step (by simp [member])
  have plain : Turn.External .proceed := True.intro
  have orderlyWatched : Orderly watched := orderlyBefore.turn plain
  have turned := incident ▸ turned_turn orderlyBefore.external .proceed
  obtain ⟨received, follows⟩ := follows_watched orderlyBefore orderlyWatched turned
  refine ⟨received, ?_, ?_⟩
  · rintro ⟨rfl, rfl, _⟩
    exact (orderlyBefore.telling current).current
  intro kept quiet
  have followed := (follows.turns orderlyWatched inDuring kept).received
  rwa [owed_of_waiting quiet, List.append_nil,
    owed_of_watched orderlyBefore current turned] at followed

/-- A listener that registers another one for the name it is called for has that one called twice
with a value that is published once. -/
theorem nested_listener_is_called_twice :
    let config : ClientConfig :=
      ⟨⟨none, "control:15010", "", none⟩, ⟨"n", "mesh", "client", "1"⟩, 10000, []⟩
    let cluster : Resource.Cluster := ⟨"a", [⟨"10.0.0.1", 1, true⟩]⟩
    let value : Publication := .cluster "a" cluster
    let outer : Listener := ⟨"outer", [[("nested", .watch .cluster "a" "inner" [])]]⟩
    let steps : List Turn :=
      [.watch .cluster "a" outer, .proceed, .proceed, .update .clusterLoadAssignment [cluster]] ++
        .replicate 10 .proceed
    ((start true config).toOption.map fun started =>
        (started.incidents steps, (started.turns steps).received 1)) =
      some ([.watched .cluster "a" 0, .updated [value], .published value, .watched .cluster "a" 1],
        [value, value]) := by
  decide +kernel

/-- A listener that is registered for another name is called once. -/
theorem nested_listener_for_other_name_is_called_once :
    let config : ClientConfig :=
      ⟨⟨none, "control:15010", "", none⟩, ⟨"n", "mesh", "client", "1"⟩, 10000, []⟩
    let cluster (name : String) : Resource.Cluster := ⟨name, [⟨"10.0.0.1", 1, true⟩]⟩
    let outer : Listener := ⟨"outer", [[("nested", .watch .cluster "b" "inner" [])]]⟩
    let earlier : List Turn :=
      [.watch .cluster "a" outer, .proceed, .proceed,
        .update .clusterLoadAssignment [cluster "b", cluster "a"], .proceed, .proceed, .proceed]
    let during : List Turn := .replicate 7 .proceed
    (∀ step ∈ earlier ++ during, step.External) ∧
      ∃ started, start true config = .ok started ∧
        (((started.turns earlier).turn .proceed).turns during).received 1 =
          [.cluster "b" (cluster "b")] := by
  intro config cluster outer earlier during
  have external : ∀ step ∈ earlier ++ during, step.External := by
    have watches : (Operation.watch .cluster "b" "inner" []).External := .watch (by simp)
    simp [earlier, during, outer, Turn.External, Listener.External, Script.External, watches]
  obtain ⟨started, isStarted, called⟩ := nested_listener_is_called_again_if_it_joins config earlier
    during ⟨.cluster "a" (cluster "a"), 0, 1⟩ .cluster "b" 1 external
  have observed : ((start true config).toOption.map fun started =>
      let before := started.turns earlier
      let watched := before.turn .proceed
      (before.telling?, before.incident? .proceed, before.cache.current? .cluster "b",
        watched.incidents during, (watched.turns during).isTelling .cluster)) =
      some (some ⟨.cluster "a" (cluster "a"), 0, 1⟩, some (.watched .cluster "b" 1),
        some (.cluster "b" (cluster "b")), [], false) := by
    decide +kernel
  simp only [isStarted, Except.toOption, Option.map_some, Option.some.injEq,
    Prod.mk.injEq] at observed
  obtain ⟨telling, incident, cached, happened, quiet⟩ := observed
  obtain ⟨_, _, received⟩ := called telling incident
  rw [happened, cached] at received
  refine ⟨external, started, isStarted, ?_⟩
  rw [received (by simp) quiet]
  simp [joins, Publication.key, publishedOn]

end Exchange

end MeshDiscovery
