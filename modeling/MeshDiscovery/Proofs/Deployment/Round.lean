import MeshDiscovery.Proofs.Deployment.Watching

/-!
The round that a publication makes through the listeners of its name, whatever those do to the
listeners meanwhile. It comes to each listener that was there before it and was not removed ahead of
its turn, once and in the order of their registration.
-/

namespace MeshDiscovery

/-- The listeners of a name after something happened, given those before. -/
def Incident.leave (axis : Axis) (key : String) (ids : List ListenerId) :
    Incident → List ListenerId
  | .watched other name id => if axis = other ∧ key = name then ids ++ [id] else ids
  | .removed other name id => if axis = other ∧ key = name then ids.filter (· ≠ id) else ids
  | .updated _ | .published _ => ids

theorem Incident.filterMap_value?_eq_nil_iff {incident : Option Incident} :
    incident.toList.filterMap Incident.value? = [] ↔ incident.bind Incident.value? = none := by
  cases incident with
  | none => simp
  | some happened => cases value : happened.value? <;> simp [value]

namespace Deployment

variable {deployment before after : Deployment} {incident : Option Incident} {axis : Axis}
  {key : String} {bound : ListenerId}

private theorem ids_turned (turned : Turned before after incident) (axis : Axis) (key : String) :
    after.cache.ids axis key =
      incident.toList.foldl (Incident.leave axis key) (before.cache.ids axis key) := by
  cases turned with
  | quiet effects => exact effects.cache.ids axis key
  | watched listener effects =>
    rw [effects.cache.ids, Cache.ids_add]
    show _ = if _ then _ else _
    split
    · rename_i own
      rw [own.1, own.2]
    · rfl
  | removed member effects =>
    rw [effects.cache.ids, Cache.ids_remove]
    show _ = if _ then _ else _
    split
    · rename_i own
      rw [own.1, own.2]
    · rfl
  | published _ cache => rw [cache.ids, Cache.ids_store]; rfl
  | updated _ cache | finished _ cache | called _ _ cache | told _ _ cache =>
    exact cache.ids axis key

theorem ids_course {incidents : List Incident} (course : Course before incidents after)
    (axis : Axis) (key : String) :
    after.cache.ids axis key =
      incidents.foldl (Incident.leave axis key) (before.cache.ids axis key) := by
  induction course with
  | refl _ => rfl
  | step _ turned _ ih => rw [ih, ids_turned turned, List.foldl_append]

private theorem current?_turned (turned : Turned before after incident) (axis : Axis)
    (key : String) :
    after.cache.current? axis key =
      (publishedOn axis key incident.toList).getLast?.or (before.cache.current? axis key) := by
  cases turned with
  | quiet effects => exact effects.cache.current? axis key
  | watched _ effects => exact (effects.cache.current? axis key).trans (Cache.current?_add ..)
  | removed _ effects => exact (effects.cache.current? axis key).trans (Cache.current?_remove ..)
  | published _ cache =>
    rw [cache.current?, Cache.current?_store]
    show _ = (publishedOn axis key [_]).getLast?.or _
    rw [publishedOn_published]
    split <;> rfl
  | updated _ cache | finished _ cache | called _ _ cache | told _ _ cache =>
    exact cache.current? axis key

theorem current?_course {incidents : List Incident} (course : Course before incidents after)
    (axis : Axis) (key : String) :
    after.cache.current? axis key =
      (publishedOn axis key incidents).getLast?.or (before.cache.current? axis key) := by
  induction course with
  | refl _ => rfl
  | step _ turned _ ih =>
    rw [ih, current?_turned turned, publishedOn_append, List.getLast?_append, Option.or_assoc]

/-- Numbers are given out, never taken back. -/
theorem nextId_turned (turned : Turned before after incident) :
    before.cache.nextId ≤ after.cache.nextId := by
  cases turned with
  | quiet effects => exact Nat.le_of_eq effects.cache.nextId.symm
  | watched _ effects =>
    rw [effects.cache.nextId, Cache.nextId_add]
    exact Nat.le_succ _
  | removed _ effects =>
    exact Nat.le_of_eq (effects.cache.nextId.trans (Cache.nextId_remove ..)).symm
  | published _ cache => exact Nat.le_of_eq (cache.nextId.trans (Cache.nextId_store ..)).symm
  | updated _ cache | finished _ cache | called _ _ cache | told _ _ cache =>
    exact Nat.le_of_eq cache.nextId.symm

/-- The listeners of a name that the publication in progress is still to come to, of those that were
registered before a given one. -/
def awaiting (deployment : Deployment) (axis : Axis) (key : String) (bound : ListenerId) :
    List ListenerId :=
  (deployment.cache.ids axis key).filter fun id =>
    !(deployment.owed axis key id).isEmpty && decide (id < bound)

/-- The publication in progress has come to a listener, or there is none. -/
def Passed (deployment : Deployment) (id : ListenerId) : Prop :=
  ∀ telling, deployment.telling? = some telling → id < telling.start

/-- Whatever is told is a given value. -/
def Tells (deployment : Deployment) (publication : Publication) : Prop :=
  ∀ telling, deployment.telling? = some telling → telling.publication = publication

/-- What a turn does as it calls some listeners of a name with a value. -/
structure Advanced (before after : Deployment) (incident : Option Incident)
    (publication : Publication) (bound : ListenerId) (told : List ListenerId) : Prop where
  calls : ∃ made, after.calls = before.calls ++ made ∧
    made.filter (fun call => call.1 < bound) = told.map fun id => (id, publication)
  awaiting : told ++ after.awaiting publication.axis publication.key bound =
    (before.awaiting publication.axis publication.key bound).filter fun id =>
      incident ≠ some (.removed publication.axis publication.key id)
  passed : ∀ id ∈ told, after.Passed id

theorem awaiting_of_quiet (quiet : deployment.telling? = none) :
    deployment.awaiting axis key bound = [] := by
  apply List.filter_eq_nil_iff.mpr
  intro id _
  simp [owed_of_quiet quiet]

theorem Passed.owed {id : ListenerId} (passed : deployment.Passed id) :
    deployment.owed axis key id = [] := by
  cases current : deployment.telling? with
  | none => exact owed_of_quiet current
  | some telling =>
    rw [Deployment.owed, current]
    exact if_neg fun all => Nat.not_le_of_lt (passed telling current) all.2.2.2

/-- As long as nothing else is published, a publication is where it was, ahead of that or over. -/
theorem telling?_turned (orderly : Orderly before) (turned : Turned before after incident)
    (silent : incident.bind Incident.value? = none) :
    after.telling? = before.telling? ∨ after.telling? = none ∨
      ∃ telling id, before.telling? = some telling ∧ telling.start ≤ id ∧
        after.telling? = some { telling with start := id + 1 } := by
  cases turned with
  | quiet effects | watched _ effects | removed _ effects =>
    exact .inl (telling?_congr effects.publishing)
  | updated _ _ _ publishing => exact .inr (.inl (telling?_of_publish publishing))
  | published => cases silent
  | finished next _ _ publishing =>
    have alone := (next ▸ orderly.layers).outermost
    exact .inr (.inl (telling?_of_idle (publishing.trans alone)))
  | called next upcoming _ _ publishing =>
    obtain ⟨_, reached, _⟩ := orderly.cache.upcoming upcoming
    exact .inr (.inr ⟨_, _, telling?_of_notify next, reached, telling?_of_notify publishing⟩)
  | told next _ _ _ publishing =>
    obtain ⟨_, more, rest⟩ := (next ▸ orderly.layers).beneath
    exact .inr (.inl (telling?_of_publish (publishing.trans rest)))

/-- A publication does not come back to a listener. -/
theorem Passed.turned {id : ListenerId} (orderly : Orderly before) (passed : before.Passed id)
    (turned : Turned before after incident) (silent : incident.bind Incident.value? = none) :
    after.Passed id := by
  intro telling current
  rcases telling?_turned orderly turned silent with
    same | none | ⟨earlier, called, was, reached, ahead⟩
  · exact passed telling (same ▸ current)
  · rw [none] at current
    cases current
  · rw [ahead] at current
    cases current
    exact Nat.lt_succ_of_lt (Nat.lt_of_lt_of_le (passed earlier was) reached)

theorem Tells.turned {publication : Publication} (orderly : Orderly before)
    (tells : before.Tells publication) (turned : Turned before after incident)
    (silent : incident.bind Incident.value? = none) : after.Tells publication := by
  intro telling current
  rcases telling?_turned orderly turned silent with
    same | none | ⟨earlier, _, was, _, ahead⟩
  · exact tells telling (same ▸ current)
  · rw [none] at current
    cases current
  · rw [ahead] at current
    cases current
    exact tells earlier was

private theorem Advanced.of_effects {cache : Cache Listener}
    {made : List (ListenerId × Publication)} {publication : Publication}
    (effects : Effects before after cache made) (others : ∀ call ∈ made, bound ≤ call.1)
    (awaiting : after.awaiting publication.axis publication.key bound =
      (before.awaiting publication.axis publication.key bound).filter fun id =>
        incident ≠ some (.removed publication.axis publication.key id)) :
    Advanced before after incident publication bound [] where
  calls := by
    refine ⟨made, effects.calls, List.filter_eq_nil_iff.mpr fun call member => ?_⟩
    simpa using others call member
  awaiting := awaiting
  passed _ member := absurd member List.not_mem_nil

private theorem Advanced.of_quiet {publication : Publication} (quiet : before.telling? = none)
    (calls : after.calls = before.calls) (still : after.telling? = none) :
    Advanced before after incident publication bound [] where
  calls := ⟨[], by rw [calls, List.append_nil], rfl⟩
  awaiting := by simp [awaiting_of_quiet quiet, awaiting_of_quiet still]
  passed _ member := absurd member List.not_mem_nil

private theorem awaiting_eq (publishing : after.publishing = before.publishing)
    (opened : ∀ id ∈ after.cache.ids axis key, id < bound →
      after.cache.opened? axis key = before.cache.opened? axis key) :
    after.awaiting axis key bound = (after.cache.ids axis key).filter fun id =>
      !(before.owed axis key id).isEmpty && decide (id < bound) := by
  apply List.filter_congr
  intro id member
  by_cases inside : id < bound
  · rw [owed_congr publishing (opened id member inside)]
  · simp [inside]

private theorem awaiting_of_same (publishing : after.publishing = before.publishing)
    (cache : after.cache.Alike before.cache) :
    after.awaiting axis key bound = before.awaiting axis key bound := by
  rw [awaiting_eq publishing fun _ _ _ => cache.opened? axis key, cache.ids, awaiting]

private theorem advanced_watched {other : Axis} {name : String} {listener : Listener}
    {publication : Publication} (given : bound ≤ before.cache.nextId)
    (effects : Effects before after (before.cache.add other name listener)
      ((before.cache.current? other name).toList.map fun value => (before.cache.nextId, value))) :
    Advanced before after (some (.watched other name before.cache.nextId)) publication bound
      [] := by
  refine .of_effects effects ?_ ?_
  · intro call member
    obtain ⟨value, _, rfl⟩ := List.mem_map.mp member
    exact given
  · generalize publication.axis = axis
    generalize publication.key = key
    have kept : ((before.awaiting axis key bound).filter fun id =>
        some (Incident.watched other name before.cache.nextId) ≠ some (.removed axis key id)) =
        before.awaiting axis key bound :=
      List.filter_eq_self.mpr fun id _ => by simp
    rw [kept, awaiting_eq effects.publishing, effects.cache.ids, Cache.ids_add, awaiting]
    · split
      · rename_i own
        have late : ¬ before.cache.nextId < bound := Nat.not_lt_of_le given
        rw [List.filter_append, own.1, own.2]
        simp [late]
      · rfl
    · intro id member inside
      rw [effects.cache.ids, Cache.ids_add] at member
      rw [effects.cache.opened?, Cache.opened?_add]
      split
      · rename_i own
        rw [if_pos own] at member
        rcases List.mem_append.mp member with old | new
        · obtain ⟨roster, present⟩ := before.cache.opened?_of_mem_ids old
          rw [own.1, own.2, present]
          rfl
        · rw [List.mem_singleton.mp new] at inside
          exact absurd inside (Nat.not_lt_of_le given)
      · rfl

private theorem advanced_removed {other : Axis} {name : String} {gone : ListenerId}
    {publication : Publication}
    (effects : Effects before after (before.cache.remove other name gone).2 []) :
    Advanced before after (some (.removed other name gone)) publication bound [] := by
  refine .of_effects effects (by simp) ?_
  generalize publication.axis = axis
  generalize publication.key = key
  rw [awaiting_eq effects.publishing, effects.cache.ids, Cache.ids_remove, awaiting,
    List.filter_filter]
  · split
    · rename_i own
      rw [List.filter_filter, own.1, own.2]
      apply List.filter_congr
      intro id _
      simp [Bool.and_comm, eq_comm]
    · rename_i other
      apply List.filter_congr
      intro id _
      simp
      grind
  · intro id member _
    rw [effects.cache.ids] at member
    rw [effects.cache.opened?]
    rcases before.cache.opened?_remove other axis name key gone with same | ⟨_, nobody⟩
    · exact same
    · rw [nobody] at member
      cases member

private theorem awaited_of_find? {ids : List ListenerId} {start next : ListenerId}
    (ascending : ids.Pairwise (· < ·)) (found : ids.find? (start ≤ ·) = some next) :
    (ids.filter fun id => start ≤ id && decide (id < bound)) =
      (if next < bound then [next] else []) ++
        ids.filter fun id => next + 1 ≤ id && decide (id < bound) := by
  have first := congrArg (List.filter fun id => decide (id < bound))
    (Cache.Orderly.filter_of_find? ascending found)
  rw [List.filter_filter, List.filter_cons, List.filter_filter] at first
  simp only [Bool.and_comm] at first ⊢
  rw [first]
  split <;> simp_all

theorem awaiting_of_own {publication : Publication} {opened start : ListenerId}
    {outer : List Frame}
    (next : deployment.publishing = .notify publication opened start :: outer)
    (present : deployment.cache.opened? publication.axis publication.key = some opened) :
    deployment.awaiting publication.axis publication.key bound =
      (deployment.cache.ids publication.axis publication.key).filter fun id =>
        start ≤ id && decide (id < bound) := by
  apply List.filter_congr
  intro id _
  rw [owed_of_own next present]
  by_cases waiting : start ≤ id
  · simp [waiting]
  · simp [waiting]

private theorem advanced_called {publication : Publication} {opened start called : ListenerId}
    {outer : List Frame} (orderly : Orderly before)
    (next : before.publishing = .notify publication opened start :: outer)
    (upcoming : before.cache.upcoming? publication.axis publication.key opened start = some called)
    (cache : after.cache.Alike before.cache)
    (calls : after.calls = before.calls ++ [(called, publication)])
    (publishing : after.publishing = .notify publication opened (called + 1) :: outer) :
    Advanced before after none publication bound (if called < bound then [called] else []) := by
  obtain ⟨present, _, _⟩ := orderly.cache.upcoming upcoming
  rw [Cache.upcoming?, if_pos present] at upcoming
  refine ⟨⟨_, calls, ?_⟩, ?_, ?_⟩
  · by_cases inside : called < bound
    · simp [inside]
    · simp [inside]
  · rw [awaiting_of_own next present,
      awaiting_of_own publishing ((cache.opened? _ _).trans present), cache.ids,
      awaited_of_find? (orderly.cache.ascending _ _) upcoming]
    exact (List.filter_eq_self.mpr fun id _ => by simp).symm
  · intro id member telling current
    rw [telling?_of_notify publishing] at current
    cases current
    split at member
    · rw [List.mem_singleton.mp member]
      exact Nat.lt_succ_self called
    · cases member

private theorem advanced_told {publication : Publication} {opened start : ListenerId}
    {outer : List Frame} (orderly : Orderly before)
    (next : before.publishing = .notify publication opened start :: outer)
    (upcoming : before.cache.upcoming? publication.axis publication.key opened start = none)
    (calls : after.calls = before.calls) (publishing : after.publishing = outer) :
    Advanced before after none publication bound [] := by
  obtain ⟨_, more, rest⟩ := (next ▸ orderly.layers).beneath
  have nobody : before.awaiting publication.axis publication.key bound = [] := by
    refine List.filter_eq_nil_iff.mpr fun id member => ?_
    have nothing : before.owed publication.axis publication.key id = [] := by
      rw [owed, telling?_of_notify next]
      apply if_neg
      rintro ⟨_, _, present, waiting⟩
      exact Nat.not_le_of_lt (Cache.lt_of_upcoming?_eq_none upcoming present id member) waiting
    simp [nothing]
  refine ⟨⟨[], by rw [calls, List.append_nil], rfl⟩, ?_,
    fun _ member => absurd member List.not_mem_nil⟩
  rw [nobody, awaiting_of_quiet (telling?_of_publish (publishing.trans rest))]
  rfl

/-- A turn calls at most one of those who are awaited, the first, and they are fewer only by that
one and by those who are removed. -/
theorem advanced_turned {publication : Publication} (orderly : Orderly before)
    (tells : before.Tells publication) (given : bound ≤ before.cache.nextId)
    (turned : Turned before after incident) (silent : incident.bind Incident.value? = none) :
    ∃ told, Advanced before after incident publication bound told := by
  cases turned with
  | quiet effects =>
    refine ⟨[], .of_effects effects (by simp) ?_⟩
    rw [awaiting_of_same effects.publishing effects.cache]
    exact (List.filter_eq_self.mpr fun id _ => by simp).symm
  | watched listener effects => exact ⟨[], advanced_watched given effects⟩
  | removed _ effects => exact ⟨[], advanced_removed effects⟩
  | updated idle _ calls publishing =>
    exact ⟨[], .of_quiet (telling?_of_idle idle) calls (telling?_of_publish publishing)⟩
  | published => cases silent
  | finished next _ calls publishing =>
    have alone := (next ▸ orderly.layers).outermost
    exact ⟨[], .of_quiet (telling?_of_publish next) calls
      (telling?_of_idle (publishing.trans alone))⟩
  | called next upcoming cache calls publishing =>
    obtain rfl := tells _ (telling?_of_notify next)
    exact ⟨_, advanced_called orderly next upcoming cache calls publishing⟩
  | told next upcoming _ calls publishing =>
    obtain rfl := tells _ (telling?_of_notify next)
    exact ⟨[], advanced_told orderly next upcoming calls publishing⟩

/-- A listener is removed while the publication in progress is still to come to it. -/
def isForestalled (axis : Axis) (key : String) (id : ListenerId) :
    Deployment → List Turn → Bool
  | _, [] => false
  | deployment, step :: rest =>
    (decide (deployment.incident? step = some (.removed axis key id)) &&
        !(deployment.owed axis key id).isEmpty) ||
      isForestalled axis key id (deployment.turn step) rest

private theorem silent_cons {step : Turn} {rest : List Turn}
    (silent : (deployment.incidents (step :: rest)).filterMap Incident.value? = []) :
    (deployment.incident? step).bind Incident.value? = none ∧
      ((deployment.turn step).incidents rest).filterMap Incident.value? = [] := by
  rw [incidents, List.filterMap_append, List.append_eq_nil_iff] at silent
  exact ⟨Incident.filterMap_value?_eq_nil_iff.mp silent.1, silent.2⟩

private theorem Passed.not_forestalled {id : ListenerId} (orderly : Orderly deployment)
    (passed : deployment.Passed id) {steps : List Turn}
    (external : ∀ step ∈ steps, step.External)
    (silent : (deployment.incidents steps).filterMap Incident.value? = []) :
    isForestalled axis key id deployment steps = false := by
  induction steps generalizing deployment with
  | nil => rfl
  | cons step rest ih =>
    obtain ⟨own, others⟩ := List.forall_mem_cons.mp external
    obtain ⟨now, later⟩ := silent_cons silent
    have still := passed.turned orderly (turned_turn orderly.external step) now
    rw [isForestalled, passed.owed, ih (orderly.turn own) still others later]
    simp

/-- A round comes to those who are awaited, apart from those who are removed ahead of their turn,
and to nobody else who was registered before a given listener. -/
theorem round_turns {publication : Publication} (orderly : Orderly deployment)
    (tells : deployment.Tells publication) (given : bound ≤ deployment.cache.nextId)
    {steps : List Turn} (external : ∀ step ∈ steps, step.External)
    (silent : (deployment.incidents steps).filterMap Incident.value? = []) :
    ∃ made told, (deployment.turns steps).calls = deployment.calls ++ made ∧
      (made.filter fun call => call.1 < bound) = told.map (fun id => (id, publication)) ∧
      told ++ (deployment.turns steps).awaiting publication.axis publication.key bound =
        (deployment.awaiting publication.axis publication.key bound).filter fun id =>
          !isForestalled publication.axis publication.key id deployment steps := by
  induction steps generalizing deployment with
  | nil => exact ⟨[], [], by simp, rfl, (List.filter_eq_self.mpr fun _ _ => rfl).symm⟩
  | cons step rest ih =>
    obtain ⟨own, inRest⟩ := List.forall_mem_cons.mp external
    obtain ⟨now, later⟩ := silent_cons silent
    have turned := turned_turn orderly.external step
    have next := orderly.turn own
    obtain ⟨told, advanced⟩ := advanced_turned orderly tells given turned now
    obtain ⟨made, calls, called⟩ := advanced.calls
    obtain ⟨more, others, further, calledToo, onward⟩ :=
      ih next (tells.turned orderly turned now) (Nat.le_trans given (nextId_turned turned)) inRest
        later
    refine ⟨made ++ more, told ++ others, ?_, ?_, ?_⟩
    · rw [turns_cons, further, calls, List.append_assoc]
    · rw [List.filter_append, called, calledToo, List.map_append]
    · -- Nobody who was called is forestalled later on, and those who are now were awaited.
      have stay : (told.filter fun id => !isForestalled publication.axis publication.key id
          (deployment.turn step) rest) = told :=
        List.filter_eq_self.mpr fun id member => by
          rw [(advanced.passed id member).not_forestalled next inRest later]
          rfl
      rw [turns_cons, List.append_assoc, onward, ← stay, ← List.filter_append,
        advanced.awaiting, List.filter_filter]
      refine List.filter_congr fun id member => ?_
      obtain ⟨owed, _⟩ : (!(deployment.owed publication.axis publication.key id).isEmpty) = true ∧
          decide (id < bound) = true := by
        simpa only [Bool.and_eq_true] using (List.mem_filter.mp member).2
      rw [isForestalled, owed, Bool.and_true, Bool.not_or, Bool.and_comm, ← decide_not]

end Deployment

end MeshDiscovery
