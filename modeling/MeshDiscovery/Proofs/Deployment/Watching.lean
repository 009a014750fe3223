import MeshDiscovery.Proofs.Deployment.Publishing

/-!
What listeners are called with, in whatever order turns are taken. A listener has been called with
what was there when it was registered and with what was published since, apart from the value that
it is just going to be called with.
-/

namespace MeshDiscovery

/-- The value that is published under a name, if one is. -/
def Incident.valueOn? (axis : Axis) (key : String) (incident : Incident) : Option Publication :=
  incident.value?.filter fun value => value.axis = axis ∧ value.key = key

/-- The values that are published under a name, in order. -/
def publishedOn (axis : Axis) (key : String) (incidents : List Incident) : List Publication :=
  incidents.filterMap (Incident.valueOn? axis key)

theorem publishedOn_append (axis : Axis) (key : String) (earlier later : List Incident) :
    publishedOn axis key (earlier ++ later) =
      publishedOn axis key earlier ++ publishedOn axis key later :=
  List.filterMap_append

theorem publishedOn_eq (axis : Axis) (key : String) (incidents : List Incident) :
    publishedOn axis key incidents =
      (incidents.filterMap Incident.value?).filter fun value =>
        value.axis = axis ∧ value.key = key := by
  rw [List.filter_filterMap]
  rfl

theorem publishedOn_published (axis : Axis) (key : String) (publication : Publication) :
    publishedOn axis key [.published publication] =
      if publication.axis = axis ∧ publication.key = key then [publication] else [] := by
  have one : publishedOn axis key [.published publication] =
      (Incident.valueOn? axis key (.published publication)).toList := by
    rw [publishedOn, List.filterMap_cons, List.filterMap_nil]
    split <;> simp [*]
  rw [one, Incident.valueOn?, Incident.value?, Option.filter_some]
  by_cases own : publication.axis = axis ∧ publication.key = key
  · simp [own]
  · simp [own]

namespace Deployment

/-- The value that a listener is going to be called with, if its roster is being told one. -/
def owed (deployment : Deployment) (axis : Axis) (key : String) (id : ListenerId) :
    List Publication :=
  match deployment.telling? with
  | none => []
  | some telling =>
    if telling.publication.axis = axis ∧ telling.publication.key = key ∧
        deployment.cache.opened? axis key = some telling.opened ∧ telling.start ≤ id then
      [telling.publication]
    else []

variable {deployment before after : Deployment} {incident : Option Incident}

theorem received_of_calls {made : List (ListenerId × Publication)}
    (calls : after.calls = before.calls ++ made) (id : ListenerId) :
    after.received id =
      before.received id ++ (made.filter fun call => call.1 = id).map Prod.snd := by
  rw [received, calls, List.filter_append, List.map_append, received]

theorem received_of_call {called : ListenerId} {publication : Publication}
    (calls : after.calls = before.calls ++ [(called, publication)]) (id : ListenerId) :
    after.received id =
      before.received id ++ if called = id then [publication] else [] := by
  rw [received_of_calls calls]
  by_cases same : called = id
  · simp [same]
  · simp [same]

theorem received_of_others {made : List (ListenerId × Publication)}
    (calls : after.calls = before.calls ++ made) {id : ListenerId}
    (others : ∀ call ∈ made, call.1 ≠ id) : after.received id = before.received id := by
  have none : (made.filter fun call => call.1 = id) = [] :=
    List.filter_eq_nil_iff.mpr fun call member => by simp [others call member]
  rw [received_of_calls calls, none, List.map_nil, List.append_nil]

theorem received_of_same (calls : after.calls = before.calls) (id : ListenerId) :
    after.received id = before.received id := by
  rw [received, calls, received]

theorem owed_of_quiet {axis : Axis} {key : String} {id : ListenerId}
    (quiet : deployment.telling? = none) : deployment.owed axis key id = [] := by
  rw [owed, quiet]

theorem owed_of_own {publication : Publication} {opened start : ListenerId} {outer : List Frame}
    {id : ListenerId} (next : deployment.publishing = .notify publication opened start :: outer)
    (present : deployment.cache.opened? publication.axis publication.key = some opened) :
    deployment.owed publication.axis publication.key id =
      if start ≤ id then [publication] else [] := by
  rw [owed, telling?_of_notify next]
  by_cases waiting : start ≤ id
  · exact (if_pos ⟨rfl, rfl, present, waiting⟩).trans (if_pos waiting).symm
  · exact (if_neg fun all => waiting all.2.2.2).trans (if_neg waiting).symm

theorem owed_of_other {publication : Publication} {opened start : ListenerId} {outer : List Frame}
    {axis : Axis} {key : String} {id : ListenerId}
    (next : deployment.publishing = .notify publication opened start :: outer)
    (other : ¬ (publication.axis = axis ∧ publication.key = key)) :
    deployment.owed axis key id = [] := by
  rw [owed, telling?_of_notify next]
  exact if_neg fun all => other ⟨all.1, all.2.1⟩

theorem owed_congr {axis : Axis} {key : String} {id : ListenerId}
    (publishing : after.publishing = before.publishing)
    (opened : after.cache.opened? axis key = before.cache.opened? axis key) :
    after.owed axis key id = before.owed axis key id := by
  rw [owed, telling?_congr publishing, opened, owed]

/-- Nobody is owed anything of an axis that nothing is told of. -/
theorem owed_of_waiting {axis : Axis} {key : String} {id : ListenerId}
    (waiting : deployment.isTelling axis = false) : deployment.owed axis key id = [] := by
  unfold isTelling at waiting
  cases telling : deployment.telling? with
  | none => exact owed_of_quiet telling
  | some telling' =>
    rw [telling] at waiting
    rw [owed, telling]
    apply if_neg
    rintro ⟨rfl, _⟩
    simp at waiting

/-- What is owed is cached. -/
theorem owed_cases (orderly : Orderly deployment) (axis : Axis) (key : String) (id : ListenerId) :
    deployment.owed axis key id = [] ∨
      ∃ value, deployment.owed axis key id = [value] ∧
        deployment.cache.current? axis key = some value := by
  cases current : deployment.telling? with
  | none => exact .inl (owed_of_quiet current)
  | some telling =>
    rw [owed, current]
    dsimp only
    split
    · rename_i own
      obtain ⟨rfl, rfl, _⟩ := own
      exact .inr ⟨telling.publication, rfl, (orderly.telling current).current⟩
    · exact .inl rfl

/-- A listener is registered, and what it has seen and is just going to see is known. -/
structure Follows (deployment : Deployment) (axis : Axis) (key : String) (id : ListenerId)
    (seen : List Publication) : Prop where
  registered : id ∈ deployment.cache.ids axis key
  received : deployment.received id ++ deployment.owed axis key id = seen
  latest : seen.getLast? = deployment.cache.current? axis key

namespace Follows

variable {axis : Axis} {key : String} {id : ListenerId} {seen : List Publication}

private theorem of_alike (follows : Follows before axis key id seen)
    (cache : after.cache.Alike before.cache)
    (received : after.received id ++ after.owed axis key id = seen) :
    Follows after axis key id seen where
  registered := by
    rw [cache.ids]
    exact follows.registered
  received := received
  latest := by
    rw [cache.current?]
    exact follows.latest

private theorem of_effects {cache : Cache Listener} {made : List (ListenerId × Publication)}
    (follows : Follows before axis key id seen) (effects : Effects before after cache made)
    (registered : id ∈ cache.ids axis key)
    (opened : cache.opened? axis key = before.cache.opened? axis key)
    (current : cache.current? axis key = before.cache.current? axis key)
    (others : ∀ call ∈ made, call.1 ≠ id) : Follows after axis key id seen where
  registered := by
    rw [effects.cache.ids]
    exact registered
  received := by
    rw [received_of_others effects.calls others,
      owed_congr effects.publishing ((effects.cache.opened? axis key).trans opened)]
    exact follows.received
  latest := by
    rw [effects.cache.current?, current]
    exact follows.latest

private theorem published {publication : Publication} {more : List Publication}
    {outer : List Frame} (follows : Follows before axis key id seen)
    (next : before.publishing = .publish (publication :: more) :: outer)
    (cache : after.cache.Alike (before.cache.store publication))
    (calls : after.calls = before.calls)
    (publishing : after.publishing =
      ((before.cache.opened? publication.axis publication.key).map fun opened =>
        Frame.notify publication opened 0).toList ++ .publish more :: outer) :
    Follows after axis key id (seen ++ publishedOn axis key [.published publication]) := by
  have earlier : before.received id = seen := by
    have received := follows.received
    rwa [owed_of_quiet (telling?_of_publish next), List.append_nil] at received
  have same := received_of_same calls id
  have opened : after.cache.opened? axis key = before.cache.opened? axis key := by
    rw [cache.opened?, Cache.opened?_store]
  obtain ⟨roster, present⟩ := before.cache.opened?_of_mem_ids follows.registered
  refine ⟨?_, ?_, ?_⟩
  · rw [cache.ids, Cache.ids_store]
    exact follows.registered
  · rw [same, earlier]
    congr 1
    by_cases own : publication.axis = axis ∧ publication.key = key
    · obtain ⟨rfl, rfl⟩ := own
      rw [present] at publishing
      rw [owed_of_own publishing (opened.trans present), publishedOn_published,
        if_pos (Nat.zero_le id), if_pos ⟨rfl, rfl⟩]
    · rw [publishedOn_published, if_neg own]
      cases roster : before.cache.opened? publication.axis publication.key with
      | none =>
        rw [roster] at publishing
        exact owed_of_quiet (telling?_of_publish publishing)
      | some opened =>
        rw [roster] at publishing
        exact owed_of_other publishing own
  · rw [cache.current?, Cache.current?_store, publishedOn_published]
    split
    · rw [List.getLast?_append]
      rfl
    · rw [List.append_nil]
      exact follows.latest

private theorem called {publication : Publication} {opened start called : ListenerId}
    {outer : List Frame} (orderly : Orderly before) (follows : Follows before axis key id seen)
    (next : before.publishing = .notify publication opened start :: outer)
    (upcoming : before.cache.upcoming? publication.axis publication.key opened start = some called)
    (cache : after.cache.Alike before.cache)
    (calls : after.calls = before.calls ++ [(called, publication)])
    (publishing : after.publishing = .notify publication opened (called + 1) :: outer) :
    Follows after axis key id seen := by
  have received := follows.received
  refine follows.of_alike cache ?_
  rw [received_of_call calls]
  by_cases own : publication.axis = axis ∧ publication.key = key
  · obtain ⟨rfl, rfl⟩ := own
    obtain ⟨present, reached, least⟩ := orderly.cache.upcoming upcoming
    rw [owed_of_own next present] at received
    rw [owed_of_own publishing ((cache.opened? _ _).trans present)]
    rcases Nat.lt_trichotomy id called with earlier | rfl | later
    · -- The listener was called before, or it would be next.
      have past : ¬ start ≤ id := fun late =>
        Nat.not_le_of_lt earlier (least id follows.registered late)
      rw [if_neg past] at received
      rw [if_neg (Nat.ne_of_gt earlier), if_neg (Nat.not_le_of_lt (Nat.lt_succ_of_lt earlier)),
        List.append_nil]
      exact received
    · rw [if_pos reached] at received
      rw [if_pos rfl, if_neg (Nat.not_succ_le_self id), List.append_nil]
      exact received
    · rw [if_pos (Nat.le_trans reached (Nat.le_of_lt later))] at received
      rw [if_neg (Nat.ne_of_lt later), if_pos (Nat.succ_le_of_lt later), List.append_nil]
      exact received
  · have other : called ≠ id := by
      rintro rfl
      exact own (orderly.cache.alone (Cache.mem_ids_of_upcoming? upcoming) follows.registered)
    rw [owed_of_other next own] at received
    rw [if_neg other, owed_of_other publishing own, List.append_nil]
    exact received

private theorem told {publication : Publication} {opened start : ListenerId} {outer : List Frame}
    (orderly : Orderly before) (follows : Follows before axis key id seen)
    (next : before.publishing = .notify publication opened start :: outer)
    (upcoming : before.cache.upcoming? publication.axis publication.key opened start = none)
    (cache : after.cache.Alike before.cache) (calls : after.calls = before.calls)
    (publishing : after.publishing = outer) : Follows after axis key id seen := by
  have received := follows.received
  have nothing : before.owed axis key id = [] := by
    rw [owed, telling?_of_notify next]
    apply if_neg
    rintro ⟨rfl, rfl, present, waiting⟩
    exact Nat.not_le_of_lt
      (Cache.lt_of_upcoming?_eq_none upcoming present id follows.registered) waiting
  obtain ⟨_, more, rest⟩ := (next ▸ orderly.layers).beneath
  refine follows.of_alike cache ?_
  rw [nothing] at received
  rw [received_of_same calls, owed_of_quiet (telling?_of_publish (publishing.trans rest))]
  exact received

private theorem watched {other : Axis} {name : String} {listener : Listener}
    (orderly : Orderly before) (follows : Follows before axis key id seen)
    (effects : Effects before after (before.cache.add other name listener)
      ((before.cache.current? other name).toList.map fun value => (before.cache.nextId, value))) :
    Follows after axis key id seen := by
  have given := orderly.cache.given axis key id follows.registered
  obtain ⟨roster, present⟩ := before.cache.opened?_of_mem_ids follows.registered
  refine follows.of_effects effects ?_ ?_ (Cache.current?_add ..) ?_
  · rw [Cache.ids_add]
    split
    · rename_i same
      obtain ⟨rfl, rfl⟩ := same
      exact List.mem_append_left _ follows.registered
    · exact follows.registered
  · rw [Cache.opened?_add]
    split
    · rename_i same
      obtain ⟨rfl, rfl⟩ := same
      rw [present]
      rfl
    · rfl
  · intro call member
    obtain ⟨value, _, rfl⟩ := List.mem_map.mp member
    exact Nat.ne_of_gt given

private theorem removed {other : Axis} {name : String} {gone : ListenerId}
    (follows : Follows before axis key id seen)
    (effects : Effects before after (before.cache.remove other name gone).2 [])
    (kept : (other, name, gone) ≠ (axis, key, id)) : Follows after axis key id seen := by
  have registered : id ∈ (before.cache.remove other name gone).2.ids axis key := by
    rw [Cache.ids_remove]
    split
    · rename_i same
      obtain ⟨rfl, rfl⟩ := same
      have different : id ≠ gone := fun same => kept (by rw [same])
      exact List.mem_filter.mpr ⟨follows.registered, decide_eq_true different⟩
    · exact follows.registered
  refine follows.of_effects effects registered ?_ (Cache.current?_remove ..) (by simp)
  rcases before.cache.opened?_remove other axis name key gone with same | ⟨_, nobody⟩
  · exact same
  · rw [nobody] at registered
    cases registered

private theorem idle (follows : Follows before axis key id seen) (quiet : before.telling? = none)
    (cache : after.cache.Alike before.cache) (calls : after.calls = before.calls)
    (still : after.telling? = none) : Follows after axis key id seen := by
  have received := follows.received
  refine follows.of_alike cache ?_
  rw [owed_of_quiet quiet] at received
  rw [received_of_same calls, owed_of_quiet still]
  exact received

private theorem silently {incidents : List Incident}
    (follows : Follows deployment axis key id seen)
    (silent : publishedOn axis key incidents = []) :
    Follows deployment axis key id (seen ++ publishedOn axis key incidents) := by
  rw [silent, List.append_nil]
  exact follows

/-- As long as it is not removed, a listener sees what is published under its name, each time that
something is. -/
theorem turned (orderly : Orderly before) (follows : Follows before axis key id seen)
    (turned : Turned before after incident) (kept : incident ≠ some (.removed axis key id)) :
    Follows after axis key id (seen ++ publishedOn axis key incident.toList) := by
  cases turned with
  | quiet effects =>
    exact silently (follows.of_effects effects follows.registered rfl rfl (by simp)) rfl
  | watched listener effects => exact silently (follows.watched orderly effects) rfl
  | removed _ effects => exact silently (follows.removed effects (by simpa using kept)) rfl
  | updated idle cache calls publishing =>
    exact silently (follows.idle (telling?_of_idle idle) cache calls
      (telling?_of_publish publishing)) rfl
  | published next cache calls publishing => exact follows.published next cache calls publishing
  | finished next cache calls publishing =>
    have alone := (next ▸ orderly.layers).outermost
    exact silently (follows.idle (telling?_of_publish next) cache calls
      (telling?_of_idle (publishing.trans alone))) rfl
  | called next upcoming cache calls publishing =>
    exact silently (follows.called orderly next upcoming cache calls publishing) rfl
  | told next upcoming cache calls publishing =>
    exact silently (follows.told orderly next upcoming cache calls publishing) rfl

theorem course (orderly : Orderly before) (follows : Follows before axis key id seen)
    {incidents : List Incident} (course : Course before incidents after)
    (kept : .removed axis key id ∉ incidents) :
    Follows after axis key id (seen ++ publishedOn axis key incidents) := by
  -- The induction is on the course; what was seen grows by what is published on the way.
  induction course generalizing seen with
  | refl _ => exact silently follows rfl
  | step external turned _ ih =>
    rw [List.mem_append, not_or] at kept
    have first := follows.turned orderly turned
      fun same => kept.1 (by rw [same]; exact List.mem_singleton.mpr rfl)
    rw [publishedOn_append, ← List.append_assoc]
    exact ih (orderly.turned external turned) first kept.2

theorem turns (orderly : Orderly deployment) (follows : Follows deployment axis key id seen)
    {steps : List Turn} (external : ∀ step ∈ steps, step.External)
    (kept : .removed axis key id ∉ deployment.incidents steps) :
    Follows (deployment.turns steps) axis key id
      (seen ++ publishedOn axis key (deployment.incidents steps)) :=
  follows.course orderly (course_turns orderly.external external) kept

end Follows

/-- A listener that was just registered has been called with the value that was there, and may be
going to be called with the value that is being told. -/
theorem follows_watched {axis : Axis} {key : String} {id : ListenerId} (orderly : Orderly before)
    (reached : Orderly after) (turned : Turned before after (some (.watched axis key id))) :
    after.received id = (before.cache.current? axis key).toList ∧
      Follows after axis key id
        ((before.cache.current? axis key).toList ++ after.owed axis key id) := by
  cases turned with
  | watched listener effects =>
    have current : after.cache.current? axis key = before.cache.current? axis key := by
      rw [effects.cache.current?, Cache.current?_add]
    have nothing : before.received before.cache.nextId = [] := by
      have fresh : (before.calls.filter fun call => call.1 = before.cache.nextId) = [] :=
        List.filter_eq_nil_iff.mpr fun call member => by
          simpa using Nat.ne_of_lt (orderly.called call member)
      rw [received, fresh, List.map_nil]
    have received : after.received before.cache.nextId =
        (before.cache.current? axis key).toList := by
      rw [received_of_calls effects.calls, nothing]
      cases before.cache.current? axis key with
      | none => rfl
      | some value => simp
    refine ⟨received, ?_, by rw [received], ?_⟩
    · rw [effects.cache.ids, Cache.ids_add, if_pos ⟨rfl, rfl⟩]
      exact List.mem_append_right _ (List.mem_singleton.mpr rfl)
    · rcases owed_cases reached axis key before.cache.nextId with none | ⟨value, one, cached⟩
      · rw [none, current, List.append_nil]
        cases before.cache.current? axis key <;> rfl
      · rw [one, cached, List.getLast?_concat]

/-- A listener is no longer registered. -/
structure Gone (deployment : Deployment) (id : ListenerId) : Prop where
  absent : ∀ axis key, id ∉ deployment.cache.ids axis key
  given : id < deployment.cache.nextId

namespace Gone

variable {id : ListenerId}

private theorem of_effects {cache : Cache Listener} {made : List (ListenerId × Publication)}
    (effects : Effects before after cache made) (absent : ∀ axis key, id ∉ cache.ids axis key)
    (given : id < cache.nextId) (others : ∀ call ∈ made, call.1 ≠ id) :
    Gone after id ∧ after.received id = before.received id := by
  refine ⟨⟨?_, ?_⟩, received_of_others effects.calls others⟩
  · intro axis key
    rw [effects.cache.ids]
    exact absent axis key
  · rw [effects.cache.nextId]
    exact given

private theorem of_cache {cache : Cache Listener} (alike : after.cache.Alike cache)
    (ids : ∀ axis key, cache.ids axis key = before.cache.ids axis key)
    (nextId : cache.nextId = before.cache.nextId) (gone : Gone before id) : Gone after id where
  absent axis key := by
    rw [alike.ids, ids]
    exact gone.absent axis key
  given := by
    rw [alike.nextId, nextId]
    exact gone.given

/-- A listener that was removed is registered nowhere. -/
theorem of_removed {axis : Axis} {key : String} (orderly : Orderly before)
    (turned : Turned before after (some (.removed axis key id))) :
    Gone after id ∧ after.received id = before.received id := by
  cases turned with
  | removed member effects =>
    refine of_effects effects ?_ ?_ (by simp)
    · intro other name present
      have alone := orderly.cache.alone member (Cache.Orderly.mem_ids_of_remove present)
      rw [Cache.ids_remove, if_pos ⟨alone.1.symm, alone.2.symm⟩] at present
      simpa using (List.mem_filter.mp present).2
    · rw [Cache.nextId_remove]
      exact orderly.cache.given axis key id member

/-- A listener that is not registered is not called. -/
theorem turned (gone : Gone before id) (turned : Turned before after incident) :
    Gone after id ∧ after.received id = before.received id := by
  cases turned with
  | quiet effects => exact of_effects effects gone.absent gone.given (by simp)
  | @watched axis key listener effects =>
    refine of_effects effects ?_ (Nat.lt_succ_of_lt gone.given) ?_
    · intro other name
      rw [Cache.ids_add]
      split
      · simp [gone.absent axis key, Nat.ne_of_lt gone.given]
      · exact gone.absent other name
    · intro call member
      obtain ⟨value, _, rfl⟩ := List.mem_map.mp member
      exact Nat.ne_of_gt gone.given
  | removed _ effects =>
    refine of_effects effects ?_ ?_ (by simp)
    · exact fun other name present =>
        gone.absent other name (Cache.Orderly.mem_ids_of_remove present)
    · rw [Cache.nextId_remove]
      exact gone.given
  | published next cache calls publishing =>
    exact ⟨of_cache cache (fun _ _ => Cache.ids_store ..) (Cache.nextId_store ..) gone,
      received_of_same calls id⟩
  | @called publication opened start called outer next upcoming cache calls publishing =>
    have other : called ≠ id := by
      rintro rfl
      exact gone.absent _ _ (Cache.mem_ids_of_upcoming? upcoming)
    exact ⟨of_cache cache (fun _ _ => rfl) rfl gone,
      received_of_others calls (by simpa using other)⟩
  | updated _ cache calls | finished _ cache calls | told _ _ cache calls =>
    exact ⟨of_cache cache (fun _ _ => rfl) rfl gone, received_of_same calls id⟩

theorem course (gone : Gone before id) {incidents : List Incident}
    (course : Course before incidents after) :
    Gone after id ∧ after.received id = before.received id := by
  induction course with
  | refl _ => exact ⟨gone, rfl⟩
  | step _ turned _ ih =>
    obtain ⟨still, same⟩ := gone.turned turned
    exact (ih still).imp_right fun later => later.trans same

/-- A listener that was removed on the way is registered nowhere at the end. -/
theorem of_course {axis : Axis} {key : String} (orderly : Orderly before)
    {incidents : List Incident} (course : Course before incidents after)
    (removed : .removed axis key id ∈ incidents) : Gone after id := by
  induction course with
  | refl _ => cases removed
  | step external turned rest ih =>
    rcases List.mem_append.mp removed with now | later
    · rw [Option.mem_toList] at now
      cases now
      exact ((of_removed orderly turned).1.course rest).1
    · exact ih (orderly.turned external turned) later

theorem turns (orderly : Orderly deployment) (gone : Gone deployment id) {steps : List Turn}
    (external : ∀ step ∈ steps, step.External) :
    (deployment.turns steps).received id = deployment.received id :=
  (gone.course (course_turns orderly.external external)).2

end Gone

/-- Who watches while nothing is told of the axis sees the value that is cached, and that first. -/
theorem follows_turn {axis : Axis} {key : String} {listener : Listener}
    (orderly : Orderly deployment) (own : listener.External)
    (free : deployment.isTelling axis = false) :
    let watched := deployment.turn (.watch axis key listener)
    watched.received deployment.cache.nextId = (deployment.cache.current? axis key).toList ∧
      Follows watched axis key deployment.cache.nextId
        (deployment.cache.current? axis key).toList := by
  intro watched
  have incident : deployment.incident? (.watch axis key listener) =
      some (.watched axis key deployment.cache.nextId) := by
    rw [incident?, free]
    rfl
  have same : watched = deployment.watch axis key listener := by
    simp only [watched, turn, free]
    rfl
  have waiting : watched.isTelling axis = false := by
    rw [isTelling, same, telling?_congr (effects_watch deployment axis key listener).publishing]
    exact free
  have reached : Orderly watched := orderly.turn own
  obtain ⟨received, follows⟩ :=
    follows_watched orderly reached (incident ▸ turned_turn orderly.external _)
  rw [owed_of_waiting waiting, List.append_nil] at follows
  exact ⟨received, follows⟩

/-- Who unsubscribes while nothing is told of the axis has seen everything and is gone. -/
theorem Follows.unwatch {axis : Axis} {key : String} {id : ListenerId} {seen : List Publication}
    (orderly : Orderly deployment) (follows : Follows deployment axis key id seen)
    (free : deployment.isTelling axis = false) :
    deployment.incident? (.unwatch axis key id) = some (.removed axis key id) ∧
      Gone (deployment.turn (.unwatch axis key id)) id ∧
      (deployment.turn (.unwatch axis key id)).received id = seen := by
  have whole : deployment.received id = seen := by
    have received := follows.received
    rwa [owed_of_waiting free, List.append_nil] at received
  have present : (deployment.cache.remove axis key id).1 = true := by
    rw [Cache.remove_fst]
    exact decide_eq_true follows.registered
  have removal : deployment.incident? (.unwatch axis key id) = some (.removed axis key id) := by
    simp only [incident?, free, removal?, present]
    rfl
  obtain ⟨gone, same⟩ := Gone.of_removed orderly
    (removal ▸ turned_turn orderly.external (.unwatch axis key id))
  exact ⟨removal, gone, same.trans whole⟩

end Deployment

namespace Exchange

open Deployment

/-- A listener that watches a name is called with the value that is cached, if there is one, before
it returns, and then with every value that is published under the name until it is removed, once
each and in order; it may be about to be called with the last one while that is told. Whoever is
called, the cache holds the very value already, and what is published is what the batches bring, in
order. -/
theorem listeners_receive_cached_and_published (config : ClientConfig)
    (earlier during later : List Turn) (axis : Axis) (key : String) (listener : Listener)
    (external : ∀ step ∈ earlier ++ .watch axis key listener :: during ++ later, step.External) :
    ∃ started, start true config = .ok started ∧
      let before := started.turns earlier
      let watched := before.turn (.watch axis key listener)
      let after := watched.turns during
      let id := before.cache.nextId
      let seen := (before.cache.current? axis key).toList ++
        publishedOn axis key (watched.incidents during)
      (before.isTelling axis = false →
        watched.received id = (before.cache.current? axis key).toList ∧
          (.removed axis key id ∉ watched.incidents during →
            after.received id ++ after.owed axis key id = seen ∧
              seen.getLast? = after.cache.current? axis key ∧
              (after.isTelling axis = false →
                after.owed axis key id = [] ∧
                  after.incident? (.unwatch axis key id) = some (.removed axis key id) ∧
                  ((after.turn (.unwatch axis key id)).turns later).received id = seen))) ∧
        (∀ step, ∃ made, (before.turn step).calls = before.calls ++ made ∧
          ∀ call ∈ made, before.cache.current? call.2.axis call.2.key = some call.2) ∧
        (started.incidents earlier).flatMap Incident.handed =
          (started.incidents earlier).filterMap Incident.value? ++ before.unpublished := by
  obtain ⟨started, isStarted, orderly, nothing⟩ := orderly_start config
  have inEarlier : ∀ step ∈ earlier, step.External :=
    fun step member => external step (by simp [member])
  have own : listener.External := external (.watch axis key listener) (by simp)
  have inDuring : ∀ step ∈ during, step.External :=
    fun step member => external step (by simp [member])
  have inLater : ∀ step ∈ later, step.External :=
    fun step member => external step (by simp [member])
  refine ⟨started, isStarted, ?_⟩
  intro before watched after id seen
  have orderlyBefore : Orderly before := orderly.turns inEarlier
  have orderlyWatched : Orderly watched := orderlyBefore.turn own
  have orderlyAfter : Orderly after := orderlyWatched.turns inDuring
  refine ⟨?_, fun step => orderlyBefore.made (turned_turn orderlyBefore.external step), ?_⟩
  · intro free
    obtain ⟨received, follows⟩ := follows_turn orderlyBefore own free
    refine ⟨received, ?_⟩
    intro kept
    have followed : Follows after axis key id seen := follows.turns orderlyWatched inDuring kept
    refine ⟨followed.received, followed.latest, ?_⟩
    intro quiet
    obtain ⟨removal, gone, last⟩ := followed.unwatch orderlyAfter quiet
    refine ⟨owed_of_waiting quiet, removal, ?_⟩
    have plain : (Turn.unwatch axis key id).External := True.intro
    rw [gone.turns (orderlyAfter.turn plain) inLater]
    exact last
  · have flow := orderly.flow inEarlier
    rwa [nothing, List.nil_append] at flow

/-- A batch that brings a name twice is seen value by value. -/
theorem repeated_name_is_seen_twice :
    let config : ClientConfig :=
      ⟨⟨none, "control:15010", "", none⟩, ⟨"n", "mesh", "client", "1"⟩, 10000, []⟩
    let cluster (port : UInt32) : Resource.Cluster := ⟨"a", [⟨"10.0.0.1", port, true⟩]⟩
    let value (port : UInt32) : Publication := .cluster "a" (cluster port)
    let earlier : List Turn :=
      [.update .clusterLoadAssignment [cluster 1], .proceed, .proceed]
    let watch : Turn := .watch .cluster "a" ⟨"l", []⟩
    let during : List Turn :=
      [.proceed, .proceed, .update .clusterLoadAssignment [cluster 2, cluster 3], .proceed,
        .proceed, .proceed, .proceed, .proceed, .proceed, .proceed]
    let later : List Turn := [.update .clusterLoadAssignment [cluster 4], .proceed, .proceed]
    (∀ step ∈ earlier ++ watch :: during ++ later, step.External) ∧
      ∃ started, start true config = .ok started ∧
        let after := ((started.turns earlier).turn watch).turns during
        after.received 0 = [value 1, value 2, value 3] ∧
          ((after.turn (.unwatch .cluster "a" 0)).turns later).received 0 =
            [value 1, value 2, value 3] := by
  intro config cluster value earlier watch during later
  have external : ∀ step ∈ earlier ++ watch :: during ++ later, step.External := by
    simp [earlier, watch, during, later, Turn.External, Listener.External]
  obtain ⟨started, isStarted, received, _⟩ :=
    listeners_receive_cached_and_published config earlier during later .cluster "a" ⟨"l", []⟩
      external
  have observed : ((start true config).toOption.map fun started =>
      let before := started.turns earlier
      let watched := before.turn watch
      let after := watched.turns during
      (before.isTelling .cluster, before.cache.nextId, before.cache.current? .cluster "a",
        watched.incidents during, after.isTelling .cluster)) =
      some (false, 0, some (value 1), [.updated [value 2, value 3], .published (value 2),
        .published (value 3)], false) := by
    decide +kernel
  simp only [isStarted, Except.toOption, Option.map_some, Option.some.injEq,
    Prod.mk.injEq] at observed
  obtain ⟨free, first, cached, happened, quiet⟩ := observed
  obtain ⟨_, seen⟩ := received free
  simp only [watch] at happened quiet
  rw [first, cached, happened] at seen
  obtain ⟨all, _, ends⟩ := seen (by simp)
  obtain ⟨nothing, _, still⟩ := ends quiet
  rw [nothing, List.append_nil] at all
  exact ⟨external, started, isStarted, all, still⟩

end Exchange

end MeshDiscovery
