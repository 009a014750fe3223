import MeshDiscovery.Proofs.Session.Sending

/-!
A session whose owner keeps a set of names for each kind and requests all of it whenever it grows.
Whatever is sent for a kind then lists the whole set of that moment, so the lists on a stream only
grow, and the last one is the set itself.
-/

namespace MeshDiscovery.Session

/-- The name lists of the messages of a kind, in order. -/
def named (kind : ResourceType) (messages : List Request) : List (List String) :=
  (messages.filter fun message => message.typeUrl = kind.url).map Request.names

/-- The name lists of the messages of a kind that were queued on the stream of a generation. -/
def namesOn (session : Session) (generation : Nat) (kind : ResourceType) : List (List String) :=
  named kind (session.queued generation)

theorem named_append (kind : ResourceType) (first second : List Request) :
    named kind (first ++ second) = named kind first ++ named kind second := by
  simp [named]

theorem named_singleton {kind other : ResourceType} {message : Request}
    (typed : message.typeUrl = other.url) :
    named kind [message] = if kind = other then [message.names] else [] := by
  by_cases equal : kind = other
  · simp [named, typed, equal]
  · have different : other.url ≠ kind.url := by
      intro same
      exact equal (ResourceType.url_injective same).symm
    simp [named, typed, equal, different]

theorem namesOn_step {session : Session} (valid : Coherent session) (step : Step) (generation : Nat)
    (kind : ResourceType) :
    (session.step step).namesOn generation kind =
      session.namesOn generation kind ++ named kind (onStream generation (session.sends step)) := by
  rw [namesOn, queued_step valid, named_append, namesOn]

/-- Sorted name lists of which none loses a name of an earlier one or has one that is not wanted. -/
structure Growing (wanted : List String) (lists : List (List String)) : Prop where
  monotone : lists.Pairwise (· ⊆ ·)
  sorted : ∀ names ∈ lists, names.Pairwise (· < ·)
  bounded : ∀ names ∈ lists, names ⊆ wanted

theorem Growing.nil (wanted : List String) : Growing wanted [] :=
  ⟨List.Pairwise.nil, by simp, by simp⟩

/-- The set may grow, and all of it may be sent, any number of times. -/
theorem Growing.append {wanted grown : List String} {lists added : List (List String)}
    (growing : Growing wanted lists) (more : wanted ⊆ grown) (ascending : grown.Pairwise (· < ·))
    (whole : ∀ names ∈ added, names = grown) : Growing grown (lists ++ added) where
  monotone := by
    refine List.pairwise_append.mpr ⟨growing.monotone, ?_, ?_⟩
    · apply List.pairwise_of_forall_mem_list
      intro first isFirst second isSecond
      rw [whole first isFirst, whole second isSecond]
      exact List.Subset.refl grown
    · intro earlier isEarlier later isLater
      rw [whole later isLater]
      exact List.Subset.trans (growing.bounded earlier isEarlier) more
  sorted := by
    intro names member
    rcases List.mem_append.mp member with earlier | later
    · exact growing.sorted names earlier
    · exact whole names later ▸ ascending
  bounded := by
    intro names member
    rcases List.mem_append.mp member with earlier | later
    · exact List.Subset.trans (growing.bounded names earlier) more
    · rw [whole names later]
      exact List.Subset.refl grown

/-- What is sent and what is recorded agrees with the names that are wanted of each kind. -/
structure Agrees (wanted : ResourceType → List String) (session : Session) : Prop where
  coherent : Coherent session
  sorted : ∀ kind, (wanted kind).Pairwise (· < ·)
  recorded : ∀ kind request, session.recorded.get kind = some request →
    request.typeUrl = kind.url ∧ request.names = wanted kind
  unrecorded : ∀ kind, session.recorded.get kind = none → wanted kind = []
  /-- The acknowledgement of a response will list what is wanted. -/
  dispatched : ∀ dispatch, session.dispatch = some dispatch → dispatch.names = wanted dispatch.kind
  growing : ∀ generation kind, Growing (wanted kind) (session.namesOn generation kind)
  latest : ∀ generation, session.current? = some generation → session.accepts generation = true →
    ∀ kind request, session.recorded.get kind = some request →
      (session.namesOn generation kind).getLast? = some (wanted kind)

namespace Agrees

variable {wanted : ResourceType → List String} {session : Session}

theorem frame {after : Session} (agrees : Agrees wanted session) (frame : Frame session after)
    (coherent : Coherent after) : Agrees wanted after where
  coherent := coherent
  sorted := agrees.sorted
  recorded := by rw [frame.recorded]; exact agrees.recorded
  unrecorded := by rw [frame.recorded]; exact agrees.unrecorded
  dispatched := by rw [frame.dispatch]; exact agrees.dispatched
  growing := by
    intro generation kind
    rw [namesOn, frame.queued]
    exact agrees.growing generation kind
  latest := by
    intro generation current accepting
    rw [frame.recorded]
    intro kind request
    rw [namesOn, frame.queued]
    exact agrees.latest generation (frame.current generation current)
      (frame.accepts generation accepting) kind request

theorem subscribed {kind : ResourceType} {names : List String} (agrees : Agrees wanted session)
    (listed : session.subscribedNames? kind = some names) : names = wanted kind := by
  unfold subscribedNames? at listed
  split at listed
  · rename_i request recorded
    cases listed
    exact (agrees.recorded kind request recorded).2
  · rename_i absent
    rw [agrees.unrecorded kind absent]
    split at listed
    · cases listed
      rfl
    · cases listed

theorem read (agrees : Agrees wanted session) (generation : Nat) (response : Response) :
    Agrees wanted (session.step (.read generation response)) := by
  have coherent := agrees.coherent.step (.read generation response)
  rcases session.read_cases generation response with
    ⟨_, _, same⟩ | ⟨kind, names, _, _, listed, _, _, same⟩
  · rw [same] at coherent ⊢
    exact agrees.frame (.of_fields rfl rfl rfl rfl rfl) coherent
  · rw [same] at coherent ⊢
    refine ⟨coherent, agrees.sorted, agrees.recorded, agrees.unrecorded, ?_, agrees.growing,
      agrees.latest⟩
    intro dispatch some
    cases some
    exact agrees.subscribed listed

private theorem last_append {names : List String} {lists added : List (List String)}
    (whole : ∀ other ∈ added, other = names) (last : added = [] → lists.getLast? = some names) :
    (lists ++ added).getLast? = some names := by
  by_cases none : added = []
  · rw [none, List.append_nil]
    exact last none
  · rw [List.getLast?_append, List.getLast?_eq_some_getLast none]
    exact congrArg some (whole _ (List.getLast_mem none))

/-- Whatever a step sends for a kind lists what is wanted after it. -/
def Whole (wanted : ResourceType → List String) (messages : List (Nat × Request)) : Prop :=
  ∀ generation kind, ∀ names ∈ named kind (onStream generation messages), names = wanted kind

theorem Whole.nil (wanted : ResourceType → List String) : Whole wanted [] := by
  intro generation kind names member
  cases member

theorem Whole.singleton {generation : Nat} {kind : ResourceType} {message : Request}
    (typed : message.typeUrl = kind.url) (whole : message.names = wanted kind) :
    Whole wanted [(generation, message)] := by
  intro stream other names member
  rw [onStream_singleton] at member
  split at member
  · rw [named_singleton typed] at member
    split at member
    · rename_i same
      rw [List.mem_singleton.mp member, whole, same]
    · cases member
  · cases member

theorem growing_step {grown : ResourceType → List String} (agrees : Agrees wanted session)
    (step : Step) (more : ∀ kind, wanted kind ⊆ grown kind)
    (ascending : ∀ kind, (grown kind).Pairwise (· < ·)) (whole : Whole grown (session.sends step))
    (generation : Nat) (kind : ResourceType) :
    Growing (grown kind) ((session.step step).namesOn generation kind) := by
  rw [namesOn_step agrees.coherent]
  exact (agrees.growing generation kind).append (more kind) (ascending kind) (whole generation kind)

private theorem whole_acknowledge (agrees : Agrees wanted session) :
    Whole wanted (session.sends .acknowledge) := by
  simp only [sends]
  split
  · exact .nil wanted
  · rename_i dispatch current
    split
    · exact .singleton rfl (agrees.dispatched dispatch current)
    · exact .nil wanted

private theorem accepts_acknowledge (generation : Nat) :
    session.acknowledge.accepts generation = session.accepts generation := by
  rcases session.acknowledge_cases with ⟨_, same⟩ | ⟨dispatch, metrics, _, same⟩
  · rw [same]
  · rw [same]
    split
    · rw [accepts_queue]
      rfl
    · rfl

theorem acknowledge (agrees : Agrees wanted session) : Agrees wanted session.acknowledge := by
  have whole := whole_acknowledge agrees
  obtain ⟨channels, metrics, same⟩ := session.acknowledge_eq
  have recorded : session.acknowledge.recorded = session.recorded := by rw [same]
  have current : session.acknowledge.current? = session.current? := by rw [same]; rfl
  refine ⟨agrees.coherent.acknowledge, agrees.sorted, ?_, ?_, ?_, ?_, ?_⟩
  · rw [recorded]
    exact agrees.recorded
  · rw [recorded]
    exact agrees.unrecorded
  · rw [same]
    intro dispatch some
    cases some
  · exact agrees.growing_step .acknowledge (fun _ => List.Subset.refl _) agrees.sorted whole
  · intro generation
    rw [current, accepts_acknowledge, recorded]
    intro active accepting kind request wantedNow
    have sent := namesOn_step agrees.coherent .acknowledge generation kind
    rw [step] at sent
    rw [sent]
    exact last_append (whole generation kind)
      fun _ => agrees.latest generation active accepting kind request wantedNow

private theorem whole_fire (agrees : Agrees wanted session) (generation : Nat) :
    Whole wanted (session.sends (.fire generation)) := by
  simp only [sends]
  split
  · intro stream kind names member
    rw [onStream_map] at member
    split at member
    · obtain ⟨message, kept, rfl⟩ := List.mem_map.mp member
      obtain ⟨replayed, typed⟩ := List.mem_filter.mp kept
      obtain ⟨entry, isEntry, rfl⟩ := List.mem_map.mp replayed
      obtain ⟨⟨other, request⟩, isRecorded, rfl⟩ := List.mem_map.mp isEntry
      obtain ⟨found, _, listed⟩ := List.mem_filterMap.mp isRecorded
      obtain ⟨request', recorded, pair⟩ := Option.map_eq_some_iff.mp listed
      obtain ⟨rfl, rfl⟩ : found = other ∧ request' = request := by simpa using pair
      obtain ⟨url, whole⟩ := agrees.recorded found request' recorded
      have sameUrl : request'.typeUrl = kind.url := of_decide_eq_true typed
      have same := ResourceType.url_injective (url.symm.trans sameUrl)
      exact same ▸ whole
    · cases member
  · exact .nil wanted

private theorem names_replayed (agrees : Agrees wanted session) {kind : ResourceType}
    {request : Request} (recorded : session.recorded.get kind = some request) :
    request.names ∈ named kind (session.replay.map Prod.snd) := by
  have entry : (kind, request) ∈ session.recordedRequests :=
    List.mem_filterMap.mpr ⟨kind, ResourceType.mem_all kind, by rw [recorded]; rfl⟩
  have replayed : request.restated ∈ session.replay.map Prod.snd :=
    List.mem_map.mpr ⟨(kind, request.restated), List.mem_map.mpr ⟨_, entry, rfl⟩, rfl⟩
  have typed : request.restated.typeUrl = kind.url := (agrees.recorded kind request recorded).1
  exact List.mem_map.mpr ⟨request.restated, List.mem_filter.mpr ⟨replayed, by simp [typed]⟩, rfl⟩

theorem fire (agrees : Agrees wanted session) (generation : Nat) :
    Agrees wanted (session.fireTimer generation) := by
  have coherent := agrees.coherent.fireTimer generation
  rcases session.fireTimer_cases generation with ⟨_, same⟩ | ⟨pending, ⟨_, same⟩ | ⟨waiting, same⟩⟩
  · rw [same]
    exact agrees
  · rw [same] at coherent ⊢
    exact agrees.frame (frame_dropTimer session generation) coherent
  · have whole := agrees.whole_fire generation
    obtain ⟨_, _, _, _, _, _, changed⟩ := session.fireTimer_eq generation
    have recorded : (session.fireTimer generation).recorded = session.recorded := by rw [changed]
    have sent : session.sends (.fire generation) =
        session.replay.map fun entry => (generation + 1, entry.2) := if_pos ⟨pending, waiting⟩
    refine ⟨coherent, agrees.sorted, ?_, ?_, ?_, ?_, ?_⟩
    · rw [recorded]
      exact agrees.recorded
    · rw [recorded]
      exact agrees.unrecorded
    · rw [dispatch_fireTimer]
      exact agrees.dispatched
    · exact agrees.growing_step (.fire generation) (fun _ => List.Subset.refl _) agrees.sorted whole
    · -- Only the new stream is in use, and the replay has a message for all that is recorded.
      intro stream current _ kind request now
      obtain ⟨_, _, opened⟩ :=
        (session.waking generation).openStream_eq (generation + 1) session.replay
      rw [same, opened] at current
      obtain rfl : generation + 1 = stream := by simpa [current?] using current
      rw [recorded] at now
      have named := namesOn_step agrees.coherent (.fire generation) (generation + 1) kind
      rw [step] at named
      rw [named]
      refine last_append (whole (generation + 1) kind) fun none => ?_
      rw [sent, onStream_map, if_pos rfl] at none
      have replayed := agrees.names_replayed now
      rw [none] at replayed
      cases replayed

/-- What is wanted once other names are wanted of a kind. -/
def wanting (wanted : ResourceType → List String) (kind : ResourceType) (names : List String) :
    ResourceType → List String :=
  fun other => if other = kind then names else wanted other

theorem wanting_self (kind : ResourceType) (names : List String) :
    wanting wanted kind names kind = names :=
  if_pos rfl

theorem wanting_of_ne {kind other : ResourceType} (different : other ≠ kind) (names : List String) :
    wanting wanted kind names other = wanted other :=
  if_neg different

def requestFor (kind : ResourceType) (names : List String) : Request :=
  { typeUrl := kind.url, names }

theorem kind_requestFor (kind : ResourceType) (names : List String) :
    ResourceType.ofUrl? (requestFor kind names).typeUrl = some kind :=
  ResourceType.ofUrl?_url kind

section Request

variable {kind : ResourceType} {names : List String}

private theorem whole_request :
    Whole (wanting wanted kind names) (session.sends (.request (requestFor kind names))) := by
  have own (generation : Nat) : Whole (wanting wanted kind names)
      [(generation, session.signed (requestFor kind names))] :=
    .singleton rfl (wanting_self kind names).symm
  simp only [sends, kind_requestFor]
  split
  · exact own 0
  · split
    · exact own _
    · exact .nil _
  all_goals exact .nil _

private theorem latest_request (agrees : Agrees wanted session) {generation : Nat}
    (current : (session.request (requestFor kind names)).current? = some generation)
    (accepting : (session.request (requestFor kind names)).accepts generation = true) :
    session.sends (.request (requestFor kind names)) =
        [(generation, session.signed (requestFor kind names))] ∧
      ∀ other request, session.recorded.get other = some request →
        (session.namesOn generation other).getLast? = some (wanted other) := by
  have known := kind_requestFor kind names
  rcases session.request_cases (requestFor kind names) with
    ⟨unknown, _⟩ | ⟨same, isKind, sent⟩
  · exact absurd (known.symm.trans unknown) (by simp)
  · obtain rfl : kind = same := Option.some.inj (known.symm.trans isKind)
    obtain ⟨notices, noted⟩ := session.noting_eq kind (requestFor kind names)
    simp only [sends, known]
    cases phase : session.phase with
    | idle =>
      simp only [phase] at sent
      obtain ⟨_, _, opened⟩ := (session.noting kind (requestFor kind names)).openStream_eq 0
        [(kind, session.signed (requestFor kind names))]
      rw [sent, opened] at current
      obtain rfl : 0 = generation := by simpa [current?] using current
      refine ⟨rfl, ?_⟩
      -- Before the first request nothing is recorded.
      intro other request recorded
      rw [agrees.coherent.unrequested phase, PerType.get_const] at recorded
      cases recorded
    | active active connected =>
      simp only [phase] at sent
      obtain ⟨_, _, queued⟩ := (session.noting kind (requestFor kind names)).queue_eq active
        kind (session.signed (requestFor kind names))
      rw [sent, accepts_queue, noted] at accepting
      rw [sent, queued, noted] at current
      have inUse : session.current? = some generation := current
      obtain rfl : active = generation := by simpa [current?, phase] using inUse
      exact ⟨if_pos accepting, agrees.latest active inUse accepting⟩
    | recovering _ | closed =>
      simp only [phase] at sent
      rw [sent, noted] at current
      simp [current?, phase] at current

private theorem recorded_request (other : ResourceType) :
    (session.request (requestFor kind names)).recorded.get other =
      if other = kind then some (session.signed (requestFor kind names))
      else session.recorded.get other := by
  obtain ⟨_, _, _, _, _, changed⟩ := session.request_eq (requestFor kind names)
  rw [changed]
  simp only [recordedAfter, kind_requestFor, PerType.get_set]

/-- Requesting a set that has grown keeps the agreement, unless a response of the kind is at hand:
its acknowledgement would take the new names back. -/
theorem request (agrees : Agrees wanted session) (more : wanted kind ⊆ names)
    (ascending : names.Pairwise (· < ·))
    (apart : ∀ dispatch, session.dispatch = some dispatch → dispatch.kind ≠ kind) :
    Agrees (wanting wanted kind names) (session.request (requestFor kind names)) := by
  have coherent := agrees.coherent.request (requestFor kind names)
  have whole : Whole (wanting wanted kind names)
      (session.sends (.request (requestFor kind names))) := whole_request
  have ascends : ∀ other, (wanting wanted kind names other).Pairwise (· < ·) := by
    intro other
    by_cases same : other = kind
    · rw [same, wanting_self]
      exact ascending
    · rw [wanting_of_ne same]
      exact agrees.sorted other
  refine ⟨coherent, ascends, ?recorded, ?unrecorded, ?dispatched, ?growing, ?latest⟩
  case recorded =>
    intro other request now
    rw [recorded_request] at now
    by_cases same : other = kind
    · rw [if_pos same] at now
      cases now
      rw [same, wanting_self]
      exact ⟨rfl, rfl⟩
    · rw [if_neg same] at now
      rw [wanting_of_ne same]
      exact agrees.recorded other request now
  case unrecorded =>
    intro other now
    rw [recorded_request] at now
    by_cases same : other = kind
    · rw [if_pos same] at now
      cases now
    · rw [if_neg same] at now
      rw [wanting_of_ne same]
      exact agrees.unrecorded other now
  case dispatched =>
    intro current some
    rw [dispatch_request] at some
    rw [wanting_of_ne (apart current some)]
    exact agrees.dispatched current some
  case growing =>
    refine agrees.growing_step (.request (requestFor kind names)) ?_ ascends whole
    intro other
    by_cases same : other = kind
    · rw [same, wanting_self]
      exact more
    · rw [wanting_of_ne same]
      exact List.Subset.refl (wanted other)
  case latest =>
    intro generation current accepting other request now
    obtain ⟨sent, earlier⟩ := agrees.latest_request current accepting
    have added := namesOn_step agrees.coherent (.request (requestFor kind names)) generation other
    rw [step] at added
    rw [added]
    refine last_append (whole generation other) fun none => ?_
    rw [sent, onStream_singleton, if_pos rfl, named_singleton rfl] at none
    by_cases same : other = kind
    · rw [if_pos same] at none
      cases none
    · rw [recorded_request, if_neg same] at now
      rw [wanting_of_ne same]
      exact earlier other request now

end Request

end Agrees

end MeshDiscovery.Session
