import MeshDiscovery.Proofs.Session.Step

namespace MeshDiscovery.Session

/-- The requests that were queued for the stream of a generation, oldest first. -/
def queued (session : Session) (generation : Nat) : List Request :=
  ((session.channel? generation).map Channel.queued).getD []

/-- The generations of the streams that were opened, oldest first. -/
def generations (session : Session) : List Nat :=
  session.channels.map Channel.generation

variable (session : Session)

theorem channel?_isSome_iff {generation : Nat} :
    (session.channel? generation).isSome ↔ generation ∈ session.generations := by
  simp [channel?, generations, List.find?_isSome]

theorem channel?_eq_none {generation : Nat} (absent : generation ∉ session.generations) :
    session.channel? generation = none := by
  rw [← channel?_isSome_iff] at absent
  simpa using absent

theorem mem_of_accepts {generation : Nat} (accepting : session.accepts generation = true) :
    generation ∈ session.generations := by
  rw [← channel?_isSome_iff]
  cases found : session.channel? generation with
  | none => simp [accepts, found] at accepting
  | some channel => rfl

section Modify

variable (change : Channel → Channel)
variable (same : ∀ channel, (change channel).generation = channel.generation)
include same

theorem generations_modifyChannel (generation : Nat) :
    (session.modifyChannel generation change).generations = session.generations := by
  simp only [generations, modifyChannel, List.map_map]
  apply List.map_congr_left
  intro channel _
  simp only [Function.comp_apply]
  split
  · exact same channel
  · rfl

theorem channel?_modifyChannel (generation other : Nat) :
    (session.modifyChannel generation change).channel? other =
      if other = generation then (session.channel? generation).map change
      else session.channel? other := by
  simp only [channel?, modifyChannel, List.find?_map]
  have sameKey : ((fun channel : Channel => decide (channel.generation = other)) ∘
      fun channel => if channel.generation = generation then change channel else channel) =
      fun channel => decide (channel.generation = other) := by
    funext channel
    simp only [Function.comp_apply]
    split
    · rw [same channel]
    · rfl
  rw [sameKey]
  by_cases equal : other = generation
  · subst equal
    rw [if_pos rfl]
    cases found : session.channels.find? fun channel => decide (channel.generation = other) with
    | none => rfl
    | some channel =>
      have key : channel.generation = other := by simpa using List.find?_some found
      simp [key]
  · rw [if_neg equal]
    cases found : session.channels.find? fun channel => decide (channel.generation = other) with
    | none => rfl
    | some channel =>
      have key : channel.generation = other := by simpa using List.find?_some found
      simp [key, equal]

end Modify

section Queue

variable (generation : Nat) (kind : ResourceType) (request : Request)

theorem queue_eq : ∃ channels sent,
    session.queue generation kind request =
      { session with channels, metrics := { session.metrics with sent } } := by
  unfold queue
  split
  · exact ⟨_, _, rfl⟩
  · exact ⟨_, _, rfl⟩

private theorem channel?_queue (accepting : session.accepts generation = true) (other : Nat) :
    (session.queue generation kind request).channel? other =
      if other = generation then (session.channel? generation).map
        fun channel => { channel with queued := channel.queued ++ [request] }
      else session.channel? other := by
  rw [queue, if_pos accepting]
  exact channel?_modifyChannel session
    (fun channel => { channel with queued := channel.queued ++ [request] }) (fun _ => rfl)
    generation other

@[simp] theorem generations_queue :
    (session.queue generation kind request).generations = session.generations := by
  unfold queue
  split
  · exact generations_modifyChannel session
      (fun channel => { channel with queued := channel.queued ++ [request] }) (fun _ => rfl)
      generation
  · rfl

@[simp] theorem accepts_queue (other : Nat) :
    (session.queue generation kind request).accepts other = session.accepts other := by
  by_cases accepting : session.accepts generation = true
  · rw [accepts, channel?_queue session generation kind request accepting, accepts]
    by_cases equal : other = generation
    · subst equal
      rw [if_pos rfl, Option.any_map]
    · rw [if_neg equal]
  · rw [queue, if_neg accepting]

/-- A request is added to its own stream, if that still accepts it. -/
theorem queued_queue (other : Nat) :
    (session.queue generation kind request).queued other =
      session.queued other ++
        if other = generation ∧ session.accepts generation = true then [request] else [] := by
  by_cases accepting : session.accepts generation = true
  · rw [queued, channel?_queue session generation kind request accepting, queued]
    by_cases equal : other = generation
    · subst equal
      obtain ⟨channel, present⟩ : ∃ channel, session.channel? other = some channel :=
        Option.isSome_iff_exists.mp
          ((session.channel?_isSome_iff).mpr (session.mem_of_accepts accepting))
      simp [present, accepting]
    · simp [equal]
  · rw [queue, if_neg accepting]
    simp [accepting]

end Queue

private theorem channel?_shutChannel (generation other : Nat) :
    (session.shutChannel generation).channel? other =
      if other = generation then (session.channel? generation).map
        fun channel => { channel with accepting := false }
      else session.channel? other :=
  channel?_modifyChannel session (fun channel => { channel with accepting := false })
    (fun _ => rfl) generation other

@[simp] theorem generations_shutChannel (generation : Nat) :
    (session.shutChannel generation).generations = session.generations :=
  generations_modifyChannel session (fun channel => { channel with accepting := false })
    (fun _ => rfl) generation

@[simp] theorem queued_shutChannel (generation other : Nat) :
    (session.shutChannel generation).queued other = session.queued other := by
  rw [queued, channel?_shutChannel, queued]
  by_cases equal : other = generation
  · subst equal
    rw [if_pos rfl, Option.map_map]
    rfl
  · rw [if_neg equal]

theorem accepts_shutChannel (generation other : Nat) :
    (session.shutChannel generation).accepts other =
      (session.accepts other && decide (other ≠ generation)) := by
  rw [accepts, channel?_shutChannel, accepts]
  by_cases equal : other = generation
  · subst equal
    rw [if_pos rfl, Option.any_map]
    simp
  · simp [equal]

theorem accepts_of_shutChannel {generation other : Nat}
    (accepting : (session.shutChannel generation).accepts other = true) :
    session.accepts other = true := by
  rw [accepts_shutChannel, Bool.and_eq_true] at accepting
  exact accepting.1

section Open

variable (generation : Nat)

private def entered (initial : List (ResourceType × Request)) : Session :=
  initial.foldl (fun session entry => session.queue generation entry.1 entry.2) session

private theorem entered_eq (initial : List (ResourceType × Request)) : ∃ channels sent,
    entered session generation initial =
      { session with channels, metrics := { session.metrics with sent } } := by
  induction initial generalizing session with
  | nil => exact ⟨_, _, rfl⟩
  | cons entry rest ih =>
    obtain ⟨_, _, first⟩ := session.queue_eq generation entry.1 entry.2
    obtain ⟨channels, sent, later⟩ := ih (session.queue generation entry.1 entry.2)
    refine ⟨channels, sent, ?_⟩
    simp only [entered, List.foldl_cons] at later ⊢
    rw [later, first]

private theorem generations_entered (initial : List (ResourceType × Request)) :
    (entered session generation initial).generations = session.generations := by
  induction initial generalizing session with
  | nil => rfl
  | cons entry rest ih => exact (ih _).trans (session.generations_queue generation entry.1 entry.2)

private theorem accepts_entered (initial : List (ResourceType × Request)) (other : Nat) :
    (entered session generation initial).accepts other = session.accepts other := by
  induction initial generalizing session with
  | nil => rfl
  | cons entry rest ih =>
    exact (ih _).trans (session.accepts_queue generation entry.1 entry.2 other)

private theorem queued_entered (initial : List (ResourceType × Request)) (other : Nat)
    (accepting : session.accepts generation = true) :
    (entered session generation initial).queued other =
      session.queued other ++ if other = generation then initial.map Prod.snd else [] := by
  induction initial generalizing session with
  | nil => simp [entered]
  | cons entry rest ih =>
    have later := ih (session.queue generation entry.1 entry.2) (by simpa using accepting)
    simp only [entered, List.foldl_cons] at later ⊢
    rw [later, queued_queue]
    by_cases equal : other = generation
    · simp [equal, accepting]
    · simp [equal]

/-- The session with the channel and the task of a new stream, before anything is queued. -/
private def widened : Session :=
  { session with
    channels := session.channels ++ [{ generation }]
    tasks := session.tasks ++ [⟨generation, .spawned⟩]
    phase := .active generation false }

private theorem openStream_entered (initial : List (ResourceType × Request)) :
    session.openStream generation initial =
      entered (widened session generation) generation initial :=
  rfl

private theorem channel?_widened (other : Nat) :
    (widened session generation).channel? other =
      (session.channel? other).or (if other = generation then some { generation } else none) := by
  simp only [channel?, widened, List.find?_append]
  congr 1
  by_cases equal : other = generation
  · simp [equal]
  · simp [equal, Ne.symm equal]

variable (initial : List (ResourceType × Request))

theorem openStream_eq : ∃ channels sent,
    session.openStream generation initial =
      { session with
        channels
        metrics := { session.metrics with sent }
        tasks := session.tasks ++ [⟨generation, .spawned⟩]
        phase := .active generation false } :=
  entered_eq (widened session generation) generation initial

@[simp] theorem generations_openStream :
    (session.openStream generation initial).generations = session.generations ++ [generation] := by
  rw [openStream_entered, generations_entered]
  simp [widened, generations]

private theorem accepts_widened (absent : generation ∉ session.generations) :
    (widened session generation).accepts generation = true := by
  simp [accepts, channel?_widened, session.channel?_eq_none absent]

theorem accepts_openStream (absent : generation ∉ session.generations) :
    (session.openStream generation initial).accepts generation = true := by
  rw [openStream_entered, accepts_entered]
  exact accepts_widened session generation absent

theorem queued_openStream (absent : generation ∉ session.generations) (other : Nat) :
    (session.openStream generation initial).queued other =
      if other = generation then initial.map Prod.snd else session.queued other := by
  rw [openStream_entered, queued_entered _ _ _ _ (accepts_widened session generation absent),
    queued, channel?_widened]
  by_cases equal : other = generation
  · subst equal
    simp [session.channel?_eq_none absent]
  · simp [equal, queued]

end Open

end MeshDiscovery.Session
