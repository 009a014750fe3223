import MeshDiscovery.Proofs.Session.Recording
import MeshDiscovery.Proofs.Session.Sending
import MeshDiscovery.Proofs.Session.Streams

/-!
What becomes of the responses on a stream. They are handed to their handlers one at a time, and each
is acknowledged where it came from when its handler returns, unless the session was closed or the
transport takes no more requests by then.
-/

namespace MeshDiscovery

/-- What a message says of the response that it acknowledges, and what it finds wrong with it. -/
def Request.echo (request : Request) : String × String × String × Option ErrorDetail :=
  (request.typeUrl, request.version, request.nonce, request.errorDetail)

def Response.echo (response : Response) : String × String × String × Option ErrorDetail :=
  (response.typeUrl, response.version, response.nonce, none)

namespace Session

/-- The response that a step hands to the handler of its kind, with the generation of its stream. A
kind that is asked for by name only and was not asked for gets none. -/
def hands (session : Session) : Step → List (Nat × Response)
  | .read generation response =>
    match ResourceType.ofUrl? response.typeUrl with
    | none => []
    | some kind =>
      if session.hasTask generation .reading = true ∧ session.isBusy generation = false ∧
          session.handled.get kind = true ∧
          ((session.recorded.get kind).isSome = true ∨ kind.isWildcardRoot = true) then
        [(generation, response)]
      else []
  | _ => []

/-- The session was not closed and the transport still takes requests for a stream. -/
def isOpen (session : Session) (generation : Nat) : Bool :=
  decide (session.phase ≠ .closed) && session.accepts generation

/-- For each handler that returns in a step: whether the stream of its response is still open. -/
def returns (session : Session) : Step → List Bool
  | .acknowledge => (session.dispatch.map fun dispatch => session.isOpen dispatch.generation).toList
  | _ => []

/-- The acknowledgements that a step queues, each with the generation of its stream. -/
def acknowledges (session : Session) : Step → List (Nat × Request)
  | .acknowledge => session.sends .acknowledge
  | _ => []

/-- The responses of a stream whose handlers returned while it was open. -/
def answered (generation : Nat) (handed : List (Nat × Response)) (returned : List Bool) :
    List Response :=
  ((handed.zip returned).filter fun entry => entry.1.1 = generation && entry.2).map (·.1.2)

theorem answered_cons (generation : Nat) (entry : Nat × Response) (isOpen : Bool)
    (handed : List (Nat × Response)) (returned : List Bool) :
    answered generation (entry :: handed) (isOpen :: returned) =
      (if entry.1 = generation ∧ isOpen = true then [entry.2] else []) ++
        answered generation handed returned := by
  by_cases same : entry.1 = generation ∧ isOpen = true
  · simp [answered, same]
  · rw [if_neg same]
    simp [answered, same]

/-- Handlers are registered, and stay. -/
theorem handled_step (session : Session) {step : Step} (other : ∀ kind, step ≠ .register kind) :
    (session.step step).handled = session.handled := by
  cases step with
  | register kind => exact absurd rfl (other kind)
  | skip => rfl
  | request request =>
    obtain ⟨_, _, _, _, _, same⟩ := session.request_eq request
    exact (congrArg Session.handled same).trans rfl
  | acknowledge =>
    obtain ⟨_, _, same⟩ := session.acknowledge_eq
    exact (congrArg Session.handled same).trans rfl
  | fire generation =>
    obtain ⟨_, _, _, _, _, _, same⟩ := session.fireTimer_eq generation
    exact (congrArg Session.handled same).trans rfl
  | read generation response =>
    rcases session.read_cases generation response with ⟨_, _, same⟩ | ⟨_, _, _, _, _, _, _, same⟩
    · exact (congrArg Session.handled same).trans rfl
    · exact (congrArg Session.handled same).trans rfl
  | _ =>
    obtain ⟨_, _, _, _, _, _, _, _, _, same⟩ := session.quiet_eq rfl other (by simp)
    exact (congrArg Session.handled same).trans rfl

theorem handled_run (session : Session) {steps : List Step}
    (others : ∀ step ∈ steps, ∀ kind, step ≠ .register kind) :
    (session.run steps).handled = session.handled := by
  induction steps generalizing session with
  | nil => rfl
  | cons step rest ih =>
    obtain ⟨own, others⟩ := List.forall_mem_cons.mp others
    exact (ih (session.step step) others).trans (session.handled_step own)

/-- What a step makes of the response at hand: which one is handed over, whether its stream is open
when a handler returns, and what is queued for it. -/
inductive Handling :
    Option Dispatch → List (Nat × Response) → List Bool → List (Nat × Request) → Option Dispatch →
      Prop where
  | kept (current : Option Dispatch) : Handling current [] [] [] current
  | begun (dispatch : Dispatch) (response : Response)
      (echo : response.echo = (dispatch.kind.url, dispatch.version, dispatch.nonce, none)) :
      Handling none [(dispatch.generation, response)] [] [] (some dispatch)
  | answered (dispatch : Dispatch) (message : Request)
      (echo : message.echo = (dispatch.kind.url, dispatch.version, dispatch.nonce, none)) :
      Handling (some dispatch) [] [true] [(dispatch.generation, message)] none
  | dropped (dispatch : Dispatch) : Handling (some dispatch) [] [false] [] none

variable {session : Session}

private theorem handling_read (valid : Coherent session) (generation : Nat) (response : Response) :
    Handling session.dispatch (session.hands (.read generation response)) [] []
      (session.step (.read generation response)).dispatch := by
  simp only [step, hands]
  by_cases able : session.hasTask generation .reading = true ∧ session.isBusy generation = false
  · obtain ⟨reading, free⟩ := able
    have idle := valid.no_dispatch reading (.inr free)
    rw [if_pos (by simp [reading, free]), idle]
    unfold receive
    cases known : ResourceType.ofUrl? response.typeUrl with
    | none => simpa [report, idle] using Handling.kept none
    | some kind =>
      by_cases handled : session.handled.get kind = true
      · have counted : (session.count (·.countReceived kind)).subscribedNames? kind =
          session.subscribedNames? kind := rfl
        simp only [handled, if_true, reading, free, true_and, counted]
        cases recorded : session.recorded.get kind with
        | some request =>
          simp only [subscribedNames?, recorded, Option.isSome_some, true_or, if_true]
          exact .begun ⟨generation, kind, response.version, response.nonce, request.names⟩ response
            (by rw [Response.echo, ← ResourceType.url_of_ofUrl? known])
        | none =>
          by_cases root : kind.isWildcardRoot = true
          · simp only [subscribedNames?, recorded, root, or_true, if_true]
            exact .begun ⟨generation, kind, response.version, response.nonce, []⟩ response
              (by rw [Response.echo, ← ResourceType.url_of_ofUrl? known])
          · simpa [subscribedNames?, recorded, root, report, count, idle] using Handling.kept none
      · simpa [handled, report, idle] using Handling.kept none
  · have nothing : session.hands (.read generation response) = [] := by
      unfold hands
      dsimp only
      split
      · rfl
      · rw [if_neg fun all => able ⟨all.1, all.2.1⟩]
    simp only [hands] at nothing
    rw [nothing, if_neg (by simpa using able)]
    exact .kept session.dispatch

private theorem current_of_dispatch (valid : Coherent session) {dispatch : Dispatch}
    (current : session.dispatch = some dispatch) :
    session.current? = some dispatch.generation ↔ session.phase ≠ .closed := by
  have task : session.hasTask dispatch.generation .reading = true :=
    hasTask_iff.mpr (by rw [valid.busy dispatch current]; exact List.mem_singleton_self _)
  obtain ⟨_, _, _, active | closed⟩ := valid.of_task task
  · simp [current?, active]
  · simp [current?, closed]

private theorem handling_acknowledge (valid : Coherent session) :
    Handling session.dispatch [] (session.returns .acknowledge) (session.acknowledges .acknowledge)
      session.acknowledge.dispatch := by
  obtain ⟨_, _, same⟩ := session.acknowledge_eq
  rw [same]
  simp only [returns, acknowledges, sends]
  cases current : session.dispatch with
  | none => exact .kept none
  | some dispatch =>
    simp only [Option.map_some, Option.toList_some, current_of_dispatch valid current]
    by_cases usable : session.phase ≠ .closed ∧ session.accepts dispatch.generation = true
    · rw [if_pos usable, show session.isOpen dispatch.generation = true by simp [isOpen, usable]]
      exact .answered dispatch (session.acknowledgement dispatch) rfl
    · rw [if_neg usable, show session.isOpen dispatch.generation = false by
        simpa [isOpen] using usable]
      exact .dropped dispatch

/-- Only reading and a handler's return change what is at hand. -/
theorem handling_step (valid : Coherent session) (step : Step) :
    Handling session.dispatch (session.hands step) (session.returns step)
      (session.acknowledges step) (session.step step).dispatch := by
  by_cases quiet : step.isQuiet = true
  · rw [(frame_step session quiet).dispatch]
    cases step <;> first | exact .kept session.dispatch | cases quiet
  · cases step with
    | request request =>
      rw [Session.step, session.dispatch_request]
      exact .kept session.dispatch
    | fire generation =>
      rw [Session.step, session.dispatch_fireTimer]
      exact .kept session.dispatch
    | read generation response => exact handling_read valid generation response
    | acknowledge => exact handling_acknowledge valid
    | _ => exact absurd rfl quiet

/-- The response that is dealt with, as it was handed over. -/
inductive AtHand : Option Dispatch → List (Nat × Response) → Prop where
  | idle : AtHand none []
  | busy (dispatch : Dispatch) (response : Response)
      (echo : response.echo = (dispatch.kind.url, dispatch.version, dispatch.nonce, none)) :
      AtHand (some dispatch) [(dispatch.generation, response)]

/-- Each response that is handed over is followed by the return of its handler, and what is queued
on a stream by returns answers, in order, its responses whose handlers returned in time. -/
theorem answered_run (valid : Coherent session) {pending : List (Nat × Response)}
    (hand : AtHand session.dispatch pending) (steps : List Step) :
    (pending ++ trace hands session steps).length =
        (trace returns session steps).length + (session.run steps).dispatch.toList.length ∧
      ∀ generation, (onStream generation (trace acknowledges session steps)).map Request.echo =
        (answered generation (pending ++ trace hands session steps)
          (trace returns session steps)).map Response.echo := by
  induction steps generalizing session pending with
  | nil =>
    refine ⟨?_, fun generation => by simp [trace, answered]⟩
    show (pending ++ []).length = 0 + session.dispatch.toList.length
    generalize session.dispatch = current at hand
    cases hand <;> rfl
  | cons step rest ih =>
    have dealt := handling_step valid step
    have later := @ih (session.step step) (valid.step step)
    simp only [trace, run_cons]
    generalize session.dispatch = before at hand dealt
    generalize (session.step step).dispatch = after at dealt later
    generalize session.hands step = handed at dealt
    generalize session.returns step = returned at dealt
    generalize session.acknowledges step = queued at dealt
    -- The response at hand is the only one that a return can belong to.
    cases dealt with
    | kept => exact later hand
    | begun dispatch response echo =>
      cases hand
      exact later (.busy dispatch response echo)
    | answered dispatch message echo =>
      cases hand with
      | busy _ response sameEcho =>
        obtain ⟨count, answers⟩ := later .idle
        refine ⟨?_, fun generation => ?_⟩
        · simp only [List.nil_append] at count
          simp only [List.nil_append, List.singleton_append, List.length_cons, count]
          omega
        · rw [onStream_append, onStream_singleton, List.map_append, answers]
          simp only [List.nil_append, List.singleton_append, answered_cons, List.map_append]
          by_cases same : dispatch.generation = generation
          · simp [same, echo, sameEcho]
          · simp [same, Ne.symm same]
    | dropped dispatch =>
      cases hand with
      | busy _ response sameEcho =>
        obtain ⟨count, answers⟩ := later .idle
        refine ⟨?_, fun generation => ?_⟩
        · simp only [List.nil_append] at count
          simp only [List.nil_append, List.singleton_append, List.length_cons, count]
          omega
        · simp only [List.nil_append, List.singleton_append, answered_cons, answers]
          simp

private theorem queued_answer (valid : Coherent session) (during later : List Step)
    (generation : Nat) :
    (session.run (during ++ .acknowledge :: later)).queued generation =
      session.queued generation ++ onStream generation (session.sent during) ++
        onStream generation ((session.run during).acknowledges .acknowledge) ++
          onStream generation (((session.run during).step .acknowledge).sent later) := by
  have handled := valid.run during
  rw [run_append, run_cons, queued_run (handled.step .acknowledge), queued_step handled,
    queued_run valid, acknowledges]

private theorem acknowledges_at_hand (valid : Coherent session) {dispatch : Dispatch}
    (current : session.dispatch = some dispatch) (generation : Nat) :
    (onStream generation (session.acknowledges .acknowledge)).map Request.echo =
      if generation = dispatch.generation ∧ session.isOpen dispatch.generation = true then
        [(dispatch.kind.url, dispatch.version, dispatch.nonce, none)]
      else [] := by
  have dealt := handling_acknowledge valid
  simp only [returns, current, Option.map_some, Option.toList_some] at dealt
  generalize session.acknowledges .acknowledge = queued at dealt
  generalize session.acknowledge.dispatch = after at dealt
  cases answer : session.isOpen dispatch.generation with
  | true =>
    rw [answer] at dealt
    cases dealt with
    | answered _ message echo =>
      rw [onStream_singleton]
      by_cases same : generation = dispatch.generation
      · simp [same, echo]
      · simp [same]
  | false =>
    rw [answer] at dealt
    cases dealt
    simp

private theorem dispatch_of_hands (valid : Coherent session) {generation : Nat}
    {response : Response}
    (handed : session.hands (.read generation response) ≠ []) :
    ∃ dispatch, (session.step (.read generation response)).dispatch = some dispatch ∧
      dispatch.generation = generation ∧
      response.echo = (dispatch.kind.url, dispatch.version, dispatch.nonce, none) := by
  have only : session.hands (.read generation response) = [(generation, response)] := by
    unfold hands at handed ⊢
    dsimp only at handed ⊢
    split at handed
    · exact absurd rfl handed
    · split at handed
      · simp_all
      · exact absurd rfl handed
  have dealt := handling_read valid generation response
  rw [only] at dealt
  generalize session.dispatch = before at dealt
  generalize (session.step (.read generation response)).dispatch = after at dealt
  cases dealt with
  | begun dispatch _ echo => exact ⟨dispatch, rfl, rfl, echo⟩

/-- The stream of a generation was opened, and its task is gone. -/
def Over (attempts : Attempts) (generation : Nat) : Prop :=
  generation < attempts.opened ∧ ∀ stage, ⟨generation, stage⟩ ∉ attempts.tasks

/-- No task comes back: a new one belongs to a new stream. -/
theorem Over.progress {before after : Attempts} {asking admitting : List Nat} {generation : Nat}
    (past : Over before generation) (progress : Progress before asking admitting after) :
    Over after generation := by
  obtain ⟨opened, gone⟩ := past
  cases progress with
  | kept => exact ⟨opened, gone⟩
  | ended => exact ⟨opened, by simp⟩
  | spawned next connects =>
    have below : generation < next := opened
    refine ⟨Nat.lt_succ_of_lt opened, fun stage member => ?_⟩
    obtain ⟨rfl, _⟩ : generation = next ∧ stage = .spawned := by simpa using member
    exact Nat.lt_irrefl _ below
  | asked other | admitted other =>
    refine ⟨opened, fun stage member => ?_⟩
    obtain ⟨rfl, _⟩ : generation = other ∧ stage = _ := by simpa using member
    exact gone _ (List.mem_singleton_self _)
  | left => exact ⟨opened, by simp⟩

private theorem silent_run (valid : Coherent session) {generation : Nat}
    (past : Over session.attempts generation) (steps : List Step) :
    (∀ handed ∈ trace hands session steps, handed.1 ≠ generation) ∧
      ∀ queued ∈ trace acknowledges session steps, queued.1 ≠ generation := by
  -- No task of a stream that is over comes back, and only its task reads from it.
  induction steps generalizing session with
  | nil => simp [trace]
  | cons step rest ih =>
    obtain ⟨laterHanded, laterQueued⟩ :=
      ih (valid.step step) (past.progress (progress_step valid step))
    have taskless : session.hasTask generation .reading ≠ true := by
      intro task
      exact past.2 .reading (hasTask_iff.mp task)
    constructor
    · intro handed member
      rcases List.mem_append.mp member with now | later
      · intro same
        cases step with
        | read reading response =>
          simp only [hands] at now
          split at now
          · cases now
          · split at now
            · rename_i able
              rw [List.mem_singleton.mp now] at same
              exact taskless (same ▸ able.1)
            · cases now
        | _ => cases now
      · exact laterHanded handed later
    · intro queued member
      rcases List.mem_append.mp member with now | later
      · intro same
        cases step with
        | acknowledge =>
          simp only [acknowledges, sends] at now
          split at now
          · cases now
          · rename_i dispatch current
            split at now
            · rw [List.mem_singleton.mp now] at same
              have reading := valid.busy dispatch current
              exact past.2 .reading (by simp [attempts, reading, ← same])
            · cases now
        | _ => cases now
      · exact laterQueued queued later

private theorem acknowledges_sublist (steps : List Step) :
    (trace acknowledges session steps).Sublist (session.sent steps) := by
  induction steps generalizing session with
  | nil => exact List.Sublist.slnil
  | cons step rest ih =>
    refine List.Sublist.append ?_ ih
    cases step <;> first | exact List.Sublist.refl _ | exact List.nil_sublist _

/-- The acknowledgements on a stream are, in order, one for each of its responses that was handed
over and whose handler returned while the stream was open. Each is queued when the handler returns,
so after all that the handler has asked for. Once a stream has failed or ended, nothing of it is
handed over or acknowledged. -/
theorem responses_acknowledged_in_order (node : Node) (steps : List Step) :
    let session := (fresh node).run steps
    let handed := trace hands (fresh node) steps
    let returned := trace returns (fresh node) steps
    let queued := trace acknowledges (fresh node) steps
    handed.length = returned.length + session.dispatch.toList.length ∧
    (∀ generation, (onStream generation queued).Sublist (session.queued generation) ∧
      (onStream generation queued).map Request.echo =
        (answered generation handed returned).map Response.echo) ∧
    (∀ earlier generation response during later,
      steps = earlier ++ .read generation response :: (during ++ .acknowledge :: later) →
      Step.acknowledge ∉ during →
      ((fresh node).run earlier).hands (.read generation response) ≠ [] →
      let reading := (fresh node).run (earlier ++ [.read generation response])
      let returning := reading.run during
      ∀ stream,
        session.queued stream =
          reading.queued stream ++ onStream stream (reading.sent during) ++
            onStream stream (returning.acknowledges .acknowledge) ++
              onStream stream ((returning.step .acknowledge).sent later) ∧
        (onStream stream (returning.acknowledges .acknowledge)).map Request.echo =
          if stream = generation ∧ returning.isOpen generation = true then [response.echo]
          else []) ∧
    ∀ earlier generation ending later, steps = earlier ++ .finish generation ending :: later →
      let before := (fresh node).run earlier
      let after := before.step (.finish generation ending)
      before.hasTask generation .reading = true → before.isBusy generation = false →
      (∀ handed ∈ trace hands after later, handed.1 ≠ generation) ∧
        ∀ queued ∈ trace acknowledges after later, queued.1 ≠ generation := by
  intro session handed returned queued
  have initially := coherent_fresh node
  obtain ⟨count, answers⟩ := answered_run initially .idle steps
  refine ⟨count, fun generation => ⟨?among, answers generation⟩, ?order, ?ended⟩
  case among =>
    have whole := queued_run initially steps generation
    have unopened : (fresh node).queued generation = [] := rfl
    rw [unopened, List.nil_append] at whole
    show (onStream generation queued).Sublist (((fresh node).run steps).queued generation)
    rw [whole]
    exact ((acknowledges_sublist steps).filter _).map _
  case order =>
    intro earlier generation response during later split handling taken reading returning stream
    have reading_eq : reading = ((fresh node).run earlier).step (.read generation response) := by
      simp only [reading, run_append, run_cons, run_nil]
    have before := initially.run earlier
    have valid : Coherent reading := reading_eq ▸ before.step _
    obtain ⟨dispatch, current, sameStream, echo⟩ := dispatch_of_hands before taken
    have kept : returning.dispatch = some dispatch :=
      dispatch_run valid (reading_eq ▸ current) handling
    constructor
    · have same : session = reading.run (during ++ .acknowledge :: later) := by
        simp only [session, split, reading_eq, run_append, run_cons]
      rw [same]
      exact queued_answer valid during later stream
    · rw [acknowledges_at_hand (valid.run during) kept, sameStream, echo]
  case ended =>
    intro earlier generation ending later _ before after reading free
    have valid : Coherent before := initially.run earlier
    obtain ⟨alone, _, opened, _⟩ := valid.of_task reading
    have gone : after.tasks = [] := by
      simp only [after, step, free, Bool.false_eq_true, if_false, streamEnded, if_pos reading,
        scheduleRecovery]
      split
      · exact endTask_alone alone
      · exact endTask_alone alone
    have numbers : after.generations = before.generations :=
      (frame_step before rfl).generations
    have past : Over after.attempts generation := by
      refine ⟨?_, by simp [attempts, gone]⟩
      show generation < after.generations.length
      rw [numbers, opened]
      exact Nat.lt_succ_self generation
    exact silent_run (valid.step _) past later

/-- What a handler asks for on reading a listener precedes the acknowledgement of the listener. -/
theorem cascaded_request_precedes_acknowledgement :
    let node : Node := ⟨"n", "mesh", "client", "1"⟩
    let listeners : Request := { typeUrl := ResourceType.listener.url }
    let routes : Request := { typeUrl := ResourceType.routeConfiguration.url, names := ["a"] }
    let response : Response :=
      { typeUrl := ResourceType.listener.url, version := "1", nonce := "n1" }
    let earlier : List Step :=
      [.register .listener, .register .routeConfiguration, .request listeners, .start 0, .accept 0]
    let session := (fresh node).run
      (earlier ++ .read 0 response :: ([.request routes] ++ [.acknowledge]))
    (session.queued 0).map Request.echo = [listeners.echo, routes.echo, response.echo] := by
  intro node listeners routes response earlier session
  obtain ⟨_, _, order, _⟩ := responses_acknowledged_in_order node
    (earlier ++ .read 0 response :: ([.request routes] ++ [.acknowledge]))
  obtain ⟨queued, answer⟩ :=
    order earlier 0 response [.request routes] [] rfl (by simp) (by decide) 0
  rw [queued, List.map_append, List.map_append, answer]
  decide

end Session

end MeshDiscovery
