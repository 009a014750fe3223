import MeshDiscovery.Proofs.Exchange.Cascade
import MeshDiscovery.Proofs.Exchange.Outline

/-!
What an exchange asks the control plane for. The session records the request that goes with what is
wanted of each kind and nothing else, so that what is sent follows from what is wanted, from what
happens to the streams and from the responses that arrive.
-/

namespace MeshDiscovery

open Session.Agrees (requestFor wanting wanting_self wanting_of_ne)

private theorem Line.recorded?_congr {left right : Line} {kind : ResourceType}
    (node : left.node = right.node) (wanted : left.wanted kind = right.wanted kind) :
    left.recorded? kind = right.recorded? kind := by
  rw [recorded?, asksFor, request, wanted, node, recorded?, asksFor, request]

namespace Session

/-- The line of a session whose owner wants some names of each kind. -/
def line (wanted : ResourceType → List String) (session : Session) : Line :=
  ⟨session.node, session.link, wanted, session.mail⟩

/-- What is recorded is what would be requested. -/
def Restating (wanted : ResourceType → List String) (session : Session) : Prop :=
  ∀ kind, session.recorded.get kind = (session.line wanted).recorded? kind

variable {wanted : ResourceType → List String} {session after : Session}

theorem line_congr (node : after.node = session.node) (link : after.link = session.link)
    (mail : ∀ generation, after.mail generation = session.mail generation) :
    after.line wanted = session.line wanted := by
  rw [line, line, node, link, show after.mail = session.mail from funext mail]

theorem Restating.of_recorded (restating : Restating wanted session)
    (node : after.node = session.node)
    (recorded : ∀ kind, after.recorded.get kind = session.recorded.get kind) :
    Restating wanted after := by
  intro kind
  rw [recorded, restating]
  exact Line.recorded?_congr node.symm rfl

theorem Restating.replay (restating : Restating wanted session) :
    session.replay.map Prod.snd = (session.line wanted).replay := by
  have restated (kind : ResourceType) : ((session.recorded.get kind).map fun request =>
      (kind, request)).map (fun entry => entry.2.restated) =
        (session.line wanted).recorded? kind := by
    rw [restating, Line.recorded?]
    split <;> rfl
  rw [Session.replay, recordedRequests, List.map_map, List.map_filterMap]
  exact congrArg (ResourceType.all.filterMap ·) (funext restated)

/-- Without a request or a response, the line is changed by what happens to the streams only. -/
theorem line_step (valid : Coherent session) (begun : session.link ≠ .idle)
    (restating : Restating wanted session) {step : Step}
    (unasked : ∀ request, step ≠ .request request)
    (unread : ∀ generation response, step ≠ .read generation response)
    (free : session.signal? step ≠ none → session.dispatch = none) :
    (session.step step).line wanted =
      (session.signal? step).toList.foldl Line.signal (session.line wanted) := by
  have node := session.node_step step
  have link := link_step valid begun step
  have mail := mail_step valid begun unasked unread free
  cases signal : session.signal? step with
  | none =>
    rw [signal] at link mail
    exact line_congr node link fun generation => by rw [mail]; exact List.append_nil _
  | some happened =>
    rw [signal] at link mail
    have restated : session.reopening happened =
        (session.line wanted).reopening happened := by
      cases happened with
      | reopened lost =>
        rw [reopening, Line.reopening, ← restating.replay, List.map_map]
        rfl
      | _ => rfl
    have posted : (session.step step).mail = fun generation => session.mail generation ++
        onStream generation ((session.line wanted).reopening happened) := by
      funext generation
      rw [mail, ← restated]
      simp
    rw [line, node, link, posted]
    rfl

theorem line_run (valid : Coherent session) (begun : session.link ≠ .idle)
    (restating : Restating wanted session) {steps : List Step}
    (unasked : ∀ step ∈ steps, ∀ request, step ≠ .request request)
    (unread : ∀ step ∈ steps, ∀ generation response, step ≠ .read generation response)
    (free : session.signals steps ≠ [] → session.dispatch = none) :
    (session.run steps).line wanted =
        (session.signals steps).foldl Line.signal (session.line wanted) ∧
      Restating wanted (session.run steps) := by
  induction steps generalizing session with
  | nil => exact ⟨rfl, restating⟩
  | cons step rest ih =>
    obtain ⟨ask, asks⟩ := List.forall_mem_cons.mp unasked
    obtain ⟨read, reads⟩ := List.forall_mem_cons.mp unread
    have split : session.signals (step :: rest) =
        (session.signal? step).toList ++ (session.step step).signals rest := rfl
    rw [split] at free
    have first := line_step valid begun restating ask read fun some => free (by simp [some])
    have recorded (kind : ResourceType) :
        (session.step step).recorded.get kind = session.recorded.get kind := by
      have silent : step.accepted? kind = none := by
        cases step with
        | request request => exact absurd rfl (ask request)
        | _ => rfl
      rw [recorded_step, silent]
      rfl
    have still := restating.of_recorded (session.node_step step) recorded
    have later := ih (valid.step step) (begun_step valid begun step) still asks reads ?_
    · rw [run_cons, later.1, first, split, List.foldl_append]
      exact ⟨rfl, later.2⟩
    · intro some
      exact idle_step (free (by simp [some])) read

private theorem mail_request (valid : Coherent session) (begun : session.link ≠ .idle)
    (kind : ResourceType) (names : List String) (generation : Nat) :
    (session.step (.request (requestFor kind names))).mail generation =
      session.queued generation ++
          onStream generation (session.link.carry (session.signed (requestFor kind names))) ++
        onStream generation session.owed := by
  have link : (session.step (.request (requestFor kind names))).link = session.link :=
    link_step valid begun (.request _)
  have owed : (session.step (.request (requestFor kind names))).owed = session.owed :=
    owed_congr (session.dispatch_request _) link (session.node_step _)
  rw [mail, queued_step valid, sends_request_eq begun (Agrees.kind_requestFor kind names), owed]

end Session

namespace Line

variable {line : Line} {kind : ResourceType} {names : List String}

/-- The request that follows from a batch that refers to some names. -/
def followUp? (line : Line) (kind : ResourceType) (names : List String) : Option Request :=
  kind.referred?.bind fun target =>
    if names.isEmpty then none
    else some (requestFor target ((line.widen target names).wanted target))

theorem mem_wanted_follow {other : ResourceType} {name : String} :
    name ∈ (line.follow kind names).wanted other ↔
      name ∈ line.wanted other ∨ (kind.referred? = some other ∧ name ∈ names) := by
  unfold follow
  split
  · rename_i none
    simp [none]
  · rename_i target referred
    split
    · rename_i empty
      simp [List.isEmpty_iff.mp empty]
    · show name ∈ wanting line.wanted target _ other ↔ _
      by_cases same : other = target
      · rw [same, wanting_self, NameSet.mem_toList, NameSet.mem_ofList, List.mem_append, referred]
        simp
      · rw [wanting_of_ne same, referred]
        simp [Ne.symm same]

theorem ascending_follow (ascending : ∀ other, (line.wanted other).Pairwise (· < ·))
    (other : ResourceType) : ((line.follow kind names).wanted other).Pairwise (· < ·) := by
  unfold follow
  split
  · exact ascending other
  · rename_i target _
    split
    · exact ascending other
    · show (wanting line.wanted target _ other).Pairwise (· < ·)
      by_cases same : other = target
      · rw [same, wanting_self]
        exact NameSet.sorted _
      · rw [wanting_of_ne same]
        exact ascending other

end Line

namespace Session

variable {wanted : ResourceType → List String} {session : Session}

private theorem line_take (idle : session.dispatch = none) (begun : session.link ≠ .idle)
    {generation : Nat} {kind : ResourceType} {response : Response} {notices : List Notice}
    {metrics : Metrics} (valid : Coherent { session with
      notices
      metrics
      dispatch := some ⟨generation, kind, response.version, response.nonce, wanted kind⟩ }) :
    let names := kind.references (response.models kind)
    let line := session.line wanted
    (({ session with
      notices
      metrics
      dispatch := some ⟨generation, kind, response.version, response.nonce, wanted kind⟩ } :
        Session).run ((line.followUp? kind names).map .request).toList).line
          (line.follow kind names).wanted = line.take generation kind response := by
  intro names line
  generalize reading : ({ session with
    notices
    metrics
    dispatch := some ⟨generation, kind, response.version, response.nonce, wanted kind⟩ } :
      Session) = before at valid
  have link : before.link = session.link := reading ▸ rfl
  have node : before.node = session.node := reading ▸ rfl
  have queued (stream : Nat) : before.queued stream = session.mail stream := by
    rw [mail, owed_of_idle idle, onStream_nil, List.append_nil, ← reading]
    rfl
  have owed : before.owed = session.link.carryOn generation (line.acknowledgement kind response) := by
    rw [← reading]
    rfl
  have alone : before.line wanted =
      line.post (session.link.carryOn generation (line.acknowledgement kind response)) := by
    have posted : before.mail = fun stream => session.mail stream ++
        onStream stream (session.link.carryOn generation (line.acknowledgement kind response)) := by
      funext stream
      rw [mail, queued, owed]
    rw [Session.line, node, link, posted]
    rfl
  unfold Line.take Line.follow Line.followUp?
  cases referred : kind.referred? with
  | none => exact alone
  | some target =>
    rw [Option.bind_some]
    dsimp only
    split
    · exact alone
    · have first : before.link ≠ .idle := link ▸ begun
      have posted : (before.step (.request (requestFor target
          ((line.widen target names).wanted target)))).mail = fun stream =>
            session.mail stream ++
              onStream stream (session.link.carry ((line.widen target names).request target)) ++
            onStream stream
              (session.link.carryOn generation (line.acknowledgement kind response)) := by
        funext stream
        rw [mail_request valid first, queued, link, owed, signed, node]
        rfl
      have still := link_step valid first (.request (requestFor target
        ((line.widen target names).wanted target)))
      rw [Option.map_some, Option.toList_some, run_cons, run_nil, Session.line,
        before.node_step, node, posted, still]
      simp only [signal?, link]
      rfl

private theorem Restating.request (restating : Restating wanted session) (kind : ResourceType)
    {names : List String} (named : names ≠ []) :
    Restating (wanting wanted kind names) (session.step (.request (requestFor kind names))) := by
  intro other
  have node := session.node_step (.request (requestFor kind names))
  rw [recorded_step, Step.accepted?, Agrees.kind_requestFor]
  simp only [Option.some.injEq]
  by_cases same : kind = other
  · subst same
    have asked : ((session.step (.request (requestFor kind names))).line
        (wanting wanted kind names)).asksFor kind = true := by
      simp [Line.asksFor, line, wanting_self, named]
    rw [if_pos rfl, Option.map_some, Option.some_or, Line.recorded?, if_pos asked]
    simp only [Line.request, line, wanting_self, node, signed]
  · rw [if_neg same, Option.map_none, Option.none_or, restating]
    exact Line.recorded?_congr node.symm (wanting_of_ne (Ne.symm same) _).symm

private theorem Restating.follow (line : Line) (restating : Restating line.wanted session)
    (kind : ResourceType) (names : List String) :
    Restating (line.follow kind names).wanted
      (session.run ((line.followUp? kind names).map .request).toList) := by
  unfold Line.follow Line.followUp?
  cases kind.referred? with
  | none => exact restating
  | some target =>
    rw [Option.bind_some]
    dsimp only
    split
    · exact restating
    · rename_i named
      obtain ⟨name, member⟩ := List.exists_mem_of_ne_nil names (by simpa using named)
      have grown : name ∈ (line.widen target names).wanted target := by
        show name ∈ wanting line.wanted target _ target
        rw [wanting_self, NameSet.mem_toList, NameSet.mem_ofList]
        exact List.mem_append_right _ member
      have requested := restating.request target (List.ne_nil_of_mem grown)
      have whole : wanting line.wanted target ((line.widen target names).wanted
          target) = (line.widen target names).wanted := by
        funext other
        by_cases same : other = target
        · rw [same, wanting_self]
        · rw [wanting_of_ne same]
          exact (wanting_of_ne same _).symm
      rw [whole] at requested
      exact requested

private theorem run_reports (session : Session) (notices : List Notice) (kind : ResourceType)
    (skipped : Nat) : ∃ reported metrics,
      session.run (notices.map .report ++ [.skip kind skipped]) =
        { session with notices := reported, metrics } := by
  have reports : session.run (notices.map .report) = notices.foldl Session.report session := by
    rw [run, List.foldl_map]
    rfl
  rw [run_append, reports, Deployment.Agreeing.foldl_report]
  exact ⟨_, _, rfl⟩

private theorem line_relay (valid : Coherent session) (begun : session.link ≠ .idle)
    (idle : session.dispatch = none) (restating : Restating wanted session) {generation : Nat}
    {kind : ResourceType} {response : Response} {metrics : Metrics}
    (read : session.step (.read generation response) = { session with
      metrics
      dispatch := some ⟨generation, kind, response.version, response.nonce, wanted kind⟩ })
    (notices : List Notice) (skipped : Nat) :
    let names := kind.references (response.models kind)
    let line := session.line wanted
    let after := session.run (.read generation response :: (notices.map .report ++
      .skip kind skipped :: ((line.followUp? kind names).map .request).toList))
    after.line (line.follow kind names).wanted = line.take generation kind response ∧
      Restating (line.follow kind names).wanted after := by
  intro names line after
  obtain ⟨reported, counted, looked⟩ :=
    (session.step (.read generation response)).run_reports notices kind skipped
  have coherent := (valid.step (.read generation response)).run
    (notices.map .report ++ [.skip kind skipped])
  have whole : after = ((session.step (.read generation response)).run
      (notices.map .report ++ [.skip kind skipped])).run
        ((line.followUp? kind names).map .request).toList := by
    rw [← run_append, List.append_assoc]
    rfl
  rw [looked, read] at coherent whole
  rw [whole]
  refine ⟨line_take idle begun coherent, ?_⟩
  refine .follow line ?_ kind names
  exact restating.of_recorded rfl fun _ => rfl

end Session

namespace Deployment

variable {deployment : Deployment} {step : Move}

/-- What an exchange shows to the control plane. -/
def line (deployment : Deployment) : Line :=
  deployment.session.line deployment.wanted

/-- What an exchange keeps as it asks for resources. -/
structure Asking (deployment : Deployment) : Prop where
  agreeing : Agreeing deployment
  begun : deployment.session.link ≠ .idle
  handled : deployment.session.handled = .const true
  restating : Session.Restating deployment.wanted deployment.session

namespace Agreeing

variable (agreeing : Agreeing deployment) (external : step.External)
include agreeing external

private theorem wanted_of_unhanded (unhanded : deployment.handed? step = none) :
    (deployment.move step).wanted = deployment.wanted := by
  funext kind
  refine ((agreeing.move external).agrees.sorted kind).eq_of_mem_iff (agreeing.agrees.sorted kind) ?_
  intro name
  rw [(agreeing.cascaded external).wanted, unhanded]
  simp

private theorem wanted_of_handed {response : Response} {kind : ResourceType}
    (handed : deployment.handed? step = some response) (typed : response.typeUrl = kind.url) :
    (deployment.move step).wanted =
      (deployment.line.follow kind (kind.references (response.models kind))).wanted := by
  funext other
  refine ((agreeing.move external).agrees.sorted other).eq_of_mem_iff
    (Line.ascending_follow agreeing.agrees.sorted other) ?_
  intro name
  rw [(agreeing.cascaded external).wanted, handed, Line.mem_wanted_follow]
  refine or_congr_right ?_
  constructor
  · rintro ⟨_, same, refers⟩
    cases same
    have referred := refers.referred typed
    exact ⟨referred, (Response.mem_references typed referred).mpr refers⟩
  · rintro ⟨referred, member⟩
    exact ⟨response, rfl, (Response.mem_references typed referred).mp member⟩

omit external in
private theorem followUp?_eq (kind : ResourceType) (models : List kind.Model) :
    deployment.followUp? kind models =
      deployment.line.followUp? kind (kind.references models) := by
  unfold Deployment.followUp? Line.followUp?
  cases kind.referred? with
  | none => rfl
  | some target =>
    rw [Option.bind_some, Option.bind_some]
    split
    · rfl
    · rename_i named
      obtain ⟨names, relay⟩ := agreeing.relays target
      obtain ⟨subscription, present, _⟩ := Option.map_eq_some_iff.mp relay
      have before : deployment.wanted target = subscription.names.toList := by
        simp [wanted, relay?, present]
      obtain ⟨name, member⟩ := List.exists_mem_of_ne_nil _ (by simpa using named)
      have some : (subscription.add (kind.references models)).names.isEmpty = false := by
        have inside : name ∈ (subscription.add (kind.references models)).names :=
          NameSet.mem_insertAll.mpr (.inl member)
        rw [NameSet.isEmpty, List.isEmpty_eq_false_iff]
        exact List.ne_nil_of_mem inside
      have grown : (subscription.add (kind.references models)).names.toList =
          (deployment.line.widen target (kind.references models)).wanted target := by
        show _ = wanting deployment.wanted target _ target
        rw [wanting_self]
        refine (NameSet.sorted _).eq_of_mem_iff (NameSet.sorted _) fun other => ?_
        rw [NameSet.mem_toList, NameSet.mem_toList, NameSet.mem_ofList, List.mem_append]
        show other ∈ subscription.names.insertAll _ ↔ other ∈ deployment.wanted target ∨ _
        rw [NameSet.mem_insertAll, before, NameSet.mem_toList, or_comm]
      rw [present, Option.bind_some, Subscription.request?, some, grown]
      rfl

end Agreeing

/-- A move reads a response, or its steps go about streams and closing only. -/
theorem reading_cases (step : Move) :
    (deployment.agenda = [] ∧ ∃ generation response, step = .read generation ∧
      deployment.incoming? generation = some response ∧
      deployment.stepsOf step = .read generation response ::
        (deployment.handed? step).toList.flatMap deployment.relaySteps) ∨
    (deployment.handed? step = none ∧
      ∀ taken ∈ deployment.stepsOf step, taken = .close ∨ taken.isRoutine = true) := by
  by_cases reading : deployment.agenda = [] ∧ ∃ generation, step = .read generation
  · obtain ⟨waiting, generation, rfl⟩ := reading
    rcases stepsOf_read waiting generation with ⟨response, incoming, steps⟩ | ⟨_, none, routine⟩
    · exact .inl ⟨waiting, generation, response, rfl, incoming, steps⟩
    · exact .inr ⟨none, fun taken member => .inr (routine taken member)⟩
  · have unhanded : deployment.handed? step = none := by
      cases step with
      | read generation =>
        have busy : deployment.agenda.isEmpty = false := by
          cases pending : deployment.agenda with
          | nil => exact absurd ⟨pending, generation, rfl⟩ reading
          | cons => rfl
        simp [handed?, busy]
      | _ => rfl
    rcases deployment.stepsOf_cases step with read | closing | routine
    · exact absurd read reading
    · rw [closing]
      exact .inr ⟨unhanded, fun taken member => .inl (List.mem_singleton.mp member)⟩
    · exact .inr ⟨unhanded, fun taken member => .inr (routine taken member)⟩

private theorem learns_of_relaySteps {response : Response} {taken : Session.Step}
    (member : taken ∈ deployment.relaySteps response) :
    (∀ session : Session, session.learns taken = []) ∧ ∀ kind, taken ≠ .register kind := by
  unfold relaySteps at member
  split at member
  · cases member
  · rcases List.mem_append.mp member with reported | later
    · obtain ⟨notice, _, rfl⟩ := List.mem_map.mp reported
      exact ⟨fun _ => rfl, by simp⟩
    · rcases List.mem_cons.mp later with rfl | asked
      · exact ⟨fun _ => rfl, by simp⟩
      · obtain ⟨request, _, rfl⟩ := List.mem_map.mp (Option.toList_map .. ▸ asked)
        exact ⟨fun _ => rfl, by simp⟩

/-- What a move lets the line know. -/
inductive Told (before after : Deployment) (step : Move) : List Occurrence → Prop where
  | received {generation : Nat} {response : Response} (waiting : before.agenda = [])
      (reads : step = .read generation) (incoming : before.incoming? generation = some response)
      (line : after.line = before.line.receive generation response) :
      Told before after step [.received generation response]
  | signalled (signals : List Session.Signal) (unhanded : before.handed? step = none)
      (line : after.line = signals.foldl Line.signal before.line) :
      Told before after step (signals.map .signalled)

namespace Asking

variable (asking : Asking deployment)
include asking

private theorem hands_iff {generation : Nat} {response : Response}
    (waiting : deployment.agenda = [])
    (incoming : deployment.incoming? generation = some response) :
    (deployment.session.hands (.read generation response)).isEmpty =
      !(ResourceType.ofUrl? response.typeUrl).any deployment.line.asksFor := by
  have task := reading_of_incoming incoming
  have free := asking.agreeing.free waiting generation
  simp only [Session.hands]
  cases ResourceType.ofUrl? response.typeUrl with
  | none => rfl
  | some kind =>
    have recorded : (deployment.session.recorded.get kind).isSome =
        deployment.line.asksFor kind := by
      rw [asking.restating kind, Line.recorded?]
      show (if deployment.line.asksFor kind = true then _ else _ : Option Request).isSome = _
      split <;> simp [*]
    have every : deployment.session.handled.get kind = true := by
      rw [asking.handled, PerType.get_const]
    have asked : ((deployment.session.recorded.get kind).isSome = true ∨
        kind.isWildcardRoot = true) ↔ deployment.line.asksFor kind = true := by
      rw [recorded]
      simp only [Line.asksFor, Bool.or_eq_true]
      grind
    simp only [task, free, every, asked, true_and, Option.any_some]
    split <;> simp [*]

theorem published {generation : Nat} {response : Response} (waiting : deployment.agenda = [])
    (incoming : deployment.incoming? generation = some response) :
    deployment.line.published response =
      (deployment.handed? (.read generation)).toList.flatMap Response.publications := by
  rw [handed?_read waiting, incoming, Option.filter_some, asking.hands_iff waiting incoming, Bool.not_not,
    Line.published]
  split <;> simp

private theorem line_of_unhanded {step : Move} (external : step.External)
    (unhanded : deployment.handed? step = none)
    (routine : ∀ taken ∈ deployment.stepsOf step, taken = .close ∨ taken.isRoutine = true)
    (free : deployment.session.signals (deployment.stepsOf step) ≠ [] →
      deployment.session.dispatch = none) :
    (deployment.move step).line =
        (deployment.session.signals (deployment.stepsOf step)).foldl Line.signal deployment.line ∧
      Session.Restating (deployment.move step).wanted (deployment.move step).session := by
  have agreeing := asking.agreeing
  have ran := Session.line_run agreeing.agrees.coherent asking.begun asking.restating
    (fun taken member => (Session.Step.plain (routine taken member)).1)
    (fun taken member => (Session.Step.plain (routine taken member)).2.1) free
  rw [line, agreeing.wanted_of_unhanded external unhanded, agreeing.session_move external]
  exact ran

section Reading

variable (waiting : deployment.agenda = []) {generation : Nat} {response : Response}
  (incoming : deployment.incoming? generation = some response)
  (steps : deployment.stepsOf (.read generation) = .read generation response ::
    (deployment.handed? (.read generation)).toList.flatMap deployment.relaySteps)
include waiting incoming steps

private theorem line_of_ignored
    (unhanded : (deployment.session.hands (.read generation response)).isEmpty = true)
    (none : (deployment.session.step (.read generation response)).dispatch = none) :
    (deployment.move (.read generation)).line = deployment.line.receive generation response ∧
      Session.Restating (deployment.move (.read generation)).wanted
        (deployment.move (.read generation)).session := by
  have agreeing := asking.agreeing
  have external : (Move.read generation).External := trivial
  have asked := asking.hands_iff waiting incoming
  have handed := handed?_read waiting generation
  rw [incoming, Option.filter_some, unhanded] at handed
  rw [unhanded] at asked
  have same : deployment.line.receive generation response = deployment.line := by
    unfold Line.receive
    split
    · rfl
    · rename_i kind known
      exact if_neg (by simpa [known] using asked)
  rw [handed] at steps
  have ran : (deployment.move (.read generation)).session =
      deployment.session.step (.read generation response) :=
    (agreeing.session_move external).trans (by rw [steps]; rfl)
  rw [same, line, agreeing.wanted_of_unhanded external handed, ran]
  rcases deployment.session.read_cases generation response with
    ⟨notices, metrics, read⟩ | ⟨_, _, _, _, _, _, _, read⟩
  · rw [read]
    exact ⟨Session.line_congr rfl rfl fun _ => rfl, asking.restating.of_recorded rfl fun _ => rfl⟩
  · rw [read] at none
    cases none

private theorem line_of_taken {dispatch : Session.Dispatch}
    (taken : (deployment.session.hands (.read generation response)).isEmpty = false)
    (current : (deployment.session.step (.read generation response)).dispatch = some dispatch) :
    (deployment.move (.read generation)).line = deployment.line.receive generation response ∧
      Session.Restating (deployment.move (.read generation)).wanted
        (deployment.move (.read generation)).session := by
  have agreeing := asking.agreeing
  have external : (Move.read generation).External := trivial
  have idle := agreeing.idle waiting
  have asked := asking.hands_iff waiting incoming
  have handed := handed?_read waiting generation
  rw [incoming, Option.filter_some, taken] at handed
  rw [taken] at asked
  rcases deployment.session.read_cases generation response with
    ⟨notices, metrics, read⟩ | ⟨kind, names, metrics, known, listed, _, _, read⟩
  · rw [read] at current
    exact absurd (current.symm.trans idle) (by simp)
  · obtain rfl := agreeing.agrees.subscribed listed
    have typed := ResourceType.ofUrl?_eq_some_iff.mp known
    have relayed := Session.line_relay agreeing.agrees.coherent asking.begun idle asking.restating
      read (response.defectNotices kind) (response.defects kind).length
    have ran : (deployment.move (.read generation)).session = deployment.session.run
        (.read generation response :: ((response.defectNotices kind).map .report ++
          .skip kind (response.defects kind).length ::
            ((deployment.line.followUp? kind (kind.references (response.models kind))).map
              .request).toList)) := by
      rw [agreeing.session_move external, steps, handed]
      simp only [Bool.not_false, if_true, Option.toList_some, List.flatMap_singleton, relaySteps,
        known, agreeing.followUp?_eq]
    have took : deployment.line.receive generation response =
        deployment.line.take generation kind response := by
      rw [Line.receive, known]
      exact if_pos (by simpa [known] using asked)
    rw [took, line, agreeing.wanted_of_handed external handed typed, ran]
    exact relayed

private theorem line_of_read :
    (deployment.move (.read generation)).line = deployment.line.receive generation response ∧
      Session.Restating (deployment.move (.read generation)).wanted
        (deployment.move (.read generation)).session := by
  have idle := asking.agreeing.idle waiting
  rcases dispatch_of_read asking.agreeing.agrees.coherent idle generation response with
    ⟨unhanded, none⟩ | ⟨_, taken, current, _⟩
  · exact asking.line_of_ignored waiting incoming steps unhanded none
  · exact asking.line_of_taken waiting incoming steps taken current

end Reading

private theorem told_move {step : Move} (external : step.External)
    (quiet : deployment.isDispatching = true → deployment.occurrencesIn step = []) :
    Told deployment (deployment.move step) step
        (Session.trace Session.learns deployment.session (deployment.stepsOf step)) ∧
      Session.Restating (deployment.move step).wanted (deployment.move step).session := by
  rcases deployment.reading_cases step with
    ⟨waiting, generation, response, rfl, incoming, steps⟩ | ⟨unhanded, routine⟩
  · have read := asking.line_of_read waiting incoming steps
    have task := reading_of_incoming incoming
    have free := asking.agreeing.free waiting generation
    have silent : Session.trace Session.learns
        (deployment.session.step (.read generation response))
        ((deployment.handed? (.read generation)).toList.flatMap deployment.relaySteps) = [] := by
      refine Session.trace_eq_nil _ fun taken member => ?_
      obtain ⟨_, _, inside⟩ := List.mem_flatMap.mp member
      exact (learns_of_relaySteps inside).1
    have learnt : deployment.session.learns (.read generation response) =
        [.received generation response] := if_pos (by simp [task, free])
    rw [steps, Session.trace, silent, learnt]
    exact ⟨.received waiting rfl incoming read.1, read.2⟩
  · have learnt := trace_learns
      (fun taken member => (Session.Step.plain (routine taken member)).2.1) deployment.session
    have free (some : deployment.session.signals (deployment.stepsOf step) ≠ []) :
        deployment.session.dispatch = none := by
      cases dealing : deployment.isDispatching with
      | true =>
        have nothing := quiet dealing
        rw [occurrencesIn, List.append_eq_nil_iff, learnt, List.map_eq_nil_iff] at nothing
        exact absurd nothing.1 some
      | false => exact (not_dispatching_iff.mp dealing).1
    have moved := asking.line_of_unhanded external unhanded routine free
    rw [learnt]
    exact ⟨.signalled _ unhanded moved.1, moved.2⟩

/-- An exchange goes on asking for what it wants, and its line follows from what happens. -/
theorem move {step : Move} (external : step.External)
    (quiet : deployment.isDispatching = true → deployment.occurrencesIn step = []) :
    Asking (deployment.move step) ∧ Told deployment (deployment.move step) step
      (Session.trace Session.learns deployment.session (deployment.stepsOf step)) := by
  have told := asking.told_move external quiet
  have unregistered : ∀ taken ∈ deployment.stepsOf step, ∀ kind, taken ≠ .register kind := by
    intro taken member
    rcases deployment.reading_cases step with ⟨_, _, _, _, _, steps⟩ | ⟨_, routine⟩
    · rw [steps] at member
      rcases List.mem_cons.mp member with rfl | later
      · simp
      · obtain ⟨_, _, inside⟩ := List.mem_flatMap.mp later
        exact (learns_of_relaySteps inside).2
    · exact (Session.Step.plain (routine taken member)).2.2
  have moved := asking.agreeing.session_move external
  refine ⟨⟨asking.agreeing.move external, ?_, ?_, told.2⟩, told.1⟩
  · rw [moved]
    exact Session.begun_run asking.agreeing.agrees.coherent asking.begun _
  · rw [moved, Session.handled_run _ unregistered]
    exact asking.handled

end Asking

end Deployment

end MeshDiscovery
