import MeshDiscovery.Proofs.Exchange.Occurrence
import MeshDiscovery.Proofs.Session.Agreement

/-!
What an exchange shows, as far as it follows from what happens to it. To the control plane it shows
its line: the stream in use, what it asks for and the messages on each stream. Its consumers see its
board: what is cached, who listens and who was called with what. On each axis, both take no notice
of what happens on the other one.
-/

namespace MeshDiscovery

open Session.Agrees (requestFor wanting wanting_self wanting_of_ne)

/-- What an exchange shows to the control plane. -/
structure Line where
  node : Node
  link : Session.Link
  /-- The names that are asked for of each kind, in ascending order. -/
  wanted : ResourceType → List String
  /-- The messages for the stream of a generation. -/
  mail : Nat → List Request

/-- What an exchange shows to its consumers. -/
@[ext]
structure Board where
  cached : Axis → String → Option Publication
  placed : ∀ axis key value, cached axis key = some value → value.axis = axis
  /-- The listeners of a name in the order of their registration. -/
  ids : Axis → String → List ListenerId
  /-- The calls of listeners, oldest first. -/
  calls : List (ListenerId × Publication)

structure Outline where
  line : Line
  board : Board

namespace Line

variable (line : Line)

/-- A kind is asked for by name, or all of it if it is a root. -/
def asksFor (kind : ResourceType) : Bool :=
  kind.isWildcardRoot || !(line.wanted kind).isEmpty

/-- The request for all that is asked for of a kind. -/
def request (kind : ResourceType) : Request :=
  { requestFor kind (line.wanted kind) with node := some line.node }

/-- The request that is restated on a new stream, if the kind is asked for. -/
def recorded? (kind : ResourceType) : Option Request :=
  if line.asksFor kind then some (line.request kind) else none

def replay : List Request :=
  ResourceType.all.filterMap line.recorded?

def post (messages : List (Nat × Request)) : Line :=
  { line with
    mail := fun generation => line.mail generation ++ Session.onStream generation messages }

/-- The messages that go with something that happens to a stream. -/
def reopening : Session.Signal → List (Nat × Request)
  | .reopened lost => line.replay.map fun request => (lost + 1, request)
  | _ => []

/-- Something happens to a stream. -/
def signal (signal : Session.Signal) : Line :=
  ({ line with link := line.link.after signal }).post (line.reopening signal)

/-- More names are asked for. -/
def widen (kind : ResourceType) (names : List String) : Line :=
  { line with
    wanted := wanting line.wanted kind (NameSet.ofList (line.wanted kind ++ names)).toList }

/-- What a batch refers to is asked for, if it refers to anything. -/
def follow (kind : ResourceType) (names : List String) : Line :=
  match kind.referred? with
  | none => line
  | some target =>
    if names.isEmpty then line
    else (line.widen target names).post
      (line.link.carry ((line.widen target names).request target))

def acknowledgement (kind : ResourceType) (response : Response) : Request :=
  { line.request kind with version := response.version, nonce := response.nonce }

/-- A response is dealt with. -/
def take (generation : Nat) (kind : ResourceType) (response : Response) : Line :=
  (line.follow kind (kind.references (response.models kind))).post
    (line.link.carryOn generation (line.acknowledgement kind response))

/-- A response is read, and dealt with if its kind is asked for. -/
def receive (generation : Nat) (response : Response) : Line :=
  match ResourceType.ofUrl? response.typeUrl with
  | none => line
  | some kind => if line.asksFor kind then line.take generation kind response else line

/-- The values that a response has published. -/
def published (response : Response) : List Publication :=
  if (ResourceType.ofUrl? response.typeUrl).any line.asksFor then response.publications else []

end Line

namespace Board

variable (board : Board)

/-- A value is cached, and the listeners of its name are called with it in turn. -/
def publish (value : Publication) : Board :=
  { board with
    cached := fun axis key =>
      if value.axis = axis ∧ value.key = key then some value else board.cached axis key
    placed := by
      intro axis key other cached
      split at cached
      · rename_i same
        exact Option.some.inj cached ▸ same.1
      · exact board.placed axis key other cached
    calls := board.calls ++ (board.ids value.axis value.key).map fun id => (id, value) }

/-- A listener is registered, and called if its name has a value. -/
def watch (axis : Axis) (key : String) (id : ListenerId) : Board :=
  { board with
    ids := fun other name =>
      if other = axis ∧ name = key then board.ids axis key ++ [id] else board.ids other name
    calls := board.calls ++ (board.cached axis key).toList.map fun value => (id, value) }

def unwatch (axis : Axis) (key : String) (id : ListenerId) : Board :=
  { board with
    ids := fun other name =>
      if other = axis ∧ name = key then (board.ids axis key).filter (· ≠ id)
      else board.ids other name }

end Board

/-- What an exchange shows after something has happened. -/
def Outline.after (outline : Outline) : Occurrence → Outline
  | .received generation response =>
    ⟨outline.line.receive generation response,
      (outline.line.published response).foldl Board.publish outline.board⟩
  | .signalled signal => ⟨outline.line.signal signal, outline.board⟩
  | .watched axis key id => ⟨outline.line, outline.board.watch axis key id⟩
  | .unwatched axis key id => ⟨outline.line, outline.board.unwatch axis key id⟩

theorem Request.isOn_iff {axis : Axis} {request : Request} {kind : ResourceType}
    (known : ResourceType.ofUrl? request.typeUrl = some kind) :
    request.isOn axis = decide (kind.axis = axis) := by
  rw [isOn, known, Option.any_some]

theorem ResourceType.axis_of_referred {kind target : ResourceType}
    (referred : kind.referred? = some target) : target.axis = kind.axis := by
  cases kind <;> cases referred <;> rfl

/-- What is published of a response belongs to the axis of its kind. -/
theorem Response.axis_of_mem_publications {response : Response} {kind : ResourceType}
    (known : ResourceType.ofUrl? response.typeUrl = some kind) {value : Publication}
    (member : value ∈ response.publications) : value.axis = kind.axis := by
  rw [publications, known] at member
  cases kind with
  | listener | cluster => cases member
  | routeConfiguration =>
    obtain ⟨_, _, inside⟩ := List.mem_flatMap.mp member
    obtain ⟨_, _, rfl⟩ := List.mem_map.mp inside
    rfl
  | clusterLoadAssignment =>
    obtain ⟨_, _, rfl⟩ := List.mem_map.mp member
    rfl

namespace Line

/-- The lines show the same on an axis. -/
structure Alike (axis : Axis) (left right : Line) : Prop where
  node : right.node = left.node
  link : right.link = left.link
  wanted : ∀ kind, kind.axis = axis → right.wanted kind = left.wanted kind
  mail : ∀ generation,
    (right.mail generation).filter (Request.isOn axis) =
      (left.mail generation).filter (Request.isOn axis)

private theorem filter_onStream (axis : Axis) (generation : Nat) (messages : List (Nat × Request)) :
    (Session.onStream generation messages).filter (Request.isOn axis) =
      Session.onStream generation (messages.filter fun message => message.2.isOn axis) := by
  rw [Session.onStream, Session.onStream, List.filter_map, List.filter_filter, List.filter_filter]
  congr 2
  funext message
  exact Bool.and_comm ..

variable {axis : Axis} {left middle right : Line} {kind : ResourceType}

namespace Alike

theorem refl (line : Line) : Alike axis line line :=
  ⟨rfl, rfl, fun _ _ => rfl, fun _ => rfl⟩

theorem symm (alike : Alike axis left right) : Alike axis right left :=
  ⟨alike.node.symm, alike.link.symm, fun kind own => (alike.wanted kind own).symm,
    fun generation => (alike.mail generation).symm⟩

theorem trans (first : Alike axis left middle) (second : Alike axis middle right) :
    Alike axis left right where
  node := second.node.trans first.node
  link := second.link.trans first.link
  wanted kind own := (second.wanted kind own).trans (first.wanted kind own)
  mail generation := (second.mail generation).trans (first.mail generation)

section Own

variable (alike : Alike axis left right) (own : kind.axis = axis)
include alike own

theorem asksFor : right.asksFor kind = left.asksFor kind := by
  rw [Line.asksFor, alike.wanted kind own, Line.asksFor]

theorem request : right.request kind = left.request kind := by
  rw [Line.request, alike.wanted kind own, alike.node, Line.request]

end Own

private theorem post (alike : Alike axis left right) {sent posted : List (Nat × Request)}
    (same : (posted.filter fun message => message.2.isOn axis) =
      sent.filter fun message => message.2.isOn axis) :
    Alike axis (left.post sent) (right.post posted) where
  node := alike.node
  link := alike.link
  wanted := alike.wanted
  mail generation := by
    simp only [Line.post, List.filter_append, alike.mail, filter_onStream, same]

private theorem replay (alike : Alike axis left right) :
    right.replay.filter (Request.isOn axis) = left.replay.filter (Request.isOn axis) := by
  simp only [Line.replay, List.filter_filterMap]
  congr 1
  funext kind
  by_cases own : kind.axis = axis
  · rw [Line.recorded?, alike.asksFor own, alike.request own, Line.recorded?]
  · have off (line : Line) : (line.recorded? kind).filter (Request.isOn axis) = none := by
      have known : ResourceType.ofUrl? (line.request kind).typeUrl = some kind :=
        ResourceType.ofUrl?_url kind
      rw [Line.recorded?]
      split
      · rw [Option.filter_some, Request.isOn_iff known, decide_eq_false own]
        rfl
      · rfl
    rw [off, off]

/-- What happens to the streams belongs to both axes. -/
theorem signal (alike : Alike axis left right) (signal : Session.Signal) :
    Alike axis (left.signal signal) (right.signal signal) := by
  have linked : Alike axis { left with link := left.link.after signal }
      { right with link := right.link.after signal } :=
    ⟨alike.node, by rw [alike.link], alike.wanted, alike.mail⟩
  refine linked.post ?_
  cases signal with
  | reopened lost =>
    simp only [reopening, List.filter_map, Function.comp_def, alike.replay]
  | lost | shut | closed => rfl

private theorem follow (alike : Alike axis left right) (own : kind.axis = axis)
    (names : List String) : Alike axis (left.follow kind names) (right.follow kind names) := by
  unfold Line.follow
  split
  · exact alike
  · rename_i target referred
    have inside := (ResourceType.axis_of_referred referred).trans own
    split
    · exact alike
    · have widened : Alike axis (left.widen target names) (right.widen target names) := by
        refine ⟨alike.node, alike.link, fun other _ => ?_, alike.mail⟩
        by_cases same : other = target
        · simp only [widen, same, wanting_self, alike.wanted target inside]
        · simp only [widen, wanting_of_ne same, alike.wanted other ‹_›]
      refine widened.post ?_
      rw [alike.link, widened.request inside]

private theorem take (alike : Alike axis left right) (own : kind.axis = axis) (generation : Nat)
    (response : Response) :
    Alike axis (left.take generation kind response) (right.take generation kind response) := by
  refine (alike.follow own _).post ?_
  rw [alike.link, Line.acknowledgement, alike.request own, Line.acknowledgement]

/-- A response on the axis or on neither is dealt with alike. -/
theorem receive (alike : Alike axis left right) (generation : Nat) {response : Response}
    (concerning : ∀ kind, ResourceType.ofUrl? response.typeUrl = some kind → kind.axis = axis) :
    Alike axis (left.receive generation response) (right.receive generation response) := by
  unfold Line.receive
  split
  · exact alike
  · rename_i kind known
    have own := concerning kind known
    rw [alike.asksFor own]
    split
    · exact alike.take own generation response
    · exact alike

end Alike

private theorem alike_post (line : Line) {messages : List (Nat × Request)}
    (off : ∀ message ∈ messages, message.2.isOn axis = false) :
    Alike axis line (line.post messages) := by
  refine ⟨rfl, rfl, fun _ _ => rfl, fun generation => ?_⟩
  have none : (messages.filter fun message => message.2.isOn axis) = [] :=
    List.filter_eq_nil_iff.mpr fun message member => by simp [off message member]
  simp only [post, List.filter_append, filter_onStream, none, Session.onStream_nil,
    List.append_nil]

private theorem alike_take (line : Line) (other : kind.axis ≠ axis) (generation : Nat)
    (response : Response) : Alike axis line (line.take generation kind response) := by
  have off {target : ResourceType} (foreign : target.axis ≠ axis) {request : Request}
      (typed : request.typeUrl = target.url) : request.isOn axis = false := by
    have known : ResourceType.ofUrl? request.typeUrl = some target :=
      typed ▸ ResourceType.ofUrl?_url target
    rw [Request.isOn_iff known, decide_eq_false foreign]
  have carried (link : Session.Link) {request : Request} (foreign : request.isOn axis = false) :
      ∀ message ∈ link.carry request, message.2.isOn axis = false := by
    unfold Session.Link.carry
    split <;> simp [foreign]
  have carriedOn (link : Session.Link) {request : Request} (foreign : request.isOn axis = false) :
      ∀ message ∈ link.carryOn generation request, message.2.isOn axis = false := by
    unfold Session.Link.carryOn
    split <;> simp [foreign]
  refine Alike.trans ?_ (alike_post _ (carriedOn _ (off other rfl)))
  unfold follow
  split
  · exact .refl line
  · rename_i target referred
    have foreign : target.axis ≠ axis := by rwa [ResourceType.axis_of_referred referred]
    split
    · exact .refl line
    · have widened (names : List String) : Alike axis line (line.widen target names) := by
        refine ⟨rfl, rfl, fun own inside => wanting_of_ne ?_ _, fun _ => rfl⟩
        rintro rfl
        exact foreign inside
      exact (widened _).trans (alike_post _ (carried _ (off foreign rfl)))

theorem alike_receive (line : Line) (generation : Nat) {response : Response}
    (known : ResourceType.ofUrl? response.typeUrl = some kind) (other : kind.axis ≠ axis) :
    Alike axis line (line.receive generation response) := by
  rw [receive, known]
  dsimp only
  split
  · exact line.alike_take other generation response
  · exact .refl line

theorem Alike.published (alike : Alike axis left right) {response : Response}
    (concerning : ∀ kind, ResourceType.ofUrl? response.typeUrl = some kind → kind.axis = axis) :
    right.published response = left.published response := by
  unfold Line.published
  cases known : ResourceType.ofUrl? response.typeUrl with
  | none => rfl
  | some kind => rw [Option.any_some, Option.any_some, alike.asksFor (concerning kind known)]

end Line

namespace Board

/-- The boards show the same on an axis, with listeners numbered in another way. -/
structure Alike (axis : Axis) (rename : ListenerId → ListenerId) (left right : Board) : Prop where
  cached : ∀ key, right.cached axis key = left.cached axis key
  ids : ∀ key, right.ids axis key = (left.ids axis key).map rename
  calls : (right.calls.filter fun call => call.2.axis = axis) =
    (left.calls.filter fun call => call.2.axis = axis).map fun call => (rename call.1, call.2)

/-- A board shows the same on an axis as before. -/
structure Still (axis : Axis) (before after : Board) : Prop where
  cached : ∀ key, after.cached axis key = before.cached axis key
  ids : ∀ key, after.ids axis key = before.ids axis key
  calls : (after.calls.filter fun call => call.2.axis = axis) =
    before.calls.filter fun call => call.2.axis = axis

variable {axis : Axis} {rename : ListenerId → ListenerId} {left right before after : Board}

namespace Alike

theorem left_still (alike : Alike axis rename left right) (still : Still axis left after) :
    Alike axis rename after right where
  cached key := (alike.cached key).trans (still.cached key).symm
  ids key := by rw [alike.ids, still.ids]
  calls := by rw [alike.calls, still.calls]

theorem right_still (alike : Alike axis rename left right) (still : Still axis right after) :
    Alike axis rename left after where
  cached key := (still.cached key).trans (alike.cached key)
  ids key := (still.ids key).trans (alike.ids key)
  calls := still.calls.trans alike.calls

theorem publish (alike : Alike axis rename left right) {value : Publication}
    (own : value.axis = axis) : Alike axis rename (left.publish value) (right.publish value) where
  cached key := by simp only [Board.publish, alike.cached]
  ids := alike.ids
  calls := by
    simp only [Board.publish, List.filter_append, List.map_append, alike.calls, own, alike.ids]
    congr 1
    simp [List.filter_map, Function.comp_def, own]

theorem publishAll (alike : Alike axis rename left right) {values : List Publication}
    (own : ∀ value ∈ values, value.axis = axis) :
    Alike axis rename (values.foldl Board.publish left) (values.foldl Board.publish right) := by
  induction values generalizing left right with
  | nil => exact alike
  | cons value rest ih =>
    obtain ⟨first, others⟩ := List.forall_mem_cons.mp own
    exact ih (alike.publish first) others

theorem watch (alike : Alike axis rename left right) (key : String) (id : ListenerId) :
    Alike axis rename (left.watch axis key id) (right.watch axis key (rename id)) where
  cached := alike.cached
  ids name := by
    simp only [Board.watch, true_and]
    split
    · rw [alike.ids, List.map_append]
      rfl
    · exact alike.ids name
  calls := by
    simp only [Board.watch, List.filter_append, List.map_append, alike.calls, alike.cached]
    congr 1
    simp [List.filter_map, Function.comp_def]

theorem unwatch (alike : Alike axis rename left right) (injective : Function.Injective rename)
    (key : String) (id : ListenerId) :
    Alike axis rename (left.unwatch axis key id) (right.unwatch axis key (rename id)) where
  cached := alike.cached
  ids name := by
    simp only [Board.unwatch, true_and]
    split
    · rw [alike.ids, List.filter_map]
      congr 2
      funext other
      simp [injective.eq_iff]
    · exact alike.ids name
  calls := alike.calls

end Alike

namespace Still

theorem refl (board : Board) : Still axis board board :=
  ⟨fun _ => rfl, fun _ => rfl, rfl⟩

theorem trans {between : Board} (first : Still axis before between)
    (second : Still axis between after) : Still axis before after where
  cached key := (second.cached key).trans (first.cached key)
  ids key := (second.ids key).trans (first.ids key)
  calls := second.calls.trans first.calls

theorem publish (board : Board) {value : Publication} (other : value.axis ≠ axis) :
    Still axis board (board.publish value) where
  cached key := if_neg fun same => other same.1
  ids _ := rfl
  calls := by simp [Board.publish, List.filter_map, Function.comp_def, other]

theorem publishAll (board : Board) {values : List Publication}
    (other : ∀ value ∈ values, value.axis ≠ axis) :
    Still axis board (values.foldl Board.publish board) := by
  induction values generalizing board with
  | nil => exact .refl board
  | cons value rest ih =>
    obtain ⟨first, others⟩ := List.forall_mem_cons.mp other
    exact (publish board first).trans (ih (board.publish value) others)

theorem watch (board : Board) {own : Axis} (other : own ≠ axis) (key : String) (id : ListenerId) :
    Still axis board (board.watch own key id) where
  cached _ := rfl
  ids _ := if_neg fun same => other same.1.symm
  calls := by
    have none : (((board.cached own key).toList.map fun value => (id, value)).filter
        fun call => call.2.axis = axis) = [] := by
      refine List.filter_eq_nil_iff.mpr fun call member => ?_
      obtain ⟨value, cached, rfl⟩ := List.mem_map.mp member
      have placed := board.placed own key value (Option.mem_toList.mp cached)
      simpa [placed] using other
    rw [Board.watch, List.filter_append, none, List.append_nil]

theorem unwatch (board : Board) {own : Axis} (other : own ≠ axis) (key : String)
    (id : ListenerId) : Still axis board (board.unwatch own key id) where
  cached _ := rfl
  ids _ := if_neg fun same => other same.1.symm
  calls := rfl

end Still

end Board

namespace Outline

/-- The outlines show the same on an axis, with listeners numbered in another way. -/
structure Alike (axis : Axis) (rename : ListenerId → ListenerId) (left right : Outline) :
    Prop where
  line : left.line.Alike axis right.line
  board : left.board.Alike axis rename right.board

variable {axis : Axis} {rename : ListenerId → ListenerId} {left right : Outline}

private theorem Alike.concerning (alike : Alike axis rename left right)
    (injective : Function.Injective rename) {occurrence : Occurrence}
    (concerns : occurrence.concerns axis = true) :
    Alike axis rename (left.after occurrence) (right.after (occurrence.rename rename)) := by
  cases occurrence with
  | received generation response =>
    have concerning (kind : ResourceType)
        (known : ResourceType.ofUrl? response.typeUrl = some kind) : kind.axis = axis := by
      simpa [Occurrence.concerns, Occurrence.axis?, known] using concerns
    refine ⟨alike.line.receive generation concerning, ?_⟩
    show Board.Alike _ _ ((left.line.published response).foldl _ _)
      ((right.line.published response).foldl _ _)
    rw [alike.line.published concerning]
    refine alike.board.publishAll fun value member => ?_
    rw [Line.published] at member
    split at member
    · cases known : ResourceType.ofUrl? response.typeUrl with
      | none =>
        rw [Response.publications, known] at member
        cases member
      | some kind => rw [Response.axis_of_mem_publications known member, concerning kind known]
    · cases member
  | signalled signal => exact ⟨alike.line.signal signal, alike.board⟩
  | watched own key id =>
    obtain rfl : own = axis := by simpa [Occurrence.concerns, Occurrence.axis?] using concerns
    exact ⟨alike.line, alike.board.watch key id⟩
  | unwatched own key id =>
    obtain rfl : own = axis := by simpa [Occurrence.concerns, Occurrence.axis?] using concerns
    exact ⟨alike.line, alike.board.unwatch injective key id⟩

private theorem still (outline : Outline) {occurrence : Occurrence}
    (unconcerned : occurrence.concerns axis = false) :
    outline.line.Alike axis (outline.after occurrence).line ∧
      outline.board.Still axis (outline.after occurrence).board := by
  cases occurrence with
  | received generation response =>
    cases known : ResourceType.ofUrl? response.typeUrl with
    | none => simp [Occurrence.concerns, Occurrence.axis?, known] at unconcerned
    | some kind =>
      have other : kind.axis ≠ axis := by
        simpa [Occurrence.concerns, Occurrence.axis?, known] using unconcerned
      refine ⟨outline.line.alike_receive generation known other, ?_⟩
      refine Board.Still.publishAll outline.board fun value member => ?_
      rw [Line.published] at member
      split at member
      · rwa [Response.axis_of_mem_publications known member]
      · cases member
  | signalled signal => simp [Occurrence.concerns, Occurrence.axis?] at unconcerned
  | watched own key id =>
    have other : own ≠ axis := by simpa [Occurrence.concerns, Occurrence.axis?] using unconcerned
    exact ⟨.refl _, .watch _ other key id⟩
  | unwatched own key id =>
    have other : own ≠ axis := by simpa [Occurrence.concerns, Occurrence.axis?] using unconcerned
    exact ⟨.refl _, .unwatch _ other key id⟩

private theorem Alike.right_foldl (alike : Alike axis rename left right)
    {occurrences : List Occurrence}
    (unconcerned : ∀ occurrence ∈ occurrences, occurrence.concerns axis = false) :
    Alike axis rename left (occurrences.foldl after right) := by
  induction occurrences generalizing right with
  | nil => exact alike
  | cons occurrence rest ih =>
    obtain ⟨own, others⟩ := List.forall_mem_cons.mp unconcerned
    have still := right.still own
    exact ih ⟨alike.line.trans still.1, alike.board.right_still still.2⟩ others

/-- On each axis, an outline follows from what does not happen on the other one. -/
theorem Alike.foldl (alike : Alike axis rename left right)
    (injective : Function.Injective rename) {first second : List Occurrence}
    (same : second.filter (·.concerns axis) =
      (first.filter (·.concerns axis)).map (·.rename rename)) :
    Alike axis rename (first.foldl after left) (second.foldl after right) := by
  induction first generalizing second left right with
  | nil =>
    refine alike.right_foldl fun occurrence member => ?_
    simpa using List.filter_eq_nil_iff.mp same occurrence member
  | cons occurrence rest ih =>
    cases concerns : occurrence.concerns axis with
    | false =>
      have still := left.still concerns
      refine ih ⟨still.1.symm.trans alike.line, alike.board.left_still still.2⟩ ?_
      simpa [concerns] using same
    | true =>
      -- The same happens in the second run, perhaps after something on the other axis.
      rw [List.filter_cons_of_pos concerns, List.map_cons] at same
      obtain ⟨earlier, later, rfl, silent, _, remaining⟩ := List.filter_eq_cons_iff.mp same
      have reached := alike.right_foldl fun other member => by simpa using silent other member
      rw [List.foldl_append, List.foldl_cons, List.foldl_cons]
      exact ih (reached.concerning injective concerns) remaining

end Outline

end MeshDiscovery
