import MeshDiscovery.Proofs.Exchange.Outline

/-!
What an exchange shows to its consumers once everything that is left to be published was. Publishing
goes on without a change of that, so it follows from the batches that arrive and from what consumers
do in between.
-/

namespace MeshDiscovery

namespace Board

/-- Takes up what remains to be done for publishing values, given the rosters that there are. -/
def finish (opened? : Axis → String → Option ListenerId) (board : Board) : Frame → Board
  | .publish values => values.foldl publish board
  | .notify value opened start =>
    if opened? value.axis value.key = some opened then
      { board with
        calls := board.calls ++
          ((board.ids value.axis value.key).filter (start ≤ ·)).map fun id => (id, value) }
    else board
  | _ => board

/-- The board after something has happened to the cache, when all is published. -/
def heed (board : Board) : Incident → Board
  | .updated values => values.foldl publish board
  | .watched axis key id => board.watch axis key id
  | .removed axis key id => board.unwatch axis key id
  | .published _ => board

end Board

namespace Deployment

/-- What consumers see at the moment. -/
def present (deployment : Deployment) : Board where
  cached := deployment.cache.current?
  placed _ _ _ current := (Cache.place_of_current? current).1
  ids := deployment.cache.ids
  calls := deployment.calls

/-- What consumers see once everything is published. -/
def board (deployment : Deployment) : Board :=
  deployment.publishing.foldl (Board.finish deployment.cache.opened?) deployment.present

variable {deployment before after : Deployment} {incident : Option Incident}

theorem board_of_idle (idle : deployment.publishing = []) : deployment.board = deployment.present := by
  rw [board, idle, List.foldl_nil]

private theorem board_eq {frames : List Frame} (publishing : after.publishing = frames)
    (opened : ∀ axis key, after.cache.opened? axis key = before.cache.opened? axis key)
    {board : Board} (present : after.present = board) :
    after.board = frames.foldl (Board.finish before.cache.opened?) board := by
  have same : after.cache.opened? = before.cache.opened? :=
    funext fun axis => funext fun key => opened axis key
  rw [Deployment.board, publishing, same, present]

private theorem present_congr {cache : Cache Listener} (alike : after.cache.Alike cache)
    {board : Board} (current : ∀ axis key, cache.current? axis key = board.cached axis key)
    (ids : ∀ axis key, cache.ids axis key = board.ids axis key)
    (calls : after.calls = board.calls) : after.present = board := by
  refine Board.ext ?_ ?_ calls
  · funext axis key
    exact (alike.current? axis key).trans (current axis key)
  · funext axis key
    exact (alike.ids axis key).trans (ids axis key)

private theorem board_published {value : Publication} {more : List Publication}
    {outer : List Frame} (next : before.publishing = .publish (value :: more) :: outer)
    (cache : after.cache.Alike (before.cache.store value)) (calls : after.calls = before.calls)
    (publishing : after.publishing =
      ((before.cache.opened? value.axis value.key).map fun opened =>
        Frame.notify value opened 0).toList ++ .publish more :: outer) :
    after.board = before.board := by
  have opened (axis : Axis) (key : String) :
      after.cache.opened? axis key = before.cache.opened? axis key :=
    (cache.opened? axis key).trans (Cache.opened?_store ..)
  have stored : after.present = { before.present.publish value with calls := before.calls } := by
    refine present_congr cache (fun axis key => ?_) (fun axis key => Cache.ids_store ..) calls
    exact Cache.current?_store ..
  rw [board_eq publishing opened stored, board, next]
  cases roster : before.cache.opened? value.axis value.key with
  | none =>
    have nobody : before.cache.ids value.axis value.key = [] := by
      refine List.eq_nil_iff_forall_not_mem.mpr fun id member => ?_
      obtain ⟨opened, present⟩ := before.cache.opened?_of_mem_ids member
      rw [roster] at present
      cases present
    have told : before.present.publish value =
        { before.present.publish value with calls := before.calls } := by
      refine Board.ext rfl rfl ?_
      show before.calls ++ (before.cache.ids value.axis value.key).map _ = before.calls
      rw [nobody, List.map_nil, List.append_nil]
    rw [Option.map_none, Option.toList_none, List.nil_append, List.foldl_cons, List.foldl_cons,
      Board.finish, Board.finish, List.foldl_cons, ← told]
  | some opened =>
    have told : Board.finish before.cache.opened?
        { before.present.publish value with calls := before.calls } (.notify value opened 0) =
          before.present.publish value := by
      rw [Board.finish, if_pos roster]
      refine Board.ext rfl rfl ?_
      show before.calls ++ ((before.cache.ids value.axis value.key).filter (0 ≤ ·)).map _ = _
      rw [List.filter_eq_self.mpr fun id _ => by simp]
      rfl
    rw [Option.map_some, Option.toList_some, List.cons_append, List.nil_append, List.foldl_cons,
      List.foldl_cons, List.foldl_cons, told, Board.finish, Board.finish, List.foldl_cons]

private theorem finish_called (ordered : before.cache.Orderly) {value : Publication}
    {opened start id : ListenerId}
    (upcoming : before.cache.upcoming? value.axis value.key opened start = some id) :
    Board.finish before.cache.opened?
        { before.present with calls := before.calls ++ [(id, value)] }
          (.notify value opened (id + 1)) =
      Board.finish before.cache.opened? before.present (.notify value opened start) := by
  obtain ⟨roster, _, _⟩ := ordered.upcoming upcoming
  rw [Cache.upcoming?, if_pos roster] at upcoming
  rw [Board.finish, Board.finish, if_pos roster, if_pos roster]
  refine Board.ext rfl rfl ?_
  show before.calls ++ [(id, value)] ++
    ((before.cache.ids value.axis value.key).filter (id + 1 ≤ ·)).map _ =
      before.calls ++ ((before.cache.ids value.axis value.key).filter (start ≤ ·)).map _
  rw [Cache.Orderly.filter_of_find? (ordered.ascending _ _) upcoming, List.append_assoc]
  rfl

private theorem finish_told {value : Publication} {opened start : ListenerId}
    (none : before.cache.upcoming? value.axis value.key opened start = Option.none) :
    Board.finish before.cache.opened? before.present (.notify value opened start) =
      before.present := by
  rw [Board.finish]
  split
  · rename_i roster
    have past := Cache.lt_of_upcoming?_eq_none none roster
    refine Board.ext rfl rfl ?_
    show before.calls ++ ((before.cache.ids value.axis value.key).filter (start ≤ ·)).map _ =
      before.calls
    rw [List.filter_eq_nil_iff.mpr fun id member => by simpa using past id member]
    exact List.append_nil _
  · rfl

/-- Publishing goes on without a change of the board; arriving batches and consumers change it. -/
theorem board_turned (ordered : before.cache.Orderly) (turned : Turned before after incident)
    (alone : ∀ axis key id, incident = some (.watched axis key id) ∨
      incident = some (.removed axis key id) → before.publishing = []) :
    after.board = incident.toList.foldl Board.heed before.board := by
  have same (cache : after.cache.Alike before.cache) (calls : after.calls = before.calls) :
      after.present = before.present :=
    present_congr cache (fun _ _ => rfl) (fun _ _ => rfl) calls
  cases turned with
  | quiet effects =>
    rw [board_eq effects.publishing effects.cache.opened?
      (same effects.cache (effects.calls.trans (List.append_nil _)))]
    rfl
  | @watched axis key listener effects =>
    have idle := alone axis key _ (.inl rfl)
    rw [board_of_idle (effects.publishing.trans idle), Option.toList_some, List.foldl_cons,
      List.foldl_nil, board_of_idle idle]
    refine present_congr effects.cache (fun _ _ => Cache.current?_add ..) (fun other name => ?_)
      effects.calls
    rw [Cache.ids_add]
    rfl
  | @removed axis key id member effects =>
    have idle := alone axis key id (.inr rfl)
    rw [board_of_idle (effects.publishing.trans idle), Option.toList_some, List.foldl_cons,
      List.foldl_nil, board_of_idle idle]
    refine present_congr effects.cache (fun _ _ => Cache.current?_remove ..) (fun other name => ?_)
      (effects.calls.trans (List.append_nil _))
    rw [Cache.ids_remove]
    rfl
  | updated idle cache calls publishing =>
    rw [board_eq publishing cache.opened? (same cache calls), Option.toList_some,
      List.foldl_cons, List.foldl_nil, board_of_idle idle]
    rfl
  | published next cache calls publishing => exact board_published next cache calls publishing
  | finished next cache calls publishing =>
    rw [board_eq publishing cache.opened? (same cache calls), Option.toList_none, List.foldl_nil,
      board, next]
    rfl
  | @called value opened start id outer next upcoming cache calls publishing =>
    have made : after.present =
        { before.present with calls := before.calls ++ [(id, value)] } :=
      present_congr cache (fun _ _ => rfl) (fun _ _ => rfl) calls
    rw [board_eq publishing cache.opened? made, Option.toList_none, List.foldl_nil, board, next,
      List.foldl_cons, List.foldl_cons, finish_called ordered upcoming]
  | @told value opened start outer next upcoming cache calls publishing =>
    rw [board_eq publishing cache.opened? (same cache calls), Option.toList_none, List.foldl_nil,
      board, next, List.foldl_cons, finish_told upcoming]

end Deployment

end MeshDiscovery
