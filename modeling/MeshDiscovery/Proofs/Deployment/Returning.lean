import MeshDiscovery.Proofs.Deployment.Reachable

/-!
Calls and their return. A call stands on the agenda above what it interrupts, and it has returned
when nothing above that remains. Callbacks may make further calls, which stand above the call that
they belong to and return before it does; some never return.
-/

namespace MeshDiscovery.Deployment

/-- The call in progress is taken up until nothing above some frames remains. -/
inductive Returns (below : List Frame) : Deployment → Deployment → Prop where
  | here {deployment : Deployment} (done : deployment.agenda = below) :
      Returns below deployment deployment
  | later {before after : Deployment} (unfinished : before.agenda ≠ below)
      (rest : Returns below before.proceed after) : Returns below before after

/-- Operations are performed one after the other, each when the one before has returned. -/
inductive Performed : Deployment → List Operation → Deployment → Prop where
  | nil (deployment : Deployment) : Performed deployment [] deployment
  | cons {before between after : Deployment} {operation : Operation} {more : List Operation}
      (returns : Returns before.agenda (before.perform operation) between)
      (rest : Performed between more after) : Performed before (operation :: more) after

namespace Returns

variable {below middle : List Frame} {before after : Deployment}

theorem agenda (returns : Returns below before after) : after.agenda = below := by
  induction returns with
  | here done => exact done
  | later unfinished rest ih => exact ih

/-- A call returns in one way. -/
theorem unique {other : Deployment} (returns : Returns below before after)
    (again : Returns below before other) : other = after := by
  induction returns with
  | here done =>
    cases again with
    | here => rfl
    | later unfinished => exact absurd done unfinished
  | later unfinished rest ih =>
    cases again with
    | here done => exact absurd done unfinished
    | later _ rest => exact ih rest

theorem wired (returns : Returns below before after) (wired : before.Wired) : after.Wired := by
  induction returns with
  | here => exact wired
  | @later before after unfinished rest ih =>
    exact ih ((widens_move before .proceed).wired wired)

theorem subscribed {kind : ResourceType} (returns : Returns below before after)
    (wired : before.Wired) (present : (before.subscription? kind).isSome = true) :
    (after.subscription? kind).isSome = true := by
  induction returns with
  | here => exact present
  | @later before after unfinished rest ih =>
    have widens := widens_move before .proceed
    exact ih (widens.wired wired) (widens.stays wired kind present)

private theorem suffix_of_unfinished (stacked : middle <:+ before.agenda)
    (unfinished : before.agenda ≠ middle) : middle <:+ before.proceed.agenda := by
  cases pending : before.agenda with
  | nil =>
    rw [pending] at stacked unfinished
    exact absurd (List.suffix_nil.mp stacked).symm unfinished
  | cons frame rest =>
    rw [pending] at stacked unfinished
    rcases List.suffix_cons_iff.mp stacked with same | inside
    · exact absurd same.symm unfinished
    · exact inside.trans (suffix_proceed before pending)

/-- A call returns exactly if the calls above it do, and then itself. -/
theorem through (stacked : middle <:+ before.agenda) (beneath : below <:+ middle) :
    Returns below before after ↔
      ∃ between, Returns middle before between ∧ Returns below between after := by
  constructor
  · intro returns
    induction returns with
    | here done =>
      rename_i deployment
      rw [done] at stacked
      have same : middle = below := (stacked.eq_of_length (Nat.le_antisymm stacked.length_le
        beneath.length_le))
      exact ⟨deployment, .here (by rw [done, same]), .here done⟩
    | later unfinished rest ih =>
      rename_i before after
      by_cases done : before.agenda = middle
      · exact ⟨before, .here done, .later unfinished rest⟩
      · obtain ⟨between, first, second⟩ := ih (suffix_of_unfinished stacked done)
        exact ⟨between, .later done first, second⟩
  · rintro ⟨between, first, second⟩
    induction first with
    | here => exact second
    | later unfinished rest ih =>
      rename_i before between
      refine .later ?_ (ih (suffix_of_unfinished stacked unfinished) second)
      intro same
      rw [same] at stacked unfinished
      exact unfinished (beneath.eq_of_length (Nat.le_antisymm beneath.length_le stacked.length_le))

/-- The last frame of a call is taken up and leaves nothing of the call. -/
theorem last {frame : Frame} {between : Deployment} (pending : between.agenda = frame :: below)
    (leaves : between.proceed.agenda = below) :
    Returns below between after ↔ after = between.proceed := by
  have unfinished : between.agenda ≠ below := by
    rw [pending]
    exact List.cons_ne_self frame below
  have returns : Returns below between between.proceed := .later unfinished (.here leaves)
  constructor
  · exact returns.unique
  · rintro rfl
    exact returns

end Returns

/-- Takes up the call in progress, at most so many times, until so much of the agenda remains. -/
def return? (depth : Nat) : (fuel : Nat) → Deployment → Option Deployment
  | 0, deployment => if deployment.agenda.length = depth then some deployment else none
  | fuel + 1, deployment =>
    if deployment.agenda.length = depth then some deployment
    else return? depth fuel deployment.proceed

theorem Returns.of_return? {below : List Frame} {fuel : Nat} {before after : Deployment}
    (stacked : below <:+ before.agenda) (found : return? below.length fuel before = some after) :
    Returns below before after := by
  induction fuel generalizing before with
  | zero =>
    unfold return? at found
    split at found
    · rename_i short
      cases found
      exact .here (stacked.eq_of_length short.symm).symm
    · cases found
  | succ fuel ih =>
    unfold return? at found
    split at found
    · rename_i short
      cases found
      exact .here (stacked.eq_of_length short.symm).symm
    · rename_i long
      have unfinished : before.agenda ≠ below := fun same => long (by rw [same])
      exact .later unfinished (ih (suffix_of_unfinished stacked unfinished) found)

theorem Returns.exists_of_return? {fuel : Nat} {deployment called : Deployment}
    (waiting : deployment.agenda = []) (found : (return? 0 fuel called).isSome = true) :
    ∃ after, Returns deployment.agenda called after := by
  obtain ⟨after, returned⟩ := Option.isSome_iff_exists.mp found
  rw [waiting]
  exact ⟨after, .of_return? List.nil_suffix returned⟩

end MeshDiscovery.Deployment
