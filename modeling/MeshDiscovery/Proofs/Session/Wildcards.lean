import MeshDiscovery.Proofs.Session.Recording
import MeshDiscovery.Proofs.Session.Sending

namespace MeshDiscovery

/-- A list of names is empty exactly for the wildcard roots. -/
def ResourceType.Fits (kind : ResourceType) (names : List String) : Prop :=
  names = [] ↔ kind.isWildcardRoot = true

/-- A message of a known kind has the names that fit the kind. -/
def Request.Fits (request : Request) : Prop :=
  ∀ kind : ResourceType, request.typeUrl = kind.url → kind.Fits request.names

theorem Request.fits_of_url {request : Request} {kind : ResourceType}
    (typed : request.typeUrl = kind.url) (fits : kind.Fits request.names) : request.Fits := by
  intro other same
  rw [← ResourceType.url_injective (typed.symm.trans same)]
  exact fits

namespace Session

/-- The requests among the steps have the names that fit their kinds. -/
def Step.Fits : Step → Prop
  | .request asked => asked.Fits
  | _ => True

/-- Whatever was sent, is recorded or is going to be acknowledged fits its kind. -/
structure Fitting (session : Session) : Prop where
  recorded : ∀ kind request, session.recorded.get kind = some request →
    request.typeUrl = kind.url ∧ kind.Fits request.names
  dispatched : ∀ dispatch, session.dispatch = some dispatch → dispatch.kind.Fits dispatch.names
  queued : ∀ generation, ∀ message ∈ session.queued generation, message.Fits

namespace Fitting

variable {session : Session}

theorem frame {after : Session} (fitting : Fitting session) (frame : Frame session after) :
    Fitting after where
  recorded := by rw [frame.recorded]; exact fitting.recorded
  dispatched := by rw [frame.dispatch]; exact fitting.dispatched
  queued generation := by rw [frame.queued]; exact fitting.queued generation

private theorem subscribed {kind : ResourceType} {names : List String} (fitting : Fitting session)
    (listed : session.subscribedNames? kind = some names) : kind.Fits names := by
  unfold subscribedNames? at listed
  split at listed
  · rename_i request recorded
    cases listed
    exact (fitting.recorded kind request recorded).2
  · split at listed
    · rename_i root
      cases listed
      exact ⟨fun _ => root, fun _ => rfl⟩
    · cases listed

private theorem replayed (fitting : Fitting session) {entry : ResourceType × Request}
    (member : entry ∈ session.replay) : entry.2.Fits := by
  obtain ⟨⟨kind, request⟩, isRecorded, rfl⟩ := List.mem_map.mp member
  obtain ⟨found, _, listed⟩ := List.mem_filterMap.mp isRecorded
  obtain ⟨_, recorded, pair⟩ := Option.map_eq_some_iff.mp listed
  cases pair
  obtain ⟨typed, fits⟩ := fitting.recorded kind request recorded
  exact (Request.fits_of_url typed fits : Request.Fits request.restated)

private theorem sends (fitting : Fitting session) {step : Step} (fits : step.Fits) :
    ∀ entry ∈ session.sends step, entry.2.Fits := by
  intro entry member
  cases step with
  | request request =>
    have signed : (session.signed request).Fits := fits
    have same : entry.2 = session.signed request := by
      simp only [Session.sends] at member
      repeat' split at member
      all_goals first | exact congrArg Prod.snd (List.mem_singleton.mp member) | cases member
    exact same ▸ signed
  | acknowledge =>
    simp only [Session.sends] at member
    split at member
    · cases member
    · rename_i dispatch current
      split at member
      · rw [List.mem_singleton.mp member]
        exact (Request.fits_of_url rfl (fitting.dispatched dispatch current) :
          (session.acknowledgement dispatch).Fits)
      · cases member
  | fire generation =>
    simp only [Session.sends] at member
    split at member
    · obtain ⟨replay, isReplayed, rfl⟩ := List.mem_map.mp member
      exact fitting.replayed isReplayed
    · cases member
  | _ => cases member

private theorem dispatched_step (fitting : Fitting session) (step : Step) :
    ∀ dispatch, (session.step step).dispatch = some dispatch →
      dispatch.kind.Fits dispatch.names := by
  by_cases quiet : step.isQuiet = true
  · rw [(frame_step session quiet).dispatch]
    exact fitting.dispatched
  · cases step with
    | request request =>
      rw [Session.step, session.dispatch_request]
      exact fitting.dispatched
    | fire generation =>
      rw [Session.step, session.dispatch_fireTimer]
      exact fitting.dispatched
    | acknowledge =>
      obtain ⟨_, _, same⟩ := session.acknowledge_eq
      rw [Session.step, same]
      intro dispatch current
      cases current
    | read generation response =>
      rcases session.read_cases generation response with
        ⟨_, _, same⟩ | ⟨kind, names, _, _, listed, _, _, same⟩
      · rw [same]
        exact fitting.dispatched
      · rw [same]
        intro dispatch current
        cases current
        exact fitting.subscribed listed
    | _ => exact absurd rfl quiet

/-- Every step keeps what fits, as long as requests fit. -/
theorem step (valid : Coherent session) (fitting : Fitting session) {step : Step}
    (fits : step.Fits) : Fitting (session.step step) where
  recorded := by
    intro kind request recorded
    rw [recorded_step] at recorded
    cases accepted : step.accepted? kind with
    | none =>
      rw [accepted] at recorded
      exact fitting.recorded kind request recorded
    | some wanted =>
      rw [accepted] at recorded
      obtain rfl : session.signed wanted = request := Option.some.inj recorded
      cases step with
      | request asked =>
        simp only [Step.accepted?] at accepted
        split at accepted
        · rename_i known
          cases accepted
          have typed := (ResourceType.url_of_ofUrl? known).symm
          exact ⟨typed, fits kind typed⟩
        · cases accepted
      | _ => cases accepted
  dispatched := fitting.dispatched_step step
  queued := by
    intro generation message member
    rw [queued_step valid] at member
    rcases List.mem_append.mp member with earlier | now
    · exact fitting.queued generation message earlier
    · obtain ⟨entry, kept, rfl⟩ := List.mem_map.mp now
      exact fitting.sends fits entry (List.mem_filter.mp kept).1

end Fitting

end Session

end MeshDiscovery
