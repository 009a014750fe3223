import MeshDiscovery.Proofs.Exchange.Asking

namespace MeshDiscovery

/-- A frame of dealing with a response, or one with nothing left to do. -/
def Frame.isCalm : Frame → Bool
  | .script [] | .publish _ | .notify .. | .settle .. | .acknowledge => true
  | _ => false

namespace Deployment

/-- No listener has anything to perform when it is called. -/
def Passive (deployment : Deployment) : Prop :=
  ∀ axis key, ∀ entry ∈ (deployment.cache.listeners axis).members key,
    ∀ script ∈ entry.2.scripts, script = []

/-- Whatever is still to be done for a response that is dealt with, nobody else takes part. -/
def Calm (deployment : Deployment) : Prop :=
  deployment.isDispatching = true → ∀ frame ∈ deployment.agenda, frame.isCalm = true

variable {deployment : Deployment} {step : Move}

private theorem occurrencesIn_of_calm {frame : Frame} {rest : List Frame}
    (pending : deployment.agenda = frame :: rest) (calm : frame.isCalm = true) (step : Move) :
    deployment.occurrencesIn step = [] := by
  have silent (steps : deployment.stepsOf step = [] ∨ deployment.stepsOf step = [.acknowledge])
      (unperformed : deployment.operation? step = none) : deployment.occurrencesIn step = [] := by
    rw [occurrencesIn, consumed?, unperformed]
    rcases steps with steps | steps
    · rw [steps]; rfl
    · rw [steps]; rfl
  cases step with
  | proceed =>
    cases frame with
    | script operations =>
      cases operations with
      | nil => exact silent (.inl (by simp [stepsOf, stepsIn, pending])) (by simp [operation?, pending])
      | cons => cases calm
    | acknowledge =>
      exact silent (.inr (by simp [stepsOf, stepsIn, pending])) (by simp [operation?, pending])
    | publish | notify | settle =>
      exact silent (.inl (by simp [stepsOf, stepsIn, pending])) (by simp [operation?, pending])
    | record | yield | batch | gather | bind | accept => cases calm
  | _ => exact silent (.inl (by simp [stepsOf, pending])) (by simp [operation?, pending])

private theorem calm_proceed (passive : deployment.Passive)
    (calm : ∀ frame ∈ deployment.agenda, frame.isCalm = true) :
    ∀ frame ∈ deployment.proceed.agenda, frame.isCalm = true := by
  cases pending : deployment.agenda with
  | nil =>
    rw [pending] at calm
    simpa only [proceed, pending] using calm
  | cons frame rest =>
    rw [pending] at calm
    obtain ⟨own, others⟩ := List.forall_mem_cons.mp calm
    unfold proceed
    rw [pending]
    dsimp only
    cases frame with
    | script operations =>
      cases operations with
      | nil => exact others
      | cons => cases own
    | publish publications =>
      cases publications with
      | nil => exact others
      | cons publication more =>
        dsimp only [publish]
        split
        · exact List.forall_mem_cons.mpr ⟨rfl, others⟩
        · exact List.forall_mem_cons.mpr ⟨rfl, List.forall_mem_cons.mpr ⟨rfl, others⟩⟩
    | notify publication opened start =>
      dsimp only [notifyNext]
      split
      · exact others
      · rename_i id listener found
        have member := Registry.mem_members_of_next? _ found
        have next : ∀ each ∈ Frame.notify publication opened (id + 1) :: rest, each.isCalm = true :=
          List.forall_mem_cons.mpr ⟨rfl, others⟩
        unfold callListener
        dsimp only
        split
        · exact next
        · rename_i script more scripts
          have empty := passive publication.axis publication.key (id, listener) member script
            (by rw [scripts]; exact List.mem_cons_self)
          subst empty
          exact List.forall_mem_cons.mpr ⟨rfl, next⟩
    | settle kind version nonce =>
      dsimp only
      split
      · exact others
      · exact others
    | acknowledge => exact others
    | record | yield | batch | gather | bind | accept => cases own

namespace Agreeing

variable (agreeing : Agreeing deployment) (external : step.External)
include agreeing external

private theorem settled_move (settled : deployment.isDispatching = false)
    (unhanded : deployment.handed? step = none) :
    (deployment.move step).isDispatching = false := by
  obtain ⟨idle, nothing⟩ := not_dispatching_iff.mp settled
  refine not_dispatching_iff.mpr ⟨?_, ?_⟩
  · rw [agreeing.session_move external]
    rcases deployment.reading_cases step with
      ⟨waiting, generation, response, rfl, incoming, steps⟩ | ⟨_, routine⟩
    · rw [handed?_read waiting, incoming, Option.filter_some] at unhanded
      rw [steps, handed?_read waiting, incoming, Option.filter_some, unhanded]
      rcases dispatch_of_read agreeing.agrees.coherent idle generation response with
        ⟨_, none⟩ | ⟨_, handed, _⟩
      · exact none
      · rw [handed] at unhanded
        cases unhanded
    · exact Session.idle_run idle fun taken member =>
        (Session.Step.plain (routine taken member)).2.1
  · have turned := agreeing.turned_move external
    have happens := deployment.happens step
    cases known : deployment.happening? step with
    | none =>
      rw [known] at turned
      cases turned with
      | quiet effects => exact effects.publishing.trans nothing
      | finished next | called next | told next =>
        rw [nothing] at next
        cases next
    | some incident =>
      rw [known] at turned
      cases turned with
      | watched _ effects | removed _ effects => exact effects.publishing.trans nothing
      | updated =>
        cases happens with
        | watched _ _ _ same | published _ _ _ same =>
          rw [known] at same
          cases same
        | unwatched axis key id _ same =>
          rcases deployment.removal?_cases axis key id with absent | removed
          · rw [known, absent] at same
            cases same
          · rw [known, removed] at same
            cases same
        | handed _ same =>
          rw [known, unhanded] at same
          cases same
      | published next =>
        rw [nothing] at next
        cases next

private theorem calm_move (passive : deployment.Passive) (calm : deployment.Calm) :
    (deployment.move step).Calm := by
  have unhanded_calm (settled : deployment.isDispatching = false)
      (unhanded : deployment.handed? step = none) : (deployment.move step).Calm := by
    intro dealing
    rw [agreeing.settled_move external settled unhanded] at dealing
    cases dealing
  cases pending : deployment.agenda with
  | nil =>
    have settled := agreeing.not_dispatching pending
    cases step with
    | read generation =>
      have reading := agreeing.reading pending generation
      have moved : deployment.move (.read generation) = deployment.read generation := by
        simp only [Deployment.move, pending]
      cases handed : deployment.handed? (.read generation) with
      | none => exact unhanded_calm settled handed
      | some response =>
        rw [moved]
        rw [handed] at reading
        generalize deployment.read generation = after at reading
        cases reading with
        | relayed plane kind _ _ _ _ _ =>
          obtain ⟨_, _, same⟩ := relaying_eq { deployment with
            plane, session := deployment.session.step (.read generation response) } kind response
          intro _ frame member
          rw [same] at member
          simp only [pending, List.mem_cons, List.not_mem_nil, or_false] at member
          rcases member with rfl | rfl | rfl <;> rfl
    | _ => exact unhanded_calm settled rfl
  | cons frame rest =>
    cases step with
    | proceed =>
      have moved : deployment.move .proceed = deployment.proceed := by
        simp only [Deployment.move]
      cases dealing : deployment.isDispatching with
      | true =>
        rw [moved]
        exact fun _ => calm_proceed passive (calm dealing)
      | false => exact unhanded_calm dealing rfl
    | _ =>
      simp only [Deployment.move, pending]
      exact calm

end Agreeing

/-- Listeners that do nothing when they are called disturb nobody. -/
theorem undisturbed_of_passive (agreeing : Agreeing deployment) (calm : deployment.Calm)
    {steps : List Move} (external : ∀ step ∈ steps, step.External)
    (passive : ∀ earlier later, steps = earlier ++ later → (deployment.moves earlier).Passive) :
    deployment.undisturbed steps = true := by
  induction steps generalizing deployment with
  | nil => rfl
  | cons step rest ih =>
    obtain ⟨own, others⟩ := List.forall_mem_cons.mp external
    have idle : deployment.Passive := passive [] (step :: rest) rfl
    rw [undisturbed, Bool.and_eq_true]
    refine ⟨?_, ih (agreeing.move own) (agreeing.calm_move own idle calm) others ?_⟩
    · cases dealing : deployment.isDispatching with
      | false => rfl
      | true =>
        cases pending : deployment.agenda with
        | nil =>
          rw [agreeing.not_dispatching pending] at dealing
          cases dealing
        | cons frame later =>
          have first := calm dealing frame (by rw [pending]; exact List.mem_cons_self)
          rw [occurrencesIn_of_calm pending first]
          rfl
    · intro earlier later same
      exact passive (step :: earlier) later (by rw [same]; rfl)

end Deployment

end MeshDiscovery
