import MeshDiscovery.Proofs.Exchange.Subscriptions
import MeshDiscovery.Proofs.Session.Wildcards

namespace MeshDiscovery.Deployment

/-- What a move of an exchange amounts to: it leaves the subscriptions aside, it is a step of the
session, or it subscribes to a kind that others refer to. -/
inductive Followed : Deployment → Deployment → Prop where
  | aside {before after : Deployment} (relays : ∀ kind, after.relay? kind = before.relay? kind)
      (session : Session.Frame before.session after.session)
      (coherent : before.session.Coherent → after.session.Coherent) : Followed before after
  | step {before after : Deployment} (relays : ∀ kind, after.relay? kind = before.relay? kind)
      (step : Session.Step) (own : ∀ request, step ≠ .request request)
      (session : after.session = before.session.step step) : Followed before after
  | subscribe (deployment : Deployment) (kind : ResourceType) (names : List String)
      (named : kind.isWildcardRoot = false) : Followed deployment (deployment.subscribe kind names)
  | trans {before between after : Deployment} (first : Followed before between)
      (second : Followed between after) : Followed before after

namespace Followed

variable {deployment : Deployment}

theorem of_aside {before after : Deployment} (aside : Aside before after) : Followed before after :=
  .aside aside.relays aside.session aside.coherent

theorem refl (deployment : Deployment) : Followed deployment deployment :=
  of_aside (.refl deployment)

theorem push (frames : List Frame) : Followed deployment (deployment.push frames) :=
  .aside (fun _ => rfl) (.refl _) id

private theorem followReferences (kind : ResourceType) (models : List kind.Model) :
    Followed deployment (deployment.followReferences kind models) := by
  unfold Deployment.followReferences
  split
  · exact refl deployment
  · rename_i target referred
    split
    · exact refl deployment
    · refine .subscribe deployment target _ ?_
      cases kind <;> cases referred <;> rfl

private theorem runHandler {kind : ResourceType} {names : NameSet}
    (relay : deployment.relay? kind = some (names, some .relay)) (response : Response) :
    Followed deployment (deployment.runHandler kind response) := by
  obtain ⟨_, subscribed, _⟩ := Option.map_eq_some_iff.mp relay
  simp only [Deployment.runHandler, Agreeing.handler_of_subscription? subscribed,
    Deployment.handle]
  split
  · exact of_aside (aside_report deployment _)
  · have reported := Agreeing.aside_reportDefects deployment kind response
    have known : ((deployment.reportDefects kind response).push
        [.settle kind response.version response.nonce]).relay? kind = some (names, some .relay) :=
      (reported.relays kind).trans relay
    obtain ⟨subscription, present, pair⟩ := Option.map_eq_some_iff.mp known
    have callback : subscription.callback = some .relay := congrArg Prod.snd pair
    unfold runCallback
    rw [present, Option.bind_some, callback]
    exact (of_aside reported).trans ((push _).trans ((followReferences kind _).trans (push _)))

end Followed

namespace Agreeing

variable {deployment : Deployment}

private theorem followed_receive (agreeing : Agreeing deployment) (waiting : deployment.agenda = [])
    {generation : Nat} (reading : deployment.isReading generation = true) (response : Response) :
    Followed deployment (deployment.receive generation response) := by
  have received : Followed deployment
      { deployment with session := deployment.session.receive generation response } :=
    .step (fun _ => rfl) (.read generation response) (by simp)
      (Session.step_read_of_idle (agreeing.idle waiting) reading response).symm
  unfold Deployment.receive
  dsimp only
  split
  · exact received
  · rename_i dispatch _
    obtain ⟨names, relay⟩ := agreeing.relays dispatch.kind
    have known : (({ deployment with
        session := deployment.session.receive generation response } : Deployment).push
          [.acknowledge]).relay? dispatch.kind = some (names, some .relay) := relay
    exact received.trans ((Followed.push [.acknowledge]).trans (Followed.runHandler known response))

private theorem followed_end (agreeing : Agreeing deployment) (waiting : deployment.agenda = [])
    (plane : ControlPlane) (generation : Nat) (ending : Session.Ending) :
    Followed deployment
      { deployment with
        plane
        session := deployment.session.streamEnded generation ending } :=
  .step (fun _ => rfl) (.finish generation ending) (by simp)
    (Session.step_finish_of_idle (agreeing.idle waiting) generation ending).symm

private theorem followed_read (agreeing : Agreeing deployment) (waiting : deployment.agenda = [])
    (generation : Nat) : Followed deployment (deployment.read generation) := by
  unfold Deployment.read
  split
  · rename_i reading
    split
    · exact .refl deployment
    · rename_i server index _
      split
      · split
        · exact agreeing.followed_end waiting deployment.plane generation .completed
        · exact .refl deployment
      · rename_i delivery rest _
        cases delivery with
        | response response =>
          have taken : Aside deployment
              { deployment with
                plane := { deployment.plane with
                  streams := deployment.plane.streams.set index { server with inbox := rest } } } :=
            .of_fields rfl rfl rfl rfl rfl
          exact (Followed.of_aside taken).trans
            ((agreeing.aside taken).followed_receive waiting reading response)
        | failure status => exact agreeing.followed_end waiting _ generation (.failed status)
  · exact .refl deployment

/-- Whatever moves, an exchange does no more than follow what it was told of. -/
theorem followed (agreeing : Agreeing deployment) {step : Move} (external : step.External) :
    Followed deployment (deployment.move step) := by
  unfold Deployment.move
  split
  · cases pending : deployment.agenda with
    | nil =>
      simp only [Deployment.proceed, pending]
      exact .refl deployment
    | cons frame rest =>
      by_cases last : frame = .acknowledge
      · subst last
        refine .step (fun _ => ?_) .acknowledge (by simp) ?_
        · simp only [Deployment.proceed, pending]
          rfl
        · simp only [Deployment.proceed, pending]
          rfl
      · have dropped : Followed deployment { deployment with agenda := rest } :=
          .aside (fun _ => rfl) (.refl _) id
        exact dropped.trans
          (.of_aside (aside_proceed deployment agreeing.external pending last))
  · exact .refl deployment
  · exact .of_aside (aside_perform deployment external)
  · exact .of_aside (aside_start deployment agreeing.external _)
  · exact .of_aside (aside_resume deployment _)
  · rename_i generation waiting
    exact agreeing.followed_read waiting generation
  · rename_i generation waiting
    exact .step (fun _ => rfl) (.stop generation) (by simp)
      (Session.step_stop_of_idle (agreeing.idle waiting) generation).symm
  · exact .step (fun _ => rfl) (.fire _) (by simp) rfl
  · exact .step (fun _ => rfl) (.cancel _) (by simp) rfl
  · exact .step (fun _ => rfl) (.elapse _) (by simp) rfl

end Agreeing

/-- What an exchange names: nothing of wildcard roots, and something of any other kind. -/
structure Fitting (deployment : Deployment) : Prop where
  coherent : deployment.session.Coherent
  unnamed : ∀ kind, kind.isWildcardRoot = true → deployment.wanted kind = []
  fits : Session.Fitting deployment.session

namespace Fitting

variable {deployment after : Deployment}

private theorem frame (fitting : Fitting deployment)
    (relays : ∀ kind, after.relay? kind = deployment.relay? kind)
    (session : Session.Frame deployment.session after.session)
    (coherent : deployment.session.Coherent → after.session.Coherent) : Fitting after where
  coherent := coherent fitting.coherent
  unnamed kind root := by
    rw [wanted, relays]
    exact fitting.unnamed kind root
  fits := fitting.fits.frame session

theorem aside (fitting : Fitting deployment) (aside : Aside deployment after) : Fitting after :=
  fitting.frame aside.relays aside.session aside.coherent

private theorem fits_of_request? {kind : ResourceType} {subscription : Subscription Callback}
    {request : Request} (requested : subscription.request? kind = some request)
    (sparing : kind.isWildcardRoot = true → subscription.names.toList = []) : request.Fits := by
  unfold Subscription.request? at requested
  split at requested
  · cases requested
  · rename_i wanted
    cases requested
    refine Request.fits_of_url rfl ⟨?_, sparing⟩
    intro unnamed
    have unnamed : subscription.names.isEmpty = true := List.isEmpty_iff.mpr unnamed
    simpa [unnamed] using wanted

private theorem step (fitting : Fitting deployment)
    (relays : ∀ kind, after.relay? kind = deployment.relay? kind) {step : Session.Step}
    (fits : step.Fits) (session : after.session = deployment.session.step step) :
    Fitting after where
  coherent := by
    rw [session]
    exact fitting.coherent.step step
  unnamed kind root := by
    rw [wanted, relays]
    exact fitting.unnamed kind root
  fits := by
    rw [session]
    exact fitting.fits.step fitting.coherent fits

/-- Subscribing keeps to what fits if names are given for kinds that have names only. -/
theorem subscribe (fitting : Fitting deployment) (kind : ResourceType) (names : List String)
    (sparing : kind.isWildcardRoot = true → names = []) :
    Fitting (deployment.subscribe kind names) := by
  unfold Deployment.subscribe
  split
  · exact fitting
  · rename_i subscription present
    have grown : kind.isWildcardRoot = true → (subscription.add names).names.toList = [] := by
      intro root
      have before : subscription.names.toList = [] := by
        simpa [wanted, relay?, present] using fitting.unnamed kind root
      rw [sparing root]
      exact before
    have subscribed : Fitting
        (deployment.setHandler kind (.subscription (subscription.add names))) := by
      refine ⟨fitting.coherent, ?_, fitting.fits⟩
      intro other root
      rw [Agreeing.wanted_setHandler]
      by_cases same : other = kind
      · rw [same, Session.Agrees.wanting_self]
        exact grown (same ▸ root)
      · rw [Session.Agrees.wanting_of_ne same]
        exact fitting.unnamed other root
    dsimp only
    split
    · exact subscribed
    · rename_i request requested
      split
      · have fits : Session.Step.Fits (.request request) := fits_of_request? requested grown
        exact subscribed.step (fun _ => rfl) fits rfl
      · exact subscribed

theorem followed (fitting : Fitting deployment) (followed : Followed deployment after) :
    Fitting after := by
  induction followed with
  | aside relays session coherent => exact fitting.frame relays session coherent
  | step relays step own session =>
    refine fitting.step relays ?_ session
    cases step with
    | request request => exact absurd rfl (own request)
    | _ => exact True.intro
  | subscribe deployment kind names named =>
    exact fitting.subscribe kind names fun root => by rw [named] at root; cases root
  | trans _ _ first second => exact second (first fitting)

theorem moves (fitting : Fitting deployment) (agreeing : Agreeing deployment) {steps : List Move}
    (external : ∀ step ∈ steps, step.External) : Fitting (deployment.moves steps) := by
  induction steps generalizing deployment with
  | nil => exact fitting
  | cons step rest ih =>
    obtain ⟨first, others⟩ := List.forall_mem_cons.mp external
    exact ih (fitting.followed (agreeing.followed first)) (agreeing.move first) others

end Fitting

end MeshDiscovery.Deployment

namespace MeshDiscovery.Exchange

open Deployment

theorem fitting_register (config : ClientConfig) :
    Fitting (register config (Session.fresh config.node)) where
  coherent := (agreeing_register config).agrees.coherent
  unnamed kind _ := by cases kind <;> rfl
  fits := by
    refine ⟨?_, ?_, ?_⟩
    · intro kind request recorded
      cases kind <;> cases recorded
    · intro dispatch current
      cases current
    · intro generation message member
      cases member

/-- On every stream of an exchange, whatever it is sent for, a message for routes or endpoints lists
names and a message for listeners or clusters lists none. -/
theorem wildcards_are_listeners_and_clusters (config : ClientConfig) (steps : List Move)
    (external : ∀ step ∈ steps, step.External) :
    ∃ started, start true config = .ok started ∧
      ∀ generation, ∀ message ∈ (started.moves steps).session.queued generation,
        (message.typeUrl = ResourceType.routeConfiguration.url ∨
            message.typeUrl = ResourceType.clusterLoadAssignment.url → message.names ≠ []) ∧
          (message.typeUrl = ResourceType.listener.url ∨
            message.typeUrl = ResourceType.cluster.url → message.names = []) := by
  obtain ⟨started, isStarted, agreeing⟩ := agreeing_start config
  have subscribed := ((fitting_register config).subscribe .listener [] fun _ => rfl).subscribe
    .cluster [] fun _ => rfl
  have initially : Fitting started := by
    cases isStarted
    exact subscribed.aside (aside_report _ _)
  refine ⟨started, isStarted, ?_⟩
  intro generation message member
  have fits := (initially.moves agreeing external).fits.queued generation message member
  constructor
  · rintro (typed | typed) unnamed
    · cases (fits _ typed).mp unnamed
    · cases (fits _ typed).mp unnamed
  · rintro (typed | typed)
    · exact (fits _ typed).mpr rfl
    · exact (fits _ typed).mpr rfl

/-- Endpoints that were asked for by name are asked for by name on the next stream as well, after
routes that nobody asked for. -/
theorem endpoints_replayed_by_name :
    let config : ClientConfig :=
      ⟨⟨none, "control:15010", "", none⟩, ⟨"n", "mesh", "client", "1"⟩, 10000, []⟩
    let clusters : Response :=
      { typeUrl := ResourceType.cluster.url
        version := "1"
        nonce := "n1"
        resources := [ResourceType.cluster.pack { name := "a" }] }
    let routes : Response :=
      { typeUrl := ResourceType.routeConfiguration.url, version := "1", nonce := "n2" }
    let steps : List Move :=
      [.start 0, .perform (.respond routes none), .read 0, .perform (.respond clusters none),
        .read 0, .proceed, .proceed, .proceed, .perform (.complete none), .read 0, .elapse 3000,
        .fire 0]
    (∀ step ∈ steps, step.External) ∧
      ∃ started, start true config = .ok started ∧
        (∃ message ∈ (started.moves steps).session.queued 1,
          message.typeUrl = ResourceType.clusterLoadAssignment.url) ∧
        ∀ message ∈ (started.moves steps).session.queued 1,
          message.typeUrl = ResourceType.clusterLoadAssignment.url → message.names ≠ [] := by
  intro config clusters routes steps
  have external : ∀ step ∈ steps, step.External := by
    have responds (response : Response) : (Operation.respond response none).External := .plain rfl
    have completes : (Operation.complete none).External := .plain rfl
    simp [steps, Move.External, responds, completes]
  obtain ⟨started, isStarted, fits⟩ := wildcards_are_listeners_and_clusters config steps external
  have observed : ((start true config).toOption.map fun started =>
      ((started.moves steps).session.queued 1).any fun message =>
        message.typeUrl = ResourceType.clusterLoadAssignment.url) = some true := by
    decide +kernel
  rw [isStarted] at observed
  obtain ⟨message, member, typed⟩ := List.any_eq_true.mp (Option.some.inj observed)
  refine ⟨external, started, isStarted, ⟨message, member, of_decide_eq_true typed⟩, ?_⟩
  intro other isMember endpoints
  exact (fits 1 other isMember).1 (.inr endpoints)

end MeshDiscovery.Exchange
