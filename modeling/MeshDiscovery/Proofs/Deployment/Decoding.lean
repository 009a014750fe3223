import MeshDiscovery.Proofs.Deployment.Returning
import MeshDiscovery.Proofs.Session.Counting

/-!
Decoding and handling responses. Each entry of a response contributes a model or a warning, which
depend on the entry and its place alone. The callback that is installed when a response of the right
kind arrives gets all models at once, and the response counts as taken when the callback has
returned.
-/

namespace MeshDiscovery

namespace ResourceType

variable (kind : ResourceType)

/-- The message in an entry that is a readable resource of a kind. -/
def message? (entry : Schema.Any) : Option kind.Encoded :=
  if entry.typeUrl = kind.url then Wire.Message.decode entry.value else none

/-- What an entry contributes to the models of a batch. -/
def model? (entry : Schema.Any) : Option kind.Model :=
  (kind.message? entry).map kind.convert

/-- The warning about the entry at some place of a response, if it is no readable resource. -/
def complaint? (version : String) (place : Nat) (entry : Schema.Any) : Option Notice :=
  match kind.message? entry with
  | some _ => none
  | none =>
    some (.resourceSkipped kind version place
      (if entry.typeUrl = kind.url then .malformed else .typeMismatch kind entry.typeUrl))

/-- The warnings about entries that stand in a response from some place on, in order. -/
def complaints (version : String) (start : Nat) (entries : List Schema.Any) : List Notice :=
  (entries.zipIdx start).filterMap fun (entry, place) => kind.complaint? version place entry

theorem decodeEntry_eq (entry : Schema.Any) :
    kind.decodeEntry entry =
      match kind.message? entry with
      | some message => .ok (kind.convert message)
      | none =>
        .error (if entry.typeUrl = kind.url then .malformed else .typeMismatch kind entry.typeUrl) := by
  unfold decodeEntry message?
  by_cases typed : entry.typeUrl = kind.url
  · cases Wire.Message.decode (α := kind.Encoded) entry.value <;> simp only [if_pos typed]
  · simp only [if_neg typed]

end ResourceType

namespace Response

variable (response : Response) (kind : ResourceType)

def complaints : List Notice :=
  kind.complaints response.version 0 response.resources

theorem models_eq_filterMap : response.models kind = response.resources.filterMap kind.model? := by
  unfold models
  congr 1
  funext entry
  rw [kind.decodeEntry_eq, ResourceType.model?]
  cases kind.message? entry <;> rfl

theorem defectNotices_eq : response.defectNotices kind = response.complaints kind := by
  rw [defectNotices, defects, complaints, ResourceType.complaints, List.map_filterMap]
  congr 1
  funext (entry, place)
  simp only [kind.decodeEntry_eq, ResourceType.complaint?]
  cases kind.message? entry <;> rfl

theorem length_defects : (response.defects kind).length = (response.complaints kind).length := by
  rw [← defectNotices_eq, defectNotices, List.length_map]

end Response

namespace Deployment

/-- A callback gets a batch of models. -/
def callBack (deployment : Deployment) (callback : Option Callback) (kind : ResourceType)
    (models : List kind.Model) : Deployment :=
  match callback with
  | none => deployment
  | some (.inform tag script) => (deployment.emit (.updated tag kind models)).push [.script script]
  | some .relay =>
    (deployment.followReferences kind models).push [.publish (kind.publications models)]

/-- The session has warned about the entries of a response and counted them. -/
def complaining (deployment : Deployment) (kind : ResourceType) (response : Response) :
    Deployment :=
  let metrics := deployment.session.metrics
  let skipped := metrics.decodeErrors.get kind + (response.complaints kind).length
  { deployment with
    session := { deployment.session with
      notices := deployment.session.notices ++ response.complaints kind
      metrics := { metrics with decodeErrors := metrics.decodeErrors.set kind skipped } } }

theorem reportDefects_eq_complaining (deployment : Deployment) (kind : ResourceType)
    (response : Response) :
    deployment.reportDefects kind response = deployment.complaining kind response := by
  rw [reportDefects, Agreeing.foldl_report, response.defectNotices_eq, response.length_defects]
  rfl

variable {deployment : Deployment} {kind : ResourceType} {subscription : Subscription Callback}

private theorem decodeErrors_subscribe (names : List String) :
    (deployment.subscribe kind names).session.metrics.decodeErrors =
      deployment.session.metrics.decodeErrors := by
  unfold subscribe
  split
  · rfl
  · dsimp only
    split
    · rfl
    · rename_i request _
      obtain ⟨sent, same⟩ := deployment.session.metrics_request request
      have kept := congrArg Metrics.decodeErrors same
      split
      · exact kept
      · rfl

private theorem decodeErrors_followReferences (models : List kind.Model) :
    (deployment.followReferences kind models).session.metrics.decodeErrors =
      deployment.session.metrics.decodeErrors := by
  unfold followReferences
  split
  · rfl
  · split
    · rfl
    · exact decodeErrors_subscribe _

theorem decodeErrors_callBack (callback : Option Callback) (models : List kind.Model) :
    (deployment.callBack callback kind models).session.metrics.decodeErrors =
      deployment.session.metrics.decodeErrors := by
  cases callback with
  | none => rfl
  | some callback =>
    cases callback with
    | inform tag script => rfl
    | relay => exact decodeErrors_followReferences models

private theorem decodeErrors_complaining (response : Response) (frames : List Frame)
    (callback : Option Callback) (models : List kind.Model) (other : ResourceType) :
    (((deployment.complaining kind response).push frames).callBack callback kind
        models).session.metrics.decodeErrors.get other =
      deployment.session.metrics.decodeErrors.get other +
        if other = kind then (response.complaints kind).length else 0 := by
  rw [decodeErrors_callBack]
  refine (PerType.get_set _ kind other _).trans ?_
  split
  · rename_i same
    rw [same]
  · rfl

private theorem look_eq (present : deployment.subscription? kind = some subscription)
    (response : Response) (frames : List Frame) :
    ((deployment.reportDefects kind response).push frames).runCallback kind
        (response.models kind) =
      ((deployment.complaining kind response).push frames).callBack subscription.callback kind
        (response.resources.filterMap kind.model?) := by
  have found : ((deployment.complaining kind response).push frames).subscription? kind =
      some subscription := present
  rw [reportDefects_eq_complaining, runCallback, found, response.models_eq_filterMap, Option.bind_some]
  rfl

theorem perform_decode (present : deployment.subscription? kind = some subscription)
    {response : Response} (typed : response.typeUrl = kind.url) :
    deployment.perform (.decode kind response) =
      ((deployment.complaining kind response).push
        [.yield (.models kind (response.resources.filterMap kind.model?))]).callBack
          subscription.callback kind (response.resources.filterMap kind.model?) := by
  rw [← look_eq present, ← response.models_eq_filterMap]
  simp only [perform, withSubscription, present, Response.checkKind, if_pos typed]

theorem perform_handle (present : deployment.subscription? kind = some subscription)
    {response : Response} (typed : response.typeUrl = kind.url) :
    deployment.perform (.handle kind response) =
      ((deployment.complaining kind response).push
        [.settle kind response.version response.nonce, .yield .done]).callBack
          subscription.callback kind (response.resources.filterMap kind.model?) := by
  rw [← look_eq present]
  simp only [perform, withSubscription, present, handle, Response.checkKind, if_pos typed]
  rfl

private theorem suffix_callBack {below : List Frame} (stacked : below <:+ deployment.agenda)
    (callback : Option Callback) (models : List kind.Model) :
    below <:+ (deployment.callBack callback kind models).agenda := by
  refine stacked.trans ?_
  cases callback with
  | none => exact List.suffix_refl _
  | some callback =>
    cases callback with
    | inform tag script => exact List.suffix_append _ _
    | relay =>
      have followed := (grows_followReferences deployment kind models).agenda
      exact followed.trans (List.suffix_append _ _)

private theorem yield_returns {before after : Deployment} {below : List Frame} {reply : Reply}
    (stacked : .yield reply :: below <:+ before.agenda) :
    Returns below before after ↔
      ∃ called, Returns (.yield reply :: below) before called ∧
        after = { called with agenda := below, result := reply } := by
  rw [Returns.through stacked (List.suffix_cons _ _)]
  refine exists_congr fun called => and_congr_right fun returned => ?_
  have pending := returned.agenda
  have proceeds : called.proceed = { called with agenda := below, result := reply } := by
    simp only [proceed, pending]
    rfl
  rw [Returns.last pending (by rw [proceeds]), proceeds]

private theorem settle_returns {before after : Deployment} {below : List Frame}
    {version nonce : String} (wired : before.Wired)
    (present : (before.subscription? kind).isSome = true)
    (stacked : .settle kind version nonce :: below <:+ before.agenda) :
    Returns below before after ↔
      ∃ called taken, Returns (.settle kind version nonce :: below) before called ∧
        called.subscription? kind = some taken ∧
        after = { called.setHandler kind (.subscription (taken.settle version nonce)) with
          agenda := below } := by
  rw [Returns.through stacked (List.suffix_cons _ _)]
  refine exists_congr fun called => ?_
  have noted {taken : Subscription Callback} (found : called.subscription? kind = some taken)
      (pending : called.agenda = .settle kind version nonce :: below) :
      called.proceed = { called.setHandler kind (.subscription (taken.settle version nonce)) with
        agenda := below } := by
    have next : ({ called with agenda := below } : Deployment).subscription? kind = some taken :=
      found
    simp only [proceed, pending, next]
    rfl
  constructor
  · rintro ⟨returned, last⟩
    obtain ⟨taken, found⟩ := Option.isSome_iff_exists.mp (returned.subscribed wired present)
    have same := noted found returned.agenda
    refine ⟨taken, returned, found, ?_⟩
    rw [← same]
    exact (Returns.last returned.agenda (by rw [same])).mp last
  · rintro ⟨taken, returned, found, rfl⟩
    have same := noted found returned.agenda
    refine ⟨returned, ?_⟩
    rw [← same]
    exact (Returns.last returned.agenda (by rw [same])).mpr rfl

/-- Decoding a response of the right kind gives its models when the callback has returned. -/
theorem decode_returns (present : deployment.subscription? kind = some subscription)
    {response : Response} (typed : response.typeUrl = kind.url) (after : Deployment) :
    Returns deployment.agenda (deployment.perform (.decode kind response)) after ↔
      ∃ called, Returns
          (.yield (.models kind (response.resources.filterMap kind.model?)) :: deployment.agenda)
          (deployment.perform (.decode kind response)) called ∧
        after = { called with
          agenda := deployment.agenda
          result := .models kind (response.resources.filterMap kind.model?) } := by
  rw [perform_decode present typed]
  apply yield_returns
  apply suffix_callBack
  exact List.suffix_refl _

private theorem handle_returns (wired : deployment.Wired)
    (present : deployment.subscription? kind = some subscription) {response : Response}
    (typed : response.typeUrl = kind.url) (after : Deployment) :
    Returns deployment.agenda (deployment.perform (.handle kind response)) after ↔
      ∃ called taken, Returns (.settle kind response.version response.nonce :: .yield .done ::
          deployment.agenda) (deployment.perform (.handle kind response)) called ∧
        called.subscription? kind = some taken ∧
        after = { called.setHandler kind
            (.subscription (taken.settle response.version response.nonce)) with
          agenda := deployment.agenda
          result := .done } := by
  have grows := grows_perform deployment (.handle kind response)
  have stays := grows.stays wired kind (Option.isSome_of_eq_some present)
  have stacked : .settle kind response.version response.nonce :: .yield .done ::
      deployment.agenda <:+ (deployment.perform (.handle kind response)).agenda := by
    rw [perform_handle present typed]
    apply suffix_callBack
    exact List.suffix_refl _
  rw [yield_returns ((List.suffix_cons _ _).trans stacked)]
  simp only [settle_returns (grows.wired wired) stays stacked]
  constructor
  · rintro ⟨_, ⟨called, taken, returned, found, rfl⟩, rfl⟩
    exact ⟨called, taken, returned, found, rfl⟩
  · rintro ⟨called, taken, returned, found, rfl⟩
    exact ⟨_, ⟨called, taken, returned, found, rfl⟩, rfl⟩

private theorem perform_other (present : deployment.subscription? kind = some subscription)
    {response : Response} (other : response.typeUrl ≠ kind.url) :
    deployment.perform (.decode kind response) =
        deployment.answer (.rejected (.typeMismatch kind response.typeUrl)) ∧
      Returns deployment.agenda (deployment.perform (.handle kind response))
        { deployment with
          session := deployment.session.report
            (.responseRejected kind (.typeMismatch kind response.typeUrl))
          result := .done } := by
  constructor
  · simp only [perform, withSubscription, present, Response.checkKind, if_neg other]
  · have rejected : deployment.perform (.handle kind response) =
        { deployment with
          session := deployment.session.report
            (.responseRejected kind (.typeMismatch kind response.typeUrl))
          agenda := .yield .done :: deployment.agenda } := by
      simp only [perform, withSubscription, present, handle, Response.checkKind, if_neg other]
      rfl
    rw [rejected]
    exact .later (List.cons_ne_self _ _) (.here rfl)

/-- The version and nonce of the last response of a kind, or else those from before. -/
def ackAfter (kind : ResourceType) (before : Option (String × String))
    (responses : List Response) : Option (String × String) :=
  (((responses.filter fun response => response.typeUrl = kind.url).getLast?).map fun response =>
    (response.version, response.nonce)).or before

private theorem ackAfter_cons (before : Option (String × String)) (response : Response)
    (rest : List Response) :
    ackAfter kind before (response :: rest) =
      ackAfter kind (if response.typeUrl = kind.url then some (response.version, response.nonce)
        else before) rest := by
  unfold ackAfter
  by_cases typed : response.typeUrl = kind.url
  · rw [List.filter_cons_of_pos (by simpa using typed), List.getLast?_cons, if_pos typed]
    cases (rest.filter fun response => response.typeUrl = kind.url).getLast? <;> rfl
  · rw [List.filter_cons_of_neg (by simpa using typed), if_neg typed]

private theorem lastAck_performed (wired : deployment.Wired)
    (present : deployment.subscription? kind = some subscription) {responses : List Response}
    {after : Deployment}
    (performed : Performed deployment (responses.map (.handle kind)) after) :
    ∃ later, after.subscription? kind = some later ∧
      later.lastAck = ackAfter kind subscription.lastAck responses := by
  -- The callback may take other responses meanwhile, but this one is noted after it has returned.
  induction responses generalizing deployment subscription with
  | nil =>
    cases performed
    exact ⟨subscription, present, rfl⟩
  | cons response rest ih =>
    rw [List.map_cons] at performed
    cases performed with
    | @cons _ between _ _ _ returns others =>
      have still := returns.wired ((grows_perform deployment _).wired wired)
      rw [ackAfter_cons]
      by_cases typed : response.typeUrl = kind.url
      · obtain ⟨called, taken, _, _, same⟩ :=
          (handle_returns wired present typed between).mp returns
        have noted : between.subscription? kind =
            some (taken.settle response.version response.nonce) := by
          rw [same]
          exact (subscription?_setHandler called kind kind _).trans (if_pos rfl)
        rw [if_pos typed]
        exact ih still noted others
      · have same := returns.unique (perform_other present typed).2
        have kept : between.subscription? kind = some subscription := by
          rw [← same]
          exact present
        rw [if_neg typed]
        exact ih still kept others

private theorem filterMap_split {α β : Type} (found? : α → Option β) (earlier : List α) (one : α)
    (later : List α) :
    (earlier ++ one :: later).filterMap found? =
      earlier.filterMap found? ++ (found? one).toList ++ later.filterMap found? := by
  rw [List.filterMap_append, List.append_assoc]
  congr 1
  cases found : found? one with
  | none => exact List.filterMap_cons_none found
  | some value => exact List.filterMap_cons_some found

private theorem contributions (kind : ResourceType) (version : String)
    (earlier : List Schema.Any) (entry : Schema.Any) (later : List Schema.Any) :
    (earlier ++ entry :: later).filterMap kind.model? =
        earlier.filterMap kind.model? ++ (kind.model? entry).toList ++
          later.filterMap kind.model? ∧
      kind.complaints version 0 (earlier ++ entry :: later) =
        kind.complaints version 0 earlier ++
          (kind.complaint? version earlier.length entry).toList ++
          kind.complaints version (earlier.length + 1) later := by
  constructor
  · exact filterMap_split kind.model? earlier entry later
  · rw [ResourceType.complaints, List.zipIdx_append, List.zipIdx_cons, Nat.zero_add]
    exact filterMap_split _ earlier.zipIdx (entry, earlier.length) _

/-- A subscription that gets a response of its kind warns of each entry that is no readable resource
of the kind and counts it, once, and hands the models of all others to its callback, the one of that
moment, once and in order. Decoding returns exactly if the callback does, and then with the same models; handling
does likewise, and then notes the version and nonce of the response. A response of any other type
is rejected as it is: no entry of it is looked at and nobody is called. What an entry contributes
depends on itself and its place alone. After any responses were handled, the last one of the kind is
the one that is noted. -/
theorem unreadable_entry_costs_itself (reachable : Reachable deployment)
    (present : deployment.subscription? kind = some subscription) (response : Response) :
    let models := response.resources.filterMap kind.model?
    let decoding := deployment.perform (.decode kind response)
    let handling := deployment.perform (.handle kind response)
    (response.typeUrl = kind.url →
      (decoding = ((deployment.complaining kind response).push
          [.yield (.models kind models)]).callBack subscription.callback kind models ∧
        ∀ after, Returns deployment.agenda decoding after ↔
          ∃ called, Returns (.yield (.models kind models) :: deployment.agenda) decoding called ∧
            after = { called with agenda := deployment.agenda, result := .models kind models }) ∧
      (handling = ((deployment.complaining kind response).push
          [.settle kind response.version response.nonce, .yield .done]).callBack
            subscription.callback kind models ∧
        ∀ after, Returns deployment.agenda handling after ↔
          ∃ called taken, Returns (.settle kind response.version response.nonce :: .yield .done ::
              deployment.agenda) handling called ∧
            called.subscription? kind = some taken ∧
            after = { called.setHandler kind
                (.subscription (taken.settle response.version response.nonce)) with
              agenda := deployment.agenda
              result := .done }) ∧
      ∀ other,
        decoding.session.metrics.decodeErrors.get other =
            deployment.session.metrics.decodeErrors.get other +
              (if other = kind then (response.complaints kind).length else 0) ∧
          handling.session.metrics.decodeErrors.get other =
            deployment.session.metrics.decodeErrors.get other +
              (if other = kind then (response.complaints kind).length else 0)) ∧
    (response.typeUrl ≠ kind.url →
      decoding = deployment.answer (.rejected (.typeMismatch kind response.typeUrl)) ∧
      Returns deployment.agenda handling
        { deployment with
          session := deployment.session.report
            (.responseRejected kind (.typeMismatch kind response.typeUrl))
          result := .done }) ∧
    (∀ earlier entry later, response.resources = earlier ++ entry :: later →
      models = earlier.filterMap kind.model? ++ (kind.model? entry).toList ++
          later.filterMap kind.model? ∧
        response.complaints kind =
          kind.complaints response.version 0 earlier ++
            (kind.complaint? response.version earlier.length entry).toList ++
            kind.complaints response.version (earlier.length + 1) later) ∧
    ∀ responses after, Performed deployment (responses.map (.handle kind)) after →
      ∃ later, after.subscription? kind = some later ∧
        later.lastAck = ackAfter kind subscription.lastAck responses := by
  have wired := reachable.wired
  refine ⟨fun typed => ⟨⟨?_, ?_⟩, ⟨?_, ?_⟩, fun other => ⟨?_, ?_⟩⟩, ?_, ?_, ?_⟩
  · exact perform_decode present typed
  · exact decode_returns present typed
  · exact perform_handle present typed
  · exact handle_returns wired present typed
  · rw [perform_decode present typed, decodeErrors_complaining]
  · rw [perform_handle present typed, decodeErrors_complaining]
  · exact perform_other present
  · intro earlier entry later split
    simp only [Response.complaints, split]
    exact contributions kind response.version earlier entry later
  · exact fun responses after => lastAck_performed wired present

/-- A callback that replaces itself gets the two readable entries out of four, and decoding gives
them as well. The two others are counted. -/
theorem self_replacing_callback_gets_batch :
    let swap : Operation := .setCallback .cluster "second" []
    let steps : List Move :=
      [.perform (.register .cluster 10), .perform (.setCallback .cluster "first" [("swap", swap)])]
    let deployment := ({ session := .fresh ⟨"n", "mesh", "client", "1"⟩ } : Deployment).moves steps
    let entry (name : String) : Schema.Any := ResourceType.cluster.pack ({ name } : Schema.Cluster)
    let response : Response :=
      ⟨ResourceType.cluster.url, "1", "r",
        [entry "a", ⟨ResourceType.cluster.url, [255]⟩, ⟨"other", []⟩, entry "b"]⟩
    let decoding := deployment.perform (.decode .cluster response)
    Reachable deployment ∧ decoding.session.metrics.decodeErrors.get .cluster = 2 ∧
      ∃ subscription after,
        deployment.subscription? .cluster = some subscription ∧
          Returns deployment.agenda decoding after ∧
          after.result = .models .cluster [⟨"a", none⟩, ⟨"b", none⟩] := by
  intro swap steps deployment entry response decoding
  have reachable : Reachable deployment :=
    (Reachable.opened (.session (Session.new_fresh ⟨"n", "mesh", "client", "1"⟩))).moves steps
  obtain ⟨subscription, present⟩ :=
    Option.isSome_iff_exists.mp (by decide +kernel : (deployment.subscription? .cluster).isSome)
  have waiting : deployment.agenda = [] := rfl
  obtain ⟨after, returns⟩ := Returns.exists_of_return? waiting
    (by decide +kernel : (return? 0 9 decoding).isSome)
  obtain ⟨⟨_, decoded⟩, _, counted⟩ :=
    (unreadable_entry_costs_itself reachable present response).1 rfl
  obtain ⟨called, _, rfl⟩ := (decoded after).mp returns
  have skipped : (response.complaints .cluster).length = 2 := by decide +kernel
  have errors := (counted .cluster).1
  rw [if_pos rfl, skipped] at errors
  refine ⟨reachable, errors, subscription, _, present, returns, ?_⟩
  have models : response.resources.filterMap (ResourceType.model? .cluster) =
      [⟨"a", none⟩, ⟨"b", none⟩] := by decide +kernel
  exact congrArg (Reply.models .cluster) models

end Deployment

end MeshDiscovery
