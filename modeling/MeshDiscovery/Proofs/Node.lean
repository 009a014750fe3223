import MeshDiscovery.Node
import MeshDiscovery.Proofs.Text.Separator

/-!
Identities of clients. What was chosen last for a part of an identity is in effect, whatever the
environment says; and the id of a sidecar tells its address, its pod, its namespace and its domain,
so two sidecars with one id are the same sidecar.
-/

namespace MeshDiscovery

inductive NodeField where
  | id
  | cluster
  | podIp
  | podName
  | podNamespace
  | clusterDomain
  deriving DecidableEq

namespace NodeField

def chosen? (field : NodeField) (choice : NodeChoice) : Option String :=
  match field, choice with
  | .id, .id text | .cluster, .cluster text | .podIp, .podIp text | .podName, .podName text
  | .podNamespace, .podNamespace text | .clusterDomain, .clusterDomain text => some text
  | _, _ => none

def lastChosen? (field : NodeField) (choices : List NodeChoice) : Option String :=
  (choices.filterMap field.chosen?).getLast?

end NodeField

/-- What an environment says about a part. It gives neither ids nor domains. -/
def Environment.get? (environment : Environment) : NodeField → Option String
  | .cluster => environment.clusterId
  | .podIp => environment.instanceIp
  | .podName => environment.podName
  | .podNamespace => environment.podNamespace
  | .id | .clusterDomain => none

/-- The text in effect for a part: what was chosen last, or else what the environment says, or else
a text for want of both. -/
def NodeField.inEffect (field : NodeField) (environment : Environment) (choices : List NodeChoice)
    (otherwise : String) : String :=
  ((field.lastChosen? choices).or (environment.get? field)).getD otherwise

/-- What a sidecar is known by. -/
structure Sidecar where
  ip : String
  pod : String
  space : String
  domain : String
  deriving DecidableEq

namespace Sidecar

/-- The sidecar that choices describe in an environment. -/
def described (environment : Environment) (choices : List NodeChoice) : Sidecar where
  ip := NodeField.podIp.inEffect environment choices "127.0.0.1"
  pod := NodeField.podName.inEffect environment choices "localhost"
  space := NodeField.podNamespace.inEffect environment choices "default"
  domain := NodeField.clusterDomain.inEffect environment choices "cluster.local"

/-- The parts can be told apart in an id: tildes stand between them only, and a dot ends the
namespace. Pods and domains may have dots, and domains tildes as well. -/
structure Separable (sidecar : Sidecar) : Prop where
  ip : '~' ∉ sidecar.ip.toList
  pod : '~' ∉ sidecar.pod.toList
  space : '~' ∉ sidecar.space.toList
  undotted : '.' ∉ sidecar.space.toList

instance (sidecar : Sidecar) : Decidable sidecar.Separable :=
  decidable_of_iff ('~' ∉ sidecar.ip.toList ∧ '~' ∉ sidecar.pod.toList ∧
      '~' ∉ sidecar.space.toList ∧ '.' ∉ sidecar.space.toList)
    ⟨fun ⟨ip, pod, space, undotted⟩ => ⟨ip, pod, space, undotted⟩,
      fun ⟨ip, pod, space, undotted⟩ => ⟨ip, pod, space, undotted⟩⟩

/-- The pod with its namespace, as an id has it. -/
def qualifiedPod (sidecar : Sidecar) : List Char :=
  sidecar.pod.toList ++ '.' :: sidecar.space.toList

def serviceHost (sidecar : Sidecar) : List Char :=
  sidecar.space.toList ++ '.' :: ("svc.".toList ++ sidecar.domain.toList)

/-- The id of a sidecar, after what it begins with for every sidecar. -/
def spelled (sidecar : Sidecar) : List Char :=
  sidecar.ip.toList ++ '~' :: (sidecar.qualifiedPod ++ '~' :: sidecar.serviceHost)

variable {left right : Sidecar}

theorem Separable.qualifiedPod (separable : left.Separable) : '~' ∉ left.qualifiedPod := by
  simp [Sidecar.qualifiedPod, separable.pod, separable.space]

/-- The id of a sidecar is taken apart at the first two tildes and at the first dot after them. -/
theorem eq_of_spelled_eq (first : left.Separable) (second : right.Separable)
    (same : left.spelled = right.spelled) : left = right := by
  obtain ⟨ip, afterIp⟩ := (Text.append_separator_inj first.ip second.ip).mp same
  obtain ⟨pods, hosts⟩ :=
    (Text.append_separator_inj first.qualifiedPod second.qualifiedPod).mp afterIp
  obtain ⟨space, afterSpace⟩ := (Text.append_separator_inj first.undotted second.undotted).mp hosts
  have domain := List.append_cancel_left afterSpace
  -- A pod may have dots of its own, so it ends where the namespace begins that is known by now.
  have pod : left.pod.toList = right.pod.toList := by
    unfold Sidecar.qualifiedPod at pods
    rw [space] at pods
    exact List.append_cancel_right pods
  obtain ⟨_, _, _, _⟩ := left
  obtain ⟨_, _, _, _⟩ := right
  rw [mk.injEq]
  exact ⟨String.toList_inj.mp ip, String.toList_inj.mp pod, String.toList_inj.mp space,
    String.toList_inj.mp domain⟩

end Sidecar

namespace NodeSettings

def get? (settings : NodeSettings) : NodeField → Option String
  | .id => settings.id
  | .cluster => settings.cluster
  | .podIp => settings.podIp
  | .podName => settings.podName
  | .podNamespace => settings.podNamespace
  | .clusterDomain => settings.clusterDomain

theorem get?_ofEnvironment (environment : Environment) (field : NodeField) :
    (ofEnvironment environment).get? field = environment.get? field := by
  cases field <;> rfl

theorem get?_choose (settings : NodeSettings) (choice : NodeChoice) (field : NodeField) :
    (settings.choose choice).get? field = (field.chosen? choice).or (settings.get? field) := by
  cases choice <;> cases field <;> rfl

/-- The last choice about a part is in effect. -/
theorem get?_chooseAll (settings : NodeSettings) (choices : List NodeChoice) (field : NodeField) :
    (settings.chooseAll choices).get? field =
      (field.lastChosen? choices).or (settings.get? field) := by
  induction choices generalizing settings with
  | nil => rfl
  | cons choice rest ih =>
    have step : settings.chooseAll (choice :: rest) = (settings.choose choice).chooseAll rest := rfl
    rw [step, ih, get?_choose, NodeField.lastChosen?, NodeField.lastChosen?]
    cases made : field.chosen? choice with
    | none => rw [List.filterMap_cons_none made, Option.none_or]
    | some text =>
      rw [List.filterMap_cons_some made, List.getLast?_cons]
      cases (rest.filterMap field.chosen?).getLast? <;> rfl

theorem get?_chooseAll_ofEnvironment (environment : Environment) (choices : List NodeChoice)
    (field : NodeField) :
    ((ofEnvironment environment).chooseAll choices).get? field =
      (field.lastChosen? choices).or (environment.get? field) := by
  rw [get?_chooseAll, get?_ofEnvironment]

theorem described_eq (environment : Environment) (choices : List NodeChoice) :
    let settings := (ofEnvironment environment).chooseAll choices
    Sidecar.described environment choices =
      ⟨settings.effectiveIp, settings.effectivePod, settings.effectiveNamespace,
        settings.effectiveDomain⟩ := by
  intro settings
  have part (field : NodeField) (otherwise : String) :
      field.inEffect environment choices otherwise = (settings.get? field).getD otherwise := by
    rw [get?_chooseAll_ofEnvironment, NodeField.inEffect]
  simp only [Sidecar.described, part]
  rfl

theorem sidecarId_chooseAll (environment : Environment) (choices : List NodeChoice) :
    ((ofEnvironment environment).chooseAll choices).sidecarId.toList =
      "sidecar~".toList ++ (Sidecar.described environment choices).spelled := by
  rw [described_eq]
  unfold sidecarId
  simp [Sidecar.spelled, Sidecar.qualifiedPod, Sidecar.serviceHost]

theorem id_of_chosen {environment : Environment} {choices : List NodeChoice} {text : String}
    (chosen : NodeField.lastChosen? .id choices = some text) :
    ((ofEnvironment environment).chooseAll choices).node.id = text := by
  have given := get?_chooseAll_ofEnvironment environment choices .id
  rw [chosen, Option.some_or, get?] at given
  rw [node, given, Option.getD_some]

theorem id_of_unnamed {environment : Environment} {choices : List NodeChoice}
    (unnamed : NodeField.lastChosen? .id choices = none) :
    ((ofEnvironment environment).chooseAll choices).node.id.toList =
      "sidecar~".toList ++ (Sidecar.described environment choices).spelled := by
  have given := get?_chooseAll_ofEnvironment environment choices .id
  rw [unnamed, Option.none_or, get?, Environment.get?] at given
  rw [node, given, Option.getD_none, sidecarId_chooseAll]

/-- What was chosen last for a part of an identity is in effect, then what the environment says. An
explicit id is taken as it is. Two identities without one that can be told apart have the same id
exactly if they are the same sidecar, with every part in effect. -/
theorem sidecar_is_known_by_id (environment environment' : Environment)
    (choices choices' : List NodeChoice) :
    let settings := (ofEnvironment environment).chooseAll choices
    let settings' := (ofEnvironment environment').chooseAll choices'
    let sidecar := Sidecar.described environment choices
    let sidecar' := Sidecar.described environment' choices'
    (∀ field, settings.get? field =
        (field.lastChosen? choices).or (environment.get? field)) ∧
      (∀ text, NodeField.lastChosen? .id choices = some text → settings.node.id = text) ∧
      (NodeField.lastChosen? .id choices = none → NodeField.lastChosen? .id choices' = none →
        sidecar.Separable → sidecar'.Separable →
        (settings.node.id = settings'.node.id ↔ sidecar = sidecar')) := by
  intro settings settings' sidecar sidecar'
  refine ⟨get?_chooseAll_ofEnvironment environment choices, fun _ => id_of_chosen, ?_⟩
  intro unnamed unnamed' separable separable'
  rw [← String.toList_inj, id_of_unnamed unnamed, id_of_unnamed unnamed',
    List.append_cancel_left_eq]
  exact ⟨Sidecar.eq_of_spelled_eq separable separable', congrArg Sidecar.spelled⟩

/-- A namespace with dots can be taken for the end of a pod and the beginning of a domain. -/
example :
    let dotted : List NodeChoice := [.podName "p", .podNamespace "x.svc.x"]
    let other : List NodeChoice :=
      [.podName "p.x.svc", .podNamespace "x", .clusterDomain "x.svc.cluster.local"]
    ((ofEnvironment {}).chooseAll dotted).node.id = ((ofEnvironment {}).chooseAll other).node.id ∧
      Sidecar.described {} dotted ≠ Sidecar.described {} other := by
  decide +kernel

/-- A sidecar that takes its parts from the environment and one that was given them, its namespace
at the second attempt, have one id and are the same, in the domain for want of another. At another
address it has another id. With an id of its own it goes by that id. -/
theorem inherited_and_chosen_sidecar_are_one :
    let environment : Environment :=
      { instanceIp := some "10.0.0.1", podName := some "web.1", podNamespace := some "prod" }
    let choices : List NodeChoice :=
      [.podNamespace "test", .podName "web.1", .podIp "10.0.0.1", .podNamespace "prod"]
    let moved : List NodeChoice := choices ++ [.podIp "10.0.0.2"]
    let inherited := Sidecar.described environment []
    let chosen := Sidecar.described {} choices
    let named := (ofEnvironment environment).chooseAll [.id "first", .podName "web.2", .id "second"]
    inherited = ⟨"10.0.0.1", "web.1", "prod", "cluster.local"⟩ ∧ inherited.Separable ∧
      chosen.Separable ∧
      (ofEnvironment environment).node.id = ((ofEnvironment {}).chooseAll choices).node.id ∧
      inherited = chosen ∧
      (ofEnvironment environment).node.id ≠ ((ofEnvironment {}).chooseAll moved).node.id ∧
      named.node.id = "second" := by
  intro environment choices moved inherited chosen named
  have separable : inherited.Separable := by decide +kernel
  have separable' : chosen.Separable := by decide +kernel
  have separableMoved : (Sidecar.described {} moved).Separable := by decide +kernel
  have same : (ofEnvironment environment).node.id =
      ((ofEnvironment {}).chooseAll choices).node.id := by decide +kernel
  have known := (sidecar_is_known_by_id environment {} [] choices).2.2 rfl rfl
  have knownMoved := (sidecar_is_known_by_id environment {} [] moved).2.2 rfl rfl
  have apart : inherited ≠ Sidecar.described {} moved := by decide +kernel
  refine ⟨by decide +kernel, separable, separable', same, (known separable separable').mp same,
    fun equal => apart ((knownMoved separable separableMoved).mp equal), ?_⟩
  exact (sidecar_is_known_by_id environment {} [.id "first", .podName "web.2", .id "second"] []).2.1
    "second" rfl

end NodeSettings

end MeshDiscovery
