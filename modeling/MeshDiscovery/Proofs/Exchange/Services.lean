import MeshDiscovery.Proofs.Deployment.Watching
import MeshDiscovery.Proofs.Text.Separator

/-!
The service that a virtual host is for. Its name may end in a port, and one port is taken off; what
is left is the name that the host is cached under and told under.
-/

namespace MeshDiscovery

namespace Resource.VirtualHost

/-- A port is written in decimal digits, at least one. -/
structure IsPort (port : String) : Prop where
  nonempty : port ≠ ""
  digits : ∀ c ∈ port.toList, c.isDigit = true

/-- The service that a name is for: the name without the port that it ends in, if it ends in one. -/
inductive IsFor : String → String → Prop where
  | ported (service : String) {port : String} (isPort : IsPort port) :
      IsFor (service ++ ":" ++ port) service
  | portless {name : String}
      (portless : ∀ service port, IsPort port → name ≠ service ++ ":" ++ port) : IsFor name name

private theorem isDigitByte_iff {byte : UInt8} :
    isDigitByte byte = true ↔ 48 ≤ byte.toNat ∧ byte.toNat ≤ 57 := by
  simp [isDigitByte, UInt8.le_iff_toNat_le]

private theorem all_isDigitByte (c : Char) :
    (String.utf8EncodeChar c).all isDigitByte = c.isDigit := by
  have digit : c.isDigit = true ↔ 48 ≤ c.val.toNat ∧ c.val.toNat ≤ 57 := by
    simp [Char.isDigit, UInt32.le_iff_toNat_le]
  rw [Bool.eq_iff_iff, digit]
  unfold String.utf8EncodeChar
  dsimp only
  split
  · simp only [List.all_cons, List.all_nil, Bool.and_true, isDigitByte_iff, UInt8.toNat_ofNat']
    omega
  -- A character of several bytes starts with one that is too large for a digit.
  · have starts {n : Nat} {rest : List UInt8} (least : 128 ≤ n) (most : n < 256) :
        (UInt8.ofNat n :: rest).all isDigitByte = true ↔ 48 ≤ c.val.toNat ∧ c.val.toNat ≤ 57 := by
      simp only [List.all_cons, Bool.and_eq_true, isDigitByte_iff, UInt8.toNat_ofNat']
      omega
    split
    · exact starts (by omega) (by omega)
    · split
      · exact starts (by omega) (by omega)
      · exact starts (by omega) (by omega)

theorem isPort_iff {text : List Char} : isPort text = true ↔ IsPort (String.ofList text) := by
  have bytes : (text.flatMap String.utf8EncodeChar).all isDigitByte = text.all Char.isDigit := by
    rw [List.all_flatMap]
    simp only [all_isDigitByte]
  rw [isPort, bytes, Bool.and_eq_true, List.all_eq_true]
  constructor
  · rintro ⟨nonempty, digits⟩
    exact ⟨by simpa using nonempty, by simpa using digits⟩
  · rintro ⟨nonempty, digits⟩
    exact ⟨by simpa using nonempty, by simpa using digits⟩

theorem stripPort_ported (service : String) {port : String} (isPort : IsPort port) :
    stripPort (service ++ ":" ++ port) = service := by
  have absent : ':' ∉ port.toList.reverse := by
    intro member
    have digit := isPort.digits ':' (List.mem_reverse.mp member)
    revert digit
    decide
  have backwards : (service ++ ":" ++ port).toList.reverse =
      port.toList.reverse ++ ':' :: service.toList.reverse := by
    simp
  have checked : VirtualHost.isPort port.toList = true := by
    rw [isPort_iff, String.ofList_toList]
    exact isPort
  simp only [stripPort, backwards, Text.takeWhile_append_separator absent,
    Text.dropWhile_append_separator absent, List.reverse_reverse, checked, if_true,
    String.ofList_toList]

theorem stripPort_portless {name : String}
    (portless : ∀ service port, IsPort port → name ≠ service ++ ":" ++ port) :
    stripPort name = name := by
  unfold stripPort
  dsimp only
  split
  · rename_i service behind
    split
    · rename_i checked
      refine absurd ?_ (portless (String.ofList service.reverse) _ (isPort_iff.mp checked))
      have whole := (Text.eq_append_of_dropWhile behind).2
      rw [← String.toList_inj, ← List.reverse_inj]
      simpa using whole
    · rfl
  · rfl

theorem portless_of_stripPort {name : String} (same : stripPort name = name) :
    ∀ service port, IsPort port → name ≠ service ++ ":" ++ port := by
  rintro service port isPort rfl
  rw [stripPort_ported service isPort] at same
  have shorter := congrArg String.length same
  simp only [String.length_append] at shorter
  have colon : ":".length = 1 := rfl
  omega

/-- There is one service that a name is for, and that is what remains of it. -/
theorem stripPort_eq_iff {name service : String} : stripPort name = service ↔ IsFor name service := by
  constructor
  · rintro rfl
    by_cases ported : ∃ service port, IsPort port ∧ name = service ++ ":" ++ port
    · obtain ⟨service, port, isPort, rfl⟩ := ported
      rw [stripPort_ported service isPort]
      exact .ported service isPort
    · have portless : ∀ service port, IsPort port → name ≠ service ++ ":" ++ port :=
        fun service port isPort same => ported ⟨service, port, isPort, same⟩
      rw [stripPort_portless portless]
      exact .portless portless
  · rintro (⟨_, isPort⟩ | portless)
    · exact stripPort_ported service isPort
    · exact stripPort_portless portless

theorem serviceName_eq_iff {first second : VirtualHost} :
    first.serviceName = second.serviceName ↔
      ∃ service, IsFor first.name service ∧ IsFor second.name service := by
  simp only [serviceName, ← stripPort_eq_iff, exists_eq_left']
  exact eq_comm

end Resource.VirtualHost

theorem ResourceType.key_of_published_host {configs : List Resource.RouteConfiguration}
    {key : String} {host : Resource.VirtualHost}
    (published : .route key host ∈ routeConfiguration.publications configs) :
    key = host.serviceName := by
  obtain ⟨config, _, inside⟩ := List.mem_flatMap.mp published
  obtain ⟨entry, listed, same⟩ := List.mem_map.mp inside
  obtain ⟨_, _, rfl⟩ := List.mem_map.mp listed
  cases same
  rfl

namespace Deployment

variable (deployment : Deployment) (publication : Publication)

theorem current?_publish_iff {axis : Axis} {key : String} :
    (deployment.publish publication).cache.current? axis key = some publication ↔
      publication.axis = axis ∧ publication.key = key := by
  rw [(deployment.publishing_publish publication).1]
  constructor
  · exact Cache.place_of_current?
  · intro own
    rw [Cache.current?_store, if_pos own]

private theorem place_of_owed {axis : Axis} {key : String} {id : ListenerId}
    (owed : deployment.owed axis key id = [publication]) :
    publication.axis = axis ∧ publication.key = key := by
  unfold Deployment.owed at owed
  split at owed
  · cases owed
  · split at owed
    · rename_i own
      cases owed
      exact ⟨own.1, own.2.1⟩
    · cases owed

/-- A value is told to the listeners of its own name. -/
theorem owed_publish_iff {axis : Axis} {key : String} {id : ListenerId}
    (registered : id ∈ deployment.cache.ids axis key) :
    (deployment.publish publication).owed axis key id = [publication] ↔
      publication.axis = axis ∧ publication.key = key := by
  constructor
  · exact place_of_owed _ publication
  · rintro ⟨rfl, rfl⟩
    obtain ⟨cache, _, publishing⟩ := deployment.publishing_publish publication
    obtain ⟨opened, present⟩ := deployment.cache.opened?_of_mem_ids registered
    rw [present] at publishing
    have still : (deployment.publish publication).cache.opened? publication.axis publication.key =
        some opened := by
      rw [cache, Cache.opened?_store, present]
    rw [owed_of_own publishing still, if_pos (Nat.zero_le id)]

end Deployment

namespace Exchange

open Resource Resource.VirtualHost

/-- A host whose name ends in a colon and a port is for the service in front of that colon, whatever
that is, and a host with any other name is for the service of its own name. A host that is published
takes the place in the cache of another one, and is told to the listeners of the other one, exactly
if the names of both are for the same service. -/
theorem services_are_names_without_port :
    (∀ (host : VirtualHost) (service port : String), IsPort port →
      host.name = service ++ ":" ++ port → host.serviceName = service) ∧
    (∀ host : VirtualHost, (∀ service port, IsPort port → host.name ≠ service ++ ":" ++ port) →
      host.serviceName = host.name) ∧
    ∀ (configs others : List RouteConfiguration) (key name : String) (first second : VirtualHost),
      .route key first ∈ ResourceType.routeConfiguration.publications configs →
      .route name second ∈ ResourceType.routeConfiguration.publications others →
      ∀ deployment : Deployment,
        let published := deployment.publish (.route name second)
        (published.cache.current? .route key = some (.route name second) ↔
          ∃ service, IsFor first.name service ∧ IsFor second.name service) ∧
        ∀ id ∈ deployment.cache.ids .route key,
          (published.owed .route key id = [.route name second] ↔
            ∃ service, IsFor first.name service ∧ IsFor second.name service) := by
  refine ⟨?_, ?_, ?_⟩
  · intro host service port isPort spelled
    rw [serviceName, spelled]
    exact stripPort_ported service isPort
  · intro host portless
    exact stripPort_portless portless
  · intro configs others key name first second isFirst isSecond deployment published
    have same : name = key ↔ ∃ service, IsFor first.name service ∧ IsFor second.name service := by
      rw [← serviceName_eq_iff, ResourceType.key_of_published_host isFirst,
        ResourceType.key_of_published_host isSecond]
      exact eq_comm
    have place : (Publication.route name second).axis = .route ∧
        (Publication.route name second).key = key ↔ name = key := and_iff_right rfl
    rw [← same, ← place]
    exact ⟨deployment.current?_publish_iff _, fun id => deployment.owed_publish_iff _⟩

/-- One port is taken off, of names with and without others, and digits of other scripts are none. -/
theorem hosts_with_two_ports_share_a_service :
    let host (name : String) : VirtualHost := ⟨name, [], []⟩
    let config (name : String) : RouteConfiguration := ⟨"r", [host name]⟩
    let deployment : Deployment :=
      { session := Session.fresh ⟨"n", "mesh", "client", "1"⟩
        cache := ({} : Cache Listener).add .route "a:1" ⟨"l", []⟩ }
    let published := deployment.publish (.route "a:1" (host "a:1:81"))
    (host "a:1:80").serviceName = "a:1" ∧ (host "a:٣").serviceName = "a:٣" ∧
      .route "a:1" (host "a:1:80") ∈
        ResourceType.routeConfiguration.publications [config "a:1:80"] ∧
      published.cache.current? .route "a:1" = some (.route "a:1" (host "a:1:81")) ∧
      published.owed .route "a:1" 0 = [.route "a:1" (host "a:1:81")] := by
  intro host config deployment published
  have isPort : IsPort "80" ∧ IsPort "81" :=
    ⟨⟨by decide, List.all_eq_true.mp (by decide)⟩, ⟨by decide, List.all_eq_true.mp (by decide)⟩⟩
  obtain ⟨ported, portless, shared⟩ := services_are_names_without_port
  have first : .route "a:1" (host "a:1:80") ∈
      ResourceType.routeConfiguration.publications [config "a:1:80"] := by decide +kernel
  have second : .route "a:1" (host "a:1:81") ∈
      ResourceType.routeConfiguration.publications [config "a:1:81"] := by decide +kernel
  have same : ∃ service, IsFor (host "a:1:80").name service ∧ IsFor (host "a:1:81").name service :=
    ⟨"a:1", .ported "a:1" isPort.1, .ported "a:1" isPort.2⟩
  obtain ⟨cached, told⟩ := shared _ _ _ _ _ _ first second deployment
  refine ⟨ported (host "a:1:80") "a:1" "80" isPort.1 rfl, portless (host "a:٣") ?_, first,
    cached.mpr same, (told 0 (by decide +kernel)).mpr same⟩
  exact portless_of_stripPort (by decide +kernel)

end Exchange

end MeshDiscovery
