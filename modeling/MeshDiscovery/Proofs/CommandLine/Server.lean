import MeshDiscovery.CommandLine.Run
import MeshDiscovery.Proofs.Result
import MeshDiscovery.Proofs.Uri.Host

namespace MeshDiscovery

namespace ClientConfig

variable {environment : Environment} {text : String}

private theorem ofServer_of_error {problem : UriError} (unread : Uri.parse text = .error problem) :
    ofServer environment text = .error (.invalidUri problem) := by
  simp only [ofServer, unread]

private theorem ofServer_of_hostless {uri : Uri} (parsed : Uri.parse text = .ok uri)
    (nowhere : uri.host? = none) :
    ofServer environment text = .error (.missingHost uri.render) := by
  simp only [ofServer, parsed, nowhere]

private theorem ofServer_of_hosted {uri : Uri} {host : String} (parsed : Uri.parse text = .ok uri)
    (hosted : uri.host? = some host) :
    ofServer environment text =
      .ok ⟨uri, (NodeSettings.ofEnvironment environment).node, defaultCheckInterval, []⟩ := by
  simp only [ofServer, parsed, hosted]

end ClientConfig

namespace CommandLine

private theorem start_of_refused {arguments : Arguments} {environment : Environment}
    {problem : ConfigError}
    (refused : ClientConfig.ofServer environment arguments.server = .error problem)
    (running : Running) : Running.start arguments environment ≠ .ok running := by
  have unconfigured : arguments.configure environment = .error problem := by
    rw [Arguments.configure, refused]
    rfl
  unfold Running.start
  rw [unconfigured]
  cases arguments.checkMetricsAddr <;> nofun

/-- A text that is no URI is refused as a server, and so is a path alone, and then no program is
started. Any other text is accepted and its URI has a host, which is empty exactly if the authority
that the text names begins with its port. -/
theorem accepted_server_has_host_or_leading_port (environment : Environment) (text : String) :
    let configured := ClientConfig.ofServer environment text
    (∀ problem, Uri.parse text = .error problem → configured = .error (.invalidUri problem)) ∧
      (∀ uri, Uri.parse text = .ok uri →
        (Uri.IsPath text.toList →
          uri.host? = none ∧ configured = .error (.missingHost uri.render)) ∧
        (¬ Uri.IsPath text.toList → ∃ host config, uri.host? = some host ∧
          configured = .ok config ∧ config.uri = uri ∧
          (host = "" ↔ ∃ authority, Uri.NamesAuthority text.toList authority ∧
            Authority.LacksHost authority))) ∧
      ∀ arguments : Arguments, arguments.server = text → ∀ problem, configured = .error problem →
        ∀ running, Running.start arguments environment ≠ .ok running := by
  intro configured
  refine ⟨fun problem => ClientConfig.ofServer_of_error, fun uri parsed => ⟨?_, ?_⟩, ?_⟩
  · intro path
    have nowhere := (Uri.host?_eq_none_iff parsed).mpr path
    exact ⟨nowhere, ClientConfig.ofServer_of_hostless parsed nowhere⟩
  · intro other
    have somewhere : uri.host? ≠ none := mt (Uri.host?_eq_none_iff parsed).mp other
    obtain ⟨host, hosted⟩ := Option.ne_none_iff_exists'.mp somewhere
    exact ⟨host, _, hosted, ClientConfig.ofServer_of_hosted parsed hosted, rfl,
      Uri.host_eq_empty_iff parsed hosted⟩
  · rintro arguments rfl problem refused
    exact start_of_refused refused

/-- With user information and a port there is a host, which is empty. A path is refused. -/
theorem user_and_port_have_empty_host :
    let configured (text : String) := ClientConfig.ofServer {} text
    (∃ config, configured "http://u@:80/x" = .ok config ∧ config.uri.host? = some "") ∧
      configured "/x" = .error (.missingHost "/x") ∧
      ∀ running, Running.start { server := "/x" } {} ≠ .ok running := by
  intro configured
  constructor
  · have parsed : Uri.parse "http://u@:80/x" = .ok ⟨some "http", "u@:80", "/x", none⟩ := by
      decide +kernel
    have other : ¬ Uri.IsPath "http://u@:80/x".toList := by
      rintro (star | ⟨rest, slash⟩)
      · exact absurd star (by decide)
      · exact absurd (List.cons.inj slash).1 (by decide)
    obtain ⟨host, config, hosted, accepted, same, empty⟩ :=
      ((accepted_server_has_host_or_leading_port {} "http://u@:80/x").2.1 _ parsed).2 other
    have names : Uri.NamesAuthority "http://u@:80/x".toList "u@:80".toList :=
      Uri.NamesAuthority.afterScheme
        (by simp [Uri.isSchemeChar] : ∀ c ∈ "http".toList, Uri.isSchemeChar c = true)
        (by simp [Authority.isEnd] : ∀ c ∈ "u@:80".toList, Authority.isEnd c = false)
        (by simp [Authority.isEnd] : ∀ c ∈ "/x".toList.head?, Authority.isEnd c = true)
    have lacks : Authority.LacksHost "u@:80".toList :=
      ⟨"u@".toList, "80".toList, by decide, .inr ⟨['u'], by decide⟩, by decide⟩
    refine ⟨config, accepted, ?_⟩
    rw [same, hosted, empty.mpr ⟨_, names, lacks⟩]
  · have parsed : Uri.parse "/x" = .ok ⟨none, "", "/x", none⟩ := by decide +kernel
    obtain ⟨_, read, start⟩ := accepted_server_has_host_or_leading_port {} "/x"
    have refused := ((read _ parsed).1 (.inr ⟨['x'], by decide⟩)).2
    exact ⟨refused, start { server := "/x" } rfl _ refused⟩

/-- A port alone is accepted as a server. Its host is empty, and a client of it asks for a stream,
and again whenever it was refused. -/
theorem port_alone_is_connected_to :
    let arguments : Arguments := { server := ":80" }
    let nowhere : SessionError := .unreachable "no host"
    let steps : List Move :=
      [.perform (.plan [.refuse nowhere, .refuse nowhere]), .start 0, .fire 0, .start 1]
    (∃ config, ClientConfig.ofServer {} arguments.server = .ok config ∧
        config.uri.host? = some "") ∧
      ∃ running, Running.start arguments {} = .ok running ∧
        let session := (running.deployment.moves steps).session
        session.state = .recovering ∧ session.connects = 2 := by
  intro arguments nowhere steps
  constructor
  · have accepted : ClientConfig.ofServer {} ":80" = .ok
        ⟨⟨none, ":80", "", none⟩, (NodeSettings.ofEnvironment {}).node, 10000, []⟩ := by
      decide +kernel
    exact ⟨_, accepted, by decide +kernel⟩
  · obtain ⟨running, started, observed⟩ : ∃ running, Running.start arguments {} = .ok running ∧
        ((running.deployment.moves steps).session.state,
          (running.deployment.moves steps).session.connects) = (.recovering, 2) :=
      exists_of_seen (by decide +kernel)
    exact ⟨running, started, Prod.mk.inj observed⟩

end CommandLine

end MeshDiscovery
