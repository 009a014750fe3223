import MeshDiscovery.CommandLine.Run
import MeshDiscovery.Proofs.CommandLine.Metadata
import MeshDiscovery.Proofs.Metadata

namespace MeshDiscovery.CommandLine

namespace Running

private theorem config_foldl {α : Type} (step : Running → α → Running)
    (keeps : ∀ running item, (step running item).config = running.config) (items : List α)
    (running : Running) : (items.foldl step running).config = running.config := by
  induction items generalizing running with
  | nil => rfl
  | cons item rest ih => rw [List.foldl_cons, ih, keeps]

theorem config_face (running : Running) (peer : Peer) :
    (running.face peer).config = running.config := by
  cases peer with
  | unreachable reason => rfl
  | scripted responses =>
    exact config_foldl (fun running response => running.performAndSettle (.respond response none))
      (fun _ _ => rfl) responses _

theorem config_start {arguments : Arguments} {environment : Environment} {running : Running}
    (started : start arguments environment = .ok running) :
    arguments.configure environment = .ok running.config := by
  obtain ⟨_, _, started⟩ := bind_eq_ok started
  obtain ⟨config, configured, started⟩ := bind_eq_ok started
  obtain ⟨deployment, _, started⟩ := bind_eq_ok started
  rw [← Except.ok.inj started, config_foldl perform fun _ _ => rfl]
  exact mapError_eq_ok configured

theorem headers_outcome {running : Running} {exitCode : Option Nat}
    (asked : (running.outcome exitCode).requests ≠ []) :
    (running.outcome exitCode).headers = Header.onStream running.config.metadata := by
  have opened : ¬ running.deployment.plane.streams.isEmpty = true :=
    fun none => asked (by simp [outcome, none])
  simp only [outcome, if_neg opened]

end Running

/-- A request carries what the pairs of the arguments give, and its stream is opened with that. -/
theorem headers_run {environment : Environment} {line : List String} {arguments : Arguments}
    {running : Running} (read : Arguments.read line = .ok arguments)
    (started : Running.start arguments environment = .ok running) (peer : Peer)
    (interrupted : Bool) (asked : (run environment line peer interrupted).requests ≠ []) :
    (run environment line peer interrupted).headers =
      Header.onStream running.config.metadata := by
  have kept : ((running.face peer).summarize).config = running.config := running.config_face peer
  simp only [run, read, started] at asked ⊢
  cases interrupted <;>
    exact (Running.headers_outcome asked).trans (congrArg _ (congrArg _ kept))

/-- A configuration keeps every pair that it accepts, and a command line is split into the pairs
that it gives for metadata. But a request carries the last value of each key only, which is
everything exactly if no two keys are the same up to case. -/
theorem request_carries_last_values {M : Type} (transport : HeaderMap M)
    (environment : Environment) :
    (∀ server pairs config,
      (ClientConfig.ofServer environment server).bind (·.addAllMetadata pairs) = .ok config →
        Carries transport pairs config) ∧
      ∀ line arguments running, Arguments.read line = .ok arguments →
        Running.start arguments environment = .ok running →
          List.Forall₂ IsPair (metadataTexts line) arguments.metadata ∧
            Carries transport arguments.metadata running.config ∧
            ∀ peer interrupted,
              let outcome := run environment line peer interrupted
              outcome.requests ≠ [] → ∀ key value, ⟨key, value⟩ ∈ outcome.headers ↔
                key ∉ Header.reservedKeys ∧
                  (valuesGiven arguments.metadata key).getLast? = some value := by
  constructor
  · intro server pairs config accepted
    obtain ⟨base, based, added⟩ := bind_eq_ok accepted
    exact carries_of_added transport (ClientConfig.metadata_ofServer based) added
  · intro line arguments running read started
    obtain ⟨base, based, added⟩ := bind_eq_ok (Running.config_start started)
    have unset := ClientConfig.metadata_ofServer based
    have fresh : { base with node := arguments.node environment }.metadata = [] := unset
    refine ⟨metadata_of_line read, carries_of_added transport fresh added, ?_⟩
    intro peer interrupted outcome asked key value
    have kept := (carries_of_added HeaderMap.named fresh added).kept
    rw [headers_run read started peer interrupted asked, kept, Header.mem_onStream,
      Header.values_attach, Option.toList_eq_singleton_iff]

/-- A pair whose value has an equals sign is given as an argument of its own and another one is
attached. Both are carried, and the stream is opened with both. -/
theorem different_keys_are_carried :
    let line := ["--metadata", "A=1=x", "--node-id=n", "--metadata=b=2"]
    let pairs := [("A", "1=x"), ("b", "2")]
    let carried (config : ClientConfig) :=
      HeaderMap.named.values (Header.attach HeaderMap.named config.metadata)
    let outcome := run {} line (.scripted []) true
    (∃ config, (ClientConfig.ofServer {} "http://h").bind (·.addAllMetadata pairs) = .ok config ∧
        ∀ key, carried config key = valuesGiven pairs key) ∧
      (∃ arguments running, Arguments.read line = .ok arguments ∧
        Running.start arguments {} = .ok running ∧
        ∀ key, carried running.config key = valuesGiven pairs key) ∧
      outcome.requests ≠ [] ∧ ⟨"a", "1=x"⟩ ∈ outcome.headers ∧ ⟨"b", "2"⟩ ∈ outcome.headers := by
  intro line pairs carried outcome
  obtain ⟨called, written⟩ := request_carries_last_values HeaderMap.named {}
  have different : (headerKeys pairs).Nodup := by decide +kernel
  refine ⟨?_, ?_⟩
  · have accepted : (ClientConfig.ofServer {} "http://h").bind (·.addAllMetadata pairs) =
        .ok ⟨⟨some "http", "h", "/", none⟩, (NodeSettings.ofEnvironment {}).node, 10000,
          pairs.map Header.ofPair⟩ := by
      decide +kernel
    exact ⟨_, accepted, (called _ _ _ accepted).whole.mpr different⟩
  · have read : Arguments.read line = .ok { nodeId := some "n", metadata := pairs } := by
      decide +kernel
    obtain ⟨running, started, -⟩ : ∃ running,
        Running.start { nodeId := some "n", metadata := pairs } {} = .ok running ∧
          running.config.node.id = "n" :=
      exists_of_seen (by decide +kernel)
    obtain ⟨-, carries, opened⟩ := written line _ running read started
    have asked : outcome.requests ≠ [] := by decide +kernel
    have sent := opened (.scripted []) true asked
    exact ⟨⟨_, running, read, started, carries.whole.mpr different⟩, asked,
      (sent "a" "1=x").mpr (by decide +kernel), (sent "b" "2").mpr (by decide +kernel)⟩

/-- Of two values for one key, the first does not reach the request. -/
theorem earlier_value_is_lost :
    let line := ["--metadata=a=1", "--metadata=A=2"]
    let outcome := run {} line (.scripted []) true
    (∃ arguments running, Arguments.read line = .ok arguments ∧
        Running.start arguments {} = .ok running ∧
        valuesGiven arguments.metadata "a" = ["1", "2"] ∧
        HeaderMap.named.values (Header.attach HeaderMap.named running.config.metadata) "a" =
          ["2"]) ∧
      outcome.requests ≠ [] ∧ outcome.headers = [⟨"a", "2"⟩] := by
  intro line outcome
  refine ⟨?_, by decide +kernel⟩
  have read : Arguments.read line = .ok { metadata := [("a", "1"), ("A", "2")] } := by
    decide +kernel
  obtain ⟨running, started, carried⟩ : ∃ running,
      Running.start { metadata := [("a", "1"), ("A", "2")] } {} = .ok running ∧
        HeaderMap.named.values (Header.attach HeaderMap.named running.config.metadata) "a" =
          ["2"] :=
    exists_of_seen (by decide +kernel)
  exact ⟨_, running, read, started, by decide +kernel, carried⟩

end MeshDiscovery.CommandLine
