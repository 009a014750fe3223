import Mathlib.Data.List.Induction
import Mathlib.Data.List.Nodup
import MeshDiscovery.ClientConfig
import MeshDiscovery.Proofs.Result

namespace MeshDiscovery

/-- The values that pairs give for the key of a header, in order. Keys are the same up to case. -/
def valuesGiven (pairs : List (String × String)) (key : String) : List String :=
  (pairs.filter fun pair => pair.1.toLower = key).map Prod.snd

def headerKeys (pairs : List (String × String)) : List String :=
  pairs.map fun pair => pair.1.toLower

variable {pairs : List (String × String)}

theorem valuesGiven_append (first second : List (String × String)) (key : String) :
    valuesGiven (first ++ second) key = valuesGiven first key ++ valuesGiven second key := by
  simp [valuesGiven]

theorem valuesGiven_singleton (pair : String × String) (key : String) :
    valuesGiven [pair] key = if pair.1.toLower = key then [pair.2] else [] := by
  by_cases same : pair.1.toLower = key <;> simp [valuesGiven, same]

theorem length_valuesGiven (pairs : List (String × String)) (key : String) :
    (valuesGiven pairs key).length = (headerKeys pairs).count key := by
  rw [valuesGiven, List.length_map, headerKeys, List.count, List.countP_map,
    List.countP_eq_length_filter]
  rfl

private theorem getLast?_toList_eq_self_iff {values : List String} :
    values.getLast?.toList = values ↔ values.length ≤ 1 := by
  constructor
  · intro same
    rw [← same]
    cases values.getLast? <;> simp
  · intro short
    match values, short with
    | [], _ => rfl
    | [_], _ => rfl

theorem last_is_all_iff :
    (∀ key, (valuesGiven pairs key).getLast?.toList = valuesGiven pairs key) ↔
      (headerKeys pairs).Nodup := by
  simp only [getLast?_toList_eq_self_iff, length_valuesGiven, List.nodup_iff_count_le_one]

namespace Header

/-- The header of a pair: its key is put in lower case and its value is taken as it is. -/
def ofPair (pair : String × String) : Header :=
  ⟨pair.1.toLower, pair.2⟩

theorem eq_ofPair {pair : String × String} {header : Header}
    (parsed : parse pair.1 pair.2 = .ok header) : header = ofPair pair := by
  have lower : String.ofList (pair.1.toList.map Char.toLower) = pair.1.toLower := by
    rw [← String.toList_inj, String.toList_ofList]
    exact String.toList_map.symm
  simp only [parse, lower] at parsed
  split at parsed
  · cases parsed
  · split at parsed
    · cases parsed
    · exact (Except.ok.inj parsed).symm

/-- Of the values that are put on a request for a key, the last one stays. -/
theorem values_attach {M : Type} (transport : HeaderMap M) (pairs : List (String × String))
    (key : String) :
    transport.values (attach transport (pairs.map ofPair)) key =
      (valuesGiven pairs key).getLast?.toList := by
  induction pairs using List.reverseRecOn with
  | nil => exact transport.values_empty key
  | append_singleton before pair ih =>
    have step : attach transport ((before ++ [pair]).map ofPair) =
        transport.set (attach transport (before.map ofPair)) pair.1.toLower pair.2 := by
      simp only [attach, List.map_append, List.foldl_append]
      rfl
    rw [step, transport.values_set, valuesGiven_append, valuesGiven_singleton]
    by_cases same : pair.1.toLower = key
    · rw [if_pos same.symm, if_pos same, List.getLast?_append]
      rfl
    · rw [if_neg (Ne.symm same), if_neg same, List.append_nil, ih]

theorem mem_onStream {headers : List Header} {key value : String} :
    ⟨key, value⟩ ∈ onStream headers ↔ key ∉ reservedKeys ∧
      HeaderMap.named.values (attach HeaderMap.named headers) key = [value] := by
  have kept : HeaderMap.named.values (attach HeaderMap.named headers) key =
      ((attach HeaderMap.named headers).get? key).toList := rfl
  rw [kept, Option.toList_eq_singleton_iff, ← NameMap.mem_entries_iff]
  simp [onStream, and_comm]

end Header

namespace ClientConfig

variable {config configured : ClientConfig}

theorem metadata_ofServer {environment : Environment} {server : String}
    (accepted : ofServer environment server = .ok config) : config.metadata = [] := by
  unfold ofServer at accepted
  split at accepted
  · cases accepted
  · split at accepted
    · cases accepted
    · rw [← Except.ok.inj accepted]

theorem metadata_addMetadata {pair : String × String}
    (added : config.addMetadata pair.1 pair.2 = .ok configured) :
    configured.metadata = config.metadata ++ [Header.ofPair pair] := by
  unfold addMetadata at added
  split at added
  · cases added
  · rename_i header parsed
    rw [← Except.ok.inj added, Header.eq_ofPair parsed]

theorem metadata_addAllMetadata (added : config.addAllMetadata pairs = .ok configured) :
    configured.metadata = config.metadata ++ pairs.map Header.ofPair := by
  induction pairs generalizing config with
  | nil => simp [← Except.ok.inj added]
  | cons pair rest ih =>
    rw [addAllMetadata, List.foldlM_cons] at added
    obtain ⟨next, first, later⟩ := bind_eq_ok added
    rw [ih later, metadata_addMetadata first, List.map_cons, List.append_assoc,
      List.singleton_append]

end ClientConfig

/-- What a request carries of the pairs that a configuration was given. The configuration has them
all, but each key goes with the last of its values, and so nothing is missing exactly if all keys
are different. -/
structure Carries {M : Type} (transport : HeaderMap M) (pairs : List (String × String))
    (config : ClientConfig) : Prop where
  kept : config.metadata = pairs.map Header.ofPair
  last : ∀ key, transport.values (Header.attach transport config.metadata) key =
    (valuesGiven pairs key).getLast?.toList
  whole : (∀ key, transport.values (Header.attach transport config.metadata) key =
    valuesGiven pairs key) ↔ (headerKeys pairs).Nodup

theorem carries_of_added {M : Type} (transport : HeaderMap M) {config configured : ClientConfig}
    (fresh : config.metadata = []) (added : config.addAllMetadata pairs = .ok configured) :
    Carries transport pairs configured := by
  have kept : configured.metadata = pairs.map Header.ofPair := by
    rw [ClientConfig.metadata_addAllMetadata added, fresh, List.nil_append]
  refine ⟨kept, fun key => ?_, ?_⟩
  · rw [kept, Header.values_attach]
  · simp only [kept, Header.values_attach, last_is_all_iff]

end MeshDiscovery
