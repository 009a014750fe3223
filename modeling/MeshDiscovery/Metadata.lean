import MeshDiscovery.NameMap

namespace MeshDiscovery

/-- What is wrong with a header. -/
inductive MetadataError where
  | invalidKey
  | invalidValue
  deriving DecidableEq, Repr

def MetadataError.message : MetadataError → String
  | invalidKey => "invalid gRPC metadata key name"
  | invalidValue => "failed to parse metadata value"

/-- A header: a key in lower case and its value. -/
structure Header where
  key : String
  value : String
  deriving DecidableEq, Repr

namespace Header

def isKeyChar (c : Char) : Bool :=
  c.isAlphanum || "!\"#$%&'*+-.^_\x60|~".toList.contains c

/-- A character of a value: a tab or anything that is not an ASCII control. -/
def isValueChar (c : Char) : Bool :=
  c = '\t' || (32 ≤ c.toNat && c.toNat ≠ 127)

/-- Keys with this ending are reserved for binary values. -/
def binaryEnding : List Char :=
  "-bin".toList

def parse (key value : String) : Except MetadataError Header :=
  let lower := key.toList.map Char.toLower
  if lower.isEmpty || !key.toList.all isKeyChar || binaryEnding.isSuffixOf lower then
    .error .invalidKey
  else if !value.toList.all isValueChar then .error .invalidValue
  else .ok ⟨String.ofList lower, value⟩

end Header

/-- What a transport keeps the headers of a request in, and what it promises about it: a key can
have several values, and one that is set takes the place of all that there were. -/
structure HeaderMap (M : Type) where
  empty : M
  /-- The values of a key, in order. -/
  values : M → String → List String
  set : M → String → String → M
  values_empty : ∀ key, values empty key = []
  values_set : ∀ map key value other,
    values (set map key value) other = if other = key then [value] else values map other

namespace HeaderMap

/-- A map from names, which keeps one value of each key. -/
def named : HeaderMap (NameMap String) where
  empty := NameMap.empty
  values map key := (map.get? key).toList
  set map key value := map.insert key value
  values_empty _ := rfl
  values_set map key value other := by
    split
    · rename_i same
      rw [same, NameMap.get?_insert_self, Option.toList_some]
    · rename_i different
      rw [NameMap.get?_insert_of_ne map different]

end HeaderMap

namespace Header

def attach {M : Type} (transport : HeaderMap M) (headers : List Header) : M :=
  headers.foldl (fun map header => transport.set map header.key header.value) transport.empty

/-- Keys that the transport keeps for itself; headers with them are not sent. -/
def reservedKeys : List String :=
  ["te", "user-agent", "content-type", "grpc-message", "grpc-message-type", "grpc-status"]

/-- The headers that a stream is opened with: those of its request in the order of the keys, without
the reserved ones. -/
def onStream (headers : List Header) : List Header :=
  let map := attach HeaderMap.named headers
  (map.entries.map fun entry => ⟨entry.1, entry.2⟩).filter fun header =>
    !reservedKeys.contains header.key

end Header

end MeshDiscovery
