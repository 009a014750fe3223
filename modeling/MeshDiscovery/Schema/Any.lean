import MeshDiscovery.Wire.Message

/-!
Messages that every schema uses: a packed message, which is bytes under a type url, and a message
of which only the presence matters.
-/

namespace MeshDiscovery.Schema

open Wire

/-- A message packed as bytes, with the url of its type beside it. -/
structure Any where
  typeUrl : String := ""
  value : Bytes := []
  deriving DecidableEq, Repr, Inhabited

instance : Message Any where
  empty := {}
  merge budget any field :=
    match field.number with
    | 1 => field.payload.text.map fun text => { any with typeUrl := text }
    | 2 => field.payload.raw.map fun bytes => { any with value := bytes }
    | _ => field.skip budget any
  fields any := Field.ofNonemptyText 1 any.typeUrl ++ Field.ofNonemptyBytes 2 any.value

def Any.pack {α : Type} [Message α] (typeUrl : String) (message : α) : Any :=
  ⟨typeUrl, Message.encode message⟩

/-- A message of which only the presence matters; it has no fields of its own. -/
structure Blank where
  deriving DecidableEq, Repr, Inhabited

instance : Message Blank where
  empty := {}
  merge budget blank field := field.skip budget blank
  fields _ := []

end MeshDiscovery.Schema
