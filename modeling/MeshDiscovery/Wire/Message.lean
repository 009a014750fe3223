import MeshDiscovery.Wire.Field

/-!
Messages as values that fields are merged into one after the other. A message starts out empty;
a later number or text replaces an earlier one, a nested message given twice is merged, and a field
that a message has no place for is skipped. Nesting is limited: a message is read with a budget of
levels, and whatever it nests has one level less.
-/

namespace MeshDiscovery.Wire

/-- A message that is read by merging fields into it and written as a list of fields. -/
class Message (α : Type) where
  /-- The message without any field. -/
  empty : α
  /-- The message after one more field, read with a budget of levels of nesting. -/
  merge : (budget : Nat) → α → Field → Option α
  /-- The fields of a message, in the order in which they are written. -/
  fields : α → List Field

namespace Message

/-- The levels of nesting that a message on its own may have. -/
def maxLevels : Nat := 100

variable {α : Type} [Message α]

/-- Merges the fields of some bytes into a message, within a budget of levels. -/
def mergeBytes (budget : Nat) (message : α) (bytes : Bytes) : Option α :=
  (Field.readAll bytes).bind fun fields => fields.foldlM (merge budget) message

def decode (bytes : Bytes) : Option α :=
  mergeBytes maxLevels empty bytes

def encode (message : α) : Bytes :=
  (fields message).flatMap Field.write

end Message

namespace Payload

def text : Payload → Option String
  | content bytes => String.fromUTF8? ⟨bytes.toArray⟩
  | _ => none

def raw : Payload → Option Bytes
  | content bytes => some bytes
  | _ => none

/-- The payload as a number of 32 bits; higher bits are dropped. -/
def word32 : Payload → Option UInt32
  | number value => some (UInt32.ofNat value)
  | _ => none

/-- The payload as a signed number of 32 bits; higher bits are dropped. -/
def int32 : Payload → Option Int32
  | number value => some (Int32.ofNat value)
  | _ => none

/-- The payload as a nested message, merged into the one that is there. -/
def nested {α : Type} [Message α] (budget : Nat) (current : α) : Payload → Option α
  | content bytes => if budget = 0 then none else Message.mergeBytes (budget - 1) current bytes
  | _ => none

end Payload

namespace Field

/-- Skips a field that a message has no place for. Its payload is checked for its shape, which the
budget of levels has to allow. -/
def skip {α : Type} (budget : Nat) (message : α) (field : Field) : Option α :=
  if field.payload.levels ≤ budget then some message else none

def textBytes (text : String) : Bytes :=
  text.toUTF8.data.toList

def ofText (number : Nat) (text : String) : Field :=
  ⟨number, .content (textBytes text)⟩

/-- A text field that is left out when the text is empty. -/
def ofNonemptyText (number : Nat) (text : String) : List Field :=
  if text = "" then [] else [ofText number text]

/-- A field of raw bytes that is left out when there are none. -/
def ofNonemptyBytes (number : Nat) (bytes : Bytes) : List Field :=
  if bytes = [] then [] else [⟨number, .content bytes⟩]

def ofWord32 (number : Nat) (value : UInt32) : Field :=
  ⟨number, .number value.toNat⟩

/-- A number of 32 bits that is left out when it is zero. -/
def ofNonzeroWord32 (number : Nat) (value : UInt32) : List Field :=
  if value = 0 then [] else [ofWord32 number value]

/-- A signed number of 32 bits that is left out when it is zero; its sign is extended to 64 bits. -/
def ofNonzeroInt32 (number : Nat) (value : Int32) : List Field :=
  if value = 0 then [] else [⟨number, .number value.toInt64.toUInt64.toNat⟩]

def ofMessage {α : Type} [Message α] (number : Nat) (message : α) : Field :=
  ⟨number, .content (Message.encode message)⟩

end Field

end MeshDiscovery.Wire
