import MeshDiscovery.Proofs.Wire.RoundTrip

/-!
Messages are read back from what is written of them. Merging the fields of a message one after the
other builds it up from the empty message, which takes as many levels of nesting as the message has.
-/

namespace MeshDiscovery.Wire

namespace Payload

theorem text_content (text : String) : (content (Field.textBytes text)).text = some text := by
  have bytes : (⟨(Field.textBytes text).toArray⟩ : ByteArray) = text.toByteArray := by
    simp [Field.textBytes]
  show String.fromUTF8? _ = some text
  rw [bytes]
  exact dif_pos text.isValidUTF8

theorem word32_number (value : UInt32) : (number value.toNat).word32 = some value :=
  congrArg some UInt32.ofNat_toNat

/-- The low half of a number is what it was before its sign was extended. -/
theorem int32_number (value : Int32) :
    (number value.toInt64.toUInt64.toNat).int32 = some value := by
  have low : Int32.ofNat value.toInt64.toUInt64.toNat = value := by
    apply Int32.toBitVec_inj.mp
    show BitVec.ofNat 32 (value.toBitVec.signExtend 64).toNat = value.toBitVec
    rw [BitVec.ofNat_toNat]
    ext place inside
    simp
    grind
  exact congrArg some low

end Payload

namespace Message

variable {α β : Type} [Message α] [Message β]

/-- Merging some fields turns one message into another, as long as `levels` levels of nesting are
left. -/
structure Merges (levels : Nat) (before : α) (fields : List Field) (after : α) : Prop where
  writable : ∀ field ∈ fields, field.IsWritable
  merged : ∀ budget, levels ≤ budget → (∀ field ∈ fields, field.IsCountable) →
    fields.foldlM (merge budget) before = some after

/-- Messages that come back when their fields are merged into the empty one. -/
class Restorable (α : Type) [Message α] where
  /-- The levels of nesting that this takes. -/
  levels : Nat
  restored : ∀ message : α, Merges levels empty (fields message) message

/-- The bytes of a message can be counted, so that it can stand inside another one. -/
def IsCountable (message : α) : Prop :=
  (encode message).length < Varint.bound

namespace IsCountable

theorem field {message : α} {field : Field} (countable : IsCountable message)
    (member : field ∈ fields message) : field.IsCountable := by
  have shorter : field.write.length ≤ (encode message).length :=
    (List.sublist_flatten_of_mem (List.mem_map_of_mem member)).length_le
  exact Field.isCountable_of_length (Nat.lt_of_le_of_lt shorter countable)

theorem nested {message : α} {number : Nat} {inner : β} (countable : IsCountable message)
    (member : Field.ofMessage number inner ∈ fields message) : IsCountable inner :=
  countable.field member

end IsCountable

theorem mergeBytes_encode [Restorable α] {budget : Nat} {message : α}
    (enough : Restorable.levels α ≤ budget) (countable : IsCountable message) :
    mergeBytes budget empty (encode message) = some message := by
  obtain ⟨writable, merged⟩ := Restorable.restored message
  have eachCountable : ∀ field ∈ fields message, field.IsCountable := fun _ => countable.field
  rw [mergeBytes, encode, Field.readAll_write writable eachCountable]
  exact merged budget enough eachCountable

theorem decode_encode [Restorable α] {message : α} (shallow : Restorable.levels α ≤ maxLevels)
    (countable : IsCountable message) : decode (encode message) = some message :=
  mergeBytes_encode shallow countable

namespace Merges

variable {levels : Nat} {before : α}

theorem nil : Merges levels before [] before :=
  ⟨by simp, fun _ _ _ => rfl⟩

theorem append {between after : α} {first second : List Field}
    (left : Merges levels before first between) (right : Merges levels between second after) :
    Merges levels before (first ++ second) after := by
  refine ⟨?_, fun budget enough countable => ?_⟩
  · intro field member
    exact (List.mem_append.mp member).elim (left.writable field) (right.writable field)
  · have earlier := left.merged budget enough fun field member =>
      countable field (List.mem_append_left _ member)
    have later := right.merged budget enough fun field member =>
      countable field (List.mem_append_right _ member)
    rw [List.foldlM_append, earlier]
    exact later

theorem single {after : α} {field : Field} (writable : field.IsWritable)
    (merged : ∀ budget, levels ≤ budget → field.IsCountable →
      merge budget before field = some after) : Merges levels before [field] after := by
  refine ⟨by simpa using writable, fun budget enough countable => ?_⟩
  simp [merged budget enough (countable field List.mem_cons_self)]

/-- The number of a field fits its key. -/
abbrev Fits (number : Nat) : Prop :=
  0 < number ∧ number < Field.numberBound

private theorem value {γ : Type} {number : Nat} {payload : Payload} {carried : γ} {read : Payload → Option γ}
    {set : γ → α} (writable : Field.IsWritable ⟨number, payload⟩)
    (found : read payload = some carried)
    (step : ∀ budget payload, merge budget before ⟨number, payload⟩ = (read payload).map set) :
    Merges levels before [⟨number, payload⟩] (set carried) :=
  single writable fun budget _ _ => by rw [step budget payload, found, Option.map_some]

private theorem omitted {γ : Type} [DecidableEq γ] {field : Field} {set : γ → α} {value unset : γ}
    (given : Merges levels (set unset) [field] (set value)) :
    Merges levels (set unset) (if value = unset then [] else [field]) (set value) := by
  split
  · rename_i same
    rw [same]
    exact nil
  · exact given

private theorem optional {γ : Type} {field : γ → Field} {set : Option γ → α}
    (given : ∀ value, Merges levels (set none) [field value] (set (some value)))
    (value : Option γ) : Merges levels (set none) (value.map field).toList (set value) := by
  cases value with
  | none => exact nil
  | some value => exact given value

private theorem repeated {γ : Type} {field : γ → Field} {set : List γ → α}
    (given : ∀ earlier value,
      Merges levels (set earlier) [field value] (set (earlier ++ [value])))
    (values : List γ) : Merges levels (set []) (values.map field) (set values) := by
  -- Each field is added behind those that were merged earlier, so the induction has to allow some.
  have onward : ∀ earlier,
      Merges levels (set earlier) (values.map field) (set (earlier ++ values)) := by
    induction values with
    | nil =>
      intro earlier
      rw [List.append_nil]
      exact nil
    | cons value rest ih =>
      intro earlier
      rw [List.append_cons earlier]
      exact (given earlier value).append (ih (earlier ++ [value]))
  exact onward []

/-!
What a schema has to show of a field is that its number fits and that merging it sets what was
read. Both are computations, so they are made where a field is used.
-/

theorem text (number : Nat) (set : String → α) (text : String) (fits : Fits number := by decide)
    (step : ∀ budget payload, merge budget before ⟨number, payload⟩ = payload.text.map set := by
      intros; rfl) :
    Merges levels before [Field.ofText number text] (set text) :=
  value ⟨fits.1, fits.2, trivial⟩ (Payload.text_content text) step

theorem nonemptyText (number : Nat) (set : String → α) (text : String)
    (fits : Fits number := by decide)
    (step : ∀ budget payload, merge budget (set "") ⟨number, payload⟩ = payload.text.map set := by
      intros; rfl) :
    Merges levels (set "") (Field.ofNonemptyText number text) (set text) :=
  omitted (.text number set text fits step)

theorem optionalText (number : Nat) (set : Option String → α) (text : Option String)
    (fits : Fits number := by decide)
    (step : ∀ budget payload, merge budget (set none) ⟨number, payload⟩ =
      payload.text.map fun text => set (some text) := by intros; rfl) :
    Merges levels (set none) (text.map (Field.ofText number)).toList (set text) :=
  optional (fun text => .text number (fun text => set (some text)) text fits step) text

theorem repeatedText (number : Nat) (set : List String → α) (texts : List String)
    (fits : Fits number := by decide)
    (step : ∀ earlier budget payload, merge budget (set earlier) ⟨number, payload⟩ =
      payload.text.map fun text => set (earlier ++ [text]) := by intros; rfl) :
    Merges levels (set []) (texts.map (Field.ofText number)) (set texts) :=
  repeated (fun earlier text =>
    .text number (fun text => set (earlier ++ [text])) text fits (step earlier)) texts

theorem nonemptyBytes (number : Nat) (set : Bytes → α) (bytes : Bytes)
    (fits : Fits number := by decide)
    (step : ∀ budget payload, merge budget (set []) ⟨number, payload⟩ = payload.raw.map set := by
      intros; rfl) :
    Merges levels (set []) (Field.ofNonemptyBytes number bytes) (set bytes) :=
  omitted (value ⟨fits.1, fits.2, trivial⟩ rfl step)

theorem word32 (number : Nat) (set : UInt32 → α) (word : UInt32) (fits : Fits number := by decide)
    (step : ∀ budget payload, merge budget before ⟨number, payload⟩ = payload.word32.map set := by
      intros; rfl) :
    Merges levels before [Field.ofWord32 number word] (set word) := by
  have small : word.toNat < Varint.bound := Nat.lt_trans word.toNat_lt (by decide)
  exact value ⟨fits.1, fits.2, small⟩ (Payload.word32_number word) step

theorem nonzeroWord32 (number : Nat) (set : UInt32 → α) (word : UInt32)
    (fits : Fits number := by decide)
    (step : ∀ budget payload, merge budget (set 0) ⟨number, payload⟩ = payload.word32.map set := by
      intros; rfl) :
    Merges levels (set 0) (Field.ofNonzeroWord32 number word) (set word) :=
  omitted (.word32 number set word fits step)

theorem nonzeroInt32 (number : Nat) (set : Int32 → α) (integer : Int32)
    (fits : Fits number := by decide)
    (step : ∀ budget payload, merge budget (set 0) ⟨number, payload⟩ = payload.int32.map set := by
      intros; rfl) :
    Merges levels (set 0) (Field.ofNonzeroInt32 number integer) (set integer) := by
  have small : integer.toInt64.toUInt64.toNat < Varint.bound := UInt64.toNat_lt _
  exact omitted (value ⟨fits.1, fits.2, small⟩ (Payload.int32_number integer) step)

/-- A message inside another one is read with one level less. -/
theorem message [Restorable β] (number : Nat) (set : β → α) (inner : β)
    (fits : Fits number := by decide)
    (room : Restorable.levels β < levels := by decide)
    (step : ∀ budget payload, merge budget before ⟨number, payload⟩ =
      (payload.nested budget (empty : β)).map set := by intros; rfl) :
    Merges levels before [Field.ofMessage number inner] (set inner) := by
  refine single ⟨fits.1, fits.2, trivial⟩ fun budget enough countable => ?_
  have left : budget ≠ 0 := by omega
  have inside : mergeBytes (budget - 1) empty (encode inner) = some inner :=
    mergeBytes_encode (by omega) countable
  refine (step budget _).trans ?_
  rw [Payload.nested, if_neg left, inside, Option.map_some]

theorem optionalMessage [Restorable β] (number : Nat) (set : Option β → α) (inner : Option β)
    (fits : Fits number := by decide)
    (room : Restorable.levels β < levels := by decide)
    (step : ∀ budget payload, merge budget (set none) ⟨number, payload⟩ =
      (payload.nested budget (empty : β)).map fun inner => set (some inner) := by intros; rfl) :
    Merges levels (set none) (inner.map (Field.ofMessage number)).toList (set inner) :=
  optional (fun inner =>
    .message number (fun inner => set (some inner)) inner fits room step) inner

theorem repeatedMessage [Restorable β] (number : Nat) (set : List β → α) (inner : List β)
    (fits : Fits number := by decide)
    (room : Restorable.levels β < levels := by decide)
    (step : ∀ earlier budget payload, merge budget (set earlier) ⟨number, payload⟩ =
      (payload.nested budget (empty : β)).map fun inner => set (earlier ++ [inner]) := by
        intros; rfl) :
    Merges levels (set []) (inner.map (Field.ofMessage number)) (set inner) :=
  repeated (fun earlier inner =>
    .message number (fun inner => set (earlier ++ [inner])) inner fits room (step earlier)) inner

end Merges

end Message

end MeshDiscovery.Wire
