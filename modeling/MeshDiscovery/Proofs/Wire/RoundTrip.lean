import Mathlib.Algebra.Group.Nat.Defs
import MeshDiscovery.Wire.Message

namespace MeshDiscovery.Wire

namespace Varint

/-- The numbers that can be read are those below this bound. -/
def bound : Nat := 2 ^ 64

private theorem write_of_lt {n : Nat} (small : n < 128) : write n = [UInt8.ofNat n] := by
  rw [write, if_pos small]

private theorem write_of_le {n : Nat} (large : 128 ≤ n) :
    write n = UInt8.ofNat (n % 128 + 128) :: write (n / 128) := by
  rw [write, if_neg (Nat.not_lt.mpr large)]

private theorem toNat_ofNat {n : Nat} (small : n < 256) : (UInt8.ofNat n).toNat = n :=
  UInt8.toNat_ofNat_of_lt' small

private theorem readUpTo_write (left n : Nat) (rest : Bytes) (fits : n < 2 * 128 ^ left) :
    readUpTo (left + 1) (write n ++ rest) = some (n, rest) := by
  induction left generalizing n with
  | zero =>
    have byte : (UInt8.ofNat n).toNat = n := toNat_ofNat (by omega)
    rw [write_of_lt (by omega), List.singleton_append, readUpTo, byte, if_pos (by omega),
      if_neg (by omega)]
  | succ left ih =>
    by_cases small : n < 128
    · have byte : (UInt8.ofNat n).toNat = n := toNat_ofNat (by omega)
      rw [write_of_lt small, List.singleton_append, readUpTo, byte, if_pos small, if_neg (by omega)]
    · have byte : (UInt8.ofNat (n % 128 + 128)).toNat = n % 128 + 128 := toNat_ofNat (by omega)
      have high := ih (n / 128) (by rw [Nat.pow_succ] at fits; omega)
      rw [write_of_le (by omega), List.cons_append, readUpTo, byte, if_neg (by omega), high]
      simp only [Option.some.injEq, Prod.mk.injEq, and_true]
      omega

theorem read_write {n : Nat} (fits : n < bound) (rest : Bytes) :
    read (write n ++ rest) = some (n, rest) :=
  readUpTo_write 9 n rest (by simpa [bound] using fits)

theorem write_ne_nil (n : Nat) : write n ≠ [] := by
  rw [write]
  split
  · exact List.cons_ne_nil _ _
  · exact List.cons_ne_nil _ _

end Varint

namespace Field

/-- The numbers that a key has room for. -/
def numberBound : Nat := 2 ^ 29

/-- A field of which something is written: its number fits a key, and it carries a number or counted
bytes. -/
def IsWritable (field : Field) : Prop :=
  0 < field.number ∧ field.number < numberBound ∧
    match field.payload with
    | .number value => value < Varint.bound
    | .content _ => True
    | .skipped _ => False

def IsCountable (field : Field) : Prop :=
  match field.payload with
  | .content bytes => bytes.length < Varint.bound
  | _ => True

private theorem readKey_writeKey {number : Nat} (code : Nat) {form : Form} (positive : 0 < number)
    (fits : number < numberBound) (known : Form.ofCode? code = some form) (small : code < 8)
    (rest : Bytes) : readKey (writeKey number code ++ rest) = some ((number, form), rest) := by
  unfold numberBound at fits
  have read := Varint.read_write (n := 8 * number + code)
    (by unfold Varint.bound; omega) rest
  have key : ¬ (UInt32.size ≤ 8 * number + code ∨ (8 * number + code) / 8 = 0) := by
    unfold UInt32.size
    omega
  have low : (8 * number + code) % 8 = code := by omega
  have high : (8 * number + code) / 8 = number := by omega
  rw [writeKey, readKey, read]
  dsimp only
  rw [if_neg key, low, high, known]
  rfl

private theorem readCounted_write {bytes : Bytes} (countable : bytes.length < Varint.bound)
    (rest : Bytes) :
    readCounted (Varint.write bytes.length ++ (bytes ++ rest)) = some (bytes, rest) := by
  rw [readCounted, Varint.read_write countable]
  simp [splitExact]

/-- A field that is written is read back, whatever follows it. -/
theorem read_write {field : Field} (writable : field.IsWritable) (countable : field.IsCountable)
    (rest : Bytes) : read (field.write ++ rest) = some (field, rest) := by
  obtain ⟨number, payload⟩ := field
  obtain ⟨positive, fits, carried⟩ := writable
  cases payload with
  | number value =>
    have key := readKey_writeKey 0 positive fits rfl (by decide)
      (Varint.write value ++ rest)
    rw [write, List.append_assoc, read, key]
    simp [readPlain, Varint.read_write carried]
  | content bytes =>
    have key := readKey_writeKey 2 positive fits rfl (by decide)
      (Varint.write bytes.length ++ (bytes ++ rest))
    have counted := readCounted_write countable rest
    rw [write, List.append_assoc, List.append_assoc, read, key]
    simp [readPlain, counted]
  | skipped levels => exact absurd carried id

theorem write_ne_nil {field : Field} (writable : field.IsWritable) : field.write ≠ [] := by
  obtain ⟨number, payload⟩ := field
  cases payload with
  | number value => simp [write, writeKey, Varint.write_ne_nil]
  | content bytes => simp [write, writeKey, Varint.write_ne_nil]
  | skipped levels => exact absurd writable.2.2 id

/-- The bytes that a field carries are among those that are written for it. -/
theorem isCountable_of_length {field : Field} (short : field.write.length < Varint.bound) :
    field.IsCountable := by
  obtain ⟨number, payload⟩ := field
  cases payload with
  | number value => trivial
  | content bytes =>
    show bytes.length < Varint.bound
    simp only [write, List.length_append] at short
    omega
  | skipped levels => trivial

/-- Fields that are written one after the other are read back. -/
theorem readAll_write {fields : List Field} (writable : ∀ field ∈ fields, field.IsWritable)
    (countable : ∀ field ∈ fields, field.IsCountable) :
    readAll (fields.flatMap write) = some fields := by
  induction fields with
  | nil => simp [readAll]
  | cons field rest ih =>
    obtain ⟨ownWritable, othersWritable⟩ := List.forall_mem_cons.mp writable
    obtain ⟨ownCountable, othersCountable⟩ := List.forall_mem_cons.mp countable
    have first := read_write ownWritable ownCountable (rest.flatMap write)
    have later := ih othersWritable othersCountable
    rw [List.flatMap_cons]
    obtain ⟨byte, more, written⟩ := List.exists_cons_of_ne_nil (write_ne_nil ownWritable)
    rw [written, List.cons_append] at first ⊢
    rw [readAll]
    split
    · rename_i none
      rw [first] at none
      cases none
    · rename_i other after found
      rw [first] at found
      cases found
      rw [later]
      rfl

end Field

end MeshDiscovery.Wire
