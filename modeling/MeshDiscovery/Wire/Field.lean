import MeshDiscovery.Wire.Varint

/-!
The fields of a message in the order in which they stand on the wire. A field is a number and a
payload; payloads of kinds that no known field uses are checked for their shape and forgotten.
Groups nest, so a skipped payload remembers how many levels of nesting it takes to skip it.
-/

namespace MeshDiscovery.Wire

inductive Payload where
  /-- A number of variable length. -/
  | number (value : Nat)
  /-- A counted run of bytes: text, raw bytes or a nested message. -/
  | content (bytes : Bytes)
  /-- A fixed-width number or a group, which takes `levels` levels of nesting to skip. -/
  | skipped (levels : Nat)
  deriving DecidableEq, Repr

/-- The levels of nesting that it takes to skip a payload. -/
def Payload.levels : Payload → Nat
  | number _ | content _ => 1
  | skipped levels => levels

structure Field where
  number : Nat
  payload : Payload
  deriving DecidableEq, Repr

namespace Field

/-- The forms in which a payload may follow its key. -/
inductive Form where
  | number
  | eightBytes
  | counted
  | groupStart
  | groupEnd
  | fourBytes
  deriving DecidableEq, Repr

/-- The form that the low three bits of a key name. -/
def Form.ofCode? : Nat → Option Form
  | 0 => some .number
  | 1 => some .eightBytes
  | 2 => some .counted
  | 3 => some .groupStart
  | 4 => some .groupEnd
  | 5 => some .fourBytes
  | _ => none

/-- Reads a key: a field number other than zero and the form of its payload, in 32 bits. -/
def readKey (bytes : Bytes) : Option ((Nat × Form) × Bytes) :=
  match Varint.read bytes with
  | none => none
  | some (key, rest) =>
    if UInt32.size ≤ key ∨ key / 8 = 0 then none
    else (Form.ofCode? (key % 8)).map fun form => ((key / 8, form), rest)

/-- Splits off `count` bytes, if there are so many. -/
def splitExact (count : Nat) (bytes : Bytes) : Option (Bytes × Bytes) :=
  if count ≤ bytes.length then some (bytes.splitAt count) else none

/-- Reads a length and as many bytes. -/
def readCounted (bytes : Bytes) : Option (Bytes × Bytes) :=
  match Varint.read bytes with
  | none => none
  | some (count, rest) => splitExact count rest

/-- Reads a payload of a form that is not a group. -/
def readPlain (form : Form) (bytes : Bytes) : Option (Payload × Bytes) :=
  match form with
  | .number => (Varint.read bytes).map fun (value, rest) => (.number value, rest)
  | .eightBytes => (splitExact 8 bytes).map fun (_, rest) => (.skipped 1, rest)
  | .counted => (readCounted bytes).map fun (content, rest) => (.content content, rest)
  | .fourBytes => (splitExact 4 bytes).map fun (_, rest) => (.skipped 1, rest)
  | .groupStart | .groupEnd => none

theorem readKey_shortens {bytes rest : Bytes} {key : Nat × Form}
    (done : readKey bytes = some (key, rest)) : rest.length < bytes.length := by
  unfold readKey at done
  split at done
  · simp at done
  · rename_i n after inner
    split at done
    · simp at done
    · obtain ⟨form, _, same⟩ := Option.map_eq_some_iff.mp done
      simp only [Prod.mk.injEq] at same
      exact same.2 ▸ Varint.read_shortens inner

theorem splitExact_length {count : Nat} {bytes first rest : Bytes}
    (done : splitExact count bytes = some (first, rest)) : rest.length ≤ bytes.length := by
  unfold splitExact at done
  split at done
  · simp only [List.splitAt_eq, Option.some.injEq, Prod.mk.injEq] at done
    simp [← done.2]
  · simp at done

theorem readCounted_length {bytes content rest : Bytes}
    (done : readCounted bytes = some (content, rest)) : rest.length ≤ bytes.length := by
  unfold readCounted at done
  split at done
  · simp at done
  · rename_i count after inner
    exact Nat.le_trans (splitExact_length done) (Nat.le_of_lt (Varint.read_shortens inner))

theorem readPlain_length {form : Form} {bytes rest : Bytes} {payload : Payload}
    (done : readPlain form bytes = some (payload, rest)) : rest.length ≤ bytes.length := by
  cases form <;> simp only [readPlain, Option.map_eq_some_iff] at done
  case number =>
    obtain ⟨⟨value, after⟩, inner, same⟩ := done
    simp only [Prod.mk.injEq] at same
    exact same.2 ▸ Nat.le_of_lt (Varint.read_shortens inner)
  case eightBytes =>
    obtain ⟨⟨first, after⟩, inner, same⟩ := done
    simp only [Prod.mk.injEq] at same
    exact same.2 ▸ splitExact_length inner
  case counted =>
    obtain ⟨⟨content, after⟩, inner, same⟩ := done
    simp only [Prod.mk.injEq] at same
    exact same.2 ▸ readCounted_length inner
  case fourBytes =>
    obtain ⟨⟨first, after⟩, inner, same⟩ := done
    simp only [Prod.mk.injEq] at same
    exact same.2 ▸ splitExact_length inner
  case groupStart => simp at done
  case groupEnd => simp at done

/-- Skips to the end of the groups that are open, innermost first, and gives the levels of nesting
that this takes. Each group has to be closed by its own number. -/
def closeGroups (opened : List Nat) (levels : Nat) (bytes : Bytes) : Option (Nat × Bytes) :=
  match opened with
  | [] => some (levels, bytes)
  | number :: outer =>
    match keyRead : readKey bytes with
    | none => none
    | some ((other, .groupEnd), rest) =>
      if other = number then closeGroups outer levels rest else none
    | some ((other, .groupStart), rest) =>
      closeGroups (other :: number :: outer) (max levels (outer.length + 2)) rest
    | some ((_, form), rest) =>
      match plainRead : readPlain form rest with
      | none => none
      | some (_, after) => closeGroups (number :: outer) (max levels (outer.length + 2)) after
termination_by bytes.length
decreasing_by
  · exact readKey_shortens keyRead
  · exact readKey_shortens keyRead
  · exact Nat.lt_of_le_of_lt (readPlain_length plainRead) (readKey_shortens keyRead)

theorem closeGroups_length {opened : List Nat} {levels needed : Nat} {bytes rest : Bytes}
    (done : closeGroups opened levels bytes = some (needed, rest)) :
    rest.length ≤ bytes.length := by
  fun_induction closeGroups opened levels bytes with
  | case1 => simp_all
  | case2 => simp at done
  | case3 _ _ _ _ _ keyRead ih =>
    exact Nat.le_trans (ih done) (Nat.le_of_lt (readKey_shortens keyRead))
  | case4 => simp at done
  | case5 _ _ _ _ _ _ keyRead ih =>
    exact Nat.le_trans (ih done) (Nat.le_of_lt (readKey_shortens keyRead))
  | case6 => simp at done
  | case7 _ _ _ _ _ _ _ _ _ keyRead _ _ plainRead ih =>
    exact Nat.le_trans (ih done)
      (Nat.le_trans (readPlain_length plainRead) (Nat.le_of_lt (readKey_shortens keyRead)))

def read (bytes : Bytes) : Option (Field × Bytes) :=
  match readKey bytes with
  | none => none
  | some ((number, .groupStart), rest) =>
    (closeGroups [number] 1 rest).map fun (levels, after) => (⟨number, .skipped levels⟩, after)
  | some ((number, form), rest) =>
    (readPlain form rest).map fun (payload, after) => (⟨number, payload⟩, after)

/-- Reading a field uses up at least one byte. -/
theorem read_shortens {bytes rest : Bytes} {field : Field}
    (done : read bytes = some (field, rest)) : rest.length < bytes.length := by
  unfold read at done
  split at done
  · simp at done
  · rename_i keyRead
    obtain ⟨⟨levels, after⟩, inner, same⟩ := Option.map_eq_some_iff.mp done
    simp only [Prod.mk.injEq] at same
    exact same.2 ▸ Nat.lt_of_le_of_lt (closeGroups_length inner) (readKey_shortens keyRead)
  · rename_i keyRead
    obtain ⟨⟨payload, after⟩, inner, same⟩ := Option.map_eq_some_iff.mp done
    simp only [Prod.mk.injEq] at same
    exact same.2 ▸ Nat.lt_of_le_of_lt (readPlain_length inner) (readKey_shortens keyRead)

/-- Reads bytes as fields up to their end. -/
def readAll (bytes : Bytes) : Option (List Field) :=
  match bytes with
  | [] => some []
  | byte :: more =>
    match fieldRead : read (byte :: more) with
    | none => none
    | some (field, rest) =>
      have : rest.length < (byte :: more).length := read_shortens fieldRead
      (readAll rest).map (field :: ·)
termination_by bytes.length
decreasing_by assumption

def writeKey (number code : Nat) : Bytes :=
  Varint.write (8 * number + code)

/-- Writes a field that carries a number or counted bytes. Messages of this library have no fields
of other forms, so a skipped payload has no written form. -/
def write (field : Field) : Bytes :=
  match field.payload with
  | .number value => writeKey field.number 0 ++ Varint.write value
  | .content bytes => writeKey field.number 2 ++ Varint.write bytes.length ++ bytes
  | .skipped _ => []

end Field

end MeshDiscovery.Wire
