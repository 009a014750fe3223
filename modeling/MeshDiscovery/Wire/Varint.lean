namespace MeshDiscovery.Wire

/-- Bytes as they travel. -/
abbrev Bytes := List UInt8

namespace Varint

/-- The most bytes that one number may take. -/
def maxBytes : Nat := 10

/-- Reads a number that may still take `left` bytes; gives the number and the bytes after it. -/
def readUpTo : (left : Nat) → Bytes → Option (Nat × Bytes)
  | 0, _ => none
  | _ + 1, [] => none
  | left + 1, byte :: rest =>
    if byte.toNat < 128 then
      if left = 0 ∧ 1 < byte.toNat then none else some (byte.toNat, rest)
    else
      match readUpTo left rest with
      | some (high, after) => some (byte.toNat - 128 + 128 * high, after)
      | none => none

def read (bytes : Bytes) : Option (Nat × Bytes) :=
  readUpTo maxBytes bytes

/-- Writes a number in its shortest form. -/
def write (n : Nat) : Bytes :=
  if n < 128 then [UInt8.ofNat n]
  else UInt8.ofNat (n % 128 + 128) :: write (n / 128)
termination_by n
decreasing_by omega

theorem readUpTo_shortens {left : Nat} {bytes : Bytes} {n : Nat} {rest : Bytes}
    (done : readUpTo left bytes = some (n, rest)) : rest.length < bytes.length := by
  induction left generalizing bytes n rest with
  | zero => simp [readUpTo] at done
  | succ left ih =>
    cases bytes with
    | nil => simp [readUpTo] at done
    | cons byte bytes =>
      simp only [readUpTo] at done
      split at done
      · split at done
        · simp at done
        · simp only [Option.some.injEq, Prod.mk.injEq] at done
          simp [done.2]
      · split at done
        · rename_i high after inner
          simp only [Option.some.injEq, Prod.mk.injEq] at done
          have shorter := ih inner
          rw [← done.2]
          exact Nat.lt_succ_of_lt shorter
        · simp at done

theorem read_shortens {bytes : Bytes} {n : Nat} {rest : Bytes}
    (done : read bytes = some (n, rest)) : rest.length < bytes.length :=
  readUpTo_shortens done

end Varint

end MeshDiscovery.Wire
