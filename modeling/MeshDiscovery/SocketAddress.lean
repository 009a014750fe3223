/-!
Socket addresses: an address of the internet protocol, in its version four or six, and a port.
Version six stands between square brackets, where a scope may follow it. Readers take what they can
from the front of a text and give the rest.
-/

namespace MeshDiscovery

inductive HostAddress where
  /-- Four numbers of eight bits. -/
  | version4 (octets : List Nat)
  /-- Eight numbers of sixteen bits, and a scope. -/
  | version6 (groups : List Nat) (scope : Nat)
  deriving DecidableEq, Repr

structure SocketAddress where
  host : HostAddress
  port : Nat
  deriving DecidableEq, Repr

namespace SocketAddress

def invalid : String := "invalid socket address syntax"

/-- The value of a digit in a base of ten or sixteen. -/
def digitValue? (base : Nat) (c : Char) : Option Nat :=
  let value :=
    if c.isDigit then c.toNat - '0'.toNat
    else if 'a' ≤ c ∧ c ≤ 'f' then c.toNat - 'a'.toNat + 10
    else if 'A' ≤ c ∧ c ≤ 'F' then c.toNat - 'A'.toNat + 10
    else base
  if value < base then some value else none

def digitsValue (base : Nat) (digits : List Char) : Nat :=
  digits.foldl (fun value c => base * value + (digitValue? base c).getD 0) 0

/-- How a number is written in some place of an address. -/
structure NumberFormat where
  base : Nat := 10
  /-- The largest number of digits. -/
  width : Option Nat := none
  /-- A number other than zero may begin with a zero. -/
  leadingZeros : Bool := true
  largest : Nat

def octetFormat : NumberFormat :=
  { width := some 3, leadingZeros := false, largest := UInt8.size - 1 }

def groupFormat : NumberFormat :=
  { base := 16, width := some 4, largest := UInt16.size - 1 }

def portFormat : NumberFormat :=
  { largest := UInt16.size - 1 }

def scopeFormat : NumberFormat :=
  { largest := UInt32.size - 1 }

/-- Takes a number from the front of a text. All digits that stand there belong to it. -/
def takeNumber (format : NumberFormat) (text : List Char) : Option (Nat × List Char) :=
  let isDigit := fun c => (digitValue? format.base c).isSome
  let digits := text.takeWhile isDigit
  let value := digitsValue format.base digits
  if digits.isEmpty || format.width.any (· < digits.length)
      || (!format.leadingZeros && digits.head? = some '0' && 1 < digits.length)
      || format.largest < value then
    none
  else some (value, text.dropWhile isDigit)

def takeChar (expected : Char) : List Char → Option (List Char)
  | [] => none
  | c :: rest => if c = expected then some rest else none

/-- Takes a separator from the front of a text, unless nothing stands before it. -/
def takeSeparator (separator : Char) (first : Bool) (text : List Char) : Option (List Char) :=
  if first then some text else takeChar separator text

/-- Takes so many octets with dots between them, the first of all without a dot. -/
def takeOctets : (count : Nat) → (first : Bool) → List Char → Option (List Nat × List Char)
  | 0, _, text => some ([], text)
  | count + 1, first, text => do
    let (octet, rest) ← takeNumber octetFormat (← takeSeparator '.' first text)
    let (octets, rest) ← takeOctets count false rest
    return (octet :: octets, rest)

def takeVersion4 (text : List Char) : Option (List Nat × List Char) :=
  takeOctets 4 true text

/-- The two groups that an address of version four fills in one of version six. -/
def groupsOfOctets : List Nat → List Nat
  | high :: low :: rest => (256 * high + low) :: groupsOfOctets rest
  | _ => []

/-- Groups from the front of a text. -/
structure GroupRun where
  groups : List Nat
  /-- The last two groups were written as an address of version four. -/
  endsInVersion4 : Bool
  rest : List Char

/-- Takes groups with colons between them as long as there are any, at most so many. Where two more
fit, an address of version four may stand, after which there are no more. -/
def takeGroups : (limit : Nat) → (first : Bool) → List Char → GroupRun
  | 0, _, text => ⟨[], false, text⟩
  | limit + 1, first, text =>
    match takeSeparator ':' first text with
    | none => ⟨[], false, text⟩
    | some inner =>
      match if 0 < limit then takeVersion4 inner else none with
      | some (octets, rest) => ⟨groupsOfOctets octets, true, rest⟩
      | none =>
        match takeNumber groupFormat inner with
        | none => ⟨[], false, text⟩
        | some (group, rest) =>
          let more := takeGroups limit false rest
          { more with groups := group :: more.groups }

/-- Takes an address of version six: eight groups, or fewer with two colons for at least one group
of zeros. Version four may only stand at the end. -/
def takeVersion6 (text : List Char) : Option (List Nat × List Char) :=
  let head := takeGroups 8 true text
  if head.groups.length = 8 then some (head.groups, head.rest)
  else if head.endsInVersion4 then none
  else do
    let rest ← takeChar ':' (← takeChar ':' head.rest)
    let tail := takeGroups (7 - head.groups.length) true rest
    let zeros := List.replicate (8 - head.groups.length - tail.groups.length) 0
    return (head.groups ++ zeros ++ tail.groups, tail.rest)

/-- Takes a scope, which is zero where none stands. -/
def takeScope (text : List Char) : Nat × List Char :=
  ((takeChar '%' text).bind (takeNumber scopeFormat)).getD (0, text)

/-- Takes a colon and a port, after which nothing may stand. -/
def takePort (text : List Char) : Option Nat := do
  let (port, rest) ← takeNumber portFormat (← takeChar ':' text)
  if rest.isEmpty then some port else none

def parseVersion4 (text : List Char) : Option SocketAddress := do
  let (octets, rest) ← takeVersion4 text
  return ⟨.version4 octets, ← takePort rest⟩

def parseVersion6 (text : List Char) : Option SocketAddress := do
  let (groups, rest) ← takeVersion6 (← takeChar '[' text)
  let (scope, rest) := takeScope rest
  return ⟨.version6 groups scope, ← takePort (← takeChar ']' rest)⟩

def parse (text : String) : Option SocketAddress :=
  (parseVersion4 text.toList).or (parseVersion6 text.toList)

end SocketAddress

end MeshDiscovery
