namespace MeshDiscovery.Text

/-- The value of a run of decimal digits. -/
def decimalValue (digits : List Char) : Nat :=
  digits.foldl (fun value c => 10 * value + (c.toNat - '0'.toNat)) 0

/-- The digits of a number, without the plus sign that may stand in front of them. -/
def unsignedDigits : List Char → List Char
  | '+' :: digits => digits
  | digits => digits

/-- Reads a number of at most `limit`: at least one digit, and nothing else but a leading plus. -/
def readUnsigned (limit : Nat) (text : String) : Option Nat :=
  let digits := unsignedDigits text.toList
  if digits.isEmpty || !digits.all Char.isDigit then none
  else if decimalValue digits ≤ limit then some (decimalValue digits) else none

end MeshDiscovery.Text
