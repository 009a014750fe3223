import MeshDiscovery.Text.Printable

/-!
Quoted text as it appears inside messages: between double quotes, on one line, with every
character that could be mistaken or not be seen written as an escape.
-/

namespace MeshDiscovery.Text

/-- The digits of a number in base sixteen, lower case, without leading zeros. -/
def hexDigits (n : Nat) : List Char :=
  Nat.toDigits 16 n

/-- One character of quoted text: quotes, backslashes and the usual controls have short escapes,
any other unprintable character is named by its code point. -/
def escapeChar (c : Char) : List Char :=
  if c = '\x00' then ['\\', '0']
  else if c = '\t' then ['\\', 't']
  else if c = '\r' then ['\\', 'r']
  else if c = '\n' then ['\\', 'n']
  else if c = '"' then ['\\', '"']
  else if c = '\\' then ['\\', '\\']
  else if isPrintable c then [c]
  else '\\' :: 'u' :: '\x7b' :: (hexDigits c.toNat ++ ['\x7d'])

/-- Text between double quotes, with the escapes of `escapeChar`. -/
def quote (s : String) : String :=
  String.ofList ('"' :: (s.toList.flatMap escapeChar ++ ['"']))

/-- Quoted texts between square brackets, separated by a comma and a space. -/
def quoteList (texts : List String) : String :=
  "[" ++ ", ".intercalate (texts.map quote) ++ "]"

end MeshDiscovery.Text
