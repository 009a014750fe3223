namespace MeshDiscovery.CommandLine

/-- The form of an argument. -/
inductive Token where
  /-- Two dashes alone: no options follow. -/
  | endOfOptions
  /-- Two dashes and a name; what follows the first equals sign is attached to it. -/
  | long (name : String) (attached : Option String)
  /-- One dash and at least one letter. -/
  | letters (first : Char) (rest : List Char)
  /-- Anything else, a dash alone and the empty text included. -/
  | plain
  deriving DecidableEq, Repr

/-- The part of a text in front of the first equals sign, and the part behind it if there is one. -/
def splitAttached (text : List Char) : String × Option String :=
  (String.ofList (text.takeWhile (· ≠ '=')),
    match text.dropWhile (· ≠ '=') with
    | [] => none
    | _ :: value => some (String.ofList value))

def Token.read (argument : String) : Token :=
  match argument.toList with
  | ['-', '-'] => .endOfOptions
  | '-' :: '-' :: text => .long (splitAttached text).1 (splitAttached text).2
  | '-' :: first :: rest => .letters first rest
  | _ => .plain

end MeshDiscovery.CommandLine
