import MeshDiscovery.Text.Decimal
import MeshDiscovery.Uri.Authority

/-!
URIs in the three forms that name a server: a path alone, an authority alone, and a scheme with an
authority and a path.
-/

namespace MeshDiscovery

structure Uri where
  scheme : Option String
  authority : String
  path : String
  query : Option String
  deriving DecidableEq, Repr

namespace Uri

def maxBytes : Nat := 65534

def maxSchemeLength : Nat := 64

def isSchemeChar (c : Char) : Bool :=
  c.isAlphanum || c = '+' || c = '-' || c = '.' || c = '~'

/-- The text after a beginning that is compared without regard to case. -/
def dropBeginning? (beginning text : List Char) : Option (List Char) :=
  if (text.take beginning.length).map Char.toLower = beginning then
    some (text.drop beginning.length)
  else none

/-- Splits off a scheme that is not one of the common ones: scheme characters up to a colon and two
slashes. Texts of at most three bytes have none. -/
def splitOtherScheme (text : List Char) : Except UriError (Option String × List Char) :=
  let scheme := text.takeWhile isSchemeChar
  match text.dropWhile isSchemeChar with
  | ':' :: '/' :: '/' :: rest =>
    if (String.ofList text).utf8ByteSize ≤ 3 then .ok (none, text)
    else if maxSchemeLength < scheme.length then .error .schemeTooLong
    else .ok (some (String.ofList scheme), rest)
  | _ => .ok (none, text)

def splitScheme (text : List Char) : Except UriError (Option String × List Char) :=
  match dropBeginning? "http://".toList text with
  | some rest => .ok (some "http", rest)
  | none =>
    match dropBeginning? "https://".toList text with
    | some rest => .ok (some "https", rest)
    | none => splitOtherScheme text

def isPathChar (c : Char) : Bool :=
  c.isAlphanum || "!$%&'()*+,-./:;=@[\\]^_|~\"\x7b\x7d".toList.contains c

def isQueryChar (c : Char) : Bool :=
  c = '!' || (0x24 ≤ c.toNat && c.toNat ≤ 0x3b) || c = '=' || (0x3f ≤ c.toNat && c.toNat ≤ 0x7e)

/-- A path and what may follow it: a query, and a fragment that is dropped unchecked. -/
def parsePath (text : List Char) : Except UriError (String × Option String) :=
  let path := text.takeWhile fun c => c ≠ '?' && c ≠ '#'
  if !path.all isPathChar then .error .invalidCharacter
  else
    match text.dropWhile fun c => c ≠ '?' && c ≠ '#' with
    | '?' :: rest =>
      let query := rest.takeWhile (· ≠ '#')
      if query.all isQueryChar then .ok (String.ofList path, some (String.ofList query))
      else .error .invalidCharacter
    | _ => .ok (String.ofList path, none)

/-- A URI that is a path alone. -/
def ofPath (text : List Char) : Except UriError Uri :=
  (parsePath text).map fun (path, query) => ⟨none, "", path, query⟩

/-- A URI that is an authority alone. -/
def ofAuthority (text : List Char) : Except UriError Uri :=
  (Authority.check text).map fun _ => ⟨none, String.ofList text, "", none⟩

/-- A URI that starts with an authority, after a scheme or without one. An empty path after a scheme
is the root. -/
def ofParts (scheme : Option String) (text : List Char) : Except UriError Uri :=
  let authority := text.takeWhile fun c => !Authority.isEnd c
  let rest := text.dropWhile fun c => !Authority.isEnd c
  match Authority.check authority with
  | .error problem => .error problem
  | .ok _ =>
    match scheme with
    | none =>
      if rest.isEmpty then .ok ⟨none, String.ofList authority, "", none⟩
      else .error .invalidFormat
    | some name =>
      if authority.isEmpty then .error .invalidFormat
      else
        (parsePath rest).map fun (path, query) =>
          ⟨some name, String.ofList authority, if path = "" then "/" else path, query⟩

def parse (text : String) : Except UriError Uri :=
  if maxBytes < text.utf8ByteSize then .error .tooLong
  else
    match text.toList with
    | [] => .error .empty
    | ['*'] => .ok ⟨none, "", "*", none⟩
    | '/' :: rest => ofPath ('/' :: rest)
    | [c] => if Authority.isEnd c then .error .invalidCharacter else ofAuthority [c]
    | cs =>
      match splitScheme cs with
      | .error problem => .error problem
      | .ok (scheme, rest) => ofParts scheme rest

/-- The host of a URI, which may be the empty text; a path alone has none. -/
def host? (uri : Uri) : Option String :=
  if uri.authority = "" then none
  else some (String.ofList (Authority.host uri.authority.toList))

/-- The port of a URI, if there is one and it fits 16 bits. -/
def port? (uri : Uri) : Option Nat :=
  (Authority.portText? uri.authority.toList).bind fun digits =>
    Text.readUnsigned 65535 (String.ofList digits)

def render (uri : Uri) : String :=
  (uri.scheme.map (· ++ "://")).getD "" ++ uri.authority ++ uri.path
    ++ (uri.query.map ("?" ++ ·)).getD ""

end Uri

end MeshDiscovery
