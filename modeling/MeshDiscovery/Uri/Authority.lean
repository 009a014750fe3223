namespace MeshDiscovery

/-- Why a text is not a URI. -/
inductive UriError where
  | tooLong
  | empty
  | invalidCharacter
  | invalidAuthority
  | invalidFormat
  | schemeTooLong
  deriving DecidableEq, Repr

def UriError.message : UriError → String
  | tooLong => "uri too long"
  | empty => "empty string"
  | invalidCharacter => "invalid uri character"
  | invalidAuthority => "invalid authority"
  | invalidFormat => "invalid format"
  | schemeTooLong => "scheme too long"

namespace Authority

/-- A character that ends the authority. -/
def isEnd (c : Char) : Bool :=
  c = '/' || c = '?' || c = '#'

/-- A character without a role of its own that may stand in an authority. -/
def isPlain (c : Char) : Bool :=
  c.isAlphanum || "!$&'()*+,-.;=_~".toList.contains c

/-- What is known of an authority while it is scanned. -/
structure Scan where
  /-- The colons since the last user information or bracket. -/
  colons : Nat := 0
  /-- An opening bracket was seen. -/
  opened : Bool := false
  /-- A closing bracket was seen. -/
  closed : Bool := false
  /-- A percent sign was seen since the last user information or bracket. -/
  percent : Bool := false
  /-- The character before was an at sign. -/
  afterAt : Bool := false
  deriving DecidableEq, Repr

/-- The most colons that may stand in a row of parts. -/
def maxColons : Nat := 8

def Scan.step (scan : Scan) (c : Char) : Except UriError Scan :=
  let next := { scan with afterAt := false }
  match c with
  | ':' =>
    if maxColons ≤ scan.colons then .error .invalidAuthority
    else .ok { next with colons := scan.colons + 1 }
  | '[' =>
    if scan.percent || scan.opened then .error .invalidAuthority
    else .ok { next with opened := true }
  | ']' =>
    if !scan.opened || scan.closed then .error .invalidAuthority
    else .ok { next with closed := true, colons := 0, percent := false }
  | '@' => .ok { scan with colons := 0, percent := false, afterAt := true }
  | '%' => .ok { next with percent := true }
  | _ => if isPlain c then .ok next else .error .invalidCharacter

/-- An authority may end here: brackets are closed, at most one colon is left for the port, and
nothing is pending. -/
def Scan.mayEnd (scan : Scan) : Bool :=
  scan.opened == scan.closed && scan.colons ≤ 1 && !scan.afterAt && !scan.percent

/-- Checks a text that has to be an authority as a whole. -/
def check (authority : List Char) : Except UriError Unit :=
  match authority.foldlM Scan.step {} with
  | .error problem => .error problem
  | .ok scan => if scan.mayEnd then .ok () else .error .invalidAuthority

/-- The part after the last at sign. -/
def afterUserInfo (authority : List Char) : List Char :=
  (authority.reverse.takeWhile (· ≠ '@')).reverse

/-- The host that an authority names: an address in brackets, or what comes before the port. It may
be empty. -/
def host (authority : List Char) : List Char :=
  match afterUserInfo authority with
  | '[' :: rest => '[' :: (rest.takeWhile (· ≠ ']') ++ [']'])
  | hostAndPort => hostAndPort.takeWhile (· ≠ ':')

/-- The text after the last colon, if there is a colon. -/
def portText? (authority : List Char) : Option (List Char) :=
  if authority.contains ':' then some (authority.reverse.takeWhile (· ≠ ':')).reverse else none

end Authority

end MeshDiscovery
