import MeshDiscovery.ClientConfig
import MeshDiscovery.CommandLine.KeyValue
import MeshDiscovery.CommandLine.Setting
import MeshDiscovery.CommandLine.Token
import MeshDiscovery.Text.Decimal

/-!
The command line: arguments are taken up from left to right, and the first problem ends it. The
value of an option may follow as an argument of its own, so an option is only settled when the next
one begins or the line ends; a problem with the form of a later argument comes before that.
-/

namespace MeshDiscovery.CommandLine

/-- What the command line asks for. -/
structure Arguments where
  logPretty : Bool := false
  server : String := ClientConfig.defaultServer
  nodeId : Option String := none
  nodeCluster : Option String := none
  metadata : List (String × String) := []
  watchRoutes : List String := []
  watchClusters : List String := []
  metricsAddr : Option String := none
  /-- How often a summary is given, in seconds. -/
  summaryInterval : Nat := 30
  deriving DecidableEq, Repr

/-- Why nothing is run. -/
inductive ArgumentError where
  /-- The user asked for help. -/
  | helpWanted
  /-- The user asked for the version. -/
  | versionWanted
  | unknown (argument : String)
  | missingValue (setting : Setting)
  | repeated (setting : Setting)
  | needlessValue (setting : Setting)
  | notAPair (value : String)
  | notANumber (value : String)
  deriving DecidableEq, Repr

namespace ArgumentError

/-- The exit code: asking for help or the version is no failure. -/
def exitCode : ArgumentError → Nat
  | helpWanted | versionWanted => 0
  | _ => 2

def message : ArgumentError → String
  | helpWanted => "help was asked for"
  | versionWanted => "the version was asked for"
  | unknown argument => "unexpected argument " ++ Text.quote argument
  | missingValue setting => "a value is required for --" ++ setting.longName
  | repeated setting => "--" ++ setting.longName ++ " cannot be used multiple times"
  | needlessValue setting => "--" ++ setting.longName ++ " takes no value"
  | notAPair value => CommandLine.notAPair value
  | notANumber value => "invalid number " ++ Text.quote value

end ArgumentError

namespace Arguments

/-- The largest interval that can be given. -/
def maxInterval : Nat := UInt64.size - 1

/-- The arguments with an option set to a value. Options without a value pay no heed to it. -/
def set (arguments : Arguments) (setting : Setting) (value : String) :
    Except ArgumentError Arguments :=
  match setting with
  | .logPretty => .ok { arguments with logPretty := true }
  | .server => .ok { arguments with server := value }
  | .nodeId => .ok { arguments with nodeId := some value }
  | .nodeCluster => .ok { arguments with nodeCluster := some value }
  | .metadata =>
    match splitPair? value with
    | some pair => .ok { arguments with metadata := arguments.metadata ++ [pair] }
    | none => .error (.notAPair value)
  | .watchRoute => .ok { arguments with watchRoutes := arguments.watchRoutes ++ [value] }
  | .watchCluster => .ok { arguments with watchClusters := arguments.watchClusters ++ [value] }
  | .metricsAddr => .ok { arguments with metricsAddr := some value }
  | .summaryInterval =>
    match Text.readUnsigned maxInterval value with
    | some seconds => .ok { arguments with summaryInterval := seconds }
    | none => .error (.notANumber value)
  | .help => .error .helpWanted
  | .version => .error .versionWanted

end Arguments

/-- An option that was met and is not settled yet, with its value if that has been given. -/
structure Pending where
  setting : Setting
  value : Option String
  deriving DecidableEq, Repr

/-- How far a command line has been read. -/
structure Reading where
  arguments : Arguments := {}
  /-- The options that were settled. -/
  given : List Setting := []
  pending : Option Pending := none
  /-- No options follow. -/
  ended : Bool := false
  deriving DecidableEq, Repr

namespace Reading

/-- Settles an option: it may have been given before only if it repeats. -/
def give (reading : Reading) (setting : Setting) (value : String) : Except ArgumentError Reading :=
  if setting ∈ reading.given ∧ !setting.repeats then .error (.repeated setting)
  else
    (reading.arguments.set setting value).map fun arguments =>
      { reading with arguments, given := setting :: reading.given }

/-- Settles the option that is pending, if there is one. -/
def settle (reading : Reading) : Except ArgumentError Reading :=
  match reading.pending with
  | none => .ok reading
  | some ⟨setting, none⟩ => .error (.missingValue setting)
  | some ⟨setting, some value⟩ => { reading with pending := none }.give setting value

/-- An option begins, with the value that is attached to it if there is one. The option before it is
settled first. -/
def meet (reading : Reading) (setting : Setting) (attached : Option String) :
    Except ArgumentError Reading :=
  reading.settle.bind fun settled =>
    match attached with
    | some value => settled.give setting value
    | none =>
      if setting.takesValue then .ok { settled with pending := some ⟨setting, none⟩ }
      else settled.give setting ""

/-- The value that is attached to a letter by what follows it in the same argument. -/
def attachedTo : List Char → Option String
  | [] => none
  | '=' :: value => some (String.ofList value)
  | value => some (String.ofList value)

/-- Takes up letters. A letter of an option with a value has the rest attached to it. -/
def takeLetters (reading : Reading) (argument : String) : List Char → Except ArgumentError Reading
  | [] => .ok reading
  | letter :: rest =>
    match Setting.ofLetter? letter with
    | none => .error (.unknown argument)
    | some setting =>
      if setting.takesValue then reading.meet setting (attachedTo rest)
      else (reading.meet setting none).bind fun next => next.takeLetters argument rest

/-- Takes up a long name. -/
def takeLong (reading : Reading) (argument name : String) (attached : Option String) :
    Except ArgumentError Reading :=
  match Setting.ofLongName? name with
  | none => .error (.unknown argument)
  | some setting =>
    if attached.isSome ∧ !setting.takesValue then .error (.needlessValue setting)
    else reading.meet setting attached

/-- Takes up plain text, which has to be the value of an option. -/
def takePlain (reading : Reading) (argument : String) : Except ArgumentError Reading :=
  match reading.pending with
  | some ⟨setting, none⟩ => .ok { reading with pending := some ⟨setting, some argument⟩ }
  | _ => .error (.unknown argument)

def take (reading : Reading) (argument : String) : Except ArgumentError Reading :=
  if reading.ended then .error (.unknown argument)
  else
    match Token.read argument with
    | .endOfOptions => .ok { reading with ended := true }
    | .long name attached => reading.takeLong argument name attached
    | .letters first rest => reading.takeLetters argument (first :: rest)
    | .plain => reading.takePlain argument

end Reading

def Arguments.read (line : List String) : Except ArgumentError Arguments :=
  (line.foldlM Reading.take ({} : Reading)).bind fun reading =>
    reading.settle.map Reading.arguments

end MeshDiscovery.CommandLine
