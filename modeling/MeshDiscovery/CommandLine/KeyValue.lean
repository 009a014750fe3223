import MeshDiscovery.Text.Quoted

namespace MeshDiscovery.CommandLine

/-- Splits an argument at its first equals sign into a key that is not empty and a value. -/
def splitPair? (argument : String) : Option (String × String) :=
  let key := argument.toList.takeWhile (· ≠ '=')
  match argument.toList.dropWhile (· ≠ '=') with
  | '=' :: value => if key.isEmpty then none else some (String.ofList key, String.ofList value)
  | _ => none

/-- The message about an argument that is no pair. -/
def notAPair (argument : String) : String :=
  "expected KEY=VALUE, got " ++ Text.quote argument

end MeshDiscovery.CommandLine
