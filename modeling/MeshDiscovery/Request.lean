import MeshDiscovery.Node
import MeshDiscovery.Schema.Any

namespace MeshDiscovery

/-- Why a response is refused, as a request may report it. -/
structure ErrorDetail where
  code : Int
  message : String
  deriving DecidableEq, Repr, Inhabited

/-- A message to the control plane. Its names are the whole subscription for its type; version and
nonce are those of the response that it acknowledges. -/
structure Request where
  typeUrl : String
  names : List String := []
  version : String := ""
  nonce : String := ""
  node : Option Node := none
  errorDetail : Option ErrorDetail := none
  deriving DecidableEq, Repr, Inhabited

/-- The request as it is sent again on a new stream, where no version and no nonce are known yet. -/
def Request.restated (request : Request) : Request :=
  { request with version := "", nonce := "" }

/-- A message from the control plane. -/
structure Response where
  typeUrl : String
  version : String := ""
  nonce : String := ""
  resources : List Schema.Any := []
  deriving DecidableEq, Repr, Inhabited

end MeshDiscovery
