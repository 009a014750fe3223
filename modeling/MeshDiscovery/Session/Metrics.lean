import MeshDiscovery.ResourceType

namespace MeshDiscovery

structure Metrics where
  /-- Requests that a stream has accepted. -/
  sent : PerType Nat := .const 0
  /-- Responses of a kind that has a handler. -/
  received : PerType Nat := .const 0
  /-- Entries of responses that were skipped. -/
  decodeErrors : PerType Nat := .const 0
  /-- Responses that a handler has dealt with. -/
  dispatched : PerType Nat := .const 0
  /-- Streams that were lost and are to be opened again. -/
  reconnects : Nat := 0
  /-- The number of open streams, once there has been one. -/
  connected : Option Int := none
  deriving DecidableEq, Repr, Inhabited

namespace Metrics

/-- One more request of a kind was accepted by a stream. -/
def countSent (metrics : Metrics) (kind : ResourceType) : Metrics :=
  { metrics with sent := metrics.sent.modify kind (· + 1) }

def countReceived (metrics : Metrics) (kind : ResourceType) : Metrics :=
  { metrics with received := metrics.received.modify kind (· + 1) }

def countDecodeErrors (metrics : Metrics) (kind : ResourceType) (count : Nat) : Metrics :=
  { metrics with decodeErrors := metrics.decodeErrors.modify kind (· + count) }

def countDispatched (metrics : Metrics) (kind : ResourceType) : Metrics :=
  { metrics with dispatched := metrics.dispatched.modify kind (· + 1) }

def countReconnect (metrics : Metrics) : Metrics :=
  { metrics with reconnects := metrics.reconnects + 1 }

/-- The number of open streams has changed. -/
def adjustConnected (metrics : Metrics) (change : Int) : Metrics :=
  { metrics with connected := some (metrics.connected.getD 0 + change) }

/-- The samples of one counter that are not zero, by kind. -/
def samples (name : String) (table : PerType Nat) : List (String × Int) :=
  (ResourceType.all.filter fun kind => table.get kind ≠ 0).map fun kind =>
    (name ++ "\x7btype=" ++ kind.shortName ++ "\x7d", Int.ofNat (table.get kind))

def toList (metrics : Metrics) : List (String × Int) :=
  samples "xds.tx" metrics.sent ++ samples "xds.rx" metrics.received
    ++ samples "xds.decode_errors" metrics.decodeErrors
    ++ samples "xds.dispatch_time" metrics.dispatched
    ++ (if metrics.reconnects = 0 then [] else [("xds.reconnects", Int.ofNat metrics.reconnects)])
    ++ (metrics.connected.map fun streams => ("xds.connected", streams)).toList

end Metrics

end MeshDiscovery
