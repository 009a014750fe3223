import MeshDiscovery.Exchange

/-!
The exchanges of a program. Its parts may start exchanges of their own, and there is one that they
share: it is started on first use, and whoever asks for it later gets the same one, whatever
configuration is at hand by then.
-/

namespace MeshDiscovery

/-- The exchanges of a program, numbered in the order in which they were started. -/
structure Exchanges where
  started : List Deployment := []
  /-- The number of the exchange that is shared. -/
  shared : Option Nat := none
  /-- What all of them reported, oldest first. -/
  notices : List Notice := []

namespace Exchanges

/-- Starts one more exchange and gives its number. -/
def start (exchanges : Exchanges) (runtime : Bool) (config : ClientConfig) :
    Except SessionError (Exchanges × Nat) :=
  (Exchange.start runtime config).map fun deployment =>
    ({ exchanges with
        started := exchanges.started ++ [deployment]
        notices := exchanges.notices ++ deployment.session.notices },
      exchanges.started.length)

/-- Gives the number of the exchange that is shared, after starting it if there is none. An attempt
that fails leaves room for another one. -/
def share (exchanges : Exchanges) (runtime : Bool) (config : ClientConfig) :
    Except SessionError (Exchanges × Nat) :=
  match exchanges.shared with
  | some number => .ok (exchanges, number)
  | none =>
    (exchanges.start runtime config).map fun (grown, number) =>
      ({ grown with shared := some number }, number)

def shared? (exchanges : Exchanges) : Option Deployment :=
  exchanges.shared.bind fun number => exchanges.started[number]?

/-- Closes the exchange that is shared. It stays the one that is shared. -/
def closeShared (exchanges : Exchanges) : Exchanges :=
  match exchanges.shared, exchanges.shared? with
  | some number, some deployment =>
    let closed := deployment.perform .close
    { exchanges with
      started := exchanges.started.set number closed
      notices := exchanges.notices
        ++ closed.session.notices.drop deployment.session.notices.length }
  | _, _ => exchanges

end Exchanges

end MeshDiscovery
