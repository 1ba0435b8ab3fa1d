import DesktopGateway.Link.Endpoint
import DesktopGateway.Serving.Failure

/-!
# Exchanges

A connection as a file service sees it: what the client has sent, piece by piece and then ended,
and what it has been sent. A client that has gone can still be read from but not written to.
-/

namespace DesktopGateway.Serving

open DesktopGateway.Host
open DesktopGateway.Link
open DesktopGateway.Wire

structure Exchange where
  service : Service
  incoming : Pieces
  received : Nat
  sent : List UInt8
  reachable : Bool
  deriving DecidableEq, Repr

namespace Exchange

def new (service : Service) (incoming : Pieces) (reachable : Bool) : Exchange :=
  ⟨service, incoming, 0, [], reachable⟩

def pull (exchange : Exchange) : Pulled × Exchange :=
  match exchange.incoming.next? with
  | some (value, rest) =>
      (.byte value, { exchange with incoming := rest, received := exchange.received + 1 })
  | none => (.ended, exchange)

/-- A reading on the exchange; the client's stream always goes on or ends. -/
def read {α : Type} (demand : Demand (Except Fault α)) (exchange : Exchange) :
    Except Fault α × Exchange :=
  match demand.drive pull exchange with
  | (some result, exchange) => (result, exchange)
  | (none, exchange) => (.error .endOfStream, exchange)

def readContent (exchange : Exchange) (window : Window) (room : Nat) :
    Except Host.Failure (List UInt8) × Window × Exchange :=
  let (result, window, rest) := window.read room exchange.incoming
  let count := match result with | .ok bytes => bytes.length | .error _ => 0
  (result, window, { exchange with incoming := rest, received := exchange.received + count })

def write (exchange : Exchange) (bytes : List UInt8) : Except Host.Failure Unit × Exchange :=
  if bytes.isEmpty then (.ok (), exchange)
  else if exchange.reachable then (.ok (), { exchange with sent := exchange.sent ++ bytes })
  else (.error (Failure.ofKind .brokenPipe), exchange)

/-- Write an emission; a stream that fails hides the emission's own fault. -/
def emit (exchange : Exchange) (emission : Parcel.Emission) : Except Failure Unit × Exchange :=
  match exchange.write emission.bytes with
  | (.error failure, exchange) => (.error (.dialogue (.stream failure)), exchange)
  | (.ok (), exchange) =>
      (match emission.fault with | some fault => .error (.dialogue fault) | none => .ok (),
        exchange)

def refuse (exchange : Exchange) (failure : Failure) : Except Failure Unit × Exchange :=
  exchange.emit (Endpoint.refusal failure.message)

/-- Read the request that belongs to the service of the connection; it has to be of the wanted
kind. -/
def readRequest (exchange : Exchange) (wanted : Parcel.Kind) :
    Except Failure (Parcel Unit) × Exchange :=
  match exchange.service.request? with
  | none => (.error (.dialogue (.noMessage exchange.service.name)), exchange)
  | some kind =>
      let result := exchange.read (Parcel.decode kind)
      ((result.1.bind fun parcel => parcel.expect wanted).mapError .dialogue, result.2)

end Exchange

end DesktopGateway.Serving
