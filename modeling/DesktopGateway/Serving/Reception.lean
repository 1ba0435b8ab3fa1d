import DesktopGateway.Monitoring.Mark
import DesktopGateway.Serving.Exchange
import DesktopGateway.Serving.Roster

/-!
# Receptions

The first byte of a client names the service that it wants. It is given to the server that the
roster has for this service, and when the server is done the stream to the client is ended, whatever
came of it. A client that names no service, or one that nobody serves, is turned away without a
word.
-/

namespace DesktopGateway.Serving

open DesktopGateway.Link
open DesktopGateway.Monitoring
open DesktopGateway.Wire

abbrev Server (σ : Type) := Exchange → σ → Except Failure Unit × Exchange × σ

inductive Visit where
  | unopened (fault : Fault)
  | unserved (service : Service)
  | served (service : Service) (result : Except Failure Unit)

/-- A client that was received: what became of it, its stream, whether that stream was ended in good
order, and the state of the host. -/
structure Reception (σ : Type) where
  visit : Visit
  exchange : Exchange
  finished : Bool
  state : σ

namespace Reception

variable {σ : Type}

def attend (roster : Roster (Server σ)) (service : Service) (exchange : Exchange) (state : σ) :
    Reception σ :=
  match roster.find? service with
  | none => ⟨.unserved service, exchange, false, state⟩
  | some server =>
      let (result, exchange, state) := server { exchange with service := service } state
      ⟨.served service result, exchange, true, state⟩

def receive (roster : Roster (Server σ)) (exchange : Exchange) (state : σ) : Reception σ :=
  match exchange.read Endpoint.opening with
  | (.error fault, exchange) => ⟨.unopened fault, exchange, false, state⟩
  | (.ok service, exchange) => attend roster service exchange state

/-- What the reception of a client leaves in the counters. -/
def marks (reception : Reception σ) : List Mark :=
  match reception.visit with
  | .unopened _ => [.handshakeFailed]
  | .unserved _ => []
  | .served service _ =>
      [.opened service.name,
        .closed service.name (UInt64.ofNat reception.exchange.sent.length)
          (UInt64.ofNat reception.exchange.received)]

end Reception

end DesktopGateway.Serving
