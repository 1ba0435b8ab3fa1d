import DesktopGateway.Proofs.Serving.DisplayLease

/-!
# The streaming services give back what they acquired

The services of sound and display clients are leases that are offered what comes of their sessions,
displays, clients and commands. So what holds of all leases holds of them: a session is closed once
and modules are unloaded once, whatever happens and in whatever order.
-/

namespace DesktopGateway.Serving.DisplayStream

open DesktopGateway.Link
open DesktopGateway.Settings
open DesktopGateway.Sound
open DesktopGateway.Wire

def Event.relayed? : Event → Option (Course × LaneEvent)
  | .relayed course event => some (course, event)
  | .prepared => none

def relayBehind (events : List Event) : Relay :=
  (Relay.start []).run (events.filterMap Event.relayed?)

/-- The events of a stream, and then the end of a client that has gone silent. -/
def heard (events : List Event) : List Event :=
  events ++ (relayBehind events).parting.map (Event.relayed .toTarget)

/-! ## The end of a preparation -/

namespace Lease

variable {address : DisplayAddress}

/-! ## What a display service is offered -/

/-- What comes of telling the client whether it is connected. -/
def told (address : DisplayAddress) (exchange : Exchange) :
    Except Host.Failure Unit → Except Serving.Failure Unit
  | .ok () => (exchange.emit Endpoint.acceptance).1
  | .error failure => (exchange.refuse (.displayUnreachable address.toString failure)).1

def Act.isRelayed : Act → Bool
  | .relayed _ _ => true
  | _ => false

def Act.written : Act → List UInt8
  | .wrote emission _ => emission.bytes
  | _ => []

/-- A report says what was done: the result of the lease, the stream behind the events if there was
one, with what has become of the devices, and what was written to the client before and on the
stream. -/
structure Tells (lease : Lease) (events : List Event) (exchange : Exchange) (report : Report) :
    Prop where
  result : lease.stage = .settled report.result
  stream : report.stream =
    if lease.acts.any Act.isRelayed then some ⟨relayBehind events, lease.preparation⟩ else none
  exchange : report.exchange = { exchange with
    sent := exchange.sent ++
      (if exchange.reachable then lease.acts.flatMap Act.written else []) ++
      report.stream.elim [] fun stream => stream.relay.toClient.delivered
    received := exchange.received +
      report.stream.elim 0 fun stream => stream.relay.toTarget.delivered.length }

/-! ## Runs -/

end Lease

end DesktopGateway.Serving.DisplayStream

namespace DesktopGateway.Serving

open DesktopGateway.Link
open DesktopGateway.Settings
open DesktopGateway.Sound

end DesktopGateway.Serving
