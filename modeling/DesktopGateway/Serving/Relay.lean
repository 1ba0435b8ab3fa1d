import DesktopGateway.Host.Failure

/-!
# Relays

A relay copies bytes both ways between a client and a target until one of the ways ends. Each way
takes bytes from its source, holds them, and hands them to its sink in portions.
-/

namespace DesktopGateway.Serving

open DesktopGateway.Host

/-- One way of a relay. The bytes that it took from its source are those that it delivered and,
behind them, those that it still holds. -/
structure Lane where
  delivered : List UInt8
  held : List UInt8
  deriving DecidableEq, Repr

inductive LaneEvent where
  | taken (bytes : List UInt8)
  | accepted (count : Nat)
  | ended
  | failed (failure : Failure)
  deriving DecidableEq, Repr

namespace Lane

def step (lane : Lane) : LaneEvent → Lane × Option (Except Failure Unit)
  | .taken bytes => ({ lane with held := lane.held ++ bytes }, none)
  | .accepted count =>
      (⟨lane.delivered ++ lane.held.take count, lane.held.drop count⟩, none)
  | .ended => (lane, if lane.held.isEmpty then some (.ok ()) else none)
  | .failed failure => (lane, some (.error failure))

end Lane

inductive Course where
  | toTarget
  | toClient
  deriving DecidableEq, Repr

structure Relay where
  toTarget : Lane
  toClient : Lane
  outcome : Option (Except Failure Unit)

namespace Relay

/-- A relay that starts with what was read ahead from the client. -/
def start (ahead : List UInt8) : Relay :=
  ⟨⟨[], ahead⟩, ⟨[], []⟩, none⟩

/-- A side that has gone is a normal end. -/
def settle : Except Failure Unit → Except Failure Unit
  | .ok () => .ok ()
  | .error failure => if failure.isBrokenPipe then .ok () else .error failure

def step (relay : Relay) (course : Course) (event : LaneEvent) : Relay :=
  if relay.outcome.isSome then relay
  else
    match course with
    | .toTarget =>
        let (lane, ended) := relay.toTarget.step event
        ⟨lane, relay.toClient, ended.map settle⟩
    | .toClient =>
        let (lane, ended) := relay.toClient.step event
        ⟨relay.toTarget, lane, ended.map settle⟩

def run (relay : Relay) (events : List (Course × LaneEvent)) : Relay :=
  events.foldl (fun relay event => relay.step event.1 event.2) relay

end Relay

end DesktopGateway.Serving
