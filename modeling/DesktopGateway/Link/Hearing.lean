import DesktopGateway.Link.Duplex
import DesktopGateway.Link.Passing

/-!
# Hearing

One side says something and the other one listens, both at their own pace. The speaker puts as much
into the pipe as it has room for and closes it when everything is said; the listener takes byte for
byte what its reading asks for, in whatever pieces the bytes come.
-/

namespace DesktopGateway.Link

open DesktopGateway.Wire

structure Hearing (α : Type) where
  speaker : Endpoint
  pending : List UInt8
  incoming : Pipe
  listener : Endpoint
  demand : Demand α

namespace Hearing

variable {α β : Type}

inductive Turn where
  | say (count : Nat)
  | leave
  | hear (pieces : Pieces)
  deriving DecidableEq, Repr

def say (hearing : Hearing α) (count : Nat) : Option (Hearing α) :=
  (Endpoint.pass? count hearing.pending (hearing.speaker, hearing.incoming)).map
    fun (rest, speaker, incoming) =>
      { hearing with pending := rest, speaker := speaker, incoming := incoming }

def leave (hearing : Hearing α) : Option (Hearing α) :=
  if hearing.pending.isEmpty && !hearing.incoming.closed then
    some { hearing with incoming := hearing.incoming.close }
  else none

def hear (hearing : Hearing α) (pieces : Pieces) : Option (Hearing α) :=
  match hearing.demand, hearing.incoming.recut? pieces with
  | .next onByte onEnd, some incoming =>
      match Endpoint.pull (hearing.listener, incoming) with
      | (.byte value, listener, incoming) =>
          some { hearing with
            demand := onByte value, listener := listener, incoming := incoming }
      | (.ended, listener, incoming) =>
          some { hearing with
            demand := .done (onEnd.run []).1, listener := listener, incoming := incoming }
      | (.waiting, _, _) => none
  | .next .., none | .done _, _ => none

/-- One step, if it is possible. -/
def turn (hearing : Hearing α) : Turn → Option (Hearing α)
  | .say count => hearing.say count
  | .leave => hearing.leave
  | .hear pieces => hearing.hear pieces

def follow (hearing : Hearing α) : List Turn → Option (Hearing α)
  | [] => some hearing
  | turn :: turns => (hearing.turn turn).bind fun next => next.follow turns

def ask (hearing : Hearing α) (demand : Demand β) : Hearing β :=
  { hearing with demand := demand }

/-- The listener's side, with its own direction to the speaker. -/
def post (hearing : Hearing α) (outgoing : Pipe) : Post :=
  ⟨.whole hearing.listener, hearing.incoming, outgoing⟩

def opposite (hearing : Hearing α) (outgoing : Pipe) : Post :=
  ⟨.whole hearing.speaker, outgoing, hearing.incoming⟩

/-- What comes of a verdict that has been read. A refusal ends the listener's own writing. -/
def verdict (hearing : Hearing (Except Fault Unit)) (outgoing : Pipe) : Option (Outcome × Post) :=
  match hearing.demand with
  | .next .. => none
  | .done (.error (.remote reason)) =>
      some (.fault (.remote reason), (hearing.post outgoing).finish)
  | .done answer => some (.ofFault (fun _ => .nothing) (some answer), hearing.post outgoing)

end Hearing

end DesktopGateway.Link
