import DesktopGateway.Link.Endpoint
import DesktopGateway.Serving.Failure
import DesktopGateway.Serving.Relay

/-!
# Forwarding

A relay between the connection of a client and a target, answer by answer. Each way asks its source
for bytes and its sink to take them, and the answers of the four ends come in any order. The way to
the target hands on what the connection has read ahead, and the connection reads again when nothing
of this is left. The way to the client has a block of its own, which is filled up while the client
is slow.
-/

namespace DesktopGateway.Link.Endpoint

def fill (bytes : List UInt8) (endpoint : Endpoint) : Endpoint :=
  { endpoint with ahead := endpoint.ahead ++ bytes }

def consume (count : Nat) (endpoint : Endpoint) : Endpoint :=
  { endpoint with ahead := endpoint.ahead.drop count, counters := endpoint.counters.receive count }

def credit (count : Nat) (endpoint : Endpoint) : Endpoint :=
  { endpoint with counters := endpoint.counters.send count }

end DesktopGateway.Link.Endpoint

namespace DesktopGateway.Serving

open DesktopGateway.Link

/-- The memory of a way: the bytes that were read, of which the first ones are handed on. It is
never kept when all of them are. -/
structure Block where
  bytes : List UInt8
  spent : Nat
  fits : spent = 0 ∨ spent < bytes.length
  deriving DecidableEq, Repr

namespace Block

def capacity : Nat := 8192

def empty : Block :=
  ⟨[], 0, .inl rfl⟩

def held (block : Block) : List UInt8 :=
  block.bytes.drop block.spent

def append (more : List UInt8) (block : Block) : Block :=
  ⟨block.bytes ++ more, block.spent,
    block.fits.imp_right fun less => List.length_append ▸ Nat.lt_add_right more.length less⟩

/-- The memory is used again when everything is handed on. -/
def spend (count : Nat) (block : Block) : Block :=
  if left : block.spent + count < block.bytes.length then
    ⟨block.bytes, block.spent + count, .inr left⟩
  else empty

end Block

/-- How far a way has come. Behind the end of its source what is held is handed on and flushed, and
then the sink is closed. -/
inductive Phase where
  | copying
  | flushing
  | closing
  deriving DecidableEq, Repr

/-- One way: what its source has still to give and what its sink has taken. -/
structure Way where
  coming : List UInt8
  delivered : List UInt8
  phase : Phase
  deriving DecidableEq, Repr

structure Forwarding where
  client : Endpoint
  block : Block
  upward : Way
  downward : Way
  ending : Option (Course × Except Host.Failure Unit)

namespace Forwarding

/-- What an end of a way answers. A source that gives nothing has ended. -/
inductive Answer where
  | given (count : Nat)
  | accepted (count : Nat)
  | flushed
  | closed
  | failed (failure : Host.Failure)
  deriving DecidableEq, Repr

def stalled : Course → Host.Failure
  | .toTarget => .ofKind .writeZero
  | .toClient => .described .writeZero "write zero byte into writer"

def Answer.ending? (course : Course) : Answer → Option (Except Host.Failure Unit)
  | .accepted 0 => some (.error (stalled course))
  | .closed => some (.ok ())
  | .failed failure => some (.error failure)
  | .given _ | .accepted (_ + 1) | .flushed => none

def start (client : Endpoint) (fromClient fromTarget : List UInt8) : Forwarding :=
  ⟨client, .empty, ⟨fromClient, [], .copying⟩, ⟨fromTarget, [], .copying⟩, none⟩

def way (forwarding : Forwarding) : Course → Way
  | .toTarget => forwarding.upward
  | .toClient => forwarding.downward

def setWay (way : Way) (forwarding : Forwarding) : Course → Forwarding
  | .toTarget => { forwarding with upward := way }
  | .toClient => { forwarding with downward := way }

def held (forwarding : Forwarding) : Course → List UInt8
  | .toTarget => forwarding.client.ahead
  | .toClient => forwarding.block.held

def room (forwarding : Forwarding) : Course → Nat
  | .toTarget => if forwarding.client.ahead.isEmpty then readAhead else 0
  | .toClient => Block.capacity - forwarding.block.bytes.length

def proceed (course : Course) (phase : Phase) (forwarding : Forwarding) : Forwarding :=
  forwarding.setWay { forwarding.way course with phase := phase } course

def gain (course : Course) (count : Nat) (forwarding : Forwarding) : Forwarding :=
  let way := forwarding.way course
  let bytes := way.coming.take count
  let rest := forwarding.setWay { way with coming := way.coming.drop count } course
  match course with
  | .toTarget => { rest with client := rest.client.fill bytes }
  | .toClient => { rest with block := rest.block.append bytes }

def spend (course : Course) (count : Nat) (forwarding : Forwarding) : Forwarding :=
  let way := forwarding.way course
  let bytes := (forwarding.held course).take count
  let rest := forwarding.setWay { way with delivered := way.delivered ++ bytes } course
  match course with
  | .toTarget => { rest with client := rest.client.consume count }
  | .toClient => { rest with block := rest.block.spend count, client := rest.client.credit count }

/-- Whether an end can be asked and answer so. -/
def allows (forwarding : Forwarding) (course : Course) : Answer → Bool
  | .given count =>
      let way := forwarding.way course
      way.phase = .copying && 0 < forwarding.room course && count ≤ forwarding.room course &&
        count ≤ way.coming.length && (count ≠ 0 || way.coming.isEmpty)
  | .accepted count =>
      !(forwarding.held course).isEmpty && count ≤ (forwarding.held course).length
  | .flushed => (forwarding.way course).phase = .flushing && (forwarding.held course).isEmpty
  | .closed => (forwarding.way course).phase = .closing
  | .failed _ => true

def hear (forwarding : Forwarding) (course : Course) : Answer → Forwarding
  | .given 0 => forwarding.proceed course .flushing
  | .given count => forwarding.gain course count
  | .accepted count => forwarding.spend course count
  | .flushed => forwarding.proceed course .closing
  | .closed | .failed _ => forwarding

def poll (forwarding : Forwarding) (course : Course) (answer : Answer) : Option Forwarding :=
  if forwarding.ending.isNone && forwarding.allows course answer then
    match answer.ending? course with
    | some result => some { forwarding with ending := some (course, result) }
    | none => some (forwarding.hear course answer)
  else none

def follow (forwarding : Forwarding) : List (Course × Answer) → Option Forwarding
  | [] => some forwarding
  | (course, answer) :: polls =>
      (forwarding.poll course answer).bind fun next => next.follow polls

/-- The forwarding as a relay: what is delivered and held on both ways. -/
def relay (forwarding : Forwarding) : Relay :=
  ⟨⟨forwarding.upward.delivered, forwarding.held .toTarget⟩,
    ⟨forwarding.downward.delivered, forwarding.held .toClient⟩,
    forwarding.ending.map fun (_, result) => Relay.settle result⟩

def result? (forwarding : Forwarding) : Option (Except Failure Unit) :=
  forwarding.ending.map fun (_, result) => (Relay.settle result).mapError .stream

end Forwarding

end DesktopGateway.Serving
