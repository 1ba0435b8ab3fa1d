import DesktopGateway.Host.Failure
import DesktopGateway.Wire.Window

/-!
# Pipes

One direction of a link: bytes that one side wrote and the other has not taken yet. A pipe with a
capacity makes its writer wait; a closed pipe takes no byte and ends when it is empty.
-/

namespace DesktopGateway.Link

open DesktopGateway.Host
open DesktopGateway.Wire

structure Pipe where
  capacity : Nat
  pieces : Pieces
  closed : Bool
  deriving DecidableEq, Repr

inductive Delivery where
  | bytes (taken : List UInt8)
  | ended
  | waiting
  deriving DecidableEq, Repr

def Delivery.taken : Delivery → List UInt8
  | bytes taken => taken
  | ended | waiting => []

/-- How a write ended, and how many of its bytes the pipe took. -/
structure Written where
  accepted : Nat
  outcome : Option (Except Failure Unit)

namespace Pipe

def empty (capacity : Nat) : Pipe :=
  ⟨capacity, [], false⟩

def held (pipe : Pipe) : List UInt8 :=
  pipe.pieces.flatten

def close (pipe : Pipe) : Pipe :=
  { pipe with closed := true }

/-- Take up to `room` bytes, at least one when there is any and the room is not zero. -/
def take (pipe : Pipe) (room : Nat) : Delivery × Pipe :=
  if pipe.pieces.all List.isEmpty then (if pipe.closed then .ended else .waiting, pipe)
  else
    let taken := pipe.pieces.read room
    (.bytes taken.1, { pipe with pieces := taken.2 })

def write (pipe : Pipe) (bytes : List UInt8) : Written × Pipe :=
  if bytes.isEmpty then (⟨0, some (.ok ())⟩, pipe)
  else if pipe.closed then (⟨0, some (.error (Failure.ofKind .brokenPipe))⟩, pipe)
  else
    let held := pipe.held
    let accepted := bytes.take (pipe.capacity - held.length)
    let outcome := if accepted.length < bytes.length then none else some (.ok ())
    (⟨accepted.length, outcome⟩, { pipe with pieces := [held ++ accepted] })

@[simp] theorem held_close (pipe : Pipe) : pipe.close.held = pipe.held := rfl

theorem held_write (pipe : Pipe) (bytes : List UInt8) :
    (pipe.write bytes).2.held = pipe.held ++ bytes.take (pipe.write bytes).1.accepted := by
  unfold write
  split
  · simp
  · split <;> simp [held]

theorem taken_append_held (pipe : Pipe) (room : Nat) :
    (pipe.take room).1.taken ++ (pipe.take room).2.held = pipe.held := by
  unfold take
  split
  · cases pipe.closed <;> rfl
  · exact Pieces.read_flatten room pipe.pieces

end Pipe

end DesktopGateway.Link
