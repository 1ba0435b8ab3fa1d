import DesktopGateway.Link.Endpoint

/-!
# Bytes that pass through a pipe

A writer and a reader of one pipe that take turns. The writer puts as many bytes in as there is room
for, and the reader meets what is in the pipe cut into any pieces.
-/

namespace DesktopGateway.Link

open DesktopGateway.Wire

/-- The same pipe, with its bytes cut into other pieces. -/
def Pipe.recut? (pipe : Pipe) (pieces : Pieces) : Option Pipe :=
  if pieces.flatten = pipe.held then some { pipe with pieces := pieces } else none

/-- The pipe takes so many of the bytes that are to be written. -/
def Endpoint.pass? (count : Nat) (pending : List UInt8) (sink : Endpoint × Pipe) :
    Option (List UInt8 × Endpoint × Pipe) :=
  if 0 < count ∧ count ≤ pending.length ∧ sink.2.closed = false ∧
      sink.2.held.length + count ≤ sink.2.capacity then
    some (pending.drop count, (write (pending.take count) sink).2)
  else none

end DesktopGateway.Link
