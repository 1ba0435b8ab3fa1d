import DesktopGateway.Wire.Field
import DesktopGateway.Wire.Window

/-!
# Lines in pieces

A line is looked for in the pieces of a stream as they come. Each is searched for the newline as far
as the line may reach, and is taken whole when it has none.
-/

namespace DesktopGateway.Wire

open DesktopGateway.Text

namespace Pieces

/-- Take bytes up to the first `mark` and with it, or `room` of them when it is not among these. -/
def takeUntil (mark : UInt8) (room : Nat) : Pieces → List UInt8 × Pieces
  | [] => ([], [])
  | piece :: rest =>
      match (piece.take room).idxOf? mark with
      | some place => (piece.take (place + 1), piece.drop (place + 1) :: rest)
      | none =>
          if piece.length < room then
            let later := takeUntil mark (room - piece.length) rest
            (piece ++ later.1, later.2)
          else (piece.take room, piece.drop room :: rest)

end Pieces

namespace Field

def closeLine (taken : List UInt8) : Except Fault String :=
  if taken.getLast? = some newline then (Utf8.decode taken.dropLast).mapError .malformedText
  else if longestLine < taken.length then .error .lineTooLong
  else .error .unfinishedLine

/-- Read a line from a stream as its pieces come. -/
def receiveLine (source : Pieces) : Except Fault String × Pieces :=
  let taken := source.takeUntil newline (longestLine + 1)
  (closeLine taken.1, taken.2)

end Field

end DesktopGateway.Wire
