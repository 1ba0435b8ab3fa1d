import DesktopGateway.Host.Failure

/-!
# Windows

Content of an announced size is read through a window on its source. The window delivers exactly
that many bytes and never looks behind them; a source that ends before is a failure.
-/

namespace DesktopGateway.Wire

open DesktopGateway.Host

/-- Bytes as a transport delivers them, piece by piece. -/
abbrev Pieces := List (List UInt8)

namespace Pieces

def next? : Pieces → Option (UInt8 × Pieces)
  | [] => none
  | [] :: rest => next? rest
  | (first :: more) :: rest => some (first, more :: rest)

/-- One read with room for `room` bytes. It takes from the first piece that holds any. -/
def read (room : Nat) : Pieces → List UInt8 × Pieces
  | [] => ([], [])
  | [] :: rest => read room rest
  | piece :: rest =>
      (piece.take room, match piece.drop room with | [] => rest | left => left :: rest)

theorem read_flatten (room : Nat) (pieces : Pieces) :
    (read room pieces).1 ++ (read room pieces).2.flatten = pieces.flatten := by
  induction pieces with
  | nil => rfl
  | cons piece rest ih =>
      cases piece with
      | nil => simpa [read] using ih
      | cons first tail =>
          have whole := List.take_append_drop room (first :: tail)
          simp only [read, List.flatten_cons]
          split
          · rename_i none_left
            rw [none_left, List.append_nil] at whole
            rw [whole]
          · rw [List.flatten_cons, ← List.append_assoc, whole]

theorem length_read_le (room : Nat) (pieces : Pieces) : (read room pieces).1.length ≤ room := by
  induction pieces with
  | nil => exact Nat.zero_le room
  | cons piece rest ih =>
      cases piece with
      | nil => exact ih
      | cons first more => exact List.length_take_le ..

end Pieces

structure Window where
  remaining : Nat
  deriving DecidableEq, Repr

namespace Window

/-- The source ended while `outstanding` bytes were still due. -/
def ended (outstanding : Nat) : Failure :=
  .described .unexpectedEnd s!"Datenstrom endete {outstanding} Bytes zu frueh"

def exhausted : Failure :=
  .described .unexpectedEnd "early eof"

/-- One read with room for `room` bytes. -/
def read (window : Window) (room : Nat) (source : Pieces) :
    Except Failure (List UInt8) × Window × Pieces :=
  let taken := source.read (min room window.remaining)
  if taken.1.isEmpty && 0 < room && 0 < window.remaining then
    (.error (ended window.remaining), window, taken.2)
  else (.ok taken.1, ⟨window.remaining - taken.1.length⟩, taken.2)

/-- A read that delivers something brings the end of the window nearer. -/
theorem remaining_lt_of_read {window left : Window} {room : Nat} {source rest : Pieces}
    {first : UInt8} {more : List UInt8}
    (taken : window.read room source = (.ok (first :: more), left, rest)) :
    left.remaining < window.remaining := by
  have bound := Pieces.length_read_le (min room window.remaining) source
  unfold read at taken
  dsimp only at taken
  split at taken
  · cases taken
  · simp only [Prod.mk.injEq, Except.ok.injEq] at taken
    obtain ⟨portion, rfl, _⟩ := taken
    rw [portion, List.length_cons] at bound
    dsimp only
    rw [portion, List.length_cons]
    omega

def readExactly : (missing : Nat) → (taken : List UInt8) → Window → Pieces →
    Except Failure (List UInt8) × Window × Pieces
  | 0, taken, window, source => (.ok taken, window, source)
  | missing + 1, taken, window, source =>
      match window.read (missing + 1) source with
      | (.error failure, window, source) => (.error failure, window, source)
      | (.ok [], window, source) => (.error exhausted, window, source)
      | (.ok (first :: more), window, source) =>
          readExactly (missing - more.length) (taken ++ first :: more) window source
  termination_by missing => missing

/-- Read until a read delivers nothing or fails. One read after the other has room for one byte
more than `room` says. -/
def readOn (room : Nat → Nat) (taken : List UInt8) (window : Window) (source : Pieces) :
    Except Failure (List UInt8) × Window × Pieces :=
  match delivered : window.read (room 0 + 1) source with
  | (.error failure, left, rest) => (.error failure, left, rest)
  | (.ok [], left, rest) => (.ok taken, left, rest)
  | (.ok (first :: more), left, rest) =>
      have _nearer := remaining_lt_of_read delivered
      readOn (fun turn => room (turn + 1)) (taken ++ first :: more) left rest
  termination_by window.remaining

def readToEnd (window : Window) (source : Pieces) :
    Except Failure (List UInt8) × Window × Pieces :=
  let available := source.flatten
  let taken := available.take window.remaining
  let rest := available.drop window.remaining
  let left : Window := ⟨window.remaining - taken.length⟩
  if taken.length < window.remaining then (.error (ended left.remaining), left, [])
  else (.ok taken, left, if rest.isEmpty then [] else [rest])

end Window

inductive WindowRead where
  | upTo (room : Nat)
  | exactly (count : Nat)
  | toEnd
  deriving DecidableEq, Repr

namespace Window

def apply (window : Window) (source : Pieces) :
    WindowRead → Except Failure (List UInt8) × Window × Pieces
  | .upTo room => window.read room source
  | .exactly count => window.readExactly count [] source
  | .toEnd => window.readToEnd source

/-- A sequence of reads, going on after failures. Each result comes with the window's and the
source's state after it. -/
def applyAll (window : Window) (source : Pieces) :
    List WindowRead → List (Except Failure (List UInt8) × Window × Pieces)
  | [] => []
  | read :: reads =>
      let result := window.apply source read
      result :: applyAll result.2.1 result.2.2 reads

end Window

end DesktopGateway.Wire
