import DesktopGateway.Wire.Parcel

/-!
# Sending

A message is sent in the order of its parts: everything about its header is checked, the fields are
written one after the other, and then the content is copied from its source, portion by portion and
not further than the size says.
-/

namespace DesktopGateway.Wire

/-- A stream that takes everything, and the source that content is copied from. -/
structure Dispatch where
  written : List UInt8
  source : Pieces
  deriving DecidableEq, Repr

namespace Dispatch

def put (dispatch : Dispatch) : List Field → Option Fault × Dispatch
  | [] => (none, dispatch)
  | field :: fields =>
      match field.write with
      | .error fault => (some fault, dispatch)
      | .ok bytes => put { dispatch with written := dispatch.written ++ bytes } fields

/-- How much content is read before it is written. -/
def portion : Nat := 8192

/-- Copy at most `missing` bytes of content; the number of those that were copied. -/
def copy : (missing : Nat) → Dispatch → Nat × Dispatch
  | 0, dispatch => (0, dispatch)
  | missing + 1, dispatch =>
      match dispatch.source.read (min portion (missing + 1)) with
      | ([], source) => (0, { dispatch with source := source })
      | (first :: more, source) =>
          let later := copy (missing - more.length) ⟨dispatch.written ++ first :: more, source⟩
          (more.length + 1 + later.1, later.2)
  termination_by missing => missing

end Dispatch

namespace Parcel

variable {β : Type}

def inspect : Parcel β → Except Fault Unit
  | statRequest _ => .ok ()
  | fetchRequest _ => .ok ()
  | storeRequest name size _ => do
      checkSize size
      let _ ← Field.checkLine name
  | fetchedFile name contentType size _ => do
      checkSize size
      let _ ← Field.checkLine name
      let _ ← Field.checkLine contentType

def fields : Parcel β → List Field
  | statRequest path => [.line path]
  | fetchRequest path => [.line path]
  | storeRequest name size _ => [.line name, .size size]
  | fetchedFile name contentType size _ => [.line name, .line contentType, .size size]

def send (parcel : Parcel Pieces) : Option Fault × Dispatch :=
  let start : Dispatch := ⟨[], parcel.content?.getD []⟩
  match parcel.inspect with
  | .error fault => (some fault, start)
  | .ok () =>
      match start.put parcel.fields with
      | (some fault, dispatch) => (some fault, dispatch)
      | (none, dispatch) =>
          let copied := dispatch.copy parcel.contentSize
          (if copied.1 < parcel.contentSize then
            some (.shortContent parcel.contentSize copied.1) else none, copied.2)

end Parcel

end DesktopGateway.Wire
