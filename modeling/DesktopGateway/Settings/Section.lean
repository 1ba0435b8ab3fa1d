import DesktopGateway.Settings.Datum

/-!
# Sections

A section of the settings holds its fields by name or, as a list, by their places. A field that is
not there has its default; one that does not fit is a misfit.
-/

namespace DesktopGateway.Settings

/-- A field that holds a value of the wrong kind or out of its range. -/
structure Misfit where
  key : String
  deriving DecidableEq, Repr

inductive Section where
  | named (entries : List (String × Datum))
  | placed (items : List Datum)

namespace Datum

def toText? : Datum → Option String
  | text value => some value
  | _ => none

def toBoolean? : Datum → Option Bool
  | boolean value => some value
  | _ => none

def toPort? : Datum → Option UInt16
  | integer value =>
      if 0 ≤ value && value < 0x10000 then some (UInt16.ofNat value.toNat) else none
  | _ => none

def toCount? : Datum → Option UInt32
  | integer value =>
      if 0 ≤ value && value < 0x100000000 then some (UInt32.ofNat value.toNat) else none
  | _ => none

/-- A text that may be left out by writing nothing. -/
def toOptionalText? : Datum → Option (Option String)
  | null => some none
  | text value => some (some value)
  | _ => none

/-- What can stand for a section; a moment holds no field. -/
def toSection? : Datum → Option Section
  | table entries => some (.named entries)
  | list items => some (.placed items)
  | moment _ => some (.named [])
  | _ => none

end Datum

namespace Section

def find? (part : Section) (place : Nat) (key : String) : Option Datum :=
  match part with
  | named entries => entries.lookup key
  | placed items => items[place]?

def read {α : Type} (part : Section) (place : Nat) (key : String) (ofDatum? : Datum → Option α)
    (default : α) : Except Misfit α :=
  match part.find? place key with
  | none => .ok default
  | some datum =>
      match ofDatum? datum with
      | some value => .ok value
      | none => .error ⟨key⟩

def readSection {α : Type} (part : Section) (place : Nat) (key : String)
    (ofSection : Section → Except Misfit α) (default : α) : Except Misfit α :=
  match part.find? place key with
  | none => .ok default
  | some datum =>
      match datum.toSection? with
      | some inner => ofSection inner
      | none => .error ⟨key⟩

end Section

end DesktopGateway.Settings
