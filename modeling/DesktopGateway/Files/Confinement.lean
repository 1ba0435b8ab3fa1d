import DesktopGateway.Text.Utf8
import DesktopGateway.Volume.Operations

/-!
# Confinement

Clients name files below the home directory. Their paths are resolved by their text alone: the
entries they name are not looked at, and a path that would leave the home is refused.
-/

namespace DesktopGateway.Files

open DesktopGateway.Text

/-- A place below the home directory, which is given by its path. -/
structure Place where
  home : String
  below : List String
  deriving DecidableEq, Repr

namespace Place

def path (place : Place) : String :=
  if place.below.isEmpty then place.home
  else
    let home := if place.home.toList.getLast? = some '/' then place.home else place.home ++ "/"
    home ++ String.intercalate "/" place.below

def bytes (place : Place) : List UInt8 :=
  Utf8.encode place.path

def shownName (place : Place) : String :=
  match (Volume.Route.ofBytes place.bytes).lastName? with
  | some name => Utf8.lossy name
  | none => ""

def child (place : Place) (name : String) : Place :=
  { place with below := place.below ++ [name] }

end Place

inductive ConfinementFailure where
  | disabled
  | outside (path : String)
  deriving DecidableEq, Repr

namespace ConfinementFailure

def message : ConfinementFailure → String
  | disabled => "Dateiuebertragung ist fuer diese Desktop-Sitzung deaktiviert"
  | outside path => s!"{path} liegt ausserhalb des Home-Verzeichnisses"

def label : ConfinementFailure → String
  | disabled => "Deaktiviert"
  | outside _ => "Ausserhalb"

end ConfinementFailure

namespace Confinement

def step (names : List String) (part : List Char) : Option (List String) :=
  if part = [] || part = ['.'] then some names
  else if part = ['.', '.'] then
    match names with
    | [] => none
    | _ :: above => some above
  else some (String.ofList part :: names)

/-- The names that a path leads to, unless it leaves the home on its way. -/
def names? (path : String) : Option (List String) :=
  ((Parts.of '/' path.toList).foldlM step []).map List.reverse

/-- The place of a path below the home directory. -/
def resolve (volume : Volume) (home path : String) : Except ConfinementFailure Place :=
  if volume.isDirectory (Utf8.encode home) then
    match names? path with
    | some names => .ok ⟨home, names⟩
    | none => .error (.outside path)
  else .error .disabled

end Confinement

end DesktopGateway.Files
