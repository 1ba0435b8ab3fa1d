import DesktopGateway.Host.Failure
import DesktopGateway.Volume.Basic

/-!
# Walks

From the written form of a path to the entry it leads to. A walk goes through links, at most
`mostLinks` of them, and may end at an entry that does not exist in a directory that does.
-/

namespace DesktopGateway.Volume

open DesktopGateway.Host

def longestName : Nat := 255

/-- A written path has fewer bytes than this. -/
def pathLimit : Nat := 4096

def mostLinks : Nat := 40

inductive Found where
  | entry (location : Location) (node : Node)
  | absent (location : Location)
  deriving DecidableEq, Repr

/-- Where a walk ends before it goes through a link. -/
inductive Stop where
  | found (found : Found)
  | refused (refusal : Refusal)
  | link (directory : Location) (target : List UInt8) (rest : List Segment)
  deriving DecidableEq, Repr

/-- Walk until the end or to the first link that has to be gone through. The last entry is gone
through only if `follow` says so. -/
def descend (volume : Volume) (follow : Bool) (location : Location) : List Segment → Stop
  | [] =>
      match volume.node? location with
      | some node => .found (.entry location node)
      | none => .refused .noEntry
  | segment :: rest =>
      match volume.node? location with
      | some (.directory ..) =>
          match segment with
          | .here => descend volume follow location rest
          | .up => descend volume follow location.dropLast rest
          | .name name =>
              if longestName < name.length then .refused .nameTooLong
              else
                let next := location ++ [name]
                match volume.node? next with
                | none => if rest.isEmpty then .found (.absent next) else .refused .noEntry
                | some (.link target) =>
                    if rest.isEmpty && !follow then .found (.entry next (.link target))
                    else .link location target rest
                | some _ => descend volume follow next rest
      | _ => .refused .notDirectory

/-- Walk on, through at most `links` links. -/
def walk (volume : Volume) (follow : Bool) (links : Nat) (location : Location)
    (segments : List Segment) : Except Refusal Found :=
  match descend volume follow location segments with
  | .found found => .ok found
  | .refused refusal => .error refusal
  | .link directory target rest =>
      match links with
      | 0 => .error .tooManyLinks
      | links + 1 =>
          if target.isEmpty then .error .noEntry
          else
            let route := Route.ofBytes target
            walk volume follow links (if route.absolute then [] else directory)
              (route.segments ++ rest)
  termination_by structural links

/-- A path that no system call takes. -/
def pathFailure? (path : List UInt8) : Option Failure :=
  if (0 : UInt8) ∈ path then
    some (.described .invalidInput "file name contained an unexpected NUL byte")
  else if path.isEmpty then some (.refused .noEntry)
  else if pathLimit ≤ path.length then some (.refused .nameTooLong)
  else none

def find (volume : Volume) (follow : Bool) (path : List UInt8) : Except Failure Found :=
  match pathFailure? path with
  | some failure => .error failure
  | none => (walk volume follow mostLinks [] (Route.ofBytes path).segments).mapError .refused

def findEntry (volume : Volume) (follow : Bool) (path : List UInt8) :
    Except Failure (Location × Node) :=
  match volume.find follow path with
  | .error failure => .error failure
  | .ok (.absent _) => .error (.refused .noEntry)
  | .ok (.entry location node) => .ok (location, node)

end DesktopGateway.Volume
