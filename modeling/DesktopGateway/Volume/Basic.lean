import DesktopGateway.Volume.Content
import DesktopGateway.Volume.Route

/-!
# Volumes

The tree of files, directories and links that the gateway sees. Entries are found by their names
from the root; files are numbered, so that a file which is open outlives its entry.

Modes are stored and never checked: a volume refuses nothing for want of a right. Where the host may
refuse an operation, be it for a right or for a fault of its own, the run of a service takes the
refusal as what comes of its turn.
-/

namespace DesktopGateway

namespace Volume

/-- The names from the root to an entry. -/
abbrev Location := List Name

structure Owner where
  user : Nat
  group : Nat
  deriving DecidableEq, Repr

/-- Files that keep nothing: one reads as empty, the other as endless zeros. -/
inductive Device where
  | null
  | zero
  deriving DecidableEq, Repr

inductive Node where
  | file (number : Nat)
  | directory (owner : Owner) (mode : Nat)
  | link (target : List UInt8)
  | device (device : Device)
  deriving DecidableEq, Repr

def Node.isDirectory : Node → Bool
  | directory .. => true
  | _ => false

structure FileRecord where
  content : Content
  owner : Owner
  deriving DecidableEq, Repr

end Volume

structure Volume where
  entries : List (Volume.Location × Volume.Node)
  files : List (Nat × Volume.FileRecord)
  deriving DecidableEq, Repr

namespace Volume

def empty : Volume :=
  ⟨[], []⟩

def superuser : Owner :=
  ⟨0, 0⟩

def openMode : Nat := 0o755

def node? (volume : Volume) (location : Location) : Option Node :=
  if location.isEmpty then some (.directory superuser openMode) else volume.entries.lookup location

def record? (volume : Volume) (number : Nat) : Option FileRecord :=
  volume.files.lookup number

def remove (volume : Volume) (location : Location) : Volume :=
  { volume with entries := volume.entries.filter fun entry => entry.1 != location }

/-- Put a node at a location; a node that was there keeps its place in the order. -/
def put (volume : Volume) (location : Location) (node : Node) : Volume :=
  if (volume.entries.lookup location).isSome then
    { volume with
      entries := volume.entries.map fun entry =>
        if entry.1 == location then (location, node) else entry }
  else { volume with entries := volume.entries ++ [(location, node)] }

def putRecord (volume : Volume) (number : Nat) (record : FileRecord) : Volume :=
  { volume with files := (number, record) :: volume.files.filter fun file => file.1 != number }

def Node.number? : Node → Option Nat
  | file number => some number
  | directory .. | link _ | device _ => none

def numbers (volume : Volume) : List Nat :=
  volume.files.map (·.1) ++ volume.entries.filterMap fun entry => entry.2.number?

/-- A number that no file has and no entry leads to. -/
def freshNumber (volume : Volume) : Nat :=
  volume.numbers.foldl (fun fresh number => max fresh (number + 1)) 0

def children (volume : Volume) (location : Location) : List (Name × Node) :=
  volume.entries.filterMap fun (place, node) =>
    match place.getLast? with
    | some name => if place.dropLast = location then some (name, node) else none
    | none => none

/-- Everything below a directory, with the names that lead there from it. -/
def below (volume : Volume) (location : Location) : List (Location × Node) :=
  volume.entries.filterMap fun (place, node) =>
    if location.isPrefixOf place && location.length < place.length then
      some (place.drop location.length, node)
    else none

/-- The length that a look at the node itself shows. -/
def nodeLength (volume : Volume) : Node → Nat
  | .file number => ((volume.record? number).map (·.content.length)).getD 0
  | .link target => target.length
  | .directory .. | .device _ => 0

def nodeOwner (volume : Volume) : Node → Owner
  | .file number => ((volume.record? number).map (·.owner)).getD superuser
  | .directory owner _ => owner
  | .link _ | .device _ => superuser

end Volume

end DesktopGateway
