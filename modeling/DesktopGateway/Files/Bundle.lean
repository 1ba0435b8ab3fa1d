import DesktopGateway.Files.Confinement

/-!
# Bundles

A directory with everything below it, as one list of entries under the directory's name. Links are
kept as links. How a bundle becomes the bytes of an archive is left to an archiver.
-/

namespace DesktopGateway.Files

open DesktopGateway.Text

namespace Bundle

inductive Kind where
  | directory
  | regular (content : Volume.Content)
  | link (target : List UInt8)
  | device
  deriving DecidableEq, Repr

structure Entry where
  path : List UInt8
  kind : Kind
  deriving DecidableEq, Repr

end Bundle

structure Bundle where
  base : String
  entries : List Bundle.Entry
  deriving DecidableEq, Repr

namespace Bundle

def joined (names : List (List UInt8)) : List UInt8 :=
  (names.intersperse [Volume.Route.slash]).flatten

def kindOf (volume : Volume) : Volume.Node → Kind
  | .file number => .regular (volume.contentOf number)
  | .directory .. => .directory
  | .link target => .link target
  | .device _ => .device

def gather (volume : Volume) (path : List UInt8) : Except Host.Failure Bundle :=
  match volume.directory path with
  | .error failure => .error failure
  | .ok location =>
      let base := match (Volume.Route.ofBytes path).lastName? with
        | some name => Utf8.lossy name
        | none => "home"
      let root := Utf8.encode base ++ [Volume.Route.slash]
      let inner := (volume.below location).map fun (names, node) =>
        Entry.mk (root ++ joined names) (kindOf volume node)
      .ok ⟨base, ⟨root, .directory⟩ :: inner⟩

/-- The entry as it is unpacked: the zeros that its content only counts are bytes then. -/
def Entry.plain (entry : Entry) : Entry :=
  match entry.kind with
  | .regular content => { entry with kind := .regular (.ofBytes content.toList) }
  | .directory | .link _ | .device => entry

def name (bundle : Bundle) : String :=
  bundle.base ++ ".tar.gz"

def temporaryName (token : String) : String :=
  "deskproxy-" ++ token ++ ".tar.gz"

end Bundle

/-- What makes an archive of a bundle. -/
class Archiver where
  pack : Bundle → List UInt8

/-- The archive of a bundle holds all its entries, in whatever order they were visited, and nothing
else. -/
def Archiver.Stores (archiver : Archiver) (unpack? : List UInt8 → Option (List Bundle.Entry))
    (bundle : Bundle) : Prop :=
  ∃ entries, unpack? (archiver.pack bundle) = some entries ∧
    entries.Perm (bundle.entries.map Bundle.Entry.plain)

end DesktopGateway.Files
