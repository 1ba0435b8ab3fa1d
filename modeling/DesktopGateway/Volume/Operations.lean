import DesktopGateway.Volume.Walk

/-!
# Operations on volumes

Looking at entries, reading and writing files, and changing the tree. Paths are written paths;
`metadata`, `openFile` and `createFile` go through links, `removeFile` does not. Each operation does
here what it does when the host carries it out; that a host refuses it is up to the run that asks.
-/

namespace DesktopGateway.Volume

open DesktopGateway.Host

/-- As whom the gateway acts, and whether it may give files to others. -/
structure Credentials where
  owner : Owner
  mayGive : Bool
  deriving DecidableEq, Repr

structure Metadata where
  isDirectory : Bool
  length : Nat
  owner : Owner
  deriving DecidableEq, Repr

def metadata (volume : Volume) (path : List UInt8) : Except Failure Metadata :=
  (volume.findEntry true path).map fun (_, node) =>
    ⟨node.isDirectory, volume.nodeLength node, volume.nodeOwner node⟩

def isDirectory (volume : Volume) (path : List UInt8) : Bool :=
  match volume.metadata path with
  | .ok metadata => metadata.isDirectory
  | .error _ => false

def directory (volume : Volume) (path : List UInt8) : Except Failure Location :=
  match volume.findEntry true path with
  | .error failure => .error failure
  | .ok (location, .directory ..) => .ok location
  | .ok _ => .error (.refused .notDirectory)

def listing (volume : Volume) (path : List UInt8) : Except Failure (List (Name × Node)) :=
  (volume.directory path).map volume.children

inductive Handle where
  | file (number : Nat)
  | device (device : Device)
  deriving DecidableEq, Repr

def openFile (volume : Volume) (path : List UInt8) : Except Failure Handle :=
  match volume.findEntry true path with
  | .error failure => .error failure
  | .ok (_, .file number) => .ok (.file number)
  | .ok (_, .device device) => .ok (.device device)
  | .ok (_, .directory ..) => .error (.refused .isDirectory)
  | .ok (_, .link _) => .error (.refused .tooManyLinks)

def contentOf (volume : Volume) (number : Nat) : Content :=
  ((volume.record? number).map (·.content)).getD .empty

def read (volume : Volume) (handle : Handle) (count : Nat) : List UInt8 :=
  match handle with
  | .file number => (volume.contentOf number).take count
  | .device .null => []
  | .device .zero => List.replicate count 0

def modify (volume : Volume) (number : Nat) (change : Content → Content) : Volume :=
  match volume.record? number with
  | some record => volume.putRecord number { record with content := change record.content }
  | none => volume

/-- Open a file for writing: an old file is emptied, a missing one is made. -/
def createFile (volume : Volume) (credentials : Credentials) (path : List UInt8) :
    Except Failure (Handle × Volume) :=
  match volume.find true path with
  | .error failure => .error failure
  | .ok (.absent location) =>
      let number := volume.freshNumber
      .ok (.file number,
        (volume.putRecord number ⟨.empty, credentials.owner⟩).put location (.file number))
  | .ok (.entry _ (.file number)) => .ok (.file number, volume.modify number fun _ => .empty)
  | .ok (.entry _ (.device device)) => .ok (.device device, volume)
  | .ok (.entry _ (.directory ..)) => .error (.refused .isDirectory)
  | .ok (.entry _ (.link _)) => .error (.refused .tooManyLinks)

def write (volume : Volume) (handle : Handle) (offset : Nat) (bytes : List UInt8) : Volume :=
  match handle with
  | .file number => volume.modify number fun content => content.writeAt offset bytes
  | .device _ => volume

def sync (handle : Handle) : Except Failure Unit :=
  match handle with
  | .file _ => .ok ()
  | .device _ => .error (.refused .invalidArgument)

/-- Remove an entry that is not a directory; a link goes, not what it leads to. -/
def removeFile (volume : Volume) (path : List UInt8) : Except Failure Volume :=
  match volume.findEntry false path with
  | .error failure => .error failure
  | .ok (_, .directory ..) => .error (.refused .isDirectory)
  | .ok (location, _) => .ok (volume.remove location)

def makeDirectory (volume : Volume) (credentials : Credentials) (path : List UInt8) :
    Except Failure Volume :=
  match volume.find false path with
  | .error failure => .error failure
  | .ok (.entry ..) => .error (.refused .alreadyThere)
  | .ok (.absent location) => .ok (volume.put location (.directory credentials.owner openMode))

def ensureDirectory (volume : Volume) (credentials : Credentials) (path : List UInt8) :
    Except Failure Volume :=
  match volume.makeDirectory credentials path with
  | .ok volume => .ok volume
  | .error failure => if volume.isDirectory path then .ok volume else .error failure

def setOwner (volume : Volume) (location : Location) (node : Node) (owner : Owner) : Volume :=
  match node with
  | .directory _ mode => volume.put location (.directory owner mode)
  | .file number =>
      match volume.record? number with
      | some record => volume.putRecord number { record with owner := owner }
      | none => volume
  | .link _ | .device _ => volume

/-- Give what a path leads to to a user and the group of the same number, unless it is the user's
already. -/
def giveTo (volume : Volume) (credentials : Credentials) (path : List UInt8) (user : Nat) :
    Except Failure Volume :=
  match volume.findEntry true path with
  | .error failure => .error failure
  | .ok (location, node) =>
      if (volume.nodeOwner node).user = user then .ok volume
      else if credentials.mayGive then .ok (volume.setOwner location node ⟨user, user⟩)
      else .error (.refused .notPermitted)

/-- The paths of all directories that lead to a path, outermost first. -/
def parentPaths (path : List UInt8) : List (List UInt8) :=
  (List.range path.length).filterMap fun count =>
    if 0 < count && path[count]? = some Route.slash then some (path.take count) else none

/-- Make the directories that lead to a path, as far as they are missing and can be made. -/
def makeParents (volume : Volume) (credentials : Credentials) (path : List UInt8) : Volume :=
  (parentPaths path).foldl
    (fun volume parent =>
      match volume.makeDirectory credentials parent with
      | .ok volume => volume
      | .error _ => volume)
    volume

def storeFile (volume : Volume) (credentials : Credentials) (path : List UInt8)
    (content : Content) : Except Failure Volume :=
  match (volume.makeParents credentials path).createFile credentials path with
  | .error failure => .error failure
  | .ok (.file number, volume) => .ok (volume.modify number fun _ => content)
  | .ok (.device _, volume) => .ok volume

def makeLink (volume : Volume) (credentials : Credentials) (path target : List UInt8) :
    Except Failure Volume :=
  let volume := volume.makeParents credentials path
  match volume.find false path with
  | .error failure => .error failure
  | .ok (.entry ..) => .error (.refused .alreadyThere)
  | .ok (.absent location) => .ok (volume.put location (.link target))

end DesktopGateway.Volume
