import DesktopGateway.Text.Utf8
import DesktopGateway.Volume.Operations

/-!
# Texts in files

Whole files as texts, and directories with all that lead to them.
-/

namespace DesktopGateway.Volume

open DesktopGateway.Host
open DesktopGateway.Text

def notText : Failure :=
  .described .invalidData "stream did not contain valid UTF-8"

def readText (volume : Volume) (path : String) : Except Failure String :=
  match volume.openFile (Utf8.encode path) with
  | .error failure => .error failure
  | .ok (.device _) => .ok ""
  | .ok (.file number) =>
      match Utf8.decode (volume.contentOf number).toList with
      | .ok text => .ok text
      | .error _ => .error notText

def writeText (volume : Volume) (credentials : Credentials) (path text : String) :
    Except Failure Volume :=
  (volume.createFile credentials (Utf8.encode path)).map fun created =>
    created.2.write created.1 0 (Utf8.encode text)

/-- Make a directory and, where they are missing, those that lead to it. -/
def ensureDirectories (credentials : Credentials) :
    (fuel : Nat) → (path : List UInt8) → Volume → Except Failure Volume
  | 0, path, volume => volume.ensureDirectory credentials path
  | fuel + 1, path, volume =>
      match volume.ensureDirectory credentials path, (parentPaths path).getLast? with
      | .ok volume, _ => .ok volume
      | .error failure, none => .error failure
      | .error failure, some parent =>
          if failure.kind = .notFound then
            (ensureDirectories credentials fuel parent volume).bind fun volume =>
              volume.ensureDirectory credentials path
          else .error failure

end DesktopGateway.Volume
