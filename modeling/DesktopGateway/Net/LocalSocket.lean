import DesktopGateway.Text.Utf8
import DesktopGateway.Volume.Operations

/-!
# Local sockets

A local socket is named by a path, which has to fit into its address. A path that starts with a
zero byte names a socket outside the file system.
-/

namespace DesktopGateway.Net.LocalSocket

open DesktopGateway.Host
open DesktopGateway.Text

def pathRoom : Nat := 108

def zeroInPath : Failure :=
  .described .invalidInput "paths must not contain interior null bytes"

def pathTooLong : Failure :=
  .described .invalidInput "path must be shorter than SUN_LEN"

def nameTooLong : Failure :=
  .described .invalidInput "abstract socket name must be shorter than SUN_LEN"

/-- Connect to a socket where nobody listens but at one of the paths in `listeners`. -/
def connect (volume : Volume) (listeners : List String) (path : String) : Except Failure Unit :=
  let bytes := Utf8.encode path
  if bytes.head? = some 0 then
    .error (if pathRoom ≤ bytes.length then nameTooLong else .refused .connectionRefused)
  else if bytes.contains 0 then .error zeroInPath
  else if pathRoom ≤ bytes.length then .error pathTooLong
  else if listeners.contains path then .ok ()
  else
    match volume.metadata bytes with
    | .error failure => .error failure
    | .ok _ => .error (.refused .connectionRefused)

end DesktopGateway.Net.LocalSocket
