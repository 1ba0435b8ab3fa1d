import DesktopGateway.Files.Download
import DesktopGateway.Files.Listing
import DesktopGateway.Files.Tape
import DesktopGateway.Files.Upload

/-!
# The file services

One call for the three services that work on files. Where they run, directories are packed into
compressed tapes.
-/

namespace DesktopGateway.Files

open DesktopGateway.Serving

inductive FileService where
  | listing
  | download
  | upload (owner : Option Nat)
  deriving DecidableEq, Repr

namespace FileService

def service : FileService → Wire.Service
  | listing => .stat
  | download => .fetch
  | upload _ => .store

def serve (service : FileService) (site : Site) (volume : Volume) (exchange : Exchange) :
    Except Failure Unit × Exchange × Volume :=
  match service with
  | listing =>
      let served := Listing.serve site volume exchange
      (served.1, served.2, volume)
  | download => Download.serve site volume exchange
  | upload owner => Upload.serve site owner volume exchange

end FileService

end DesktopGateway.Files
