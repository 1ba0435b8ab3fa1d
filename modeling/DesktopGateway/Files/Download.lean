import DesktopGateway.Files.ContentType
import DesktopGateway.Files.Site
import DesktopGateway.Serving.Exchange

/-!
# Downloads

A file is sent as it is. A directory is packed into a temporary file, which is sent and removed
again however the download ends.
-/

namespace DesktopGateway.Files

open DesktopGateway.Serving
open DesktopGateway.Wire

structure Download where
  name : String
  handle : Volume.Handle
  size : Nat
  temporary : Option (List UInt8)
  deriving DecidableEq, Repr

namespace Download

/-- The largest size that a header can announce. -/
def largest : Nat := 0x7fffffffffffffff

def temporaryPath (site : Site) : List UInt8 :=
  Text.Utf8.encode (site.temporary ++ "/" ++ Bundle.temporaryName site.token)

/-- Pack a directory into a temporary file; nothing is left when that fails. -/
def pack (site : Site) (volume : Volume) (path : List UInt8) :
    Except Host.Failure (Bundle × Volume) :=
  let temporary := temporaryPath site
  match volume.createFile site.credentials temporary with
  | .error failure => .error failure
  | .ok (handle, packed) =>
      match Bundle.gather volume path with
      | .error failure => .error failure
      | .ok bundle => .ok (bundle, packed.write handle 0 (site.archiver.pack bundle))

def ofPlace (site : Site) (volume : Volume) (path : String) (place : Place) :
    Except Failure (Download × Volume) :=
  match volume.metadata place.bytes with
  | .error failure => .error (.file path failure)
  | .ok metadata =>
      if metadata.isDirectory then
        match pack site volume place.bytes with
        | .error failure => .error (.bundle s!"{path}: {failure.message}")
        | .ok (bundle, packed) =>
            match packed.openFile (temporaryPath site), packed.metadata (temporaryPath site) with
            | .ok handle, .ok stored =>
                .ok (⟨bundle.name, handle, stored.length, some (temporaryPath site)⟩, packed)
            | .error failure, _ => .error (.stream failure)
            | _, .error failure => .error (.stream failure)
      else
        match volume.openFile place.bytes with
        | .error failure => .error (.file path failure)
        | .ok handle => .ok (⟨place.shownName, handle, metadata.length, none⟩, volume)

def ofPath (site : Site) (volume : Volume) (path : String) :
    Except Failure (Download × Volume) :=
  match site.resolve volume path with
  | .error failure => .error (.confinement failure)
  | .ok place => ofPlace site volume path place

/-- The volume after the download, without its temporary file. -/
def close (download : Download) (volume : Volume) : Volume :=
  match download.temporary with
  | none => volume
  | some path =>
      match volume.removeFile path with
      | .ok volume => volume
      | .error _ => volume

def contentType (download : Download) (volume : Volume) : ContentType :=
  .of (volume.read download.handle ContentType.window)

def parcel (download : Download) (volume : Volume) : Parcel (List UInt8) :=
  .fetchedFile download.name (download.contentType volume).name (Int64.ofNat download.size)
    (volume.read download.handle download.size)

def send (download : Download) (volume : Volume) (exchange : Exchange) :
    Except Failure Unit × Exchange :=
  if largest < download.size then exchange.refuse (.tooLarge download.size)
  else exchange.emit (Link.Endpoint.reply (download.parcel volume))

def serve (site : Site) (volume : Volume) (exchange : Exchange) :
    Except Failure Unit × Exchange × Volume :=
  match exchange.readRequest .fetchRequest with
  | (.error failure, exchange) =>
      let refused := exchange.refuse failure
      (refused.1, refused.2, volume)
  | (.ok (.fetchRequest path), exchange) =>
      match ofPath site volume path with
      | .error failure =>
          let refused := exchange.refuse failure
          (refused.1, refused.2, volume)
      | .ok (download, opened) =>
          let sent := download.send opened exchange
          (sent.1, sent.2, download.close opened)
  | (.ok _, exchange) => (.ok (), exchange, volume)

end Download

end DesktopGateway.Files
