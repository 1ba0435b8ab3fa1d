import DesktopGateway.Files.Reader
import DesktopGateway.Files.Stage

/-!
# A download and an upload at the same time

The run of a download, cut where an upload can come between: one stage for each byte of the
request, for each operation on the volume, and for each reading of the open file. In an encounter
the run of a download and that of an upload take turns on one volume.
-/

namespace DesktopGateway.Files

open DesktopGateway.Link
open DesktopGateway.Serving
open DesktopGateway.Wire

namespace Download

/-- What the run of a download is about to do. -/
inductive Stage where
  | asking (demand : Demand (Except Fault (Parcel Unit)))
  | resolving (path : String)
  | looking (path : String) (place : Place)
  | packing (path : String) (place : Place)
  | opening (path : String) (place : Place) (size : Nat)
  | sniffing (download : Download) (reader : Reader) (head : List UInt8)
  | announcing (download : Download) (reader : Reader) (contentType : ContentType)
  | copying (download : Download) (reader : Reader)
  | refusing (failure : Failure) (opened : Option Download)
  | closing (result : Except Failure Unit) (opened : Option Download)
  | settled (result : Except Failure Unit)

/-- Pack a directory and open the bundle. -/
def ofBundle (site : Site) (volume : Volume) (path : String) (place : Place) :
    Except Failure (Download × Volume) :=
  match pack site volume place.bytes with
  | .error failure => .error (.bundle s!"{path}: {failure.message}")
  | .ok (bundle, packed) =>
      match packed.openFile (temporaryPath site), packed.metadata (temporaryPath site) with
      | .ok handle, .ok stored =>
          .ok (⟨bundle.name, handle, stored.length, some (temporaryPath site)⟩, packed)
      | .error failure, _ => .error (.stream failure)
      | _, .error failure => .error (.stream failure)

/-- What goes out before the content: the verdict and the header. -/
def announcement (download : Download) (contentType : ContentType) : Parcel.Emission :=
  let parcel : Parcel Unit :=
    .fetchedFile download.name contentType.name (Int64.ofNat download.size) ()
  match parcel.header with
  | .error fault => ⟨[Verdict.accepted.code], some fault⟩
  | .ok header => ⟨Verdict.accepted.code :: header, none⟩

/-- How a download ends that has copied so many bytes of its file. -/
def ended (download : Download) (copied : Nat) : Except Failure Unit :=
  if copied < download.size then .error (.dialogue (.shortContent download.size copied))
  else .ok ()

namespace Stage

def start (service : Service) : Stage :=
  match service.request? with
  | none => refusing (.dialogue (.noMessage service.name)) none
  | some kind => asking (Parcel.decode kind)

def asked (request : Except Fault (Parcel Unit)) : Stage :=
  match request.bind fun parcel => parcel.expect .fetchRequest with
  | .error fault => refusing (.dialogue fault) none
  | .ok (.fetchRequest path) => resolving path
  | .ok _ => closing (.ok ()) none

def opened (download : Download) : Stage :=
  sniffing download (.start download.handle) []

/-- Go on without the client. A reading gets at most one byte more than `portion`. -/
def work (site : Site) (volume : Volume) (portion : Nat) : Stage → Stage × Volume
  | asking (.done request) => (asked request, volume)
  | resolving path =>
      match site.resolve volume path with
      | .error failure => (refusing (.confinement failure) none, volume)
      | .ok place => (looking path place, volume)
  | looking path place =>
      match volume.metadata place.bytes with
      | .error failure => (refusing (.file path failure) none, volume)
      | .ok metadata =>
          if metadata.isDirectory then (packing path place, volume)
          else (opening path place metadata.length, volume)
  | packing path place =>
      match ofBundle site volume path place with
      | .error failure => (refusing failure none, volume)
      | .ok (download, packed) => (opened download, packed)
  | opening path place size =>
      match volume.openFile place.bytes with
      | .error failure => (refusing (.file path failure) none, volume)
      | .ok handle => (opened ⟨place.shownName, handle, size, none⟩, volume)
  | sniffing download reader head =>
      match reader.read volume (min (portion + 1) (ContentType.window - head.length)) with
      | ([], reader) => (announcing download reader.rewind (.of head), volume)
      | (first :: more, reader) => (sniffing download reader (head ++ first :: more), volume)
  | closing result none => (settled result, volume)
  | closing result (some download) => (settled result, download.close volume)
  | stage => (stage, volume)

end Stage

/-- One run: what it is about to do, and its client. -/
structure Run where
  stage : Stage
  exchange : Exchange

namespace Run

def new (exchange : Exchange) : Run :=
  ⟨.start exchange.service, exchange⟩

def step (site : Site) (volume : Volume) (portion : Nat) (run : Run) : Run × Volume :=
  match run.stage with
  | .asking (.next onByte onEnd) =>
      match run.exchange.pull with
      | (.byte value, exchange) => (⟨.asking (onByte value), exchange⟩, volume)
      | (.ended, exchange) => (⟨.asking onEnd, exchange⟩, volume)
      | (.waiting, exchange) => (⟨.asking (.next onByte onEnd), exchange⟩, volume)
  | .announcing download reader contentType =>
      if largest < download.size then
        (⟨.refusing (.tooLarge download.size) (some download), run.exchange⟩, volume)
      else
        match run.exchange.emit (download.announcement contentType) with
        | (.error failure, exchange) =>
            (⟨.closing (.error failure) (some download), exchange⟩, volume)
        | (.ok (), exchange) => (⟨.copying download reader, exchange⟩, volume)
  | .copying download reader =>
      match reader.read volume (min (portion + 1) (download.size - reader.offset)) with
      | ([], reader) =>
          (⟨.closing (download.ended reader.offset) (some download), run.exchange⟩, volume)
      | (first :: more, reader) =>
          match run.exchange.write (first :: more) with
          | (.error failure, exchange) =>
              (⟨.closing (.error (.dialogue (.stream failure))) (some download), exchange⟩, volume)
          | (.ok (), exchange) => (⟨.copying download reader, exchange⟩, volume)
  | .refusing failure opened =>
      let refused := run.exchange.refuse failure
      (⟨.closing refused.1 opened, refused.2⟩, volume)
  | stage =>
      let worked := stage.work site volume portion
      (⟨worked.1, run.exchange⟩, worked.2)

end Run

end Download

/-- A download and an upload on one volume. -/
structure Encounter where
  volume : Volume
  download : Download.Run
  upload : Upload.Run

namespace Encounter

inductive Turn where
  | download (portion : Nat)
  | upload
  deriving DecidableEq, Repr

def start (volume : Volume) (get put : Exchange) : Encounter :=
  ⟨volume, .new get, .new put⟩

def step (site : Site) (owner : Option Nat) (encounter : Encounter) : Turn → Encounter
  | .download portion =>
      let stepped := encounter.download.step site encounter.volume portion
      { encounter with volume := stepped.2, download := stepped.1 }
  | .upload =>
      let stepped := encounter.upload.step site owner encounter.volume
      { encounter with volume := stepped.2, upload := stepped.1 }

def follow (site : Site) (owner : Option Nat) (encounter : Encounter) (turns : List Turn) :
    Encounter :=
  turns.foldl (step site owner) encounter

end Encounter

end DesktopGateway.Files
