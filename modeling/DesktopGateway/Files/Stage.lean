import DesktopGateway.Files.Upload
import DesktopGateway.Link.Poll

/-!
# Stages of an upload

The run of an upload, cut where other runs can come between: one stage for each byte of the request,
for each operation on the volume, and for each portion of the content. A crowd is any number of runs
on one volume, of which one at a time does its next step.
-/

namespace DesktopGateway.Serving

open DesktopGateway.Link

/-- What a run needs from its client: the next byte of the request, or content for which there is
some room. -/
inductive Wish where
  | byte
  | portion (room : Nat)
  deriving DecidableEq, Repr

namespace Exchange

def deliver (exchange : Exchange) : Wish → Delivery × Exchange
  | .byte => let pulled := exchange.pull; (pulled.1.delivery, pulled.2)
  | .portion room =>
      let taken := exchange.incoming.read room
      let later := { exchange with
        incoming := taken.2, received := exchange.received + taken.1.length }
      (if taken.1.isEmpty then .ended else .bytes taken.1, later)

end Exchange

end DesktopGateway.Serving

namespace DesktopGateway.Files.Upload

open DesktopGateway.Link
open DesktopGateway.Serving
open DesktopGateway.Wire

/-- What a client is told of its upload: an acceptance, or a refusal. -/
def emission : Except Failure Unit → Parcel.Emission
  | .ok () => Endpoint.acceptance
  | .error failure => Endpoint.refusal failure.message

/-- What the run of an upload is about to do. -/
inductive Stage where
  | asking (demand : Demand (Except Fault (Parcel Unit)))
  | resolving (name : String) (size : Nat)
  | making (directory : Place) (safe : String) (size : Nat)
  | claiming (directory : Place) (safe : String) (size : Nat)
  | opening (directory : Place) (safe : String) (size : Nat)
  | writing (upload : Upload) (missing offset : Nat)
  | syncing (upload : Upload)
  | granting (upload : Upload)
  | discarding (upload : Upload) (failure : Host.Failure)
  | settled (result : Except Failure Unit)

namespace Stage

def start (service : Service) : Stage :=
  match service.request? with
  | none => settled (.error (.dialogue (.noMessage service.name)))
  | some kind => asking (Parcel.decode kind)

def wish? : Stage → Option Wish
  | asking (.next ..) => some .byte
  | writing _ (missing + 1) _ => some (.portion (min portion (missing + 1)))
  | _ => none

def asked (request : Except Fault (Parcel Unit)) : Stage :=
  match request.bind fun parcel => parcel.expect .storeRequest with
  | .error fault => settled (.error (.dialogue fault))
  | .ok (.storeRequest name size _) => resolving name size.toNatClampNeg
  | .ok _ => settled (.ok ())

def feed (volume : Volume) (delivery : Delivery) : Stage → Stage × Volume
  | asking (.next onByte onEnd) =>
      match delivery with
      | .bytes (value :: _) => (asking (onByte value), volume)
      | .ended => (asking onEnd, volume)
      | .bytes [] | .waiting => (asking (.next onByte onEnd), volume)
  | writing upload (missing + 1) offset =>
      match delivery with
      | .bytes (first :: more) =>
          (writing upload (missing - more.length) (offset + more.length + 1),
            volume.write upload.handle offset (first :: more))
      | .ended => (discarding upload (Window.ended (missing + 1)), volume)
      | .bytes [] | .waiting => (writing upload (missing + 1) offset, volume)
  | stage => (stage, volume)

def work (site : Site) (owner : Option Nat) (volume : Volume) : Stage → Stage × Volume
  | asking (.done request) => (asked request, volume)
  | resolving name size =>
      match SafeName.ofName? name with
      | none => (settled (.error (.unusableName name)), volume)
      | some safe =>
          match site.resolve volume directoryName with
          | .error failure => (settled (.error (.confinement failure)), volume)
          | .ok directory => (making directory safe size, volume)
  | making directory safe size =>
      match volume.ensureDirectory site.credentials directory.bytes with
      | .error failure => (settled (.error (.file directoryName failure)), volume)
      | .ok made => (claiming directory safe size, made)
  | claiming directory safe size =>
      match give site owner volume directory with
      | .error failure => (settled (.error failure), volume)
      | .ok given => (opening directory safe size, given)
  | opening directory safe size =>
      match Upload.start site volume directory safe with
      | .error failure => (settled (.error failure), volume)
      | .ok (upload, opened) => (writing upload size 0, opened)
  | writing upload 0 _ => (syncing upload, volume)
  | syncing upload =>
      match Volume.sync upload.handle with
      | .error failure => (discarding upload failure, volume)
      | .ok () => (granting upload, volume)
  | granting upload =>
      match give site owner volume upload.target with
      | .error failure => (settled (.error failure), volume)
      | .ok given => (settled (.ok ()), given)
  | discarding upload failure => (settled (.error (.stream failure)), upload.discard volume)
  | stage => (stage, volume)

end Stage

/-- One run: what it is about to do, its client, and what came of its answer. -/
structure Run where
  stage : Stage
  exchange : Exchange
  answer : Option (Except Failure Unit)

namespace Run

def new (exchange : Exchange) : Run :=
  ⟨.start exchange.service, exchange, none⟩

def step (site : Site) (owner : Option Nat) (volume : Volume) (run : Run) : Run × Volume :=
  match run.stage, run.answer with
  | .settled result, none =>
      let replied := run.exchange.emit (emission result)
      (⟨run.stage, replied.2, some replied.1⟩, volume)
  | stage, answer =>
      match stage.wish? with
      | some wish =>
          let delivered := run.exchange.deliver wish
          let fed := stage.feed volume delivered.1
          (⟨fed.1, delivered.2, answer⟩, fed.2)
      | none =>
          let worked := stage.work site owner volume
          (⟨worked.1, run.exchange, answer⟩, worked.2)

end Run

structure Crowd where
  volume : Volume
  runs : List Run

namespace Crowd

def start (volume : Volume) (exchanges : List Exchange) : Crowd :=
  ⟨volume, exchanges.map .new⟩

def step (site : Site) (owner : Option Nat) (crowd : Crowd) (index : Nat) : Crowd :=
  match crowd.runs[index]? with
  | none => crowd
  | some run =>
      let stepped := run.step site owner crowd.volume
      ⟨stepped.2, crowd.runs.set index stepped.1⟩

def follow (site : Site) (owner : Option Nat) (crowd : Crowd) (schedule : List Nat) : Crowd :=
  schedule.foldl (step site owner) crowd

end Crowd

end DesktopGateway.Files.Upload
