import DesktopGateway.Files.SafeName
import DesktopGateway.Files.Site
import DesktopGateway.Serving.Exchange

/-!
# Uploads

An upload goes into one directory below the home, under a safe name. Its steps are those that
other runs can come between: opening the file, writing one portion, syncing, giving the file to its
owner, and removing it when the content was not complete.
-/

namespace DesktopGateway.Files

open DesktopGateway.Serving
open DesktopGateway.Wire

structure Upload where
  target : Place
  handle : Volume.Handle
  deriving DecidableEq, Repr

namespace Upload

def directoryName : String := "Uploads"

def portion : Nat := 8192

/-- Give a place to the owner of uploads, if there is one. -/
def give (site : Site) (owner : Option Nat) (volume : Volume) (place : Place) :
    Except Failure Volume :=
  match owner with
  | none => .ok volume
  | some user =>
      (volume.giveTo site.credentials place.bytes user).mapError (.file place.path)

def prepare (site : Site) (owner : Option Nat) (volume : Volume) :
    Except Failure Place × Volume :=
  match site.resolve volume directoryName with
  | .error failure => (.error (.confinement failure), volume)
  | .ok directory =>
      match volume.ensureDirectory site.credentials directory.bytes with
      | .error failure => (.error (.file directoryName failure), volume)
      | .ok made =>
          match give site owner made directory with
          | .error failure => (.error failure, made)
          | .ok given => (.ok directory, given)

/-- Open the file of an upload, empty. -/
def start (site : Site) (volume : Volume) (directory : Place) (name : String) :
    Except Failure (Upload × Volume) :=
  let target := directory.child name
  match volume.createFile site.credentials target.bytes with
  | .error failure => .error (.file s!"{directoryName}/{name}" failure)
  | .ok (handle, volume) => .ok (⟨target, handle⟩, volume)

/-- Write the content that is still missing, portion by portion. -/
def copy (upload : Upload) : (missing offset : Nat) → Volume → Exchange →
    Except Host.Failure Unit × Volume × Exchange
  | 0, _, volume, exchange => (.ok (), volume, exchange)
  | missing + 1, offset, volume, exchange =>
      match exchange.readContent ⟨missing + 1⟩ portion with
      | (.error failure, _, exchange) => (.error failure, volume, exchange)
      | (.ok [], _, exchange) => (.ok (), volume, exchange)
      | (.ok (first :: more), _, exchange) =>
          copy upload (missing - more.length) (offset + more.length + 1)
            (volume.write upload.handle offset (first :: more)) exchange
  termination_by missing => missing

def discard (upload : Upload) (volume : Volume) : Volume :=
  match volume.removeFile upload.target.bytes with
  | .ok volume => volume
  | .error _ => volume

/-- Copy the content and make sure that it is on the disk. -/
def fill (upload : Upload) (size : Nat) (volume : Volume) (exchange : Exchange) :
    Except Failure Unit × Volume × Exchange :=
  match upload.copy size 0 volume exchange with
  | (.error failure, volume, exchange) =>
      (.error (.stream failure), upload.discard volume, exchange)
  | (.ok (), volume, exchange) =>
      match Volume.sync upload.handle with
      | .error failure => (.error (.stream failure), upload.discard volume, exchange)
      | .ok () => (.ok (), volume, exchange)

def store (site : Site) (owner : Option Nat) (name : String) (size : Nat) (volume : Volume)
    (exchange : Exchange) : Except Failure Unit × Volume × Exchange :=
  match SafeName.ofName? name with
  | none => (.error (.unusableName name), volume, exchange)
  | some safe =>
      match prepare site owner volume with
      | (.error failure, volume) => (.error failure, volume, exchange)
      | (.ok directory, volume) =>
          match start site volume directory safe with
          | .error failure => (.error failure, volume, exchange)
          | .ok (upload, volume) =>
              match upload.fill size volume exchange with
              | (.error failure, volume, exchange) => (.error failure, volume, exchange)
              | (.ok (), volume, exchange) =>
                  match give site owner volume upload.target with
                  | .error failure => (.error failure, volume, exchange)
                  | .ok volume => (.ok (), volume, exchange)

def attempt (site : Site) (owner : Option Nat) (volume : Volume) (exchange : Exchange) :
    Except Failure Unit × Volume × Exchange :=
  match exchange.readRequest .storeRequest with
  | (.error failure, exchange) => (.error failure, volume, exchange)
  | (.ok (.storeRequest name size _), exchange) =>
      store site owner name size.toNatClampNeg volume exchange
  | (.ok _, exchange) => (.ok (), volume, exchange)

/-- Answer an upload: an acceptance once everything is stored, or a refusal. -/
def serve (site : Site) (owner : Option Nat) (volume : Volume) (exchange : Exchange) :
    Except Failure Unit × Exchange × Volume :=
  match attempt site owner volume exchange with
  | (.ok (), volume, exchange) =>
      let accepted := exchange.emit Link.Endpoint.acceptance
      (accepted.1, accepted.2, volume)
  | (.error failure, volume, exchange) =>
      let refused := exchange.refuse failure
      (refused.1, refused.2, volume)

end Upload

end DesktopGateway.Files
