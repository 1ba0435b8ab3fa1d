import DesktopGateway.Files.Encounter
import DesktopGateway.Files.Listing

/-!
# Visits

The run of a client that asks about a file or fetches one, cut into its single steps. At each step
the host may refuse what is asked of it, and the client may leave after any number of the bytes that
the step writes.

A directory is packed into a temporary file whose name is drawn until it is a new one. Whoever lets
go of the file removes it; the host is not thought to keep a file that it has made for the gateway.
-/

namespace DesktopGateway.Volume

open DesktopGateway.Host

/-- Make a file that was not there. A link at its place is there, whatever it leads to. -/
def createNew (volume : Volume) (credentials : Credentials) (path : List UInt8) :
    Except Failure (Handle × Volume) :=
  match volume.find false path with
  | .error failure => .error failure
  | .ok (.entry ..) => .error (.refused .alreadyThere)
  | .ok (.absent location) =>
      let number := volume.freshNumber
      .ok (.file number,
        (volume.putRecord number ⟨.empty, credentials.owner⟩).put location (.file number))

/-- Let go of a temporary file: it is removed, and nobody hears of a failure. -/
def discard (volume : Volume) (path : List UInt8) : Volume :=
  match volume.removeFile path with
  | .ok volume => volume
  | .error _ => volume

end DesktopGateway.Volume

namespace DesktopGateway.Files

open DesktopGateway.Link
open DesktopGateway.Serving
open DesktopGateway.Wire

/-- What becomes of a step: the host does what is asked, or it refuses, or the client is gone when
it has taken so many more bytes. -/
inductive Outcome where
  | served
  | failing (failure : Host.Failure)
  | leaving (taken : Nat) (failure : Host.Failure)
  deriving DecidableEq, Repr

/-- The chances of a step: the host gives at most one byte more than `portion` at once, and this
word is drawn if a new name is needed. -/
structure Turn where
  portion : Nat
  word : String
  outcome : Outcome
  deriving DecidableEq, Repr

/-- A run on a volume: what it is about to do, and its client. -/
structure Visit (Stage : Type) where
  stage : Stage
  exchange : Exchange
  volume : Volume

namespace Visit

variable {Stage : Type}

def gone (visit : Visit Stage) (sent : List UInt8) : Visit Stage :=
  { visit with exchange := { visit.exchange with sent := sent, reachable := false } }

/-- A step, from what it does if the host serves it and if the host refuses. What a client that
leaves does not take is a failure of the step. -/
def turn (serve : Turn → Visit Stage → Visit Stage)
    (fail : Host.Failure → Visit Stage → Visit Stage) (visit : Visit Stage) (turn : Turn) :
    Visit Stage :=
  match turn.outcome with
  | .served => serve turn visit
  | .failing failure => fail failure visit
  | .leaving taken failure =>
      let next := serve turn visit
      let taken := next.exchange.sent.take (visit.exchange.sent.length + taken)
      if taken = next.exchange.sent then next.gone taken
      else (fail failure visit).gone taken

end Visit

/-! ## Asking about a file -/

namespace Listing

/-- What a run that asks about a file is about to do. -/
inductive Stage where
  | asking (demand : Demand (Except Fault (Parcel Unit)))
  | resolving (path : String)
  | looking (path : String) (place : Place)
  | entering (path : String) (place : Place) (item : Item)
  | counting (path : String) (item : Item) (left : List (Volume.Name × Volume.Node))
      (items : List Item)
  | measuring (path : String) (item : Item) (entry : Volume.Name × Volume.Node)
      (left : List (Volume.Name × Volume.Node)) (items : List Item)
  | accepting (listing : Listing)
  | answering (listing : Listing)
  | refusing (failure : Failure)
  | settled (result : Except Failure Unit)

namespace Stage

def start (service : Service) : Stage :=
  match service.request? with
  | none => refusing (.dialogue (.noMessage service.name))
  | some kind => asking (Parcel.decode kind)

def asked (request : Except Fault (Parcel Unit)) : Stage :=
  match request.bind fun parcel => parcel.expect .statRequest with
  | .error fault => refusing (.dialogue fault)
  | .ok (.statRequest path) => resolving path
  | .ok _ => settled (.ok ())

def work (site : Site) (volume : Volume) : Stage → Stage
  | asking (.done request) => asked request
  | resolving path =>
      match site.resolve volume path with
      | .error failure => refusing (.confinement failure)
      | .ok place => looking path place
  | looking path place =>
      match volume.metadata place.bytes with
      | .error failure => refusing (.file path failure)
      | .ok metadata =>
          let item : Item := ⟨place.shownName, metadata.isDirectory, metadata.length⟩
          if metadata.isDirectory then entering path place item else accepting ⟨item, none⟩
  | entering path place item =>
      match volume.listing place.bytes with
      | .error failure => refusing (.file path failure)
      | .ok entries => counting path item entries []
  | counting _ item [] items => accepting ⟨item, some (sort items)⟩
  | counting path item (entry :: left) items =>
      if entry.2.isDirectory then counting path item left (items ++ [.ofEntry volume entry])
      else measuring path item entry left items
  | measuring path item entry left items =>
      counting path item left (items ++ [.ofEntry volume entry])
  | stage => stage

/-- Go on after a refusal of the host. An entry that cannot be measured counts as empty. -/
def failed (volume : Volume) (failure : Host.Failure) : Stage → Stage
  | asking (.next ..) => refusing (.dialogue (.stream failure))
  | resolving _ => refusing (.confinement .disabled)
  | looking path _ | entering path .. | counting path .. => refusing (.file path failure)
  | measuring path item entry left items =>
      counting path item left (items ++ [{ Item.ofEntry volume entry with size := 0 }])
  | accepting _ | refusing _ => settled (.error (.dialogue (.stream failure)))
  | answering _ => settled (.error (.stream failure))
  | stage => stage

end Stage

def visit (exchange : Exchange) (volume : Volume) : Visit Stage :=
  ⟨.start exchange.service, exchange, volume⟩

def serveStep (site : Site) (_ : Turn) (visit : Visit Stage) : Visit Stage :=
  match visit.stage with
  | .asking (.next onByte onEnd) =>
      match visit.exchange.pull with
      | (.byte value, exchange) => { visit with stage := .asking (onByte value), exchange }
      | (.ended, exchange) => { visit with stage := .asking onEnd, exchange }
      | (.waiting, exchange) => { visit with exchange }
  | .accepting listing =>
      match visit.exchange.emit Endpoint.acceptance with
      | (.error failure, exchange) => { visit with stage := .settled (.error failure), exchange }
      | (.ok (), exchange) => { visit with stage := .answering listing, exchange }
  | .answering listing =>
      let written := visit.exchange.write listing.bytes
      { visit with stage := .settled (written.1.mapError .stream), exchange := written.2 }
  | .refusing failure =>
      let refused := visit.exchange.refuse failure
      { visit with stage := .settled refused.1, exchange := refused.2 }
  | stage => { visit with stage := stage.work site visit.volume }

def failStep (failure : Host.Failure) (visit : Visit Stage) : Visit Stage :=
  { visit with stage := visit.stage.failed visit.volume failure }

def follow (site : Site) (visit : Visit Stage) (turns : List Turn) : Visit Stage :=
  turns.foldl (Visit.turn (serveStep site) failStep) visit

end Listing

/-! ## Fetching a file -/

namespace Download

/-- Go on after a refusal of the host. -/
def Stage.failed (failure : Host.Failure) : Stage → Stage
  | asking (.next ..) => refusing (.dialogue (.stream failure)) none
  | resolving _ => refusing (.confinement .disabled) none
  | looking path _ | opening path .. => refusing (.file path failure) none
  | packing path _ => refusing (.bundle s!"{path}: {failure.message}") none
  | sniffing download .. => refusing (.stream failure) (some download)
  | announcing download .. | copying download .. =>
      closing (.error (.dialogue (.stream failure))) (some download)
  | refusing _ opened => closing (.error (.dialogue (.stream failure))) opened
  | stage => stage

end Download

/-- A temporary file that a directory is packed into, and the name that it is sent under. -/
structure Archive where
  name : String
  path : List UInt8
  handle : Volume.Handle
  written : Nat
  deriving DecidableEq, Repr

namespace Fetch

/-- What the run of a download is about to do, with the single steps of packing. -/
inductive Stage where
  | plain (stage : Download.Stage)
  | filling (path : String) (archive : Archive) (left : List UInt8)
  | reopening (archive : Archive)

def visit (exchange : Exchange) (volume : Volume) : Visit Stage :=
  ⟨.plain (.start exchange.service), exchange, volume⟩

/-- Packing fails, and nothing has been made for it. -/
def unpacked (path : String) (failure : Host.Failure) : Stage :=
  .plain (.refusing (.bundle s!"{path}: {failure.message}") none)

/-- Make a temporary file under the word that was drawn. If there is one with this name, another
word has to be drawn. -/
def claim (site : Site) (word path : String) (place : Place) (visit : Visit Stage) :
    Visit Stage :=
  let temporary := Download.temporaryPath { site with token := word }
  match visit.volume.createNew site.credentials temporary with
  | .error failure =>
      if failure = .refused .alreadyThere then visit
      else { visit with stage := unpacked path failure }
  | .ok (handle, made) =>
      match Bundle.gather visit.volume place.bytes with
      | .error failure =>
          { visit with stage := unpacked path failure, volume := made.discard temporary }
      | .ok bundle =>
          let archive : Archive := ⟨bundle.name, temporary, handle, 0⟩
          { visit with
            stage := .filling path archive (site.archiver.pack bundle)
            volume := made }

def fill (portion : Nat) (path : String) (archive : Archive) (left : List UInt8)
    (visit : Visit Stage) : Visit Stage :=
  if left.isEmpty then
    match Volume.sync archive.handle with
    | .error failure =>
        { visit with stage := unpacked path failure, volume := visit.volume.discard archive.path }
    | .ok () => { visit with stage := .reopening archive }
  else
    let part := left.take (portion + 1)
    { visit with
      stage := .filling path { archive with written := archive.written + part.length }
        (left.drop (portion + 1))
      volume := visit.volume.write archive.handle archive.written part }

def reopen (archive : Archive) (visit : Visit Stage) : Visit Stage :=
  match visit.volume.openFile archive.path, visit.volume.metadata archive.path with
  | .ok handle, .ok stored =>
      { visit with
        stage := .plain (.opened ⟨archive.name, handle, stored.length, some archive.path⟩) }
  | .error failure, _ | _, .error failure =>
      { visit with
        stage := .plain (.refusing (.stream failure) none)
        volume := visit.volume.discard archive.path }

def serveStep (site : Site) (turn : Turn) (visit : Visit Stage) : Visit Stage :=
  match visit.stage with
  | .plain (.packing path place) => claim site turn.word path place visit
  | .plain stage =>
      let stepped := Download.Run.step site visit.volume turn.portion ⟨stage, visit.exchange⟩
      ⟨.plain stepped.1.stage, stepped.1.exchange, stepped.2⟩
  | .filling path archive left => fill turn.portion path archive left visit
  | .reopening archive => reopen archive visit

/-- What the host refuses while a file is packed or opened again lets go of it. -/
def failStep (failure : Host.Failure) (visit : Visit Stage) : Visit Stage :=
  match visit.stage with
  | .plain stage => { visit with stage := .plain (stage.failed failure) }
  | .filling path archive _ =>
      { visit with
        stage := unpacked path failure
        volume := visit.volume.discard archive.path }
  | .reopening archive =>
      { visit with
        stage := .plain (.refusing (.stream failure) none)
        volume := visit.volume.discard archive.path }

def follow (site : Site) (visit : Visit Stage) (turns : List Turn) : Visit Stage :=
  turns.foldl (Visit.turn (serveStep site) failStep) visit

end Fetch

end DesktopGateway.Files
