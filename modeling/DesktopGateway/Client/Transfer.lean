import DesktopGateway.Client.Call
import DesktopGateway.Files.Stage
import DesktopGateway.Link.Passing

/-!
# Transfers

An upload between its client and the gateway. The client sends its request and the content while it
waits for the verdict; the gateway accepts the connection, serves the upload, answers it, and closes
the connection. Each of the three does one step at a time, in any order. What passes between them
goes through two pipes, which hold so many bytes and hand them over in any pieces.
-/

namespace DesktopGateway.Link.Endpoint

open DesktopGateway.Serving

def deliver (source : Endpoint × Pipe) : Wish → Delivery × Endpoint × Pipe
  | .byte => let pulled := pull source; (pulled.1.delivery, pulled.2)
  | .portion room => take room source

end DesktopGateway.Link.Endpoint

namespace DesktopGateway.Client

open DesktopGateway.Files
open DesktopGateway.Host
open DesktopGateway.Link
open DesktopGateway.Wire

/-- The sending of a message: what is to be written next, what the source of the content has not
delivered yet, and how much of the content has been copied and is missing. -/
inductive Sender where
  | sending (pending source : List UInt8) (copied missing : Nat)
  | failing (fault : Fault)
  | ended (fault : Option Fault)
  deriving DecidableEq, Repr

namespace Sender

def portion : Nat := 8192

def start (parcel : Parcel (List UInt8)) : Sender :=
  match parcel.header with
  | .error fault => failing fault
  | .ok header => sending header (parcel.content?.getD []) 0 parcel.contentSize

def load? (count : Nat) : Sender → Option Sender
  | sending pending source copied missing =>
      if 0 < count ∧ count ≤ source.length ∧ count ≤ missing ∧
          pending.length + count ≤ portion then
        some (sending (pending ++ source.take count) (source.drop count) (copied + count)
          (missing - count))
      else none
  | failing _ | ended _ => none

/-- What one sees of it who waits for its end. -/
def shown : Sender → Sending
  | sending .. | failing _ => .underway
  | ended fault => .ended fault

end Sender

/-- What the gateway does for a connection. -/
inductive Phase where
  | accepting (demand : Demand (Except Fault Service))
  | handling (stage : Upload.Stage)
  | answering (pending : List UInt8)
  | parting
  | leaving
  | gone

/-- Who does the next step, and how much of a stream it concerns. -/
inductive Turn where
  | load (count : Nat)
  | send (count : Nat)
  | stop
  | hear (pieces : Pieces)
  | conclude
  | serve (pieces : Pieces)
  | work
  | answer (count : Nat)

structure Transfer where
  uplink : Pipe
  downlink : Pipe
  client : Endpoint
  sender : Sender
  verdict : Demand (Except Fault Unit)
  returned : Option (Except Fault Unit)
  server : Endpoint
  phase : Phase
  volume : Volume
  told : List UInt8

namespace Transfer

/-- The client has opened a connection for an upload. -/
def start (parcel : Parcel (List UInt8)) (volume : Volume) (upward downward : Nat)
    (gateway peer : String) : Transfer :=
  let opened := Endpoint.write [Service.store.code] (.new .store gateway, .empty upward)
  { uplink := opened.2.2
    downlink := .empty downward
    client := opened.2.1
    sender := .start parcel
    verdict := Endpoint.verdict
    returned := none
    server := .new .display peer
    phase := .accepting Endpoint.opening
    volume := volume
    told := [] }

/-! ## The client -/

def load (transfer : Transfer) (count : Nat) : Option Transfer :=
  (transfer.sender.load? count).map fun sender => { transfer with sender := sender }

def send (transfer : Transfer) (count : Nat) : Option Transfer :=
  match transfer.sender with
  | .sending pending source copied missing =>
      (Endpoint.pass? count pending (transfer.client, transfer.uplink)).map
        fun (rest, client, uplink) =>
          { transfer with
            sender := .sending rest source copied missing, client := client, uplink := uplink }
  | .failing _ | .ended _ => none

/-- The sending ends: with its last byte, or because it fails. One that has failed closes its
pipe. -/
def stop (transfer : Transfer) : Option Transfer :=
  match transfer.sender with
  | .sending [] source copied missing =>
      if missing = 0 then some { transfer with sender := .ended none }
      else if source.isEmpty then
        some { transfer with sender := .failing (.shortContent (copied + missing) copied) }
      else none
  | .sending (_ :: _) _ _ _ =>
      if transfer.uplink.closed then
        some { transfer with sender := .failing (.stream (Failure.ofKind .brokenPipe)) }
      else none
  | .failing fault =>
      some { transfer with sender := .ended (some fault), uplink := transfer.uplink.close }
  | .ended _ => none

def hear (transfer : Transfer) (pieces : Pieces) : Option Transfer :=
  match transfer.verdict, transfer.downlink.recut? pieces with
  | .next onByte onEnd, some downlink =>
      match Endpoint.pull (transfer.client, downlink) with
      | (.byte value, client, downlink) =>
          some { transfer with verdict := onByte value, client := client, downlink := downlink }
      | (.ended, client, downlink) =>
          some { transfer with
            verdict := .done (onEnd.run []).1, client := client, downlink := downlink }
      | (.waiting, _, _) => none
  | .next .., none | .done _, _ => none

def conclude (transfer : Transfer) : Option Transfer :=
  match transfer.verdict with
  | .done verdict =>
      (Call.settle verdict transfer.sender.shown).map fun result =>
        { transfer with
          returned := some result
          uplink := transfer.uplink.close
          downlink := transfer.downlink.close }
  | .next .. => none

/-! ## The gateway -/

def serve (transfer : Transfer) (pieces : Pieces) : Option Transfer :=
  match transfer.phase, transfer.uplink.recut? pieces with
  | .accepting (.next onByte onEnd), some uplink =>
      match Endpoint.pull (transfer.server, uplink) with
      | (.byte value, server, uplink) =>
          some { transfer with
            phase := .accepting (onByte value), server := server, uplink := uplink }
      | (.ended, server, uplink) =>
          some { transfer with
            phase := .accepting (.done (onEnd.run []).1), server := server, uplink := uplink }
      | (.waiting, _, _) => none
  | .handling stage, some uplink =>
      match stage.wish? with
      | none => none
      | some wish =>
          match Endpoint.deliver (transfer.server, uplink) wish with
          | (.waiting, _, _) => none
          | (delivery, server, uplink) =>
              let fed := stage.feed transfer.volume delivery
              some { transfer with
                phase := .handling fed.1, volume := fed.2, server := server, uplink := uplink }
  | _, _ => none

/-- The gateway goes on alone. Once an upload has been answered, or the answer cannot be written,
its connection is closed. -/
def work (site : Site) (owner : Option Nat) (transfer : Transfer) : Option Transfer :=
  match transfer.phase with
  | .accepting (.done (.ok .store)) =>
      some { transfer with
        server := { transfer.server with service := .store }, phase := .handling (.start .store) }
  | .accepting (.done _) => some { transfer with phase := .leaving }
  | .accepting (.next ..) => none
  | .handling (.settled result) =>
      some { transfer with phase := .answering (Upload.emission result).bytes }
  | .handling stage =>
      match stage.wish? with
      | some _ => none
      | none =>
          let worked := stage.work site owner transfer.volume
          some { transfer with phase := .handling worked.1, volume := worked.2 }
  | .answering [] => some { transfer with phase := .parting }
  | .answering (_ :: _) =>
      if transfer.downlink.closed then some { transfer with phase := .parting } else none
  | .parting => some { transfer with downlink := transfer.downlink.close, phase := .leaving }
  | .leaving =>
      some { transfer with
        uplink := transfer.uplink.close, downlink := transfer.downlink.close, phase := .gone }
  | .gone => none

def answer (transfer : Transfer) (count : Nat) : Option Transfer :=
  match transfer.phase with
  | .answering pending =>
      (Endpoint.pass? count pending (transfer.server, transfer.downlink)).map
        fun (rest, server, downlink) =>
          { transfer with
            phase := .answering rest, server := server, downlink := downlink
            told := transfer.told ++ pending.take count }
  | _ => none

/-! ## Both -/

/-- The step of a call that has not returned yet. -/
def calling (transfer : Transfer) (step : Transfer → Option Transfer) : Option Transfer :=
  match transfer.returned with
  | none => step transfer
  | some _ => none

def turn (site : Site) (owner : Option Nat) (transfer : Transfer) : Turn → Option Transfer
  | .load count => transfer.calling (·.load count)
  | .send count => transfer.calling (·.send count)
  | .stop => transfer.calling stop
  | .hear pieces => transfer.calling (·.hear pieces)
  | .conclude => transfer.calling conclude
  | .serve pieces => transfer.serve pieces
  | .work => transfer.work site owner
  | .answer count => transfer.answer count

def follow (site : Site) (owner : Option Nat) (transfer : Transfer) : List Turn → Option Transfer
  | [] => some transfer
  | turn :: turns => (transfer.turn site owner turn).bind fun next => next.follow site owner turns

end Transfer

end DesktopGateway.Client
