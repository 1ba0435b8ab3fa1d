import DesktopGateway.Client.Gateway
import DesktopGateway.Link.Endpoint
import DesktopGateway.Net.Network

/-!
# Calls

What a client asks of a gateway. A call is checked before anyone is reached; then the byte of its
service goes out with its request, and the answer is a verdict with what belongs to the call.
-/

namespace DesktopGateway.Client

open DesktopGateway.Link
open DesktopGateway.Net
open DesktopGateway.Wire

inductive Call where
  | display
  | sound
  | stat (path : String)
  | fetch (path : String)
  | store (name : String) (size : Int64) (content : List UInt8)
  deriving DecidableEq, Repr

/-- What an accepted call gives: the stream behind the verdict, a file, or nothing more. -/
inductive Reply where
  | stream (bytes : List UInt8)
  | file (received : Parcel Parcel.Content)
  | stored
  deriving DecidableEq, Repr

inductive Sending where
  | underway
  | ended (fault : Option Fault)
  deriving DecidableEq, Repr

namespace Call

def service : Call → Service
  | display => .display
  | sound => .audio
  | stat _ => .stat
  | fetch _ => .fetch
  | store .. => .store

def parcel? : Call → Option (Parcel (List UInt8))
  | display | sound => none
  | stat path => some (.statRequest path)
  | fetch path => some (.fetchRequest path)
  | store name size content => some (.storeRequest name size content)

def checkText (text : String) : Except Fault Unit :=
  (Field.checkLine text).map fun _ => ()

/-- What can be refused without asking the gateway. -/
def check : Call → Except Fault Unit
  | display | sound => .ok ()
  | stat path => checkText path
  | fetch path => checkText path
  | store name size _ => (checkText name).bind fun _ => Parcel.checkSize size

def request (call : Call) : Parcel.Emission :=
  match call.parcel? with
  | none => ⟨[call.service.code], none⟩
  | some parcel =>
      let emission := parcel.encode
      { emission with bytes := call.service.code :: emission.bytes }

def dial (call : Call) (network : Network) (gateway : Gateway) : Except Fault Parcel.Emission := do
  call.check
  match network.connectTo gateway.address with
  | .ok _ => return call.request
  | .error failure => throw (.stream failure)

/-- How a call ends that sends while it waits for the verdict. An acceptance has to wait for the end
of the sending. The reason of a refusal goes before all; any other fault of the verdict comes second
to one of the sending. -/
def settle (verdict : Except Fault Unit) (sending : Sending) : Option (Except Fault Unit) :=
  match verdict, sending with
  | .ok (), .underway => none
  | .ok (), .ended none => some (.ok ())
  | .ok (), .ended (some fault) => some (.error fault)
  | .error (.remote reason), _ => some (.error (.remote reason))
  | .error _, .ended (some fault) => some (.error fault)
  | .error fault, _ => some (.error fault)

/-- Read the answer of the gateway to a call that was sent as far as it goes. -/
def conclude (call : Call) (answer : List UInt8) : Except Fault Reply :=
  let (verdict, rest) := Endpoint.verdict.run answer
  match call with
  | store .. =>
      ((settle verdict (.ended call.request.fault)).getD (.ok ())).map fun _ => .stored
  | fetch _ => verdict.bind fun _ => ((Parcel.read .fetchedFile rest).1.map .file)
  | _ => verdict.map fun _ => .stream rest

end Call

end DesktopGateway.Client
