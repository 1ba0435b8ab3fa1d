import DesktopGateway.Net.LocalSocket
import DesktopGateway.Net.Network
import DesktopGateway.Serving.Exchange
import DesktopGateway.Serving.Relay
import DesktopGateway.Settings.DisplayAddress
import DesktopGateway.Sound.Preparation

/-!
# Display streams

A client of the display service is connected to the display server. Beside its stream the sound
devices are prepared; they are torn down when the stream has ended and the preparation is over.
-/

namespace DesktopGateway.Serving.DisplayStream

open DesktopGateway.Link
open DesktopGateway.Net
open DesktopGateway.Settings
open DesktopGateway.Sound
open DesktopGateway.Wire

def connect (network : Net.Network) (volume : Volume) (listeners : List String) :
    DisplayAddress → Except Host.Failure Unit
  | .host target => (network.connectTo target).map fun _ => ()
  | .socket path => LocalSocket.connect volume listeners path

inductive Event where
  | relayed (course : Course) (event : LaneEvent)
  | prepared

structure Stream where
  relay : Relay
  preparation : Option Preparation

namespace Stream

def start (preparation : Option Preparation) : Stream :=
  ⟨Relay.start [], preparation⟩

/-- One event. The preparation goes on after the relay has ended. -/
def step (stream : Stream) : Event → Stream
  | .relayed course event => { stream with relay := stream.relay.step course event }
  | .prepared => { stream with preparation := stream.preparation.map Preparation.step }

/-- What is left to do when the relay has ended. -/
def release (stream : Stream) : Stream :=
  { stream with
    preparation := stream.preparation.map fun preparation => preparation.complete.tearDown }

end Stream

structure Report where
  result : Except Serving.Failure Unit
  stream : Option Stream
  exchange : Exchange

def serve (address : DisplayAddress) (connected : Except Host.Failure Unit)
    (preparation : Option Preparation) (events : List Event) (exchange : Exchange) : Report :=
  match connected with
  | .error failure =>
      let (result, exchange) := exchange.refuse (.displayUnreachable address.toString failure)
      ⟨result, none, exchange⟩
  | .ok () =>
      match exchange.emit Endpoint.acceptance with
      | (.error failure, exchange) => ⟨.error failure, none, exchange⟩
      | (.ok (), exchange) =>
          let stream := (events.foldl Stream.step (Stream.start preparation)).release
          let outcome := stream.relay.outcome.getD (.ok ())
          let received := exchange.received + stream.relay.toTarget.delivered.length
          ⟨outcome.mapError .stream, some stream,
            { exchange with
              sent := exchange.sent ++ stream.relay.toClient.delivered
              received := received }⟩

end DesktopGateway.Serving.DisplayStream
