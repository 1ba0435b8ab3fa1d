import DesktopGateway.Serving.Exchange
import DesktopGateway.Serving.Relay

/-!
# Sound streams

A client of the sound service gets a session of its own. Its bytes are relayed until the client or
the session ends, and the session is closed then, whatever ended the stream.
-/

namespace DesktopGateway.Serving

open DesktopGateway.Link
open DesktopGateway.Wire

namespace SoundStream

inductive Event where
  | relayed (course : Course) (event : LaneEvent)
  | sessionEnded (result : Except Sound.Failure Unit)

structure Stream where
  relay : Relay
  sessionEnd : Option (Except Sound.Failure Unit)

namespace Stream

def start : Stream :=
  ⟨Relay.start [], none⟩

/-- The result of whichever ended first. -/
def result? (stream : Stream) : Option (Except Failure Unit) :=
  match stream.sessionEnd with
  | some result => some (result.mapError .sound)
  | none => stream.relay.outcome.map fun outcome => outcome.mapError .stream

def step (stream : Stream) (event : Event) : Stream :=
  if stream.result?.isSome then stream
  else
    match event with
    | .relayed course event => { stream with relay := stream.relay.step course event }
    | .sessionEnded result => { stream with sessionEnd := some result }

end Stream

inductive Deed where
  | start
  | close
  deriving DecidableEq, Repr

/-- A finished run: its result, what was done to the session, and the stream, if one was opened. -/
structure Report where
  result : Except Failure Unit
  deeds : List Deed
  stream : Option Stream
  exchange : Exchange

/-- Serve a client. The client gone silent counts as the end of the stream. -/
def serve (session : Except Sound.Failure Unit) (events : List Event) (exchange : Exchange) :
    Report :=
  match session with
  | .error failure =>
      let (result, exchange) := exchange.refuse (.sound failure)
      ⟨result, [], none, exchange⟩
  | .ok () =>
      match exchange.emit Endpoint.acceptance with
      | (.error failure, exchange) => ⟨.error failure, [.start, .close], none, exchange⟩
      | (.ok (), exchange) =>
          let stream := events.foldl Stream.step Stream.start
          let delivered := stream.relay.toClient.delivered
          let received := exchange.received + stream.relay.toTarget.delivered.length
          ⟨stream.result?.getD (.ok ()), [.start, .close], some stream,
            { exchange with sent := exchange.sent ++ delivered, received := received }⟩

end SoundStream

end DesktopGateway.Serving
