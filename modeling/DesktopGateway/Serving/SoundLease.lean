import DesktopGateway.Serving.SoundStream

/-!
# Leases of a sound session

The service of one sound client, answer by answer: the session is asked for, the client is told what
came of it, bytes are passed on until the client, the session or a copy ends, and the session is
closed. All that is done is written down in its order.
-/

namespace DesktopGateway.Serving.SoundStream

open DesktopGateway.Link
open DesktopGateway.Wire

namespace Lease

inductive Stage where
  | starting
  | refusing (failure : Sound.Failure)
  | accepting
  | streaming (stream : Stream)
  | closing (result : Except Failure Unit)
  | settled (result : Except Failure Unit)

inductive Act where
  | started
  | wrote (emission : Parcel.Emission)
  | streamed (event : Event)
  | closed

inductive Answer where
  | started (result : Except Sound.Failure Unit)
  | written (result : Except Failure Unit)
  | streamed (event : Event)
  | closed (result : Except Sound.Failure Unit)

end Lease

structure Lease where
  stage : Lease.Stage
  acts : List Lease.Act

namespace Lease

def start : Lease :=
  ⟨.starting, []⟩

def refusal (failure : Sound.Failure) : Parcel.Emission :=
  Endpoint.refusal (Failure.sound failure).message

def advance (lease : Lease) (stage : Stage) (acts : List Act) : Lease :=
  ⟨stage, lease.acts ++ acts⟩

/-- The stream is over when the first of the client, the session and the copies has ended. -/
def afterEvent (stream : Stream) : Stage :=
  match stream.result? with
  | some result => .closing result
  | none => .streaming stream

/-- One answer. What closing the session gives is not looked at. -/
def step (lease : Lease) (answer : Answer) : Option Lease :=
  match lease.stage, answer with
  | .starting, .started (.ok ()) => some (lease.advance .accepting [.started])
  | .starting, .started (.error failure) => some (lease.advance (.refusing failure) [])
  | .refusing failure, .written result =>
      some (lease.advance (.settled result) [.wrote (refusal failure)])
  | .accepting, .written (.ok ()) =>
      some (lease.advance (.streaming Stream.start) [.wrote Endpoint.acceptance])
  | .accepting, .written (.error failure) =>
      some (lease.advance (.closing (.error failure)) [.wrote Endpoint.acceptance])
  | .streaming stream, .streamed event =>
      some (lease.advance (afterEvent (stream.step event)) [.streamed event])
  | .closing result, .closed _ => some (lease.advance (.settled result) [.closed])
  | _, _ => none

def follow (lease : Lease) : List Answer → Option Lease
  | [] => some lease
  | answer :: later => (lease.step answer).bind fun next => next.follow later

/-- A lease that is offered answers takes those that it waits for and passes over the others. -/
def run (lease : Lease) (answers : List Answer) : Lease :=
  answers.foldl (fun lease answer => (lease.step answer).getD lease) lease

end Lease

end DesktopGateway.Serving.SoundStream
