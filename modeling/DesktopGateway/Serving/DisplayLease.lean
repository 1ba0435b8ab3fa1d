import DesktopGateway.Serving.DisplayStream

/-!
# Leases of sound devices

The service of one display client, turn by turn: the display server is connected to, the client is
told what came of it, and then bytes are passed on while the sound devices are prepared beside. When
the relay has ended the preparation is awaited, and the modules that it loaded are unloaded one
after the other. All that is done is written down in its order.
-/

namespace DesktopGateway.Serving.DisplayStream

open DesktopGateway.Link
open DesktopGateway.Settings
open DesktopGateway.Sound
open DesktopGateway.Wire

namespace Lease

inductive Stage where
  | connecting
  | refusing (failure : Host.Failure)
  | accepting
  | streaming (relay : Relay)
  | awaiting (result : Except Serving.Failure Unit)
  | unloading (names kept : List String) (result : Except Serving.Failure Unit)
  | settled (result : Except Serving.Failure Unit)

inductive Act where
  | wrote (emission : Parcel.Emission) (result : Except Serving.Failure Unit)
  | relayed (course : Course) (event : LaneEvent)
  | ordered (order : Order) (answer : Except Sound.Failure String)
  | unloaded (name : String)

inductive Turn where
  | connected (result : Except Host.Failure Unit)
  | written (result : Except Serving.Failure Unit)
  | relayed (course : Course) (event : LaneEvent)
  | prepared
  | proceed

end Lease

structure Lease where
  stage : Lease.Stage
  preparation : Option Preparation
  acts : List Lease.Act

namespace Lease

/-- A client comes; these devices are prepared for it, if any, once its stream is there. -/
def start (preparation : Option Preparation) : Lease :=
  ⟨.connecting, preparation, []⟩

def refusal (address : DisplayAddress) (failure : Host.Failure) : Parcel.Emission :=
  Endpoint.refusal (Serving.Failure.displayUnreachable address.toString failure).message

def advance (lease : Lease) (stage : Stage) (acts : List Act) : Lease :=
  { lease with stage := stage, acts := lease.acts ++ acts }

def nextAct (preparation : Preparation) : List Act :=
  match preparation.stage with
  | .ordering (order :: _) =>
      [.ordered order (Devices.command preparation.devices.server order.arguments
        preparation.shell).1]
  | _ => []

def prepare (lease : Lease) : Option Lease :=
  match lease.preparation with
  | none => none
  | some preparation =>
      match preparation.stage with
      | .ended _ => none
      | _ => some { lease with
          preparation := some preparation.step
          acts := lease.acts ++ nextAct preparation }

/-- The relay is over when its first way has ended. -/
def afterEvent (relay : Relay) : Stage :=
  match relay.outcome with
  | some outcome => .awaiting (outcome.mapError .stream)
  | none => .streaming relay

/-- Go on behind a preparation that is over. One that never reached the server has nothing to give
back. -/
def release (lease : Lease) (result : Except Serving.Failure Unit) : Option Lease :=
  match lease.preparation with
  | none => some (lease.advance (.settled result) [])
  | some preparation =>
      match preparation.stage with
      | .ended true => some (lease.advance (.unloading preparation.devices.modules [] result) [])
      | .ended false => some (lease.advance (.settled result) [])
      | _ => none

def unload (lease : Lease) (preparation : Preparation) (kept : List String)
    (result : Except Serving.Failure Unit) : List String → Lease
  | [] =>
      { lease with
        stage := .settled result
        preparation := some { preparation with
          devices := { preparation.devices with modules := kept } } }
  | name :: names =>
      let unloaded := Devices.command preparation.devices.server ["unload-module", name]
        preparation.shell
      let kept := match unloaded.1 with | .ok _ => kept | .error _ => kept ++ [name]
      ⟨.unloading names kept result, some { preparation with shell := unloaded.2 },
        lease.acts ++ [.unloaded name]⟩

def step (address : DisplayAddress) (lease : Lease) (turn : Turn) : Option Lease :=
  match lease.stage, turn with
  | .connecting, .connected (.ok ()) => some (lease.advance .accepting [])
  | .connecting, .connected (.error failure) => some (lease.advance (.refusing failure) [])
  | .refusing failure, .written result =>
      some (lease.advance (.settled result) [.wrote (refusal address failure) result])
  | .accepting, .written (.ok ()) =>
      some (lease.advance (.streaming (Relay.start [])) [.wrote Endpoint.acceptance (.ok ())])
  | .accepting, .written (.error failure) =>
      some (lease.advance (.settled (.error failure))
        [.wrote Endpoint.acceptance (.error failure)])
  | .streaming relay, .relayed course event =>
      some (lease.advance (afterEvent (relay.step course event)) [.relayed course event])
  | .streaming _, .prepared => lease.prepare
  | .awaiting _, .prepared => lease.prepare
  | .awaiting result, .proceed => lease.release result
  | .unloading names kept result, .proceed =>
      lease.preparation.map fun preparation => lease.unload preparation kept result names
  | _, _ => none

def follow (address : DisplayAddress) (lease : Lease) : List Turn → Option Lease
  | [] => some lease
  | turn :: later => (lease.step address turn).bind fun next => next.follow address later

/-- A lease that is offered turns takes those that it waits for and passes over the others. -/
def run (address : DisplayAddress) (lease : Lease) (turns : List Turn) : Lease :=
  turns.foldl (fun lease turn => (lease.step address turn).getD lease) lease

end Lease

end DesktopGateway.Serving.DisplayStream
