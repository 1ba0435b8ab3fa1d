import DesktopGateway.Sound.Devices

/-!
# Preparations

The devices of a session are made beside its display stream, one command at a time. A preparation
that never reached the server leaves nothing to tear down.
-/

namespace DesktopGateway.Sound

open DesktopGateway.Host

inductive Stage where
  | asking (questions : Nat)
  | ordering (orders : List Order)
  | ended (reached : Bool)
  deriving DecidableEq, Repr

/-- How many steps a stage and those behind it take at the most. -/
def Stage.steps (orders : List Order) : Stage → Nat
  | asking questions => questions + orders.length + 2
  | ordering left => left.length + 1
  | ended _ => 0

/-- The orders that a server gets once it is reached, and how far they are. -/
structure Preparation where
  orders : List Order
  stage : Stage
  devices : Devices
  shell : Shell

namespace Preparation

/-- The longest time that the sound server is waited for, in microseconds. -/
def patience : Nat := 2000000

def new (preferences : Preferences) (user : UInt32) (shell : Shell) : Preparation :=
  ⟨Devices.orders preferences (preferences.fifoFor user), .asking (Devices.questions patience),
    Devices.new (preferences.serverFor user), shell⟩

def step (preparation : Preparation) : Preparation :=
  match preparation.stage with
  | .asking 0 => { preparation with stage := .ended false }
  | .asking (questions + 1) =>
      match Devices.ask preparation.devices.server preparation.shell with
      | (true, shell) => { preparation with stage := .ordering preparation.orders, shell := shell }
      | (false, shell) => { preparation with stage := .asking questions, shell := shell }
  | .ordering [] => { preparation with stage := .ended true }
  | .ordering (order :: later) =>
      match Devices.carryOut order preparation.devices preparation.shell with
      | (.ok (), devices, shell) => ⟨preparation.orders, .ordering later, devices, shell⟩
      | (.error _, devices, shell) => ⟨preparation.orders, .ended true, devices, shell⟩
  | .ended _ => preparation

def steps : Nat → Preparation → Preparation
  | 0, preparation => preparation
  | count + 1, preparation => steps count preparation.step

def complete (preparation : Preparation) : Preparation :=
  steps (preparation.stage.steps preparation.orders) preparation

/-- Unload what was loaded, if the server was reached at all. -/
def tearDown (preparation : Preparation) : Preparation :=
  match preparation.stage with
  | .ended true =>
      match preparation.devices.tearDown preparation.shell with
      | (devices, shell) => { preparation with devices := devices, shell := shell }
  | _ => preparation

end Preparation

end DesktopGateway.Sound
