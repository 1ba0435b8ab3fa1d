import DesktopGateway.Host.Program
import DesktopGateway.Sound.Failure
import DesktopGateway.Sound.Preferences
import DesktopGateway.Text.Blank
import DesktopGateway.Text.Utf8

/-!
# Sound devices

The devices of a session are modules of its sound server: one that plays, and one that records from
a pipe. The modules that were loaded are remembered until they are unloaded.
-/

namespace DesktopGateway.Sound

open DesktopGateway.Host
open DesktopGateway.Text

def commandProgram : String := "pactl"

/-- The modules that were loaded on a server, in the order of their loading. -/
structure Devices where
  server : String
  modules : List String
  deriving DecidableEq, Repr

/-- A command to the server. What a `load` prints names the new module. -/
inductive Order where
  | load (arguments : List String)
  | plain (arguments : List String)
  deriving DecidableEq, Repr

def Order.arguments : Order → List String
  | load arguments => arguments
  | plain arguments => arguments

namespace Devices

def new (server : String) : Devices :=
  ⟨server, []⟩

/-- What a command prints, without white space around it. -/
def command (server : String) (arguments : List String) (shell : Shell) :
    Except Failure String × Shell :=
  match shell.run ("-s" :: server :: arguments) with
  | (.error failure, shell) => (.error (.start commandProgram failure), shell)
  | (.ok output, shell) =>
      if output.ending.succeeded then
        (.ok (Blank.trim (Utf8.lossy output.printed)), shell)
      else
        (.error (.command (String.intercalate " " arguments)
          (Blank.trim (Utf8.lossy output.complaints))), shell)

def carryOut (order : Order) (devices : Devices) (shell : Shell) :
    Except Failure Unit × Devices × Shell :=
  match command devices.server order.arguments shell with
  | (.error failure, shell) => (.error failure, devices, shell)
  | (.ok printed, shell) =>
      match order with
      | .load _ => (.ok (), { devices with modules := devices.modules ++ [printed] }, shell)
      | .plain _ => (.ok (), devices, shell)

def carryOutAll : List Order → Devices → Shell → Except Failure Unit × Devices × Shell
  | [], devices, shell => (.ok (), devices, shell)
  | order :: orders, devices, shell =>
      match carryOut order devices shell with
      | (.ok (), devices, shell) => carryOutAll orders devices shell
      | (.error failure, devices, shell) => (.error failure, devices, shell)

def playbackModule (preferences : Preferences) : List String :=
  ["load-module", "module-null-sink", s!"sink_name={preferences.playbackDevice}",
    s!"sink_properties=device.description=\"{preferences.playbackDescription}\""]

def recordingModule (preferences : Preferences) (fifo : String) : List String :=
  ["load-module", "module-pipe-source", s!"source_name={preferences.recordingDevice}",
    s!"source_properties=device.description=\"{preferences.recordingDescription}\"",
    s!"file={fifo}", s!"format={preferences.recordingFormat}",
    s!"rate={preferences.recordingRate}", s!"channels={preferences.recordingChannels}"]

def orders (preferences : Preferences) (fifo : String) : List Order :=
  [.load (playbackModule preferences), .load (recordingModule preferences fifo),
    .plain ["set-default-source", preferences.recordingDevice]]

def setUp (preferences : Preferences) (fifo : String) (devices : Devices) (shell : Shell) :
    Except Failure Unit × Devices × Shell :=
  carryOutAll (orders preferences fifo) devices shell

/-- Unload modules; the answer names those that are still there. -/
def unload (server : String) : List String → Shell → List String × Shell
  | [], shell => ([], shell)
  | name :: names, shell =>
      let unloaded := command server ["unload-module", name] shell
      let later := unload server names unloaded.2
      (match unloaded.1 with | .ok _ => later.1 | .error _ => name :: later.1, later.2)

def tearDown (devices : Devices) (shell : Shell) : Devices × Shell :=
  let unloaded := unload devices.server devices.modules shell
  ({ devices with modules := unloaded.1 }, unloaded.2)

/-- The pause between two questions to a silent server, and how long one question takes. -/
def pause : Nat := 100000
def questionTime : Nat := 2000

/-- How many questions to a silent server end within a time in microseconds. -/
def questions (time : Nat) : Nat :=
  if time < questionTime then 0 else (time - questionTime) / pause + 1

def ask (server : String) (shell : Shell) : Bool × Shell :=
  match command server ["info"] shell with
  | (.ok _, shell) => (true, shell)
  | (.error _, shell) => (false, shell)

def askRepeatedly (server : String) : Nat → Shell → Bool × Shell
  | 0, shell => (false, shell)
  | count + 1, shell =>
      match ask server shell with
      | (true, shell) => (true, shell)
      | (false, shell) => askRepeatedly server count shell

def awaitServer (time : Nat) (devices : Devices) (shell : Shell) : Except Failure Unit × Shell :=
  match askRepeatedly devices.server (questions time) shell with
  | (true, shell) => (.ok (), shell)
  | (false, shell) => (.error (.serverSilent time), shell)

end Devices

end DesktopGateway.Sound
