import DesktopGateway.Logging.Filter
import DesktopGateway.Net.Network
import DesktopGateway.Startup.Obstacle
import DesktopGateway.Text.Document

/-!
# Launches

The gateway reads its settings, then makes ready one thing after the other, and says in its log how
far it has come. The first obstacle ends the launch.
-/

namespace DesktopGateway.Startup

open DesktopGateway.Logging
open DesktopGateway.Net
open DesktopGateway.Text (Document)

inductive Notice where
  | starting
  | certificateLoaded
  | monitoring
  | monitoringEnded
  | listening
  | ready
  | stopping
  deriving DecidableEq, Repr

namespace Notice

def text : Notice → String
  | starting => "deskproxy wird initialisiert"
  | certificateLoaded => "Server-Zertifikat geladen"
  | monitoring => "Observability-Server gestartet"
  | monitoringEnded => "Observability-Server beendet"
  | listening => "Proxy lauscht"
  | ready => "Dispatcher bereit"
  | stopping => "Shutdown-Signal empfangen, deskproxy wird beendet"

def level : Notice → Level
  | monitoringEnded => .error
  | _ => .info

def target : Notice → String
  | monitoring => "deskproxy_observability"
  | listening | ready => "deskproxy_server"
  | _ => "deskproxy"

def line (notice : Notice) : Format → String
  | .text => s!"{notice.level.name} {notice.target}: {notice.text}"
  | .json =>
      (Document.record [("level", .text notice.level.name),
        ("fields", .record [("message", .text notice.text)]),
        ("target", .text notice.target)]).compact

end Notice

/-- A launch writes notices until it is done or meets an obstacle. -/
abbrev Launch := ExceptT Obstacle (StateM (List Notice))

namespace Launch

def say (notice : Notice) : Launch Unit :=
  modify (· ++ [notice])

def found {ε α : Type} (obstacle : ε → Obstacle) : Except ε α → Launch α
  | .ok value => pure value
  | .error fault => throw (obstacle fault)

def loadTrust (readText : String → Except Host.Failure String) (files : Settings.TrustFiles) :
    Launch Unit := do
  let material ← found .noMaterial
    (Trust.Material.load readText files.authority files.certificate files.key)
  let _ ← found .badMaterial material.fingerprint
  say .certificateLoaded
  let _ ← found .badMaterial material.party

/-- Serve the monitoring page, if it is wanted. The gateway runs without it, too. -/
def openMonitoring (network : Network) (settings : Settings) : Launch Unit := do
  if settings.monitoring.enabled then
    match SocketAddress.ofText? settings.monitoringAddress with
    | none => throw .monitoringAddress
    | some address =>
        match network.listen address with
        | .ok () => say .monitoring
        | .error _ => say .monitoringEnded

/-- Listen for clients until the gateway is stopped. -/
def serve (network : Network) (settings : Settings) : Launch Unit := do
  let _ ← found .displayAddress settings.displayAddress
  let address := settings.listenAddress
  let _ ← found (.notListening address) (network.listenOn address)
  say .listening
  say .ready
  say .stopping

def ofSettings (network : Network) (readText : String → Except Host.Failure String)
    (settings : Settings) : Launch Unit := do
  say .starting
  loadTrust readText settings.trust
  openMonitoring network settings
  serve network settings

end Launch

/-- A launch as others see it: what was written to the log, and the obstacle that ended it. -/
structure Outcome where
  format : Format
  notices : List Notice
  obstacle : Option Obstacle
  deriving DecidableEq, Repr

namespace Outcome

def code (outcome : Outcome) : Nat :=
  if outcome.obstacle.isSome then 1 else 0

/-- Launch with the settings in a file. For the log, the level and the format that the environment
asks for go before those of the settings. -/
def ofFile (network : Network) (readText : String → Except Host.Failure String)
    (level format : Option String) (path : String) : Outcome :=
  match Settings.load readText path with
  | .error fault => ⟨.text, [], some (.settings fault)⟩
  | .ok settings =>
      let filter := Filter.choose level settings.logging.level
      let (result, notices) := (Launch.ofSettings network readText settings).run.run []
      ⟨Format.choose format settings.logging.format,
        notices.filter fun notice => filter.allows notice.target notice.level,
        match result with | .ok () => none | .error obstacle => some obstacle⟩

end Outcome

end DesktopGateway.Startup
