import DesktopGateway.Files.Confinement
import DesktopGateway.Sound.Failure
import DesktopGateway.Text.Quoted
import DesktopGateway.Wire.Fault

/-!
# Failures of a service

Why a request was not served. The message is what the client is told.
-/

namespace DesktopGateway.Serving

open DesktopGateway.Host
open DesktopGateway.Text

inductive Failure where
  | dialogue (fault : Wire.Fault)
  | confinement (failure : Files.ConfinementFailure)
  | sound (failure : Sound.Failure)
  | file (path : String) (failure : Host.Failure)
  | displayUnreachable (address : String) (failure : Host.Failure)
  | unusableName (name : String)
  | tooLarge (size : Nat)
  | document (text : String)
  | bundle (text : String)
  | stream (failure : Host.Failure)
  deriving DecidableEq, Repr

namespace Failure

def message : Failure → String
  | dialogue fault => fault.message
  | confinement failure => failure.message
  | sound failure => failure.message
  | file path failure => s!"{path}: {failure.message}"
  | displayUnreachable address failure =>
      s!"Display nicht erreichbar ({address}): {failure.message}"
  | unusableName name => s!"Ungueltiger Dateiname: {Quoted.quote name}"
  | tooLarge size => s!"Datei zu gross: {size} Bytes"
  | document text => s!"JSON-Fehler: {text}"
  | bundle text => s!"Archivierung fehlgeschlagen: {text}"
  | stream failure => s!"I/O-Fehler: {failure.message}"

def label : Failure → String
  | dialogue fault => s!"Protokoll.{fault.label}"
  | confinement failure => s!"Sandbox.{failure.label}"
  | sound failure => s!"Audio.{failure.label}"
  | file .. => "Datei"
  | displayUnreachable .. => "DisplayNichtErreichbar"
  | unusableName _ => "UngueltigerName"
  | tooLarge _ => "ZuGross"
  | document _ => "Json"
  | bundle _ => "Archiv"
  | stream _ => "Io"

/-- The client has gone, which needs no report. -/
def isBrokenPipe : Failure → Bool
  | dialogue fault => fault.isBrokenPipe
  | stream failure => failure.isBrokenPipe
  | _ => false

end Failure

end DesktopGateway.Serving
