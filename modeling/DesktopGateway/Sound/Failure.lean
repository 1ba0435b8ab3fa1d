import DesktopGateway.Host.Failure
import DesktopGateway.Text.Elapsed

/-!
# Failures of the sound system
-/

namespace DesktopGateway.Sound

open DesktopGateway.Host
open DesktopGateway.Text

inductive Failure where
  | start (program : String) (failure : Host.Failure)
  | command (arguments output : String)
  | serverSilent (microseconds : Nat)
  | graphEnded (statuses : String)
  | channelMissing (channel : String)
  | stream (failure : Host.Failure)
  deriving DecidableEq, Repr

namespace Failure

def message : Failure → String
  | start program failure =>
      s!"Prozess '{program}' konnte nicht gestartet werden: {failure.message}"
  | command arguments output => s!"pactl {arguments} fehlgeschlagen: {output}"
  | serverSilent microseconds =>
      s!"PulseAudio-Server nicht erreichbar nach {Elapsed.ofMicroseconds microseconds}"
  | graphEnded statuses => s!"Pipeline beendet mit {statuses}"
  | channelMissing channel => s!"Pipeline-Kanal nicht verfuegbar: {channel}"
  | stream failure => s!"IO-Fehler: {failure.message}"

def label : Failure → String
  | start .. => "ProzessStart"
  | command .. => "Pactl"
  | serverSilent _ => "PulseNichtBereit"
  | graphEnded _ => "PipelineBeendet"
  | channelMissing _ => "KanalFehlt"
  | stream _ => "Io"

end Failure

end DesktopGateway.Sound
