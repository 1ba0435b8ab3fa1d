import DesktopGateway.Settings.Section
import DesktopGateway.Text.Document

/-!
# Preferences of the sound system

The names of the devices, and how sound is sampled for playback and for recording.
-/

namespace DesktopGateway.Sound

open DesktopGateway.Settings
open DesktopGateway.Text

structure Preferences where
  server : Option String := none
  playbackDevice : String := "deskproxy"
  playbackDescription : String := "deskproxy-playback"
  playbackChannels : UInt32 := 2
  playbackRate : UInt32 := 24000
  recordingDevice : String := "virtmic"
  recordingDescription : String := "deskproxy-microphone"
  recordingFifo : Option String := none
  recordingFormat : String := "s16le"
  recordingChannels : UInt32 := 1
  recordingRate : UInt32 := 16000
  deriving DecidableEq, Repr

namespace Preferences

def default : Preferences := {}

def ofSection (part : Section) : Except Misfit Preferences := do
  let server ← part.read 0 "pulse_server" Datum.toOptionalText? default.server
  let playbackDevice ← part.read 1 "wiedergabe_geraet" Datum.toText? default.playbackDevice
  let playbackDescription ←
    part.read 2 "wiedergabe_beschreibung" Datum.toText? default.playbackDescription
  let playbackChannels ← part.read 3 "wiedergabe_kanaele" Datum.toCount? default.playbackChannels
  let playbackRate ← part.read 4 "wiedergabe_abtastrate" Datum.toCount? default.playbackRate
  let recordingDevice ← part.read 5 "aufnahme_geraet" Datum.toText? default.recordingDevice
  let recordingDescription ←
    part.read 6 "aufnahme_beschreibung" Datum.toText? default.recordingDescription
  let recordingFifo ← part.read 7 "aufnahme_fifo" Datum.toOptionalText? default.recordingFifo
  let recordingFormat ← part.read 8 "aufnahme_format" Datum.toText? default.recordingFormat
  let recordingChannels ← part.read 9 "aufnahme_kanaele" Datum.toCount? default.recordingChannels
  let recordingRate ← part.read 10 "aufnahme_abtastrate" Datum.toCount? default.recordingRate
  return ⟨server, playbackDevice, playbackDescription, playbackChannels, playbackRate,
    recordingDevice, recordingDescription, recordingFifo, recordingFormat, recordingChannels,
    recordingRate⟩

def optional : Option String → Document
  | some value => .text value
  | none => .null

def document (preferences : Preferences) : Document :=
  .record [
    ("pulse_server", optional preferences.server),
    ("wiedergabe_geraet", .text preferences.playbackDevice),
    ("wiedergabe_beschreibung", .text preferences.playbackDescription),
    ("wiedergabe_kanaele", .number preferences.playbackChannels.toNat),
    ("wiedergabe_abtastrate", .number preferences.playbackRate.toNat),
    ("aufnahme_geraet", .text preferences.recordingDevice),
    ("aufnahme_beschreibung", .text preferences.recordingDescription),
    ("aufnahme_fifo", optional preferences.recordingFifo),
    ("aufnahme_format", .text preferences.recordingFormat),
    ("aufnahme_kanaele", .number preferences.recordingChannels.toNat),
    ("aufnahme_abtastrate", .number preferences.recordingRate.toNat)]

def serverFor (preferences : Preferences) (user : UInt32) : String :=
  preferences.server.getD s!"/run/user/{user}/pulse/native"

def fifoFor (preferences : Preferences) (user : UInt32) : String :=
  preferences.recordingFifo.getD s!"/run/user/{user}/pulse/mic.fifo"

/-- The device that repeats what the playback device plays. -/
def monitor (preferences : Preferences) : String :=
  preferences.playbackDevice ++ ".monitor"

end Preferences

end DesktopGateway.Sound
