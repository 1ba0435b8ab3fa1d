import DesktopGateway.Settings.DisplayAddress
import DesktopGateway.Sound.Preferences

/-!
# Settings

Everything that can be set, in six sections with a default for each field.
-/

namespace DesktopGateway

open DesktopGateway.Text

namespace Settings

structure Network where
  address : String := "0.0.0.0"
  port : UInt16 := 8443
  deriving DecidableEq, Repr

structure TrustFiles where
  authority : String := "/etc/deskproxy/tls/ca.crt"
  certificate : String := "/etc/deskproxy/tls/tls.crt"
  key : String := "/etc/deskproxy/tls/tls.key"
  deriving DecidableEq, Repr

structure Desktop where
  display : String := "unix:///var/run/deskproxy/display.sock"
  home : String := "/home/deskproxy"
  user : UInt32 := 9000
  soundDevices : Bool := true
  deriving DecidableEq, Repr

structure Logging where
  level : String := "info"
  format : String := "text"
  deriving DecidableEq, Repr

structure Monitoring where
  enabled : Bool := false
  port : UInt16 := 9300
  deriving DecidableEq, Repr

end Settings

structure Settings where
  network : Settings.Network := {}
  trust : Settings.TrustFiles := {}
  desktop : Settings.Desktop := {}
  sound : Sound.Preferences := {}
  logging : Settings.Logging := {}
  monitoring : Settings.Monitoring := {}
  deriving DecidableEq, Repr

namespace Settings

def default : Settings := {}

def Network.ofSection (part : Section) : Except Misfit Network := do
  let address ← part.read 0 "bind_adresse" Datum.toText? default.network.address
  let port ← part.read 1 "port" Datum.toPort? default.network.port
  return ⟨address, port⟩

def TrustFiles.ofSection (part : Section) : Except Misfit TrustFiles := do
  let authority ← part.read 0 "ca_zertifikat" Datum.toText? default.trust.authority
  let certificate ← part.read 1 "zertifikat" Datum.toText? default.trust.certificate
  let key ← part.read 2 "schluessel" Datum.toText? default.trust.key
  return ⟨authority, certificate, key⟩

def Desktop.ofSection (part : Section) : Except Misfit Desktop := do
  let display ← part.read 0 "display_adresse" Datum.toText? default.desktop.display
  let home ← part.read 1 "home_verzeichnis" Datum.toText? default.desktop.home
  let user ← part.read 2 "benutzer_id" Datum.toCount? default.desktop.user
  let soundDevices ← part.read 3 "audio_geraete" Datum.toBoolean? default.desktop.soundDevices
  return ⟨display, home, user, soundDevices⟩

def Logging.ofSection (part : Section) : Except Misfit Logging := do
  let level ← part.read 0 "level" Datum.toText? default.logging.level
  let format ← part.read 1 "format" Datum.toText? default.logging.format
  return ⟨level, format⟩

def Monitoring.ofSection (part : Section) : Except Misfit Monitoring := do
  let enabled ← part.read 0 "aktiviert" Datum.toBoolean? default.monitoring.enabled
  let port ← part.read 1 "port" Datum.toPort? default.monitoring.port
  return ⟨enabled, port⟩

def ofSection (part : Section) : Except Misfit Settings := do
  let network ← part.readSection 0 "netzwerk" Network.ofSection default.network
  let trust ← part.readSection 1 "tls" TrustFiles.ofSection default.trust
  let desktop ← part.readSection 2 "desktop" Desktop.ofSection default.desktop
  let sound ← part.readSection 3 "audio" Sound.Preferences.ofSection default.sound
  let logging ← part.readSection 4 "logging" Logging.ofSection default.logging
  let monitoring ← part.readSection 5 "observability" Monitoring.ofSection default.monitoring
  return ⟨network, trust, desktop, sound, logging, monitoring⟩

def document (settings : Settings) : Document :=
  .record [
    ("netzwerk", .record [("bind_adresse", .text settings.network.address),
      ("port", .number settings.network.port.toNat)]),
    ("tls", .record [("ca_zertifikat", .text settings.trust.authority),
      ("zertifikat", .text settings.trust.certificate),
      ("schluessel", .text settings.trust.key)]),
    ("desktop", .record [("display_adresse", .text settings.desktop.display),
      ("home_verzeichnis", .text settings.desktop.home),
      ("benutzer_id", .number settings.desktop.user.toNat),
      ("audio_geraete", .boolean settings.desktop.soundDevices)]),
    ("audio", settings.sound.document),
    ("logging", .record [("level", .text settings.logging.level),
      ("format", .text settings.logging.format)]),
    ("observability", .record [("aktiviert", .boolean settings.monitoring.enabled),
      ("port", .number settings.monitoring.port.toNat)])]

def listenAddress (settings : Settings) : String :=
  s!"{settings.network.address}:{settings.network.port}"

def monitoringAddress (settings : Settings) : String :=
  s!"{settings.network.address}:{settings.monitoring.port}"

def displayAddress (settings : Settings) : Except AddressFault DisplayAddress :=
  DisplayAddress.parse settings.desktop.display

end Settings

end DesktopGateway
