import DesktopGateway.Settings.Basic

/-!
# The fields of the settings

All that can be set, as a table: the topic that a field belongs to, its place and key in the section
of the topic, and the kind of its values. The settings are just the values of all fields.
-/

namespace DesktopGateway.Settings

/-! ## Kinds -/

inductive Kind where
  | text
  | optionalText
  | port
  | count
  | boolean
  deriving DecidableEq, Repr

namespace Kind

@[reducible] def Carrier : Kind → Type
  | text => String
  | optionalText => Option String
  | port => UInt16
  | count => UInt32
  | boolean => Bool

def datum : (kind : Kind) → kind.Carrier → Datum
  | text, value => .text value
  | optionalText, some value => .text value
  | optionalText, none => .null
  | port, value => .integer value.toNat
  | count, value => .integer value.toNat
  | boolean, value => .boolean value

/-- The data that are of a kind and within its range. -/
def Fits : Kind → Datum → Prop
  | text, .text _ => True
  | optionalText, .text _ => True
  | optionalText, .null => True
  | port, .integer value => 0 ≤ value ∧ value ≤ 65535
  | count, .integer value => 0 ≤ value ∧ value ≤ 4294967295
  | boolean, .boolean _ => True
  | _, _ => False

def ofDatum? : (kind : Kind) → Datum → Option kind.Carrier
  | text => Datum.toText?
  | optionalText => Datum.toOptionalText?
  | port => Datum.toPort?
  | count => Datum.toCount?
  | boolean => Datum.toBoolean?

theorem toNat_port {number : Int} (bounds : 0 ≤ number ∧ number ≤ 65535) :
    ((UInt16.ofNat number.toNat).toNat : Int) = number := by
  rw [UInt16.toNat_ofNat_of_lt' (by simp only [UInt16.size]; omega)]
  omega

theorem toNat_count {number : Int} (bounds : 0 ≤ number ∧ number ≤ 4294967295) :
    ((UInt32.ofNat number.toNat).toNat : Int) = number := by
  rw [UInt32.toNat_ofNat_of_lt' (by simp only [UInt32.size]; omega)]
  omega

theorem toPort?_eq_some_iff (datum : Datum) (value : UInt16) :
    datum.toPort? = some value ↔ Datum.integer value.toNat = datum := by
  have small := value.toNat_lt
  cases datum with
  | integer number =>
      simp only [Datum.toPort?, Bool.and_eq_true, decide_eq_true_eq, Option.ite_none_right_eq_some,
        Option.some.injEq, Datum.integer.injEq]
      constructor
      · rintro ⟨bounds, rfl⟩
        exact toNat_port (by omega)
      · rintro rfl
        exact ⟨by omega, by simp⟩
  | _ => simp [Datum.toPort?]

theorem toCount?_eq_some_iff (datum : Datum) (value : UInt32) :
    datum.toCount? = some value ↔ Datum.integer value.toNat = datum := by
  have small := value.toNat_lt
  cases datum with
  | integer number =>
      simp only [Datum.toCount?, Bool.and_eq_true, decide_eq_true_eq, Option.ite_none_right_eq_some,
        Option.some.injEq, Datum.integer.injEq]
      constructor
      · rintro ⟨bounds, rfl⟩
        exact toNat_count (by omega)
      · rintro rfl
        exact ⟨by omega, by simp⟩
  | _ => simp [Datum.toCount?]

/-- What is read from a datum is the value that is written so. -/
theorem ofDatum?_eq_some_iff (kind : Kind) (datum : Datum) (value : kind.Carrier) :
    kind.ofDatum? datum = some value ↔ kind.datum value = datum := by
  cases kind with
  | text => cases datum <;> simp [ofDatum?, Datum.toText?, Kind.datum, eq_comm]
  | optionalText =>
      cases datum <;> cases value <;> simp [ofDatum?, Datum.toOptionalText?, Kind.datum, eq_comm]
  | port => exact toPort?_eq_some_iff datum value
  | count => exact toCount?_eq_some_iff datum value
  | boolean => cases datum <;> simp [ofDatum?, Datum.toBoolean?, Kind.datum, eq_comm]

/-- A datum fits exactly if it is how some value is written. -/
theorem fits_iff (kind : Kind) (datum : Datum) :
    kind.Fits datum ↔ ∃ value, kind.datum value = datum := by
  constructor
  · intro fits
    match kind, datum, fits with
    | text, .text value, _ => exact ⟨value, rfl⟩
    | optionalText, .text value, _ => exact ⟨some value, rfl⟩
    | optionalText, .null, _ => exact ⟨none, rfl⟩
    | port, .integer value, bounds =>
        exact ⟨UInt16.ofNat value.toNat, congrArg Datum.integer (toNat_port bounds)⟩
    | count, .integer value, bounds =>
        exact ⟨UInt32.ofNat value.toNat, congrArg Datum.integer (toNat_count bounds)⟩
    | boolean, .boolean value, _ => exact ⟨value, rfl⟩
  · rintro ⟨value, rfl⟩
    match kind, value with
    | text, _ => trivial
    | optionalText, some _ => trivial
    | optionalText, none => trivial
    | port, value =>
        have small := value.toNat_lt
        exact ⟨by omega, by omega⟩
    | count, value =>
        have small := value.toNat_lt
        exact ⟨by omega, by omega⟩
    | boolean, _ => trivial

end Kind

/-! ## Fields -/

inductive Topic where
  | network
  | trust
  | desktop
  | sound
  | logging
  | monitoring
  deriving DecidableEq, Repr

namespace Topic

def key : Topic → String
  | network => "netzwerk"
  | trust => "tls"
  | desktop => "desktop"
  | sound => "audio"
  | logging => "logging"
  | monitoring => "observability"

def place : Topic → Nat
  | network => 0
  | trust => 1
  | desktop => 2
  | sound => 3
  | logging => 4
  | monitoring => 5

end Topic

inductive Field where
  | address
  | port
  | authority
  | certificate
  | trustKey
  | display
  | home
  | user
  | soundDevices
  | server
  | playbackDevice
  | playbackDescription
  | playbackChannels
  | playbackRate
  | recordingDevice
  | recordingDescription
  | recordingFifo
  | recordingFormat
  | recordingChannels
  | recordingRate
  | logLevel
  | logFormat
  | monitored
  | monitoringPort
  deriving DecidableEq, Repr

/-- Where a field stands in its section, and what it holds. -/
structure Slot where
  topic : Topic
  place : Nat
  key : String
  kind : Kind
  deriving DecidableEq, Repr

namespace Field

def slot : Field → Slot
  | address => ⟨.network, 0, "bind_adresse", .text⟩
  | port => ⟨.network, 1, "port", .port⟩
  | authority => ⟨.trust, 0, "ca_zertifikat", .text⟩
  | certificate => ⟨.trust, 1, "zertifikat", .text⟩
  | trustKey => ⟨.trust, 2, "schluessel", .text⟩
  | display => ⟨.desktop, 0, "display_adresse", .text⟩
  | home => ⟨.desktop, 1, "home_verzeichnis", .text⟩
  | user => ⟨.desktop, 2, "benutzer_id", .count⟩
  | soundDevices => ⟨.desktop, 3, "audio_geraete", .boolean⟩
  | server => ⟨.sound, 0, "pulse_server", .optionalText⟩
  | playbackDevice => ⟨.sound, 1, "wiedergabe_geraet", .text⟩
  | playbackDescription => ⟨.sound, 2, "wiedergabe_beschreibung", .text⟩
  | playbackChannels => ⟨.sound, 3, "wiedergabe_kanaele", .count⟩
  | playbackRate => ⟨.sound, 4, "wiedergabe_abtastrate", .count⟩
  | recordingDevice => ⟨.sound, 5, "aufnahme_geraet", .text⟩
  | recordingDescription => ⟨.sound, 6, "aufnahme_beschreibung", .text⟩
  | recordingFifo => ⟨.sound, 7, "aufnahme_fifo", .optionalText⟩
  | recordingFormat => ⟨.sound, 8, "aufnahme_format", .text⟩
  | recordingChannels => ⟨.sound, 9, "aufnahme_kanaele", .count⟩
  | recordingRate => ⟨.sound, 10, "aufnahme_abtastrate", .count⟩
  | logLevel => ⟨.logging, 0, "level", .text⟩
  | logFormat => ⟨.logging, 1, "format", .text⟩
  | monitored => ⟨.monitoring, 0, "aktiviert", .boolean⟩
  | monitoringPort => ⟨.monitoring, 1, "port", .port⟩

@[reducible] def Carrier (field : Field) : Type :=
  field.slot.kind.Carrier

end Field

def value (settings : Settings) : (field : Field) → field.Carrier
  | .address => settings.network.address
  | .port => settings.network.port
  | .authority => settings.trust.authority
  | .certificate => settings.trust.certificate
  | .trustKey => settings.trust.key
  | .display => settings.desktop.display
  | .home => settings.desktop.home
  | .user => settings.desktop.user
  | .soundDevices => settings.desktop.soundDevices
  | .server => settings.sound.server
  | .playbackDevice => settings.sound.playbackDevice
  | .playbackDescription => settings.sound.playbackDescription
  | .playbackChannels => settings.sound.playbackChannels
  | .playbackRate => settings.sound.playbackRate
  | .recordingDevice => settings.sound.recordingDevice
  | .recordingDescription => settings.sound.recordingDescription
  | .recordingFifo => settings.sound.recordingFifo
  | .recordingFormat => settings.sound.recordingFormat
  | .recordingChannels => settings.sound.recordingChannels
  | .recordingRate => settings.sound.recordingRate
  | .logLevel => settings.logging.level
  | .logFormat => settings.logging.format
  | .monitored => settings.monitoring.enabled
  | .monitoringPort => settings.monitoring.port

def ofValues (values : (field : Field) → field.Carrier) : Settings where
  network := ⟨values .address, values .port⟩
  trust := ⟨values .authority, values .certificate, values .trustKey⟩
  desktop := ⟨values .display, values .home, values .user, values .soundDevices⟩
  sound := ⟨values .server, values .playbackDevice, values .playbackDescription,
    values .playbackChannels, values .playbackRate, values .recordingDevice,
    values .recordingDescription, values .recordingFifo, values .recordingFormat,
    values .recordingChannels, values .recordingRate⟩
  logging := ⟨values .logLevel, values .logFormat⟩
  monitoring := ⟨values .monitored, values .monitoringPort⟩

theorem value_ofValues (values : (field : Field) → field.Carrier) :
    (ofValues values).value = values := by
  funext field
  cases field <;> rfl

end DesktopGateway.Settings
