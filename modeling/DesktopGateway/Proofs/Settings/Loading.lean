import DesktopGateway.Proofs.Settings.Fields
import DesktopGateway.Proofs.Wire.Field
import DesktopGateway.Settings.File
import Mathlib.Tactic.Simproc.ExistsAndEq

/-!
# Loading the settings

The settings in a file are found exactly if each field that the file gives a datum for can hold it.
Then these fields hold what is given and all others their defaults, whatever else the file says.
-/

namespace DesktopGateway.Settings

open DesktopGateway.Wire (bind_eq_ok_iff)

/-! ## Sections -/

namespace Section

/-- The section of a topic. One that is missing is empty. -/
def inner? (root : Section) (topic : Topic) : Option Section :=
  match root.find? topic.place topic.key with
  | none => some (.named [])
  | some datum => datum.toSection?

theorem readSection_eq_ok_iff {α : Type} {ofSection : Section → Except Misfit α} {default : α}
    (empty : ofSection (.named []) = .ok default) (root : Section) (topic : Topic) (result : α) :
    root.readSection topic.place topic.key ofSection default = .ok result ↔
      ∃ inner, root.inner? topic = some inner ∧ ofSection inner = .ok result := by
  unfold readSection inner?
  cases root.find? topic.place topic.key with
  | none => simp [empty]
  | some datum => cases toSection : datum.toSection? <;> simp [toSection]

theorem read_eq_ok_iff {α : Type} (part : Section) (place : Nat) (key : String)
    (ofDatum? : Datum → Option α) (default result : α) :
    part.read place key ofDatum? default = .ok result ↔
      match part.find? place key with
      | none => result = default
      | some datum => ofDatum? datum = some result := by
  unfold read
  cases part.find? place key with
  | none => simp [eq_comm]
  | some datum => cases found : ofDatum? datum <;> simp [found]

end Section

def Field.readIn (field : Field) (part : Section) : Except Misfit field.Carrier :=
  part.read field.slot.place field.slot.key field.slot.kind.ofDatum? (default.value field)

def Topic.fields : Topic → List Field
  | network => [.address, .port]
  | trust => [.authority, .certificate, .trustKey]
  | desktop => [.display, .home, .user, .soundDevices]
  | sound => [.server, .playbackDevice, .playbackDescription, .playbackChannels, .playbackRate,
      .recordingDevice, .recordingDescription, .recordingFifo, .recordingFormat, .recordingChannels,
      .recordingRate]
  | logging => [.logLevel, .logFormat]
  | monitoring => [.monitored, .monitoringPort]

theorem Field.mem_fields_iff (field : Field) (topic : Topic) :
    field ∈ topic.fields ↔ field.slot.topic = topic := by
  cases field <;> cases topic <;> decide

def Section.Tells (part : Section) (topic : Topic) (settings : Settings) : Prop :=
  ∀ field ∈ topic.fields, field.readIn part = .ok (settings.value field)

/-! ## Topics -/

@[reducible] def Topic.Part : Topic → Type
  | network => Network
  | trust => TrustFiles
  | desktop => Desktop
  | sound => Sound.Preferences
  | logging => Logging
  | monitoring => Monitoring

def part (settings : Settings) : (topic : Topic) → topic.Part
  | .network => settings.network
  | .trust => settings.trust
  | .desktop => settings.desktop
  | .sound => settings.sound
  | .logging => settings.logging
  | .monitoring => settings.monitoring

namespace Topic

def ofSection : (topic : Topic) → Section → Except Misfit topic.Part
  | network => Network.ofSection
  | trust => TrustFiles.ofSection
  | desktop => Desktop.ofSection
  | sound => Sound.Preferences.ofSection
  | logging => Logging.ofSection
  | monitoring => Monitoring.ofSection

def readIn (topic : Topic) (root : Section) : Except Misfit topic.Part :=
  root.readSection topic.place topic.key topic.ofSection (default.part topic)

theorem ofSection_empty (topic : Topic) :
    topic.ofSection (.named []) = .ok (default.part topic) := by
  cases topic <;> rfl

/-- A section is read field by field, so it gives just the values that it tells. -/
theorem ofSection_eq_ok_iff (topic : Topic) (inner : Section) (settings : Settings) :
    topic.ofSection inner = .ok (settings.part topic) ↔ inner.Tells topic settings := by
  obtain ⟨⟨⟩, ⟨⟩, ⟨⟩, ⟨⟩, ⟨⟩, ⟨⟩⟩ := settings
  -- The reads of each topic are those of its fields; the record at their end is taken apart.
  cases topic <;>
    simp only [ofSection, Settings.part, Network.ofSection, TrustFiles.ofSection,
      Desktop.ofSection, Sound.Preferences.ofSection, Logging.ofSection, Monitoring.ofSection,
      bind_eq_ok_iff, pure, Except.pure, Except.ok.injEq, Network.mk.injEq, TrustFiles.mk.injEq,
      Desktop.mk.injEq, Sound.Preferences.mk.injEq, Logging.mk.injEq, Monitoring.mk.injEq,
      existsAndEq, Section.Tells, fields, List.forall_mem_cons, List.not_mem_nil, false_imp_iff,
      implies_true, and_true] <;>
    exact Iff.rfl

theorem readIn_eq_ok_iff (topic : Topic) (root : Section) (settings : Settings) :
    topic.readIn root = .ok (settings.part topic) ↔
      ∃ inner, root.inner? topic = some inner ∧ inner.Tells topic settings := by
  simp only [readIn, Section.readSection_eq_ok_iff topic.ofSection_empty, ofSection_eq_ok_iff]

end Topic

/-- Settings come from a document exactly if they are what its sections say, topic by topic. -/
theorem ofSection_eq_ok_iff (root : Section) (settings : Settings) :
    ofSection root = .ok settings ↔
      ∀ topic, ∃ inner, root.inner? topic = some inner ∧ inner.Tells topic settings := by
  have chained : ofSection root = .ok settings ↔
      ∀ topic : Topic, topic.readIn root = .ok (settings.part topic) := by
    simp only [ofSection, bind_eq_ok_iff]
    constructor
    · rintro ⟨_, network, _, trust, _, desktop, _, sound, _, logging, _, monitoring, same⟩ topic
      cases same
      cases topic <;> assumption
    · intro reads
      exact ⟨_, reads .network, _, reads .trust, _, reads .desktop, _, reads .sound, _,
        reads .logging, _, reads .monitoring, rfl⟩
  simp only [chained, Topic.readIn_eq_ok_iff]

/-! ## Documents -/

/-- What can stand for a section: a table with the fields by name, a list with the fields by place,
and a moment, which has none. -/
def Datum.IsSection : Datum → Prop
  | table _ => True
  | list _ => True
  | moment _ => True
  | _ => False

/-- The datum that a document gives for a field. -/
def given? (entries : List (String × Datum)) (field : Field) : Option Datum :=
  match entries.lookup field.slot.topic.key with
  | some (.table inner) => inner.lookup field.slot.key
  | some (.list items) => items[field.slot.place]?
  | _ => none

theorem exists_inner?_iff (entries : List (String × Datum)) (topic : Topic) :
    (∃ inner, (Section.named entries).inner? topic = some inner) ↔
      ∀ datum, entries.lookup topic.key = some datum → datum.IsSection := by
  rw [Section.inner?, Section.find?]
  cases entries.lookup topic.key with
  | none => simp
  | some datum => cases datum <;> simp [Datum.toSection?, Datum.IsSection]

theorem find?_of_inner? {entries : List (String × Datum)} {field : Field} {inner : Section}
    (found : (Section.named entries).inner? field.slot.topic = some inner) :
    inner.find? field.slot.place field.slot.key = given? entries field := by
  rw [Section.inner?, Section.find?] at found
  unfold given?
  cases outer : entries.lookup field.slot.topic.key with
  | none =>
      rw [outer] at found
      cases found
      rfl
  | some datum =>
      rw [outer] at found
      cases datum <;> cases found <;> rfl

/-- A value is merged from a document and the defaults: it is the given one, or else the default. -/
def Merged (entries : List (String × Datum)) (field : Field) (value : field.Carrier) : Prop :=
  match given? entries field with
  | some datum => field.slot.kind.datum value = datum
  | none => value = default.value field

theorem readIn_eq_ok_iff {entries : List (String × Datum)} {field : Field} {inner : Section}
    (found : (Section.named entries).inner? field.slot.topic = some inner)
    (value : field.Carrier) :
    field.readIn inner = .ok value ↔ Merged entries field value := by
  rw [Field.readIn, Section.read_eq_ok_iff, find?_of_inner? found, Merged]
  cases given? entries field with
  | none => exact Iff.rfl
  | some datum => exact Kind.ofDatum?_eq_some_iff _ datum value

theorem exists_merged_iff (entries : List (String × Datum)) (field : Field) :
    (∃ value, Merged entries field value) ↔
      ∀ datum, given? entries field = some datum → field.slot.kind.Fits datum := by
  unfold Merged
  cases given? entries field with
  | none => simp
  | some datum => simp [Kind.fits_iff]

theorem ofSection_named_eq_ok_iff (entries : List (String × Datum)) (settings : Settings) :
    ofSection (.named entries) = .ok settings ↔
      (∀ topic : Topic, ∀ datum, entries.lookup topic.key = some datum → datum.IsSection) ∧
        ∀ field, Merged entries field (settings.value field) := by
  rw [ofSection_eq_ok_iff]
  constructor
  · intro tells
    refine ⟨fun topic => (exists_inner?_iff entries topic).mp ?_, fun field => ?_⟩
    · obtain ⟨inner, found, -⟩ := tells topic
      exact ⟨inner, found⟩
    · obtain ⟨inner, found, said⟩ := tells field.slot.topic
      exact (readIn_eq_ok_iff found _).mp (said field ((field.mem_fields_iff _).mpr rfl))
  · rintro ⟨shaped, merged⟩ topic
    obtain ⟨inner, found⟩ := (exists_inner?_iff entries topic).mpr (shaped topic)
    refine ⟨inner, found, fun field member => ?_⟩
    rw [← (field.mem_fields_iff topic).mp member] at found
    exact (readIn_eq_ok_iff found _).mpr (merged field)

/-- Settings come from a document exactly if all that it gives fits. -/
theorem exists_ofSection_named_iff (entries : List (String × Datum)) :
    (∃ settings, ofSection (.named entries) = .ok settings) ↔
      (∀ topic : Topic, ∀ datum, entries.lookup topic.key = some datum → datum.IsSection) ∧
        ∀ field datum, given? entries field = some datum → field.slot.kind.Fits datum := by
  simp only [ofSection_named_eq_ok_iff, ← exists_merged_iff]
  constructor
  · rintro ⟨settings, shaped, merged⟩
    exact ⟨shaped, fun field => ⟨_, merged field⟩⟩
  · rintro ⟨shaped, fitting⟩
    obtain ⟨values, merged⟩ := Classical.axiomOfChoice fitting
    refine ⟨ofValues values, shaped, ?_⟩
    rw [value_ofValues]
    exact merged

/-! ## Files -/

theorem load_of_text {readText : String → Except Host.Failure String} {path text : String}
    (read : readText path = .ok text) : load readText path = ofText path text := by
  rw [load, read]

theorem ofText_of_entries {text : String} {entries : List (String × Datum)}
    (parsed : Toml.Document.entries? text = some entries) (path : String) (settings : Settings) :
    ofText path text = .ok settings ↔ ofSection (.named entries) = .ok settings := by
  rw [ofText, parsed]
  exact Wire.mapError_eq_ok_iff ..

/-- Loading the settings from a file:
* A missing file gives the defaults, as an empty one does. Any other failure to read is an error.
* A text that is no document is an error.
* A document gives settings exactly if each section that is there has the shape of a section and
  each datum that is given for a field fits its kind. Then every field has the value that is given
  for it, or else its default. -/
theorem load_exact (readText : String → Except Host.Failure String) (path : String) :
    (∀ failure, readText path = .error failure →
      (failure.kind = .notFound → load readText path = .ok default) ∧
        (failure.kind ≠ .notFound → load readText path = .error (.unreadable path failure))) ∧
      load (fun _ => .ok "") path = .ok default ∧
      ∀ text, readText path = .ok text →
        (Toml.Document.entries? text = none → load readText path = .error (.malformed path)) ∧
          ∀ entries, Toml.Document.entries? text = some entries →
            ((∃ settings, load readText path = .ok settings) ↔
              (∀ topic : Topic, ∀ datum,
                entries.lookup topic.key = some datum → datum.IsSection) ∧
                ∀ field datum, given? entries field = some datum → field.slot.kind.Fits datum) ∧
              ∀ settings, load readText path = .ok settings →
                ∀ field, Merged entries field (settings.value field) := by
  refine ⟨?_, rfl, ?_⟩
  · intro failure refused
    rw [load, refused]
    exact ⟨fun missing => if_pos missing, fun other => if_neg other⟩
  · intro text read
    rw [load_of_text read]
    refine ⟨fun malformed => by rw [ofText, malformed], fun entries parsed => ⟨?_, ?_⟩⟩
    · simp only [ofText_of_entries parsed]
      exact exists_ofSection_named_iff entries
    · intro settings loaded
      exact ((ofSection_named_eq_ok_iff entries settings).mp
        ((ofText_of_entries parsed path settings).mp loaded)).2

/-- A list of just this text and this number. Equality of data in general cannot be computed. -/
def Datum.isPair (address : String) (port : Int) : Datum → Bool
  | list [.text first, .integer second] => first == address && second == port
  | _ => false

theorem Datum.eq_of_isPair {address : String} {port : Int} {datum : Datum}
    (pair : datum.isPair address port = true) : datum = .list [.text address, .integer port] := by
  unfold isPair at pair
  split at pair
  · rw [Bool.and_eq_true, beq_iff_eq, beq_iff_eq] at pair
    rw [pair.1, pair.2]
  · cases pair

/-- A list can stand for a section and fills its fields by their places. So there can be settings
with other values than the defaults though no section has a key. -/
theorem list_fills_fields :
    let text := "netzwerk = [\"1.2.3.4\", 80]\n"
    let entries := [("netzwerk", Datum.list [.text "1.2.3.4", .integer 80])]
    let settings : Settings := { network := ⟨"1.2.3.4", 80⟩ }
    Toml.Document.entries? text = some entries ∧
      (∀ topic : Topic, ∀ inner, entries.lookup topic.key ≠ some (.table inner)) ∧
      load (fun _ => .ok text) "config.toml" = .ok settings ∧
      settings.value .address ≠ default.value .address ∧
      settings.value .port ≠ default.value .port := by
  intro text entries settings
  have parsed : Toml.Document.entries? text = some entries := by
    have shaped : (Toml.Document.entries? text).map (·.map fun entry =>
        (entry.1, entry.2.isPair "1.2.3.4" 80)) = some [("netzwerk", true)] := by decide +kernel
    obtain ⟨found, parsed, shape⟩ := Option.map_eq_some_iff.mp shaped
    obtain ⟨⟨key, datum⟩, rest, rfl, same, none⟩ := List.map_eq_cons_iff.mp shape
    obtain ⟨rfl, pair⟩ := Prod.mk.inj same
    obtain rfl : datum = _ := Datum.eq_of_isPair pair
    rw [parsed, List.map_eq_nil_iff.mp none]
  have loaded : load (fun _ => .ok text) "config.toml" = .ok settings := by
    show ofText "config.toml" text = .ok settings
    rw [ofText, parsed]
    rfl
  refine ⟨parsed, ?_, loaded, ?_, ?_⟩
  · intro topic inner
    cases topic <;> simp [entries, Topic.key, List.lookup_cons]
  · show "1.2.3.4" ≠ "0.0.0.0"
    decide
  · show (80 : UInt16) ≠ 8443
    decide

end DesktopGateway.Settings
