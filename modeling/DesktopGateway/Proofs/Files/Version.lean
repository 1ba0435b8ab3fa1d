import DesktopGateway.Proofs.Files.Opening
import DesktopGateway.Proofs.Files.StoredUpload
import DesktopGateway.Proofs.Volume.Naming
import Mathlib.Logic.Relation

/-!
# Versions of an uploaded file

Until an upload opens its file, the name shows what was there before, or nothing. Opening empties
the file; from then on it has the front of the new content that has been written so far, under its
name or, when the upload has failed and removed it, without one.
-/

namespace DesktopGateway.Files

open DesktopGateway.Text

/-- The front of one content and, from where that stops, a piece of another. -/
def Mixes (before after bytes : List UInt8) : Prop :=
  ∃ front back, bytes = front ++ back ∧ front <+: before ∧ back <+: after.drop front.length

theorem prefix_append_of_drop {front more bytes : List UInt8} (leads : front <+: bytes)
    (further : more <+: bytes.drop front.length) : front ++ more <+: bytes := by
  obtain ⟨rest, rfl⟩ := leads
  rw [List.drop_left] at further
  exact (List.prefix_append_right_inj front).mpr further

theorem Mixes.append {before after bytes more : List UInt8} (mixes : Mixes before after bytes)
    (further : more <+: after.drop bytes.length) : Mixes before after (bytes ++ more) := by
  obtain ⟨front, back, rfl, old, new⟩ := mixes
  rw [List.length_append, ← List.drop_drop] at further
  exact ⟨front, back ++ more, List.append_assoc .., old, prefix_append_of_drop new further⟩

/-- What the path of an upload shows: nothing, the file from before, or the file that the upload has
opened and put so many bytes into. The last remembers what it has replaced, and how many bytes there
were at least when somebody first looked. -/
inductive Version where
  | missing
  | former (number : Nat) (before : List UInt8)
  | new (number : Nat) (origin : Option (List UInt8)) (least written : Nat)

namespace Version

def number? : Version → Option Nat
  | missing => none
  | former number _ | new number _ _ _ => some number

/-- What was there before the upload, as far as it is remembered. -/
def origin? : Version → Option (List UInt8)
  | missing => none
  | former _ before => some before
  | new _ origin _ _ => origin

def bytes (content : List UInt8) : Version → List UInt8
  | missing => []
  | former _ before => before
  | new _ _ _ written => content.take written

def IsEarly : Version → Prop
  | missing | former _ _ => True
  | new .. => False

/-- How one step of an upload changes the version. -/
inductive Grows : Version → Version → Prop where
  | same (version : Version) : Grows version version
  | made (number : Nat) : Grows missing (new number none 0 0)
  | emptied (number : Nat) (before : List UInt8) :
      Grows (former number before) (new number (some before) 0 0)
  | written (number : Nat) (origin : Option (List UInt8)) (least written more : Nat) :
      Grows (new number origin least written) (new number origin least (written + more))

theorem Grows.number? {version next : Version} (grows : version.Grows next) {number : Nat}
    (numbered : version.number? = some number) : next.number? = some number := by
  cases grows with
  | same => exact numbered
  | made number => cases numbered
  | emptied number before => exact numbered
  | written number origin least written more => exact numbered

theorem Grows.origin? {version next : Version} (grows : version.Grows next) :
    next.origin? = version.origin? := by
  cases grows <;> rfl

theorem origin?_of_steps {version next : Version}
    (steps : Relation.ReflTransGen Grows version next) : next.origin? = version.origin? := by
  induction steps with
  | refl => rfl
  | tail _ grows ih => exact grows.origin?.trans ih

/-- A file that has been opened is only filled further. -/
theorem new_of_steps {number least written : Nat} {origin : Option (List UInt8)} {next : Version}
    (steps : Relation.ReflTransGen Grows (new number origin least written) next) :
    ∃ further, next = new number origin least further := by
  induction steps with
  | refl => exact ⟨written, rfl⟩
  | tail _ grows ih =>
      obtain ⟨further, rfl⟩ := ih
      cases grows with
      | same => exact ⟨further, rfl⟩
      | written _ _ _ _ more => exact ⟨further + more, rfl⟩

/-- What somebody can have read who met a version and those before it, and took this size at the
beginning. -/
inductive Story (content : List UInt8) : Version → (size : Nat) → List UInt8 → Prop where
  | former {number : Nat} {before bytes : List UInt8} (front : bytes <+: before) :
      Story content (former number before) before.length bytes
  | mixed {number least written : Nat} {before bytes : List UInt8}
      (mixes : Mixes before content bytes) :
      Story content (new number (some before) least written) before.length bytes
  | new {number least written size : Nat} {origin : Option (List UInt8)} {bytes : List UInt8}
      (late : least ≤ size) (early : size ≤ written) (front : bytes <+: content) :
      Story content (new number origin least written) size bytes

namespace Story

variable {content bytes : List UInt8} {version next : Version} {size : Nat}

theorem grows (story : Story content version size bytes) (grows : version.Grows next) :
    Story content next size bytes := by
  cases grows with
  | same => exact story
  | made number => cases story
  | emptied number before =>
      cases story with
      | former front =>
          exact .mixed ⟨bytes, [], (List.append_nil _).symm, front, List.nil_prefix⟩
  | written number origin least written more =>
      cases story with
      | mixed mixes => exact .mixed mixes
      | new late early front => exact .new late (Nat.le_add_right_of_le early) front

/-- Reading on gives what the version has behind the place where the reading has come to. -/
theorem read (story : Story content version size bytes) {more : List UInt8}
    (further : more <+: (version.bytes content).drop bytes.length) :
    Story content version size (bytes ++ more) := by
  cases story with
  | former front => exact .former (prefix_append_of_drop front further)
  | mixed mixes =>
      rw [Version.bytes, List.drop_take] at further
      exact .mixed (mixes.append (further.trans (List.take_prefix ..)))
  | new late early front =>
      rw [Version.bytes, List.drop_take] at further
      exact .new late early (prefix_append_of_drop front (further.trans (List.take_prefix ..)))

/-- Who has read as many bytes as the size was has read one version, or the front of one and then
pieces of the next. -/
theorem whole (story : Story content version bytes.length bytes) :
    (∃ before, version.origin? = some before ∧ bytes.length = before.length ∧
      Mixes before content bytes) ∨ bytes <+: content := by
  generalize length : bytes.length = size at story
  cases story with
  | @former number before _ front =>
      exact .inl ⟨before, rfl, rfl, bytes, [], (List.append_nil _).symm, front, List.nil_prefix⟩
  | @mixed number least written before _ mixes => exact .inl ⟨before, rfl, rfl, mixes⟩
  | new late early front => exact .inr front

theorem whole_of_early (early : version.IsEarly)
    (story : Story content version bytes.length bytes) : version.origin? = some bytes := by
  generalize length : bytes.length = size at story
  cases story with
  | former front => rw [front.eq_of_length length, origin?]
  | mixed => cases early
  | new => cases early

theorem whole_of_late {number written : Nat}
    (story : Story content (.new number none content.length written) bytes.length bytes) :
    bytes = content := by
  cases story with
  | new late early front => exact front.eq_of_length_le late

end Story

/-! ## What a volume shows -/

/-- The path of an upload leads nowhere, in a volume that has its home and is in order. -/
structure IsFree (site : Site) (safe : String) (volume : Volume) : Prop where
  rooted : volume.Rooted
  home : ∃ root, volume.directory (Utf8.encode site.home) = .ok root
  free : ∀ entry, volume.findEntry true (Upload.targetPlace site safe).bytes ≠ .ok entry

/-- In a volume, a path of a download and the path of an upload lead to this version. -/
inductive Shown (site : Site) (safe : String) (content path : List UInt8) (volume : Volume) :
    Version → Prop where
  | missing (same : path = (Upload.targetPlace site safe).bytes) (free : IsFree site safe volume) :
      Shown site safe content path volume .missing
  | former {number : Nat} {before : List UInt8}
      (opens : volume.openFile path = .ok (.file number))
      (shared : volume.openFile (Upload.targetPlace site safe).bytes = .ok (.file number))
      (reads : ∀ count, volume.read (.file number) count = before.take count) :
      Shown site safe content path volume (.former number before)
  | new {number least written : Nat} {origin : Option (List UInt8)}
      (leads : volume.LeadsTo path number)
      (shared : volume.LeadsTo (Upload.targetPlace site safe).bytes number)
      (holds : volume.Holds number (content.take written)) (late : least ≤ written)
      (within : written ≤ content.length) :
      Shown site safe content path volume (.new number origin least written)

namespace Shown

variable {site : Site} {safe : String} {content path : List UInt8} {volume : Volume}
  {version : Version} (shown : Shown site safe content path volume version)

include shown

/-- Who takes the size now has begun to read this version. -/
theorem metadata {metadata : Volume.Metadata} (looked : volume.metadata path = .ok metadata) :
    metadata.isDirectory = false ∧ Story content version metadata.length [] := by
  cases shown with
  | missing same free =>
      obtain ⟨location, node, found, -⟩ := Volume.findEntry_of_metadata looked
      rw [same] at found
      exact absurd found (free.free _)
  | former opens shared reads =>
      obtain ⟨owner, there⟩ := Volume.ReadsAs.metadata ⟨_, opens, reads⟩
      rw [there] at looked
      cases looked
      exact ⟨rfl, .former List.nil_prefix⟩
  | @new number least written origin leads shared holds late within =>
      obtain ⟨plain, length⟩ := leads.metadata looked
      have size : metadata.length = written := by
        rw [length, holds.contentOf, ← Volume.Content.length_toList]
        simp [Volume.Content.toList, Volume.Content.ofBytes, within]
      exact ⟨plain, .new (by omega) (by omega) List.nil_prefix⟩

/-- Who opens the path now gets the file of this version. -/
theorem openFile {handle : Volume.Handle} (opened : volume.openFile path = .ok handle) :
    ∃ number, version.number? = some number ∧ handle = .file number := by
  cases shown with
  | missing same free =>
      unfold Volume.openFile at opened
      rw [same] at opened
      cases found : volume.findEntry true (Upload.targetPlace site safe).bytes with
      | error failure =>
          rw [found] at opened
          cases opened
      | ok entry => exact absurd found (free.free entry)
  | former opens shared reads =>
      rw [opens] at opened
      cases opened
      exact ⟨_, rfl, rfl⟩
  | new leads shared holds late within => exact ⟨_, rfl, leads.handle opened⟩

theorem read {number : Nat} (numbered : version.number? = some number) (count : Nat) :
    volume.read (.file number) count = (version.bytes content).take count := by
  cases shown with
  | missing same free => cases numbered
  | former opens shared reads =>
      cases numbered
      exact reads count
  | new leads shared holds late within =>
      cases numbered
      exact holds.read count

end Shown

end Version

end DesktopGateway.Files
