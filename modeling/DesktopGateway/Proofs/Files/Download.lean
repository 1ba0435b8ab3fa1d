import DesktopGateway.Files.Download
import DesktopGateway.Proofs.Files.Confinement
import DesktopGateway.Proofs.Volume.Reading
import DesktopGateway.Proofs.Wire.Parcel

/-!
# Downloads that can be sent

Whatever was opened for sending has all the bytes that its size announces, and a name that is short
enough for a line. Only a newline in the name can keep it from being sent.
-/

namespace DesktopGateway.Files

open DesktopGateway.Text
open DesktopGateway.Wire

namespace Bundle

/-- A bundle is called after the directory, or `home` when the directory has no name. -/
theorem base_of_gather {volume : Volume} {place : Place} {bundle : Bundle}
    (packed : gather volume place.bytes = .ok bundle) :
    bundle.base = place.shownName ∨ bundle.base = "home" := by
  unfold gather at packed
  split at packed
  · cases packed
  · cases packed
    unfold Place.shownName
    cases (Volume.Route.ofBytes place.bytes).lastName? with
    | none => exact Or.inr rfl
    | some name => exact Or.inl rfl

end Bundle

namespace Download

/-- All the announced bytes are there, and the name is short enough. -/
structure IsComplete (download : Download) (volume : Volume) : Prop where
  content : (volume.read download.handle download.size).length = download.size
  name : (Utf8.encode download.name).length ≤ longestLine

theorem pack_eq_ok {site : Site} {volume packed : Volume} {path : List UInt8} {bundle : Bundle}
    (made : pack site volume path = .ok (bundle, packed)) :
    Bundle.gather volume path = .ok bundle := by
  unfold pack at made
  dsimp only at made
  split at made
  · cases made
  · split at made
    · cases made
    · rename_i collected
      cases made
      exact collected

/-- What is opened is a file below the home, or a bundle that was packed into a file. -/
theorem ofPlace_eq_ok {site : Site} {volume opened : Volume} {path : String} {place : Place}
    {download : Download} (found : ofPlace site volume path place = .ok (download, opened)) :
    place.bytes.length < Volume.pathLimit ∧
      (∃ source metadata, opened.openFile source = .ok download.handle ∧
        opened.metadata source = .ok metadata ∧ download.size = metadata.length) ∧
      (download.name = place.shownName ∨
        ∃ bundle, Bundle.gather volume place.bytes = .ok bundle ∧
          download.name = bundle.name) := by
  unfold ofPlace at found
  split at found
  · cases found
  · rename_i metadata looked
    refine ⟨Volume.length_lt_of_metadata looked, ?_⟩
    split at found
    · split at found
      · cases found
      · rename_i bundle packed made
        split at found
        · rename_i handle stored reopened measured
          cases found
          exact ⟨⟨_, stored, reopened, measured, rfl⟩, Or.inr ⟨bundle, pack_eq_ok made, rfl⟩⟩
        · cases found
        · cases found
    · split at found
      · cases found
      · rename_i handle direct
        cases found
        exact ⟨⟨_, metadata, direct, looked, rfl⟩, Or.inl rfl⟩

theorem ofPath_eq_ok {site : Site} {volume opened : Volume} {path : String} {download : Download}
    (found : ofPath site volume path = .ok (download, opened)) :
    ∃ place, site.resolve volume path = .ok place ∧
      ofPlace site volume path place = .ok (download, opened) := by
  unfold ofPath at found
  split at found
  · cases found
  · rename_i place resolved
    exact ⟨place, resolved, found⟩

theorem isComplete_of_ofPath {site : Site} {volume opened : Volume} {path : String}
    {download : Download} (found : ofPath site volume path = .ok (download, opened)) :
    download.IsComplete opened := by
  obtain ⟨place, _, placed⟩ := ofPath_eq_ok found
  obtain ⟨short, ⟨source, metadata, reopened, measured, sized⟩, named⟩ := ofPlace_eq_ok placed
  have shown : (Utf8.encode place.shownName).length < Volume.pathLimit :=
    Nat.lt_of_le_of_lt place.length_encode_shownName short
  constructor
  · rw [sized]
    exact Volume.length_read_of_metadata reopened measured
  · have room : Volume.pathLimit + (Utf8.encode ".tar.gz").length ≤ longestLine := by decide
    rcases named with direct | ⟨bundle, packed, called⟩
    · rw [direct]
      omega
    · rw [called, Bundle.name, Utf8.encode_append, List.length_append]
      rcases Bundle.base_of_gather packed with base | base
      · rw [base]
        omega
      · have home : (Utf8.encode "home").length < Volume.pathLimit := by decide
        rw [base]
        omega

/-- A newline in the name comes from the home's path or from the client's. -/
theorem newline_mem_of_ofPath {site : Site} {volume opened : Volume} {path : String}
    {download : Download} (found : ofPath site volume path = .ok (download, opened))
    (broken : '\n' ∈ download.name.toList) : '\n' ∈ site.home.toList ∨ '\n' ∈ path.toList := by
  obtain ⟨place, resolved, placed⟩ := ofPath_eq_ok found
  have shown (inside : '\n' ∈ place.shownName.toList) :
      '\n' ∈ site.home.toList ∨ '\n' ∈ path.toList :=
    Confinement.newline_mem_of_resolve resolved (Place.newline_mem_path inside)
  obtain ⟨_, _, named⟩ := ofPlace_eq_ok placed
  rcases named with direct | ⟨bundle, packed, called⟩
  · rw [direct] at broken
    exact shown broken
  · rw [called, Bundle.name, String.toList_append, List.mem_append] at broken
    rcases broken with front | closing
    · rcases Bundle.base_of_gather packed with base | base
      · rw [base] at front
        exact shown front
      · rw [base] at front
        exact absurd front (by decide)
    · exact absurd closing (by decide)

/-! ## The message -/

theorem isLine_contentType (contentType : ContentType) : Field.IsLine contentType.name := by
  rw [Field.isLine_iff]
  cases contentType <;> decide

/-- A complete download that a size can announce is sent, unless its name has a newline. -/
theorem encode_parcel_fault_iff {download : Download} {volume : Volume}
    (complete : download.IsComplete volume) (small : download.size ≤ largest) :
    (download.parcel volume).encode.fault = none ↔ '\n' ∉ download.name.toList := by
  have bound : download.size < 0x8000000000000000 := by
    unfold largest at small
    omega
  have announced : (Int64.ofNat download.size).toNatClampNeg = download.size :=
    Int64.toNatClampNeg_ofNat_of_lt bound
  have positive : 0 ≤ Int64.ofNat download.size := by
    rw [Int64.le_iff_toInt_le, Int64.toInt_ofNat_of_lt bound]
    exact Int.natCast_nonneg _
  have full : (download.parcel volume).sentContent.length =
      (download.parcel volume).contentSize := by
    simp only [Parcel.sentContent, parcel, Parcel.content?, Parcel.contentSize, announced,
      Option.getD_some, List.length_take, complete.content, Nat.min_self]
  rw [Parcel.encode_fault_eq_none_iff, and_iff_left full, parcel, Parcel.IsSendable,
    Field.isLine_iff]
  constructor
  · rintro ⟨_, ⟨plain, _⟩, _⟩
    exact plain
  · intro plain
    exact ⟨positive, ⟨plain, complete.name⟩, isLine_contentType _⟩

end Download

end DesktopGateway.Files
