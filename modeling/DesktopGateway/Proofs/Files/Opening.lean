import DesktopGateway.Proofs.Files.LexicalPath
import DesktopGateway.Proofs.Files.Placement
import DesktopGateway.Proofs.Files.Response
import DesktopGateway.Proofs.Volume.Contents

/-!
# Opening a file for sending

A path that leads to a file, directly or through links, is opened with the whole content of the file
and under the last name of the path. The home itself is no file, and no name of a path that fits on
a line has a newline, so that nothing keeps such a file from being sent but a size that no header
can announce.
-/

namespace DesktopGateway.Volume

/-- A path to a file is no path to a directory, and shows the length of the file. -/
theorem ReadsAs.metadata {volume : Volume} {path bytes : List UInt8}
    (reads : volume.ReadsAs path bytes) :
    ∃ owner, volume.metadata path = .ok ⟨false, bytes.length, owner⟩ := by
  obtain ⟨number, opens, all⟩ := reads
  obtain ⟨place, found⟩ := openFile_eq_file_iff.mp opens
  have entry : volume.findEntry true path = .ok (place, .file number) :=
    findEntry_eq_ok_iff.mpr found
  have looked : volume.metadata path =
      .ok ⟨false, volume.nodeLength (.file number), volume.nodeOwner (.file number)⟩ := by
    rw [Volume.metadata, entry]
    rfl
  have length := length_read_of_metadata opens looked
  have whole := congrArg List.length (all bytes.length)
  rw [all, List.length_take] at length
  dsimp only at length
  rw [List.take_length, Volume.read, Content.length_take, ← nodeLength_file] at whole
  have same : volume.nodeLength (.file number) = bytes.length := by omega
  exact ⟨_, by rw [looked, same]⟩

theorem ReadsAs.not_directory {volume : Volume} {path bytes : List UInt8}
    (reads : volume.ReadsAs path bytes) {location : Location} :
    volume.directory path ≠ .ok location := by
  intro found
  obtain ⟨owner, looked⟩ := reads.metadata
  have directory := isDirectory_eq_true_iff.mpr ⟨location, found⟩
  rw [isDirectory, looked] at directory
  cases directory

end DesktopGateway.Volume

namespace DesktopGateway.Files

open DesktopGateway.Link
open DesktopGateway.Serving
open DesktopGateway.Text
open DesktopGateway.Wire

variable {site : Site} {volume : Volume} {path : String} {place : Place} {content : List UInt8}

/-- The names of a place that a path is resolved to could be those of entries. -/
theorem plain_of_resolve (resolved : site.resolve volume path = .ok place) :
    ∀ name ∈ place.below, IsName name := by
  obtain ⟨-, names⟩ := Confinement.resolve_eq_ok resolved
  obtain ⟨-, same⟩ := (Confinement.names?_eq_some_iff path place.below).mp names
  intro name listed
  rw [same] at listed
  exact Confinement.isName_of_mem_stack listed

/-- A place that is a file is called by the last of its names. -/
theorem named_of_file (resolved : site.resolve volume path = .ok place)
    (reads : volume.ReadsAs place.bytes content) :
    ∃ above, place.below = above ++ [place.shownName] := by
  rcases List.eq_nil_or_concat place.below with none | ⟨above, last, split⟩
  · -- the home is a directory
    obtain ⟨root, home⟩ := home_of_resolve resolved
    have own : place.bytes = Utf8.encode site.home := by
      rw [Place.bytes, Place.path, none, (Confinement.resolve_eq_ok resolved).1]
      rfl
    rw [own] at reads
    exact absurd home reads.not_directory
  · rw [List.concat_eq_append] at split
    have inner : place.below ≠ [] := by simp [split]
    exact ⟨above, by rw [Place.shownName_eq inner (plain_of_resolve resolved) split, split]⟩

theorem newline_not_mem_shownName (resolved : site.resolve volume path = .ok place)
    (reads : volume.ReadsAs place.bytes content) (line : Field.IsLine path) :
    '\n' ∉ place.shownName.toList := by
  intro inside
  obtain ⟨above, split⟩ := named_of_file resolved reads
  obtain ⟨-, names⟩ := Confinement.resolve_eq_ok resolved
  have listed : place.shownName ∈ place.below := by
    rw [split]
    simp
  have member := (Parts.sublist_of_mem (Confinement.mem_parts_of_names? names listed)).subset inside
  exact ((Field.isLine_iff path).mp line).1 member

/-- What is opened for a path to a file. -/
theorem ofPath_of_file (resolved : site.resolve volume path = .ok place)
    (reads : volume.ReadsAs place.bytes content) :
    ∃ number, (∀ count, volume.read (.file number) count = content.take count) ∧
      Download.ofPath site volume path =
        .ok (⟨place.shownName, .file number, content.length, none⟩, volume) := by
  obtain ⟨owner, looked⟩ := reads.metadata
  obtain ⟨number, opens, all⟩ := reads
  refine ⟨number, all, ?_⟩
  rw [Download.ofPath, resolved]
  dsimp only
  rw [Download.ofPlace, looked, opens]
  rfl

end DesktopGateway.Files
