import DesktopGateway.Proofs.Volume.Operations

/-!
# Looking at files and reading them

A path that leads somewhere is not too long for a system call, and an open file has as many bytes
as a look at its path says.
-/

namespace DesktopGateway.Volume

namespace Content

theorem length_take (content : Content) (count : Nat) :
    (content.take count).length = min count content.length := by
  rw [take_eq, List.length_take, length_toList]

end Content

theorem length_lt_of_findEntry {volume : Volume} {follow : Bool} {path : List UInt8}
    {entry : Location × Node} (found : volume.findEntry follow path = .ok entry) :
    path.length < pathLimit := by
  obtain ⟨location, node⟩ := entry
  have usable := (find_eq_ok_iff.mp (findEntry_eq_ok_iff.mp found)).1
  exact (pathFailure?_eq_none_iff.mp usable).2.2

/-- What a look at a path shows is what a walk through links finds there. -/
theorem findEntry_of_metadata {volume : Volume} {path : List UInt8} {metadata : Metadata}
    (looked : volume.metadata path = .ok metadata) :
    ∃ location node, volume.findEntry true path = .ok (location, node) ∧
      metadata = ⟨node.isDirectory, volume.nodeLength node, volume.nodeOwner node⟩ := by
  unfold Volume.metadata at looked
  cases found : volume.findEntry true path with
  | error failure =>
      rw [found] at looked
      cases looked
  | ok entry =>
      rw [found] at looked
      cases looked
      exact ⟨entry.1, entry.2, rfl, rfl⟩

theorem length_lt_of_metadata {volume : Volume} {path : List UInt8} {metadata : Metadata}
    (looked : volume.metadata path = .ok metadata) : path.length < pathLimit := by
  obtain ⟨location, node, found, _⟩ := findEntry_of_metadata looked
  exact length_lt_of_findEntry found

theorem nodeLength_file (volume : Volume) (number : Nat) :
    volume.nodeLength (.file number) = (volume.contentOf number).length := by
  simp only [nodeLength, contentOf]
  cases volume.record? number <;> rfl

/-- An open file gives as many bytes as a look at its path announced. -/
theorem length_read_of_metadata {volume : Volume} {path : List UInt8} {handle : Handle}
    {metadata : Metadata} (opened : volume.openFile path = .ok handle)
    (looked : volume.metadata path = .ok metadata) :
    (volume.read handle metadata.length).length = metadata.length := by
  obtain ⟨location, node, found, rfl⟩ := findEntry_of_metadata looked
  unfold openFile at opened
  rw [found] at opened
  cases node with
  | file number =>
      cases opened
      simp only [read, nodeLength_file, Content.length_take, Nat.min_self]
  | device device =>
      cases opened
      cases device <;> rfl
  | directory owner mode => cases opened
  | link target => cases opened

end DesktopGateway.Volume
