import DesktopGateway.Files.Reader
import DesktopGateway.Proofs.Volume.Reading

/-!
# Portions make no difference

However a host cuts a file into portions, a reading gets the bytes from its place on, each of them
once. So what was read for the type of a download is read again with its content, and the message
is the one that the file itself makes.
-/

namespace DesktopGateway.Files

open DesktopGateway.Wire

namespace Reader

/-- What is at the front of some bytes and what a reading of the rest gives. -/
theorem take_of_prefix {front bytes : List UInt8} {room : Nat} (leads : front <+: bytes)
    (fits : front.length ≤ room) :
    bytes.take room = front ++ (bytes.drop front.length).take (room - front.length) := by
  obtain ⟨rest, rfl⟩ := leads
  rw [List.take_append, List.take_of_length_le fits, List.drop_left]

/-- A shorter reading gives the front of a longer one, and the next reading what comes then. -/
theorem read_split (volume : Volume) (reader : Reader) {portion room : Nat}
    (shorter : portion ≤ room) :
    (reader.read volume room).1 = (reader.read volume portion).1 ++
      ((reader.read volume portion).2.read volume
        (room - (reader.read volume portion).1.length)).1 ∧
      (reader.read volume portion).1.length ≤ room := by
  obtain ⟨handle, offset⟩ := reader
  cases handle with
  | file number =>
      have behind (start count : Nat) :
          ((volume.contentOf number).take (start + count)).drop start =
            ((volume.contentOf number).toList.drop start).take count := by
        rw [Volume.Content.take_eq, List.drop_take, Nat.add_sub_cancel_left]
      have short : (((volume.contentOf number).toList.drop offset).take portion).length ≤ room :=
        Nat.le_trans (List.length_take_le ..) shorter
      simp only [read, Volume.read, behind]
      refine ⟨?_, short⟩
      rw [← List.drop_drop]
      exact take_of_prefix (List.take_prefix ..) short
  | device device =>
      cases device with
      | null => simp [read, Volume.read]
      | zero =>
          simp only [read, Volume.read, List.drop_replicate, List.length_replicate,
            Nat.add_sub_cancel_left, List.replicate_append_replicate]
          exact ⟨by rw [Nat.add_sub_cancel' shorter], shorter⟩

/-- A reading in portions gives what a reading at once gives, and stops at the same place. -/
theorem gather_eq_read (volume : Volume) (portions : List Nat) (room : Nat) (reader : Reader) :
    reader.gather volume portions room = reader.read volume room := by
  induction portions generalizing room reader with
  | nil => rfl
  | cons portion portions ih =>
      -- The first portion cuts the reading in two, and the others read on where it stopped.
      obtain ⟨whole, -⟩ := read_split volume reader (Nat.min_le_right (portion + 1) room)
      rw [gather, ih]
      apply Prod.ext
      · exact whole.symm
      · have length := congrArg List.length whole
        rw [List.length_append] at length
        simp only [read] at length ⊢
        rw [length, Nat.add_assoc]

@[simp] theorem handle_start (handle : Volume.Handle) : (start handle).handle = handle := rfl

@[simp] theorem read_start (volume : Volume) (handle : Volume.Handle) (room : Nat) :
    ((start handle).read volume room).1 = volume.read handle room := by
  simp [read, start]

/-- Wherever a reading has stopped, the next one can begin at the front again. -/
@[simp] theorem rewind_read (volume : Volume) (room : Nat) (reader : Reader) :
    (reader.read volume room).2.rewind = start reader.handle := rfl

end Reader

/-- The message that is put together in portions is that of the file: the bytes that were read for
the type are neither lost nor sent twice. -/
theorem Download.streamed_eq_parcel (download : Download) (volume : Volume)
    (sniffed copied : List Nat) :
    download.streamed volume sniffed copied = download.parcel volume := by
  unfold streamed
  simp only [Reader.gather_eq_read, Reader.rewind_read, Reader.handle_start, Reader.read_start]
  rfl

end DesktopGateway.Files
