import DesktopGateway.Files.Download

/-!
# Reading open files

An open file is read from where the last reading stopped. The host gives as much at once as it
likes, and the reading goes on until there is enough or the file has ended. A download reads the
beginning of its file twice: once for its type, and then with the content.
-/

namespace DesktopGateway.Files

open DesktopGateway.Wire

/-- An open file and the place in it where the next reading begins. -/
structure Reader where
  handle : Volume.Handle
  offset : Nat
  deriving DecidableEq, Repr

namespace Reader

def start (handle : Volume.Handle) : Reader :=
  ⟨handle, 0⟩

def rewind (reader : Reader) : Reader :=
  { reader with offset := 0 }

def read (volume : Volume) (room : Nat) (reader : Reader) : List UInt8 × Reader :=
  let bytes := (volume.read reader.handle (reader.offset + room)).drop reader.offset
  (bytes, { reader with offset := reader.offset + bytes.length })

/-- Read up to `room` bytes. The host gives these portions first, each of a byte at least, and the
rest at once. -/
def gather (volume : Volume) : (portions : List Nat) → (room : Nat) → Reader → List UInt8 × Reader
  | [], room, reader => reader.read volume room
  | portion :: portions, room, reader =>
      let first := reader.read volume (min (portion + 1) room)
      let rest := first.2.gather volume portions (room - first.1.length)
      (first.1 ++ rest.1, rest.2)

end Reader

/-- The message of a download as it is put together: its type is found in the first bytes of the
file, and its content is read from the beginning again. -/
def Download.streamed (download : Download) (volume : Volume) (sniffed copied : List Nat) :
    Parcel (List UInt8) :=
  let head := (Reader.start download.handle).gather volume sniffed ContentType.window
  let content := head.2.rewind.gather volume copied download.size
  .fetchedFile download.name (ContentType.of head.1).name (Int64.ofNat download.size) content.1

end DesktopGateway.Files
