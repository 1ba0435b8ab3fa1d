import DesktopGateway.Files.Bundle
import DesktopGateway.Files.Gzip

/-!
# Tapes

The bytes of a bundle: blocks of 512 bytes, a header for each entry, its content behind it, and two
empty blocks at the end. Long names go into entries of their own, and short link targets are tidied.
`ofBundle` writes a tape and `entries?` reads one. The gateway as it runs packs with tapes.
-/

namespace DesktopGateway.Files.Tape

open DesktopGateway.Text
open DesktopGateway.Wire

def block : Nat := 512

/-- Bytes in a field of fixed width, with zeros behind them. -/
def field (width : Nat) (bytes : List UInt8) : List UInt8 :=
  let kept := bytes.take width
  kept ++ List.replicate (width - kept.length) 0

def octal (width value : Nat) : List UInt8 :=
  let digits := (Nat.toDigits 8 value).map fun char => UInt8.ofNat char.toNat
  field width (List.replicate (width - 1 - digits.length) 48 ++ digits)

/-- Sizes from this one on have more than eleven octal digits. -/
def octalLimit : Nat := 8589934592

/-- A size in octal digits, or in eight bytes, the highest first, behind a mark. -/
def sizeField (size : Nat) : List UInt8 :=
  if size < octalLimit then octal 12 size
  else [0x80, 0, 0, 0] ++ (Field.lowestFirst 8 size).reverse

def padded (bytes : List UInt8) : List UInt8 :=
  bytes ++ List.replicate ((block - bytes.length % block) % block) 0

/-- A header; its checksum counts the checksum's own field as blanks. -/
def header (name : List UInt8) (mode size : Nat) (flag : UInt8) (target : List UInt8) :
    List UInt8 :=
  let front := field 100 name ++ octal 8 mode ++ octal 8 0 ++ octal 8 0 ++ sizeField size ++
    octal 12 0
  let back := [flag] ++ field 100 target ++ Utf8.encode "ustar  " ++ [0] ++ field 247 []
  let sum := (front ++ List.replicate 8 32 ++ back).foldl
    (fun (sum : Nat) (byte : UInt8) => sum + byte.toNat) 0
  front ++ octal 7 sum ++ [32] ++ back

/-- A name or target that does not fit into a header. -/
def long (flag : UInt8) (bytes : List UInt8) : List UInt8 :=
  if bytes.length ≤ 100 then []
  else
    let stored := bytes ++ [0]
    header (Utf8.encode "././@LongLink") 0o644 stored.length flag [] ++ padded stored

/-- The longest link target that an entry stores in its short form. -/
def shortTarget : Nat := 100

/-- A link target without doubled slashes and without dots between its names. -/
def tidied (target : List UInt8) : List UInt8 :=
  let route := Volume.Route.ofBytes target
  let parts := (Volume.Route.parts target).filter fun part => !part.isEmpty
  let names := parts.filter fun part => part != [Volume.Route.dot]
  let dotted := !route.absolute && parts.head? = some [Volume.Route.dot]
  let opening := if route.absolute then [Volume.Route.slash] else []
  let closing := if target.getLast? = some Volume.Route.slash then [Volume.Route.slash] else []
  opening ++ Bundle.joined (if dotted then [Volume.Route.dot] :: names else names) ++ closing

/-- The target as an entry stores it. -/
def storedTarget (target : List UInt8) : List UInt8 :=
  if (tidied target).length ≤ shortTarget then tidied target else target

def tidy (entry : Bundle.Entry) : Bundle.Entry :=
  match entry.kind with
  | .link target => { entry with kind := .link (storedTarget target) }
  | .regular _ | .directory | .device => entry

/-- The bytes of an entry whose target is tidy. -/
def entry (entry : Bundle.Entry) : List UInt8 :=
  let opening := long 76 entry.path
  match entry.kind with
  | .directory => opening ++ header entry.path 0o755 0 53 []
  | .regular content =>
      opening ++ header entry.path 0o644 content.length 48 [] ++ padded content.toList
  | .link target => opening ++ long 75 target ++ header entry.path 0o777 0 50 target
  | .device => opening ++ header entry.path 0o644 0 51 []

def ofBundle (bundle : Bundle) : List UInt8 :=
  (bundle.entries.map tidy).flatMap entry ++ List.replicate (2 * block) 0

def unfield (bytes : List UInt8) : List UInt8 :=
  bytes.takeWhile (· != 0)

def unoctal (bytes : List UInt8) : Nat :=
  (bytes.takeWhile fun byte => 48 ≤ byte && byte ≤ 55).foldl
    (fun (value : Nat) (byte : UInt8) => 8 * value + (byte.toNat - 48)) 0

def unsize (bytes : List UInt8) : Nat :=
  if 0x80 ≤ bytes.headD 0 then Field.ofLowestFirst (bytes.drop 4).reverse else unoctal bytes

def kind? (flag : UInt8) (content target : List UInt8) : Option Bundle.Kind :=
  if flag = 48 then some (.regular (.ofBytes content))
  else if flag = 50 then some (.link target)
  else if flag = 51 then some .device
  else if flag = 53 then some .directory
  else none

/-- Read the entries, when a long name or target for the next of them has been read. -/
def entriesFrom (name target : Option (List UInt8)) (tape : List UInt8) :
    Option (List Bundle.Entry) :=
  let head := tape.take block
  if _short : tape.length < block then none
  else if head.all (· = 0) then some []
  else
    let size := unsize ((head.drop 124).take 12)
    let flag := (head.drop 156).headD 0
    let behind := tape.drop block
    let content := behind.take size
    let rest := behind.drop (padded content).length
    if content.length < size then none
    else if flag = 76 then entriesFrom (some (unfield content)) target rest
    else if flag = 75 then entriesFrom name (some (unfield content)) rest
    else
      match kind? flag content (target.getD (unfield ((head.drop 157).take 100))) with
      | none => none
      | some kind =>
          (entriesFrom none none rest).map
            (⟨name.getD (unfield (head.take 100)), kind⟩ :: ·)
  termination_by tape.length
  decreasing_by
    all_goals
      simp only [block, List.length_drop] at *
      omega

def entries? (tape : List UInt8) : Option (List Bundle.Entry) :=
  entriesFrom none none tape

instance archiver : Archiver :=
  ⟨fun bundle => Gzip.compress (ofBundle bundle)⟩

/-- The entries that unpacking a compressed tape gives. -/
def unpack? (bytes : List UInt8) : Option (List Bundle.Entry) :=
  (Gzip.expand? bytes).bind entries?

end DesktopGateway.Files.Tape

namespace DesktopGateway.Files.Bundle

def ofDirectory (volume : Volume) (path : List UInt8) : Except Host.Failure Bundle :=
  (gather volume path).map fun bundle => { bundle with entries := bundle.entries.map Tape.tidy }

end DesktopGateway.Files.Bundle
