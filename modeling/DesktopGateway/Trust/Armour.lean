import DesktopGateway.Text.Quoted
import DesktopGateway.Text.Utf8
import DesktopGateway.Trust.Base64

/-!
# Armour

Binary things in text: sections between a line that opens and a line that closes them, with their
bytes in base 64. What stands outside sections does not matter, and neither do sections of kinds
that are not known.
-/

namespace DesktopGateway.Trust.Armour

open DesktopGateway.Text

inductive Kind where
  | certificate
  | publicKey
  | rsaKey
  | privateKey
  | curveKey
  | revocations
  | request
  | helloSettings
  deriving DecidableEq, Repr

namespace Kind

def title : Kind → String
  | certificate => "CERTIFICATE"
  | publicKey => "PUBLIC KEY"
  | rsaKey => "RSA PRIVATE KEY"
  | privateKey => "PRIVATE KEY"
  | curveKey => "EC PRIVATE KEY"
  | revocations => "X509 CRL"
  | request => "CERTIFICATE REQUEST"
  | helloSettings => "ECHCONFIG"

def all : List Kind :=
  [certificate, publicKey, rsaKey, privateKey, curveKey, revocations, request, helloSettings]

def ofTitle? (bytes : List UInt8) : Option Kind :=
  all.find? fun kind => Utf8.encode kind.title = bytes

end Kind

structure Block where
  kind : Kind
  bytes : List UInt8
  deriving DecidableEq, Repr

inductive Fault where
  | unclosed (title : List UInt8)
  | badOpening (line : List UInt8)
  | encoding (fault : Base64.Fault)
  deriving DecidableEq, Repr

def Fault.message : Fault → String
  | unclosed title => s!"section end {Quoted.quote (Utf8.lossy title)} missing"
  | badOpening line => s!"illegal section start: {Quoted.quote (Utf8.lossy line)}"
  | encoding fault => fault.message

/-- The lines of a text with the character that ends each, a line feed or a carriage return. -/
def lines (text : List UInt8) : List (List UInt8) :=
  let cut := text.foldr
    (fun byte (line, later) =>
      if byte = 10 || byte = 13 then ([byte], if line.isEmpty then later else line :: later)
      else (byte :: line, later))
    (([] : List UInt8), ([] : List (List UInt8)))
  if cut.1.isEmpty then cut.2 else cut.1 :: cut.2

def opening : List UInt8 := Utf8.encode "-----BEGIN "
def closing : List UInt8 := Utf8.encode "-----END "
def dashes : List UInt8 := Utf8.encode "-----"

def hyphen : UInt8 := 45

/-- The title in an opening line, behind which there are exactly five hyphens. -/
def title? (line : List UInt8) : Option (List UInt8) :=
  let isEnd (byte : UInt8) : Bool := byte = hyphen || byte = 10 || byte = 13 || byte = 32
  let ending := line.reverse.takeWhile isEnd
  if ending.count hyphen = 5 then
    let behind := (ending.reverse.dropWhile (· ≠ hyphen)).length
    some ((line.take (line.length - behind)).drop opening.length)
  else none

def closes (title line : List UInt8) : Bool :=
  (closing ++ title ++ dashes).isPrefixOf line

structure Reading where
  title : Option (List UInt8)
  collected : List UInt8
  deriving DecidableEq, Repr

/-- The reading after one line, and the block that the line completes. -/
def Reading.step (reading : Reading) (line : List UInt8) :
    Except Fault (Option Block × Reading) :=
  if opening.isPrefixOf line then
    match title? line with
    | some title => .ok (none, { reading with title := some title })
    | none => .error (.badOpening line)
  else
    match reading.title with
    | none => .ok (none, reading)
    | some title =>
        if closes title line then
          match Kind.ofTitle? title with
          | none => .ok (none, ⟨none, []⟩)
          | some kind =>
              match Base64.decode reading.collected with
              | .ok bytes => .ok (some ⟨kind, bytes⟩, ⟨none, []⟩)
              | .error fault => .error (.encoding fault)
        else .ok (none, { reading with collected := reading.collected ++ line })

def readLines (reading : Reading) : List (List UInt8) → List Block × Option Fault
  | [] => ([], reading.title.map Fault.unclosed)
  | line :: later =>
      match reading.step line with
      | .error fault => ([], some fault)
      | .ok (found, reading) =>
          let (blocks, fault) := readLines reading later
          (found.toList ++ blocks, fault)

def read (text : String) : List Block × Option Fault :=
  readLines ⟨none, []⟩ (lines (Utf8.encode text))

end DesktopGateway.Trust.Armour
