import DesktopGateway.Wire.Demand
import DesktopGateway.Wire.Fault

/-!
# Fields

A message is a sequence of bytes, lines and sizes. A line is text closed by a newline; a size is a
signed number of eight bytes, the lowest first.
-/

namespace DesktopGateway.Wire

open DesktopGateway.Text

namespace Field

def newline : UInt8 := 10

inductive Kind where
  | byte
  | line
  | size
  deriving DecidableEq, Repr

end Field

inductive Field where
  | byte (value : UInt8)
  | line (text : String)
  | size (value : Int64)
  deriving DecidableEq, Repr

namespace Field

def kind : Field → Kind
  | byte _ => .byte
  | line _ => .line
  | size _ => .size

/-- The length of a text that may stand in a line. -/
def checkLine (text : String) : Except Fault Nat :=
  let bytes := Utf8.encode text
  if newline ∈ bytes then .error .newlineInLine
  else if longestLine < bytes.length then .error .lineTooLong
  else .ok bytes.length

/-- The `count` lowest bytes of a number, the lowest first. -/
def lowestFirst : (count : Nat) → Nat → List UInt8
  | 0, _ => []
  | count + 1, value => UInt8.ofNat (value % 256) :: lowestFirst count (value / 256)

def ofLowestFirst : List UInt8 → Nat
  | [] => 0
  | lowest :: rest => lowest.toNat + 256 * ofLowestFirst rest

def sizeBytes (value : Int64) : List UInt8 :=
  lowestFirst 8 value.toUInt64.toNat

def lineBytes (text : String) : List UInt8 :=
  Utf8.encode text ++ [newline]

def write : Field → Except Fault (List UInt8)
  | byte value => .ok [value]
  | line text => (checkLine text).map fun _ => lineBytes text
  | size value => .ok (sizeBytes value)

def readByte : Demand (Except Fault UInt8) :=
  .next (fun value => .done (.ok value)) (.done (.error .endOfStream))

/-- The text of a line whose bytes, last byte first, are `taken`. -/
def finishLine (taken : List UInt8) : Except Fault String :=
  (Utf8.decode taken.reverse).mapError .malformedText

/-- Read a line of which `taken` is there, with room for `room` bytes including the newline. -/
def readLineWithin : (room : Nat) → (taken : List UInt8) → Demand (Except Fault String)
  | 0, _ => .done (.error .lineTooLong)
  | room + 1, taken =>
      .next
        (fun value =>
          if value = newline then .done (finishLine taken)
          else readLineWithin room (value :: taken))
        (.done (.error .unfinishedLine))

def readLine : Demand (Except Fault String) :=
  readLineWithin (longestLine + 1) []

/-- Read `missing` more bytes of a number whose bytes so far, last byte first, are `taken`. -/
def readSizeWithin : (missing : Nat) → (taken : List UInt8) → Demand (Except Fault Int64)
  | 0, taken => .done (.ok (UInt64.ofNat (ofLowestFirst taken.reverse)).toInt64)
  | missing + 1, taken =>
      .next (fun value => readSizeWithin missing (value :: taken)) (.done (.error .endOfStream))

def readSize : Demand (Except Fault Int64) :=
  readSizeWithin 8 []

def Kind.read : Kind → Demand (Except Fault Field)
  | .byte => readByte.andThen fun value => .done (.ok (.byte value))
  | .line => readLine.andThen fun text => .done (.ok (.line text))
  | .size => readSize.andThen fun value => .done (.ok (.size value))

/-- Read one field after the other, going on after faults; each result comes with the number of
bytes consumed so far. -/
def readAll (bytes : List UInt8) : List Kind → List (Except Fault Field × Nat) :=
  let rec go (rest : List UInt8) : List Kind → List (Except Fault Field × Nat)
    | [] => []
    | kind :: kinds =>
        let read := kind.read.run rest
        (read.1, bytes.length - read.2.length) :: go read.2 kinds
  go bytes

/-- Write one field after the other, going on after refusals; each result comes with the number of
bytes written so far. -/
def writeAll (written : List UInt8) : List Field → List (Option Fault × Nat) × List UInt8
  | [] => ([], written)
  | field :: fields =>
      match field.write with
      | .ok bytes =>
          let later := writeAll (written ++ bytes) fields
          ((none, written.length + bytes.length) :: later.1, later.2)
      | .error fault =>
          let later := writeAll written fields
          ((some fault, written.length) :: later.1, later.2)

end Field

end DesktopGateway.Wire
