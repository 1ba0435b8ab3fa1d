/-!
# Distinguished encoding

Values with a tag and a length before their contents. Lengths are written with as few bytes as
possible and are below 2 to the power of 16.
-/

namespace DesktopGateway.Trust.Der

def integer : UInt8 := 0x02
def bitString : UInt8 := 0x03
def byteString : UInt8 := 0x04
def null : UInt8 := 0x05
def objectName : UInt8 := 0x06
def boolean : UInt8 := 0x01
def sequence : UInt8 := 0x30

/-- A tag that only its context gives a meaning. -/
def marked (number : UInt8) : UInt8 :=
  0xA0 + number

def contextual (number : UInt8) : UInt8 :=
  0x80 + number

structure Value where
  tag : UInt8
  contents : List UInt8
  deriving DecidableEq, Repr

def readLength : List UInt8 → Option (Nat × List UInt8)
  | [] => none
  | first :: rest =>
      if first < 0x80 then some (first.toNat, rest)
      else
        match first, rest with
        | 0x81, low :: rest => if low < 0x80 then none else some (low.toNat, rest)
        | 0x82, high :: low :: rest =>
            if high = 0 then none else some (256 * high.toNat + low.toNat, rest)
        | _, _ => none

def read : List UInt8 → Option (Value × List UInt8)
  | [] => none
  | tag :: rest =>
      if tag &&& 0x1F = 0x1F then none
      else
        match readLength rest with
        | none => none
        | some (length, rest) =>
            if rest.length < length then none
            else some (⟨tag, rest.take length⟩, rest.drop length)

def expect (tag : UInt8) (bytes : List UInt8) : Option (List UInt8 × List UInt8) :=
  match read bytes with
  | some (value, rest) => if value.tag = tag then some (value.contents, rest) else none
  | none => none

def expectAll (tag : UInt8) (bytes : List UInt8) : Option (List UInt8) :=
  match expect tag bytes with
  | some (contents, []) => some contents
  | _ => none

/-- The bytes of a string of bits that fill its bytes. -/
def wholeBits (contents : List UInt8) : Option (List UInt8) :=
  match contents with
  | 0 :: bytes => some bytes
  | _ => none

/-- A number that is not negative, in as few bytes as possible. -/
def natural (contents : List UInt8) : Option Nat :=
  let value := contents.foldl (fun value byte => 256 * value + byte.toNat) 0
  match contents with
  | [] => none
  | [byte] => if byte < 0x80 then some value else none
  | first :: second :: _ =>
      if 0x80 ≤ first || (first = 0 && second < 0x80) then none else some value

def readNatural (bytes : List UInt8) : Option (Nat × List UInt8) := do
  let (contents, rest) ← expect integer bytes
  let value ← natural contents
  return (value, rest)

/-- Naturals that are all there is. -/
def readNaturals : (count : Nat) → List UInt8 → Option (List Nat)
  | 0, [] => some []
  | 0, _ => none
  | count + 1, bytes => do
      let (value, rest) ← readNatural bytes
      let later ← readNaturals count rest
      return value :: later

def writeLength (length : Nat) : List UInt8 :=
  if length < 0x80 then [UInt8.ofNat length]
  else if length < 0x100 then [0x81, UInt8.ofNat length]
  else [0x82, UInt8.ofNat (length / 256), UInt8.ofNat length]

def write (tag : UInt8) (contents : List UInt8) : List UInt8 :=
  tag :: writeLength contents.length ++ contents

/-- The bytes of a number, the highest first, without zeros before them. -/
def numberBytes (number : Nat) : List UInt8 :=
  let count := (number.log2 + 8) / 8
  (List.range count).map fun place => UInt8.ofNat (number / Nat.pow 256 (count - 1 - place))

def writeNatural (number : Nat) : List UInt8 :=
  let bytes := numberBytes number
  write integer (if bytes.head?.any (0x80 ≤ ·) then 0 :: bytes else bytes)

end DesktopGateway.Trust.Der
