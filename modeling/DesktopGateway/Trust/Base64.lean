/-!
# Base 64

Bytes in letters, digits and two signs. White space between them does not matter; equals signs fill
the last group of four.
-/

namespace DesktopGateway.Trust.Base64

inductive Fault where
  | badCharacter (byte : UInt8)
  | earlyFilling
  | badFilling
  deriving DecidableEq, Repr

def Fault.message : Fault → String
  | badCharacter byte => s!"InvalidCharacter({byte})"
  | earlyFilling => "PrematurePadding"
  | badFilling => "InvalidTrailingPadding"

def isBlank (byte : UInt8) : Bool :=
  byte = 32 || byte = 9 || byte = 10 || byte = 13

def filling : UInt8 := 61

def value? (byte : UInt8) : Option Nat :=
  let code := byte.toNat
  if 65 ≤ code && code ≤ 90 then some (code - 65)
  else if 97 ≤ code && code ≤ 122 then some (code - 71)
  else if 48 ≤ code && code ≤ 57 then some (code + 4)
  else if code = 43 then some 62
  else if code = 47 then some 63
  else none

def stranger? (text : List UInt8) : Option UInt8 :=
  text.find? fun byte => !isBlank byte && byte ≠ filling && (value? byte).isNone

/-- Three bytes of four values. -/
def join (first second third fourth : Nat) : List UInt8 :=
  [UInt8.ofNat (4 * first + second / 16), UInt8.ofNat (16 * second + third / 4),
    UInt8.ofNat (64 * third + fourth)]

/-- The bytes of whole groups of values, the last of which may lack one or two. -/
def groups : List Nat → Option (List UInt8)
  | [] => some []
  | [first, second] => some ((join first second 0 0).take 1)
  | [first, second, third] => some ((join first second third 0).take 2)
  | first :: second :: third :: fourth :: rest =>
      (groups rest).map fun later => join first second third fourth ++ later
  | [_] => none

def decode (text : List UInt8) : Except Fault (List UInt8) :=
  match stranger? text with
  | some byte => .error (.badCharacter byte)
  | none =>
      let kept := text.filter fun byte => !isBlank byte
      let digits := kept.takeWhile (· ≠ filling)
      let behind := kept.drop digits.length
      if behind.any (· ≠ filling) then .error .earlyFilling
      else if kept.length % 4 ≠ 0 || 2 < behind.length then .error .badFilling
      else
        match groups (digits.filterMap value?) with
        | some bytes => .ok bytes
        | none => .error .badFilling

end DesktopGateway.Trust.Base64
