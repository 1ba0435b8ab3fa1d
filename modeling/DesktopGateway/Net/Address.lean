/-!
# Network addresses

The addresses of hosts in their usual notations, alone and with a port. Every reader takes as much
text as belongs to its thing and returns the rest.
-/

namespace DesktopGateway.Net

/-- The address of a host: four bytes, or eight groups of two bytes. -/
inductive IpAddress where
  | four (octets : List UInt8)
  | six (groups : List UInt16)
  deriving DecidableEq, Repr

structure SocketAddress where
  host : IpAddress
  port : UInt16
  scope : UInt32
  deriving DecidableEq, Repr

namespace IpAddress

def digit? (radix : Nat) (char : Char) : Option Nat :=
  let code := char.toNat
  let value :=
    if '0' ≤ char && char ≤ '9' then code - 48
    else if 'a' ≤ char && char ≤ 'z' then code - 87
    else if 'A' ≤ char && char ≤ 'Z' then code - 55
    else radix
  if value < radix then some value else none

def valueOf (radix : Nat) (digits : List Char) : Nat :=
  digits.foldl (fun value char => radix * value + (digit? radix char).getD 0) 0

def readNumber (radix : Nat) (text : List Char) : Option (List Char × Nat × List Char) :=
  let isDigit (char : Char) : Bool := (digit? radix char).isSome
  let digits := text.takeWhile isDigit
  if digits.isEmpty then none
  else some (digits, valueOf radix digits, text.dropWhile isDigit)

/-- A byte in decimal digits without needless zeros. -/
def readOctet (text : List Char) : Option (UInt8 × List Char) :=
  match readNumber 10 text with
  | none => none
  | some (digits, value, rest) =>
      if 3 < digits.length || 255 < value || (digits.head? = some '0' && 1 < digits.length)
      then none
      else some (UInt8.ofNat value, rest)

/-- A group in up to four hexadecimal digits. -/
def readGroup (text : List Char) : Option (UInt16 × List Char) :=
  match readNumber 16 text with
  | none => none
  | some (digits, value, rest) =>
      if 4 < digits.length then none else some (UInt16.ofNat value, rest)

def readMark (mark : Char) : List Char → Option (List Char)
  | [] => none
  | char :: rest => if char = mark then some rest else none

def readFour (text : List Char) : Option (List UInt8 × List Char) := do
  let (first, text) ← readOctet text
  let text ← readMark '.' text
  let (second, text) ← readOctet text
  let text ← readMark '.' text
  let (third, text) ← readOctet text
  let text ← readMark '.' text
  let (fourth, text) ← readOctet text
  return ([first, second, third, fourth], text)

def pair (octets : List UInt8) : List UInt16 :=
  match octets with
  | [first, second, third, fourth] =>
      [UInt16.ofNat (256 * first.toNat + second.toNat),
        UInt16.ofNat (256 * third.toNat + fourth.toNat)]
  | _ => []

/-- A thing behind a colon, or without one where it is the first. -/
def behindColon {α : Type} (first : Bool) (read : List Char → Option α) (text : List Char) :
    Option α :=
  if first then read text else (readMark ':' text).bind read

/-- Up to `left` groups, and whether the last two of them are written as four bytes. -/
def readGroups : (left : Nat) → (first : Bool) → List Char → List UInt16 × Bool × List Char
  | 0, _, text => ([], false, text)
  | left + 1, first, text =>
      match if left = 0 then none else behindColon first readFour text with
      | some (octets, rest) => (pair octets, true, rest)
      | none =>
          match behindColon first readGroup text with
          | some (group, rest) =>
              let (later, embedded, rest) := readGroups left false rest
              (group :: later, embedded, rest)
          | none => ([], false, text)

/-- Eight groups, or fewer around a double colon that stands for the zeros that are missing. -/
def readSix (text : List Char) : Option (List UInt16 × List Char) :=
  match readGroups 8 true text with
  | (head, embedded, rest) =>
      if head.length = 8 then some (head, rest)
      else if embedded then none
      else
        match rest with
        | ':' :: ':' :: rest =>
            match readGroups (7 - head.length) true rest with
            | (tail, _, rest) =>
                some (head ++ List.replicate (8 - head.length - tail.length) 0 ++ tail, rest)
        | _ => none

/-- Texts that are longer are not tried as four bytes. -/
def longestFour : Nat := 15

def ofText? (text : String) : Option IpAddress :=
  match if text.utf8ByteSize ≤ longestFour then readFour text.toList else none with
  | some (octets, []) => some (.four octets)
  | _ =>
      match readSix text.toList with
      | some (groups, []) => some (.six groups)
      | _ => none

def bytes : IpAddress → List Nat
  | four octets => octets.map UInt8.toNat
  | six groups => groups.flatMap fun group => [group.toNat / 256, group.toNat % 256]

end IpAddress

namespace SocketAddress

open IpAddress

def readPort (text : List Char) : Option (UInt16 × List Char) := do
  let text ← readMark ':' text
  let (_, value, rest) ← readNumber 10 text
  if value < 0x10000 then return (UInt16.ofNat value, rest) else none

/-- The number of a scope behind a percent sign, or nothing. -/
def readScope (text : List Char) : UInt32 × List Char :=
  match text with
  | '%' :: rest =>
      match readNumber 10 rest with
      | some (_, value, rest) =>
          if value < 0x100000000 then (UInt32.ofNat value, rest) else (0, text)
      | none => (0, text)
  | _ => (0, text)

def readFour (text : List Char) : Option (SocketAddress × List Char) := do
  let (octets, text) ← IpAddress.readFour text
  let (port, text) ← readPort text
  return (⟨.four octets, port, 0⟩, text)

def readSix (text : List Char) : Option (SocketAddress × List Char) := do
  let text ← readMark '[' text
  let (groups, text) ← IpAddress.readSix text
  let (scope, text) := readScope text
  let text ← readMark ']' text
  let (port, text) ← readPort text
  return (⟨.six groups, port, scope⟩, text)

def ofText? (text : String) : Option SocketAddress :=
  match readFour text.toList with
  | some (address, []) => some address
  | _ =>
      match readSix text.toList with
      | some (address, []) => some address
      | _ => none

def syntaxFault : String :=
  "invalid socket address syntax"

end SocketAddress

end DesktopGateway.Net
