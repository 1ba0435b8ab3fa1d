import DesktopGateway.Wire.Field

/-!
# Gzip files

A gzip file of stored blocks: the mark, the data in blocks of at most 65535 bytes, its check sum
and its length. `compress` writes such a file and `expand?` reads it back.
-/

namespace DesktopGateway.Files.Gzip

open DesktopGateway.Wire

def shifted : (bits : Nat) → UInt32 → UInt32
  | 0, sum => sum
  | bits + 1, sum =>
      shifted bits (if sum &&& 1 = 1 then (sum >>> 1) ^^^ 0xEDB88320 else sum >>> 1)

def checkSum (data : List UInt8) : UInt32 :=
  data.foldl (fun sum byte => shifted 8 (sum ^^^ byte.toUInt32)) 0xFFFFFFFF ^^^ 0xFFFFFFFF

def longestBlock : Nat := 65535

/-- One stored block: whether it is the last, its length, the length's complement, its data. -/
def stored (last : Bool) (data : List UInt8) : List UInt8 :=
  (if last then 1 else 0) :: Field.lowestFirst 2 data.length ++
    Field.lowestFirst 2 (65535 - data.length) ++ data

def blocks (data : List UInt8) : List UInt8 :=
  if data.length ≤ longestBlock then stored true data
  else stored false (data.take longestBlock) ++ blocks (data.drop longestBlock)
  termination_by data.length
  decreasing_by
    simp only [List.length_drop, longestBlock] at *
    omega

def compress (data : List UInt8) : List UInt8 :=
  [0x1F, 0x8B, 8, 0, 0, 0, 0, 0, 0, 0xFF] ++ blocks data ++
    Field.lowestFirst 4 (checkSum data).toNat ++ Field.lowestFirst 4 data.length

/-- The data of stored blocks, and what stands behind the last of them. -/
def unblock? (bytes : List UInt8) : Option (List UInt8 × List UInt8) :=
  match bytes with
  | mark :: low :: high :: first :: second :: rest =>
      let length := Field.ofLowestFirst [low, high]
      if Field.ofLowestFirst [first, second] = 65535 - length && length ≤ rest.length then
        if mark = 1 then some (rest.take length, rest.drop length)
        else if mark = 0 then
          (unblock? (rest.drop length)).map fun (data, behind) => (rest.take length ++ data, behind)
        else none
      else none
  | _ => none
  termination_by bytes.length
  decreasing_by
    simp only [List.length_drop, List.length_cons]
    omega

def expand? (file : List UInt8) : Option (List UInt8) :=
  if [0x1F, 0x8B, 8, 0].isPrefixOf file then
    match unblock? (file.drop 10) with
    | some (data, behind) =>
        if behind = Field.lowestFirst 4 (checkSum data).toNat ++ Field.lowestFirst 4 data.length
        then some data
        else none
    | none => none
  else none

end DesktopGateway.Files.Gzip
