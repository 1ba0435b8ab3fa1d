/-!
# Digests

The SHA-256 digest of a byte string, and the text that shows it as a fingerprint.
-/

namespace DesktopGateway.Trust.Digest

def initial : List UInt32 :=
  [0x6a09e667, 0xbb67ae85, 0x3c6ef372, 0xa54ff53a, 0x510e527f, 0x9b05688c, 0x1f83d9ab, 0x5be0cd19]

def roundWords : List UInt32 :=
  [0x428a2f98, 0x71374491, 0xb5c0fbcf, 0xe9b5dba5, 0x3956c25b, 0x59f111f1, 0x923f82a4, 0xab1c5ed5,
    0xd807aa98, 0x12835b01, 0x243185be, 0x550c7dc3, 0x72be5d74, 0x80deb1fe, 0x9bdc06a7, 0xc19bf174,
    0xe49b69c1, 0xefbe4786, 0x0fc19dc6, 0x240ca1cc, 0x2de92c6f, 0x4a7484aa, 0x5cb0a9dc, 0x76f988da,
    0x983e5152, 0xa831c66d, 0xb00327c8, 0xbf597fc7, 0xc6e00bf3, 0xd5a79147, 0x06ca6351, 0x14292967,
    0x27b70a85, 0x2e1b2138, 0x4d2c6dfc, 0x53380d13, 0x650a7354, 0x766a0abb, 0x81c2c92e, 0x92722c85,
    0xa2bfe8a1, 0xa81a664b, 0xc24b8b70, 0xc76c51a3, 0xd192e819, 0xd6990624, 0xf40e3585, 0x106aa070,
    0x19a4c116, 0x1e376c08, 0x2748774c, 0x34b0bcb5, 0x391c0cb3, 0x4ed8aa4a, 0x5b9cca4f, 0x682e6ff3,
    0x748f82ee, 0x78a5636f, 0x84c87814, 0x8cc70208, 0x90befffa, 0xa4506ceb, 0xbef9a3f7, 0xc67178f2]

def rotate (word count : UInt32) : UInt32 :=
  (word >>> count) ||| (word <<< (32 - count))

/-- A number in `count` bytes, the highest first. -/
def highestFirst : (count : Nat) → Nat → List UInt8
  | 0, _ => []
  | count + 1, number => UInt8.ofNat (number / Nat.pow 256 count) :: highestFirst count number

/-- The message, a mark, zeros and the length in bits; together a number of whole blocks. -/
def padded (message : List UInt8) : List UInt8 :=
  message ++ 0x80 :: List.replicate ((119 - message.length % 64) % 64) 0 ++
    highestFirst 8 (8 * message.length)

def words : List UInt8 → List UInt32
  | first :: second :: third :: fourth :: rest =>
      (first.toUInt32 <<< 24 ||| second.toUInt32 <<< 16 ||| third.toUInt32 <<< 8 |||
        fourth.toUInt32) :: words rest
  | _ => []

def extend (schedule : Array UInt32) : Array UInt32 :=
  let word (back : Nat) : UInt32 := schedule.getD (schedule.size - back) 0
  let early := word 15
  let late := word 2
  schedule.push (word 16 + (rotate early 7 ^^^ rotate early 18 ^^^ (early >>> 3)) + word 7 +
    (rotate late 17 ^^^ rotate late 19 ^^^ (late >>> 10)))

def schedule (block : List UInt32) : List UInt32 :=
  ((List.range 48).foldl (fun schedule _ => extend schedule) block.toArray).toList

def round (state : List UInt32) (input : UInt32 × UInt32) : List UInt32 :=
  match state with
  | [a, b, c, d, e, f, g, h] =>
      let mixed := h + (rotate e 6 ^^^ rotate e 11 ^^^ rotate e 25) +
        ((e &&& f) ^^^ (~~~e &&& g)) + input.1 + input.2
      let added := (rotate a 2 ^^^ rotate a 13 ^^^ rotate a 22) +
        ((a &&& b) ^^^ (a &&& c) ^^^ (b &&& c))
      [mixed + added, a, b, c, d + mixed, e, f, g]
  | other => other

def compress (state block : List UInt32) : List UInt32 :=
  List.zipWith (· + ·) state ((roundWords.zip (schedule block)).foldl round state)

def compressAll : (blocks : Nat) → List UInt32 → List UInt32 → List UInt32
  | 0, state, _ => state
  | blocks + 1, state, words =>
      compressAll blocks (compress state (words.take 16)) (words.drop 16)

def ofBytes (message : List UInt8) : List UInt8 :=
  let words := words (padded message)
  (compressAll (words.length / 16) initial words).flatMap fun word => highestFirst 4 word.toNat

def hexDigit (value : Nat) : Char :=
  Char.ofNat (if value < 10 then 48 + value else 55 + value)

/-- The digest in pairs of upper-case digits between colons. -/
def fingerprint (message : List UInt8) : String :=
  String.intercalate ":" ((ofBytes message).map fun byte =>
    String.ofList [hexDigit (byte.toNat / 16), hexDigit (byte.toNat % 16)])

end DesktopGateway.Trust.Digest
