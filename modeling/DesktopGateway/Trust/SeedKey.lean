import DesktopGateway.Trust.LongDigest
import DesktopGateway.Trust.Residue

/-!
# Keys from seeds

An Ed25519 key is a seed of 32 bytes. Its digest gives a number, and the number gives a point of the
curve `y² - x² = 1 + d x² y²`, which is the public key. Adding two points of this curve needs no
cases.
-/

namespace DesktopGateway.Trust.SeedKey

def prime : Nat :=
  0x7fffffffffffffffffffffffffffffffffffffffffffffffffffffffffffffed

def coefficient : Nat :=
  0x52036cee2b6ffe738cc740797779e89800700a4d4141d8ab75eb4dca135978a3

/-- The point with the coordinates `x / z` and `y / z`. -/
structure Point where
  x : Nat
  y : Nat
  z : Nat
  deriving DecidableEq, Repr

def generator : Point where
  x := 0x216936d3cd6e53fec0a4e231fdd6dc5c692cc7609525a7b2c9562d608f25d51a
  y := 0x6666666666666666666666666666666666666666666666666666666666666658
  z := 1

def neutral : Point := ⟨0, 1, 1⟩

def times (left right : Nat) : Nat :=
  Residue.times prime left right

def add (left right : Point) : Point :=
  let scale := times left.z right.z
  let square := times scale scale
  let across := times left.x right.x
  let along := times left.y right.y
  let twist := times coefficient (times across along)
  let lower := Residue.minus prime square twist
  let upper := square + twist
  let mixed := Residue.minus prime
    (times (left.x + left.y) (right.x + right.y)) (across + along)
  ⟨times scale (times lower mixed), times scale (times upper (along + across)), times lower upper⟩

/-- The sum of `2 ^ bits` times the start and the bits of a number times a point. -/
def multiplyBits (point : Point) (number : Nat) : (bits : Nat) → Point → Point
  | 0, sum => sum
  | bits + 1, sum =>
      let doubled := add sum sum
      multiplyBits point number bits
        (if number.testBit bits then add doubled point else doubled)

def size : Nat := 32

def lowestFirst (bytes : List UInt8) : Nat :=
  bytes.foldr (fun byte number => byte.toNat + 256 * number) 0

def highestBit : Nat :=
  0x4000000000000000000000000000000000000000000000000000000000000000

/-- The secret number: the first half of the digest, with bit 254 as its highest and no bit below
bit 3. -/
def secret (seed : List UInt8) : Nat :=
  let number := lowestFirst ((LongDigest.ofBytes seed).take size)
  highestBit + (number % highestBit - number % 8)

/-- The public key: `y`, and whether `x` is odd in the highest bit. -/
def publicPoint (seed : List UInt8) : List UInt8 :=
  let point := multiplyBits generator (secret seed) 255 neutral
  let inverse := Residue.invert prime point.z
  let x := times point.x inverse
  let y := times point.y inverse
  let number := y + 2 * highestBit * (x % 2)
  (List.range size).map fun place => UInt8.ofNat (number / Nat.pow 256 place)

end DesktopGateway.Trust.SeedKey
