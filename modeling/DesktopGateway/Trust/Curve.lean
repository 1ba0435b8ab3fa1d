import DesktopGateway.Trust.Residue

/-!
# Curves

Points of the curves `y² = x³ - 3x + b` over a prime field, and the public point of a secret number.
A point is held with a third coordinate, so that only one division is needed at the end.
-/

namespace DesktopGateway.Trust

structure Curve where
  prime : Nat
  order : Nat
  generator : Nat × Nat
  bytes : Nat
  objectName : List UInt8
  deriving DecidableEq, Repr

namespace Curve

def p256 : Curve where
  prime := 0xffffffff00000001000000000000000000000000ffffffffffffffffffffffff
  order := 0xffffffff00000000ffffffffffffffffbce6faada7179e84f3b9cac2fc632551
  generator := (0x6b17d1f2e12c4247f8bce6e563a440f277037d812deb33a0f4a13945d898c296,
    0x4fe342e2fe1a7f9b8ee7eb4a7c0f9e162bce33576b315ececbb6406837bf51f5)
  bytes := 32
  objectName := [0x2a, 0x86, 0x48, 0xce, 0x3d, 0x03, 0x01, 0x07]

def p384 : Curve where
  prime := 0xfffffffffffffffffffffffffffffffffffffffffffffffffffffffffffffffeffffffff0000000000000000ffffffff
  order := 0xffffffffffffffffffffffffffffffffffffffffffffffffc7634d81f4372ddf581a0db248b0a77aecec196accc52973
  generator := (0xaa87ca22be8b05378eb1c71ef320ad746e1d3b628ba79b9859f741e082542a385502f25dbf55296c3a545e3872760ab7,
    0x3617de4a96262c6f5d9e98bf9292dc29f8f41dbd289a147ce9da3113b5f0b8c00a60b1ce1d7e819d7a431d7c90ea0e5f)
  bytes := 48
  objectName := [0x2b, 0x81, 0x04, 0x00, 0x22]

/-- The point with `x / z²` and `y / z³`; at infinity where `z` is zero. -/
structure Point where
  x : Nat
  y : Nat
  z : Nat
  deriving DecidableEq, Repr

def infinity : Point := ⟨1, 1, 0⟩

variable (curve : Curve)

def times (left right : Nat) : Nat :=
  Residue.times curve.prime left right

def minus (left right : Nat) : Nat :=
  Residue.minus curve.prime left right

def double (point : Point) : Point :=
  let square := curve.times point.z point.z
  let ySquare := curve.times point.y point.y
  let cross := curve.times point.x ySquare
  let slope := curve.times 3 (curve.times (curve.minus point.x square) (point.x + square))
  let x := curve.minus (curve.times slope slope) (8 * cross)
  let y := curve.minus (curve.times slope (curve.minus (4 * cross) x))
    (8 * curve.times ySquare ySquare)
  ⟨x, y, curve.times 2 (curve.times point.y point.z)⟩

def add (left right : Point) : Point :=
  if left.z = 0 then right
  else if right.z = 0 then left
  else
    let leftSquare := curve.times left.z left.z
    let rightSquare := curve.times right.z right.z
    let leftX := curve.times left.x rightSquare
    let rightX := curve.times right.x leftSquare
    let leftY := curve.times left.y (curve.times rightSquare right.z)
    let rightY := curve.times right.y (curve.times leftSquare left.z)
    if leftX = rightX then if leftY = rightY then curve.double left else infinity
    else
      let across := curve.minus rightX leftX
      let along := curve.minus rightY leftY
      let square := curve.times across across
      let cube := curve.times square across
      let shifted := curve.times leftX square
      let x := curve.minus (curve.minus (curve.times along along) cube) (2 * shifted)
      let y := curve.minus (curve.times along (curve.minus shifted x)) (curve.times leftY cube)
      ⟨x, y, curve.times across (curve.times left.z right.z)⟩

/-- The sum of `2 ^ bits` times the doubled start and the bits of a number times a point. -/
def multiplyBits (point : Point) (number : Nat) : (bits : Nat) → Point → Point
  | 0, sum => sum
  | bits + 1, sum =>
      let doubled := curve.double sum
      multiplyBits point number bits
        (if number.testBit bits then curve.add doubled point else doubled)

def multiply (number : Nat) (point : Point) : Point :=
  curve.multiplyBits point number (number.log2 + 1) infinity

def fixedBytes (count number : Nat) : List UInt8 :=
  (List.range count).map fun place => UInt8.ofNat (number / Nat.pow 256 (count - 1 - place))

/-- The public point of a secret number, as it is written: a mark and two coordinates. -/
def publicPoint (secret : Nat) : List UInt8 :=
  let point := curve.multiply secret ⟨curve.generator.1, curve.generator.2, 1⟩
  let inverse := Residue.invert curve.prime point.z
  let square := curve.times inverse inverse
  0x04 :: fixedBytes curve.bytes (curve.times point.x square) ++
    fixedBytes curve.bytes (curve.times point.y (curve.times square inverse))

end Curve

end DesktopGateway.Trust
