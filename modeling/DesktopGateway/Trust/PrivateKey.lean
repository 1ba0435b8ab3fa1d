import DesktopGateway.Trust.Armour
import DesktopGateway.Trust.Curve
import DesktopGateway.Trust.Der
import DesktopGateway.Trust.SeedKey

/-!
# Private keys

The keys that can sign: numbers for RSA, secret numbers of two curves, and seeds. A key is only
accepted if its parts fit each other, and it gives the description of its public key.
-/

namespace DesktopGateway.Trust

open Der

inductive PrivateKey where
  | rsa (modulus exponent : Nat)
  | curve (base : Curve) (point : List UInt8)
  | seeded (point : List UInt8)
  deriving DecidableEq, Repr

namespace PrivateKey

def rsaName : List UInt8 :=
  [0x2a, 0x86, 0x48, 0x86, 0xf7, 0x0d, 0x01, 0x01, 0x01]

def curveName : List UInt8 :=
  [0x2a, 0x86, 0x48, 0xce, 0x3d, 0x02, 0x01]

def rsaAlgorithm : List UInt8 :=
  write objectName rsaName ++ write null []

def curveAlgorithm (base : Curve) : List UInt8 :=
  write objectName curveName ++ write objectName base.objectName

def seededAlgorithm : List UInt8 :=
  write objectName [0x2b, 0x65, 0x70]

def publicKey : PrivateKey → List UInt8
  | rsa modulus exponent =>
      write sequence rsaAlgorithm ++
        write bitString (0 :: write sequence (writeNatural modulus ++ writeNatural exponent))
  | curve base point => write sequence (curveAlgorithm base) ++ write bitString (0 :: point)
  | seeded point => write sequence seededAlgorithm ++ write bitString (0 :: point)

def bits (number : Nat) : Nat :=
  if number = 0 then 0 else number.log2 + 1

/-- The parts of an RSA key fit: the primes make the modulus, and the exponents undo each other
modulo each prime less one. -/
def fits (modulus exponent secret first second firstSecret secondSecret inverse : Nat) : Bool :=
  first * second = modulus && 2047 ≤ bits modulus && bits modulus ≤ 4096 &&
    2 * bits first = bits modulus + bits modulus % 2 && bits first = bits second &&
    65537 ≤ exponent && bits exponent ≤ 33 && exponent % 2 = 1 && secret % 2 = 1 &&
    secret < modulus && firstSecret < first - 1 && secondSecret < second - 1 &&
    exponent * firstSecret % (first - 1) = 1 && exponent * secondSecret % (second - 1) = 1 &&
    second * inverse % first = 1

def ofRsa? (bytes : List UInt8) : Option PrivateKey := do
  let contents ← expectAll sequence bytes
  match ← readNaturals 9 contents with
  | [version, modulus, exponent, secret, first, second, firstSecret, secondSecret, inverse] =>
      if version = 0 &&
          fits modulus exponent secret first second firstSecret secondSecret inverse then
        return rsa modulus exponent
      else none
  | _ => none

/-- A key of a curve: its secret number, perhaps the curve, and the public point. -/
def ofCurve? (base : Curve) (bytes : List UInt8) : Option PrivateKey := do
  let contents ← expectAll sequence bytes
  let (version, rest) ← readNatural contents
  let (secret, rest) ← expect byteString rest
  let rest ← match expect (marked 0) rest with
    | some (name, rest) => if name = write objectName base.objectName then some rest else none
    | none => some rest
  let point ← wholeBits (← expectAll bitString (← expectAll (marked 1) rest))
  let number := secret.foldl (fun number byte => 256 * number + byte.toNat) 0
  if version = 1 && secret.length = base.bytes && 0 < number && number < base.order &&
      base.publicPoint number = point then
    return curve base point
  else none

/-- The public point that a wrapped key claims to have. -/
def claimedPoint? (bytes : List UInt8) : Option (List UInt8) :=
  match expectAll (marked 1) bytes with
  | some contents => (expectAll bitString contents).bind wholeBits
  | none => (expectAll (contextual 1) bytes).bind wholeBits

/-- A key from its seed. Behind a seed of the second version stands the public point. -/
def ofSeed? (version : Nat) (bytes rest : List UInt8) : Option PrivateKey := do
  let seed ← expectAll byteString bytes
  let point := SeedKey.publicPoint seed
  let fits :=
    match version with
    | 0 => rest.isEmpty
    | 1 => claimedPoint? rest = some point
    | _ => false
  if seed.length = SeedKey.size && fits then return seeded point else none

/-- A wrapped key: its version, its algorithm, the inner key, and what stands behind them and the
attributes. -/
structure Wrapped where
  version : Nat
  algorithm : List UInt8
  inner : List UInt8
  rest : List UInt8
  deriving DecidableEq, Repr

def unwrap? (bytes : List UInt8) : Option Wrapped := do
  let contents ← expectAll sequence bytes
  let (version, rest) ← readNatural contents
  let (algorithm, rest) ← expect sequence rest
  let (inner, rest) ← expect byteString rest
  let rest := ((expect (marked 0) rest).map Prod.snd).getD rest
  return ⟨version, algorithm, inner, rest⟩

def ofWrapped? (bytes : List UInt8) : Option PrivateKey := do
  let wrapped ← unwrap? bytes
  if wrapped.algorithm = seededAlgorithm then ofSeed? wrapped.version wrapped.inner wrapped.rest
  else if wrapped.version ≠ 0 || !wrapped.rest.isEmpty then none
  else if wrapped.algorithm = rsaAlgorithm then ofRsa? wrapped.inner
  else if wrapped.algorithm = curveAlgorithm Curve.p256 then ofCurve? Curve.p256 wrapped.inner
  else if wrapped.algorithm = curveAlgorithm Curve.p384 then ofCurve? Curve.p384 wrapped.inner
  else none

def isKey (kind : Armour.Kind) : Bool :=
  kind = .rsaKey || kind = .curveKey || kind = .privateKey

def ofBlock? (block : Armour.Block) : Option PrivateKey :=
  match block.kind with
  | .rsaKey => ofRsa? block.bytes
  | .curveKey => (ofCurve? Curve.p256 block.bytes).or (ofCurve? Curve.p384 block.bytes)
  | .privateKey => ofWrapped? block.bytes
  | _ => none

end PrivateKey

end DesktopGateway.Trust
