/-!
# Residues

Arithmetic in a prime field, on natural numbers. Every result is below the prime.
-/

namespace DesktopGateway.Trust.Residue

variable (prime : Nat)

def times (left right : Nat) : Nat :=
  left * right % prime

def minus (left right : Nat) : Nat :=
  (left + prime - right % prime) % prime

/-- A power, from the highest bit of the exponent down. -/
def powerBits (base exponent : Nat) : (bits : Nat) → Nat → Nat
  | 0, result => result
  | bits + 1, result =>
      let squared := times prime result result
      powerBits base exponent bits
        (if exponent.testBit bits then times prime squared base else squared)

def invert (number : Nat) : Nat :=
  powerBits prime number (prime - 2) (prime.log2 + 1) 1

end DesktopGateway.Trust.Residue
