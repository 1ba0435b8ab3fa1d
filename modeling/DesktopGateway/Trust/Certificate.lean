import DesktopGateway.Trust.Der

/-!
# Certificates

A certificate is read for its shape and for the public key that it is about. What it says about
names and times is left to the handshake.
-/

namespace DesktopGateway.Trust

inductive CertificateFault where
  | encoding
  | version
  | algorithms
  | criticalExtension
  deriving DecidableEq, Repr

def CertificateFault.message : CertificateFault → String
  | encoding => "invalid peer certificate: BadEncoding"
  | version => "invalid peer certificate: Other(OtherError(UnsupportedCertVersion))"
  | algorithms => "invalid peer certificate: Other(OtherError(SignatureAlgorithmMismatch))"
  | criticalExtension =>
      "invalid peer certificate: Other(OtherError(UnsupportedCriticalExtension))"

structure Certificate where
  publicKey : List UInt8
  deriving DecidableEq, Repr

namespace Certificate

open Der

/-- The last numbers of the names of the extensions that are understood: key usage, alternative
names, basic constraints, name constraints, distribution points, extended key usage. -/
def understood : List UInt8 :=
  [15, 17, 19, 30, 31, 37]

def checkExtension (bytes : List UInt8) : Except CertificateFault Unit :=
  match expect objectName bytes with
  | none => .error .encoding
  | some (name, rest) =>
      let (critical, rest) :=
        match rest with
        | 0x01 :: 0x01 :: 0xFF :: rest => (true, rest)
        | rest => (false, rest)
      let known :=
        match name with
        | [0x55, 0x1D, last] => understood.contains last
        | _ => false
      if (expectAll byteString rest).isNone then .error .encoding
      else if critical && !known then .error .criticalExtension
      else .ok ()

/-- All extensions, each in a sequence of its own. -/
def checkExtensions : (fuel : Nat) → List UInt8 → Except CertificateFault Unit
  | _, [] => .ok ()
  | 0, _ => .error .encoding
  | fuel + 1, bytes =>
      match expect sequence bytes with
      | none => .error .encoding
      | some (contents, rest) => do
          checkExtension contents
          checkExtensions fuel rest

/-- What may stand behind the public key: nothing, or the extensions. -/
def checkTail (tail : List UInt8) : Except CertificateFault Unit :=
  if tail.isEmpty then .ok ()
  else
    match (expectAll (marked 3) tail).bind (expectAll sequence) with
    | none => .error .encoding
    | some extensions => checkExtensions extensions.length extensions

def readBody (body : List UInt8) : Option (List UInt8 × List UInt8 × List UInt8) := do
  let (_, body) ← expect integer body
  let (algorithm, body) ← expect sequence body
  let (_, body) ← expect sequence body
  let (_, body) ← expect sequence body
  let (_, body) ← expect sequence body
  let (publicKey, tail) ← expect sequence body
  return (algorithm, publicKey, tail)

def readSigned (bytes : List UInt8) : Option (List UInt8 × List UInt8) := do
  let contents ← expectAll sequence bytes
  let (body, rest) ← expect sequence contents
  let (algorithm, rest) ← expect sequence rest
  let signature ← expectAll bitString rest
  let _ ← wholeBits signature
  return (body, algorithm)

/-- Only the third version is read, whose number is two. -/
def readVersion (body : List UInt8) : Except CertificateFault (List UInt8) :=
  match expect (marked 0) body with
  | none => .error .version
  | some (contents, rest) => if contents = [0x02, 0x01, 0x02] then .ok rest else .error .version

def ofBytes (bytes : List UInt8) : Except CertificateFault Certificate :=
  match readSigned bytes with
  | none => .error .encoding
  | some (body, algorithm) => do
      let body ← readVersion body
      match readBody body with
      | none => .error .encoding
      | some (inner, publicKey, tail) =>
          if inner ≠ algorithm then .error .algorithms
          else do
            checkTail tail
            return ⟨publicKey⟩

/-- An authority's certificate may be of an older version. -/
def checkAnchor (bytes : List UInt8) : Except CertificateFault Unit :=
  match ofBytes bytes with
  | .ok _ => .ok ()
  | .error .version =>
      match (readSigned bytes).bind fun signed => readBody signed.1 with
      | some _ => .ok ()
      | none => .error .encoding
  | .error fault => .error fault

end Certificate

end DesktopGateway.Trust
