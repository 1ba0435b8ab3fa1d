import DesktopGateway.Trust.Armour
import DesktopGateway.Trust.Certificate
import DesktopGateway.Trust.Digest
import DesktopGateway.Trust.PrivateKey
import DesktopGateway.Volume.Texts

/-!
# Trust material

What one side of a connection needs to prove itself and to check the other: the authorities that it
trusts, its own certificates and its private key, as armoured texts.
-/

namespace DesktopGateway.Trust

open DesktopGateway.Host
open DesktopGateway.Text

inductive Failure where
  | generation (text : String)
  | material (text : String)
  | file (path : String) (failure : Host.Failure)
  | stream (failure : Host.Failure)
  deriving DecidableEq, Repr

namespace Failure

def message : Failure → String
  | generation text => s!"Zertifikat-Generierung fehlgeschlagen: {text}"
  | material text => s!"TLS-Fehler: {text}"
  | file path failure => s!"Datei '{path}' nicht lesbar: {failure.message}"
  | stream failure => s!"IO-Fehler: {failure.message}"

def label : Failure → String
  | generation _ => "ZertifikatGenerierung"
  | material _ => "Tls"
  | file .. => "Datei"
  | stream _ => "Io"

end Failure

structure Material where
  authorities : String
  certificates : String
  key : String
  deriving DecidableEq, Repr

namespace Material

def certificatesIn (text : String) : Except Failure (List (List UInt8)) :=
  match Armour.read text with
  | (_, some fault) =>
      .error (.material s!"Zertifikat-Parsing fehlgeschlagen: {fault.message}")
  | (blocks, none) =>
      .ok ((blocks.filter fun block => block.kind = .certificate).map Armour.Block.bytes)

def keyIn (text : String) : Except Failure Armour.Block :=
  let (blocks, fault) := Armour.read text
  match blocks.find? fun block => PrivateKey.isKey block.kind, fault with
  | some block, _ => .ok block
  | none, some fault =>
      .error (.material s!"Schluessel-Parsing fehlgeschlagen: {fault.message}")
  | none, none => .error (.material "Kein privater Schluessel gefunden")

/-- The authorities, all of which have to be certificates. -/
def trusted (material : Material) : Except Failure (List (List UInt8)) := do
  let found ← certificatesIn material.authorities
  for bytes in found do
    match Certificate.checkAnchor bytes with
    | .ok () => pure ()
    | .error fault => throw (.material s!"CA-Zertifikat ungueltig: {fault.message}")
  if found.isEmpty then throw (.material "Kein CA-Zertifikat gefunden")
  return found

def unknownKey : String :=
  "unexpected error: failed to parse private key as RSA, ECDSA, or EdDSA"

/-- The key that belongs to the first of the own certificates. -/
def identity (material : Material) : Except Failure PrivateKey := do
  let chain ← certificatesIn material.certificates
  let block ← keyIn material.key
  let key ← match PrivateKey.ofBlock? block with
    | some key => .ok key
    | none => .error (.material unknownKey)
  match chain with
  | [] => throw (.material "peer sent no certificates")
  | first :: _ =>
      match Certificate.ofBytes first with
      | .error fault => throw (.material fault.message)
      | .ok certificate =>
          if certificate.publicKey = key.publicKey then return key
          else throw (.material "keys may not be consistent: KeyMismatch")

/-- A side of a connection, which has to prove itself to the other. -/
structure Party where
  trusted : List (List UInt8)
  key : PrivateKey
  deriving DecidableEq, Repr

/-- Make ready for connections, as the side that accepts them or as the one that opens them. -/
def party (material : Material) : Except Failure Party := do
  let trusted ← material.trusted
  let key ← material.identity
  return ⟨trusted, key⟩

def fingerprint (material : Material) : Except Failure String := do
  match ← certificatesIn material.certificates with
  | [] => throw (.material "Kein Zertifikat gefunden")
  | first :: _ => return Digest.fingerprint first

def summary (material : Material) : String :=
  let shown := match material.fingerprint with
    | .ok fingerprint => s!"Some({Quoted.quote fingerprint})"
    | .error _ => "None"
  s!"TlsMaterial \x7b fingerprint: {shown}, .. \x7d"

def authoritiesFile : String := "ca.crt"
def certificatesFile : String := "tls.crt"
def keyFile : String := "tls.key"

def load (readText : String → Except Host.Failure String)
    (authorities certificates key : String) : Except Failure Material := do
  let read (path : String) := (readText path).mapError (Failure.file path)
  let authorities ← read authorities
  let certificates ← read certificates
  let key ← read key
  return ⟨authorities, certificates, key⟩

def loadDirectory (volume : Volume) (directory : String) : Except Failure Material :=
  load volume.readText s!"{directory}/{authoritiesFile}" s!"{directory}/{certificatesFile}"
    s!"{directory}/{keyFile}"

def storeDirectory (material : Material) (credentials : Volume.Credentials) (directory : String)
    (volume : Volume) : Except Failure Unit × Volume :=
  let path := Utf8.encode directory
  match Volume.ensureDirectories credentials path.length path volume with
  | .error failure => (.error (.stream failure), volume)
  | .ok volume =>
      let files := [(authoritiesFile, material.authorities),
        (certificatesFile, material.certificates), (keyFile, material.key)]
      files.foldl
        (fun (result, volume) (name, text) =>
          match result with
          | .error failure => (.error failure, volume)
          | .ok () =>
              match volume.writeText credentials s!"{directory}/{name}" text with
              | .ok volume => (.ok (), volume)
              | .error failure => (.error (.stream failure), volume))
        (.ok (), volume)

end Material

end DesktopGateway.Trust
