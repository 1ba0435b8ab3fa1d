import DesktopGateway.Net.HostName
import DesktopGateway.Text.Parts
import DesktopGateway.Trust.Material

/-!
# Issued certificates

An authority issues certificates for names. Two sides shake hands if each trusts the authority of
the other and the server has a certificate for the name that the client wants.
-/

namespace DesktopGateway.Trust

open DesktopGateway.Net
open DesktopGateway.Text

inductive Subject where
  | domain (name : String)
  | address (address : IpAddress)
  deriving DecidableEq, Repr

namespace Subject

/-- Names are addresses or plain text, for which only ASCII can be used. -/
def ofText (name : String) : Except Failure Subject :=
  match IpAddress.ofText? name with
  | some found => .ok (.address found)
  | none =>
      if name.toList.all fun char => char.toNat < 128 then .ok (.domain name)
      else .error (.generation s!"Invalid IA5String: '{name}'")

/-- A domain as a certificate may name it: a name, or a name with a star for its first label and two
labels behind it. -/
def isUsable (labels : List (List Char)) : Bool :=
  match labels with
  | ['*'] :: first :: second :: rest =>
      DomainName.isName (String.ofList (['.'].intercalate (first :: second :: rest)))
  | labels => DomainName.isName (String.ofList (['.'].intercalate labels))

/-- The labels of a name in small letters, without the empty one behind a last dot. -/
def labels (name : String) : List (List Char) :=
  let labels := Parts.of '.' name.toLower.toList
  if 1 < labels.length && labels.getLast? = some [] then labels.dropLast else labels

/-- Whether a certificate for a subject is one for a name. -/
def covers (subject : Subject) (wanted : HostName) : Bool :=
  match subject, wanted with
  | address issued, .address wanted => issued = wanted
  | domain issued, .domain wanted =>
      let issued := Parts.of '.' issued.toLower.toList
      isUsable issued &&
        match issued, labels wanted with
        | ['*'] :: behind, _ :: rest => behind = rest
        | issued, wanted => issued = wanted
  | _, _ => false

end Subject

/-- A certificate of one authority, for a server or for a client. -/
structure Issued where
  authority : Nat
  subjects : List Subject
  deriving DecidableEq, Repr

namespace Issued

def forServer (authority : Nat) (names : List String) : Except Failure Issued :=
  (names.mapM Subject.ofText).map fun subjects => ⟨authority, subjects⟩

def forClient (authority : Nat) (name : String) : Except Failure Issued :=
  (Subject.ofText name).map fun subject => ⟨authority, [subject]⟩

/-- The handshake as the client and as the server see it, both of which trust one authority. The
client is done before the server has seen its certificate. -/
def handshake (trusted : Nat) (server client : Issued) (wanted : HostName) : Bool × Bool :=
  let serverProven :=
    server.authority = trusted && server.subjects.any fun subject => subject.covers wanted
  (serverProven, serverProven && client.authority = trusted)

end Issued

end DesktopGateway.Trust
