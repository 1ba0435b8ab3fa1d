import DesktopGateway.Net.Address
import DesktopGateway.Text.Parts
import DesktopGateway.Text.Quoted

/-!
# Host names

The name that a server proves to have: a domain name or an address.
-/

namespace DesktopGateway.Net

open DesktopGateway.Text

namespace DomainName

def isLetter (char : Char) : Bool :=
  ('a' ≤ char && char ≤ 'z') || ('A' ≤ char && char ≤ 'Z') || char = '_'

def isDigit (char : Char) : Bool :=
  '0' ≤ char && char ≤ '9'

def longestLabel : Nat := 63
def longestName : Nat := 253

/-- A label starts with a letter or a digit and does not end with a hyphen. -/
def isLabel (label : List Char) : Bool :=
  label.length ≤ longestLabel &&
    label.all (fun char => isLetter char || isDigit char || char = '-') &&
    label.head?.any (· ≠ '-') && label.getLast?.any (· ≠ '-')

/-- Labels between dots, with or without a dot at the end; the last label is no number. -/
def isName (name : String) : Bool :=
  let labels := Parts.of '.' name.toList
  let labels := if 1 < labels.length && labels.getLast? = some [] then labels.dropLast else labels
  name.utf8ByteSize ≤ longestName && labels.all isLabel &&
    labels.getLast?.any fun label => !label.all isDigit

end DomainName

inductive HostName where
  | domain (name : String)
  | address (address : IpAddress)
  deriving DecidableEq, Repr

namespace HostName

def ofText? (text : String) : Option HostName :=
  if DomainName.isName text then some (.domain text)
  else (IpAddress.ofText? text).map .address

def byteList (address : IpAddress) : String :=
  "[" ++ String.intercalate ", " (address.bytes.map toString) ++ "]"

def summary : HostName → String
  | domain name => s!"DnsName({Quoted.quote name})"
  | address (.four octets) => s!"IpAddress(V4(Ipv4Addr({byteList (.four octets)})))"
  | address (.six groups) => s!"IpAddress(V6(Ipv6Addr({byteList (.six groups)})))"

end HostName

end DesktopGateway.Net
