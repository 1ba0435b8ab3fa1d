import DesktopGateway.Host.Failure
import DesktopGateway.Net.Address
import DesktopGateway.Text.Parts

/-!
# Networks

A network finds the addresses of a name, and answers those who connect to an address or want to
listen on it.
-/

namespace DesktopGateway.Net

open DesktopGateway.Host
open DesktopGateway.Text

structure Network where
  lookUp : String → Except Failure (List IpAddress)
  connect : SocketAddress → Except Failure Unit
  listen : SocketAddress → Except Failure Unit

namespace Network

def noPort : Failure :=
  .described .invalidInput "invalid socket address"

def badPort : Failure :=
  .described .invalidInput "invalid port value"

def noAddress : Failure :=
  .described .invalidInput "could not resolve to any address"

def port? (text : List Char) : Option UInt16 :=
  let digits := match text with | '+' :: rest => rest | _ => text
  match IpAddress.readNumber 10 digits with
  | some (_, value, []) => if value < 0x10000 then some (UInt16.ofNat value) else none
  | _ => none

/-- The addresses of a target, which is an address or a name with a port. -/
def addresses (network : Network) (target : String) : Except Failure (List SocketAddress) :=
  match SocketAddress.ofText? target with
  | some address => .ok [address]
  | none =>
      match Parts.atLast? ':' target.toList with
      | none => .error noPort
      | some (name, digits) =>
          match port? digits with
          | none => .error badPort
          | some port =>
              match IpAddress.ofText? (String.ofList name) with
              | some host => .ok [⟨host, port, 0⟩]
              | none =>
                  (network.lookUp (String.ofList name)).map fun hosts =>
                    hosts.map fun host => ⟨host, port, 0⟩

/-- The first address that answers, or the last failure. -/
def firstThat (answer : SocketAddress → Except Failure Unit) :
    List SocketAddress → Failure → Except Failure SocketAddress
  | [], failure => .error failure
  | address :: later, _ =>
      match answer address with
      | .ok () => .ok address
      | .error failure => firstThat answer later failure

def connectTo (network : Network) (target : String) : Except Failure SocketAddress :=
  (network.addresses target).bind fun found => firstThat network.connect found noAddress

def listenOn (network : Network) (target : String) : Except Failure SocketAddress :=
  (network.addresses target).bind fun found => firstThat network.listen found noAddress

end Network

end DesktopGateway.Net
