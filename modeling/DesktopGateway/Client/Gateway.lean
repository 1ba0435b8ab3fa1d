import DesktopGateway.Net.HostName

/-!
# Gateways

A client knows a gateway by its address, a host with a port, and by the name that the gateway has to
prove.
-/

namespace DesktopGateway.Client

open DesktopGateway.Net
open DesktopGateway.Text

structure Gateway where
  address : String
  name : HostName
  deriving DecidableEq, Repr

inductive GatewayFault where
  | badAddress (address : String)
  | badName (name : String)
  deriving DecidableEq, Repr

namespace GatewayFault

def message : GatewayFault → String
  | badAddress address => s!"Ungueltige Serveradresse '{address}'"
  | badName name => s!"Ungueltiger TLS-Servername '{name}'"

def label : GatewayFault → String
  | badAddress _ => "UngueltigeAdresse"
  | badName _ => "UngueltigerServerName"

end GatewayFault

namespace Gateway

def inBrackets? : List Char → Option (List Char)
  | '[' :: rest => if rest.getLast? = some ']' then some rest.dropLast else none
  | _ => none

/-- The host of an address; a host in brackets stands without them. -/
def hostOf? (address : List Char) : Option (List Char) :=
  match Parts.atLast? ':' address with
  | none => none
  | some (host, port) =>
      if port.isEmpty || host.isEmpty then none else some ((inBrackets? host).getD host)

def nameOf (name : String) : Except GatewayFault HostName :=
  match HostName.ofText? name with
  | some found => .ok found
  | none => .error (.badName name)

/-- The gateway at an address; its name is the host of the address. -/
def ofAddress (address : String) : Except GatewayFault Gateway := do
  let host ← match hostOf? address.toList with
    | some host => .ok (String.ofList host)
    | none => .error (.badAddress address)
  let name ← nameOf host
  return ⟨address, name⟩

def rename (gateway : Gateway) (name : String) : Except GatewayFault Gateway :=
  (nameOf name).map fun name => { gateway with name := name }

def summary (gateway : Gateway) : String :=
  s!"ProxyClient \x7b adresse: {Quoted.quote gateway.address}, " ++
    s!"server_name: {gateway.name.summary} \x7d"

end Gateway

end DesktopGateway.Client
