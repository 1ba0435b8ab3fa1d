/-!
# Display addresses

Where the display server of the session listens: on a port of a host or on a local socket.
-/

namespace DesktopGateway.Settings

inductive DisplayAddress where
  | host (target : String)
  | socket (path : String)
  deriving DecidableEq, Repr

inductive AddressFault where
  | noTarget (address : String)
  | noPath (address : String)
  | unknownScheme (address : String)
  deriving DecidableEq, Repr

def AddressFault.message : AddressFault → String
  | noTarget address => s!"Display-Adresse '{address}' ohne Ziel"
  | noPath address => s!"Display-Adresse '{address}' ohne Socket-Pfad"
  | unknownScheme address =>
      s!"Display-Adresse '{address}' muss mit tcp:// oder unix:// beginnen"

namespace DisplayAddress

/-- What stands behind the scheme of an address. -/
def behind? (scheme address : String) : Option String :=
  if scheme.toList.isPrefixOf address.toList then
    some (String.ofList (address.toList.drop scheme.toList.length))
  else none

def parse (address : String) : Except AddressFault DisplayAddress :=
  match behind? "tcp://" address with
  | some target => if target.isEmpty then .error (.noTarget address) else .ok (.host target)
  | none =>
      match behind? "unix://" address with
      | some path => if path.isEmpty then .error (.noPath address) else .ok (.socket path)
      | none => .error (.unknownScheme address)

def toString : DisplayAddress → String
  | host target => "tcp://" ++ target
  | socket path => "unix://" ++ path

end DisplayAddress

end DesktopGateway.Settings
