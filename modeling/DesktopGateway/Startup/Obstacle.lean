import DesktopGateway.Net.Address
import DesktopGateway.Settings.File
import DesktopGateway.Trust.Material

/-!
# Obstacles

Why the gateway does not start. The report of an obstacle names it and, below, what caused it.
-/

namespace DesktopGateway.Startup

inductive Obstacle where
  | settings (fault : Settings.FileFault)
  | noMaterial (failure : Trust.Failure)
  | badMaterial (failure : Trust.Failure)
  | monitoringAddress
  | displayAddress (fault : Settings.AddressFault)
  | notListening (address : String) (failure : Host.Failure)
  deriving DecidableEq, Repr

namespace Obstacle

def message : Obstacle → String
  | settings fault => fault.message
  | noMaterial _ => "mTLS-Material konnte nicht geladen werden"
  | badMaterial failure => failure.message
  | monitoringAddress => "Ungueltige Observability-Adresse"
  | displayAddress fault => fault.message
  | notListening address _ => s!"Proxy konnte nicht an {address} binden"

def sources : Trust.Failure → List String
  | .file _ failure => [failure.message]
  | _ => []

def causes : Obstacle → List String
  | settings _ => []
  | noMaterial failure => failure.message :: sources failure
  | badMaterial failure => sources failure
  | monitoringAddress => [Net.SocketAddress.syntaxFault]
  | displayAddress _ => []
  | notListening _ failure => [failure.message]

/-- A cause stands on a line of its own, with its number if there are several. -/
def causeLines (causes : List String) : List String :=
  match causes with
  | [cause] => [s!"    {cause}\n"]
  | causes => causes.zipIdx.map fun (cause, number) => s!"    {number}: {cause}\n"

def report (obstacle : Obstacle) : String :=
  let headline := s!"Error: {obstacle.message}\n"
  if obstacle.causes.isEmpty then headline
  else headline ++ "\nCaused by:\n" ++ String.join (causeLines obstacle.causes)

end Obstacle

end DesktopGateway.Startup
