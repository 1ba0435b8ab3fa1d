/-!
# Services and verdicts

A connection opens with the byte of one service. A reply opens with the byte of a verdict.
-/

namespace DesktopGateway.Wire

inductive Service where
  | display
  | audio
  | stat
  | fetch
  | store
  deriving DecidableEq, Repr

namespace Service

def all : List Service :=
  [display, audio, stat, fetch, store]

def code : Service → UInt8
  | display => 1
  | audio => 2
  | stat => 3
  | fetch => 4
  | store => 5

def ofCode? (byte : UInt8) : Option Service :=
  all.find? fun service => service.code = byte

def name : Service → String
  | display => "display"
  | audio => "audio"
  | stat => "stat-file"
  | fetch => "get-file"
  | store => "put-file"

def ofName? (wanted : String) : Option Service :=
  all.find? fun service => service.name = wanted

def title : Service → String
  | display => "Display"
  | audio => "Audio"
  | stat => "FStat"
  | fetch => "FGet"
  | store => "FPut"

theorem mem_all (service : Service) : service ∈ all := by
  cases service <;> decide

theorem ofCode?_code (service : Service) : ofCode? service.code = some service := by
  cases service <;> rfl

theorem code_of_ofCode? {byte : UInt8} {service : Service} (found : ofCode? byte = some service) :
    service.code = byte := by
  simpa using List.find?_some found

end Service

inductive Verdict where
  | accepted
  | refused
  deriving DecidableEq, Repr

namespace Verdict

def code : Verdict → UInt8
  | accepted => 1
  | refused => 2

def ofCode? (byte : UInt8) : Option Verdict :=
  if byte = 1 then some accepted else if byte = 2 then some refused else none

def name : Verdict → String
  | accepted => "Ok"
  | refused => "Failed"

theorem ofCode?_code (verdict : Verdict) : ofCode? verdict.code = some verdict := by
  cases verdict <;> rfl

end Verdict

end DesktopGateway.Wire
