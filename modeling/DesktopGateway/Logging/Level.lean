/-!
# Levels

How much an event matters, and from where on events are let through.
-/

namespace DesktopGateway.Logging

inductive Level where
  | error
  | warn
  | info
  | debug
  | trace
  deriving DecidableEq, Repr

namespace Level

def all : List Level :=
  [error, warn, info, debug, trace]

def name : Level → String
  | error => "ERROR"
  | warn => "WARN"
  | info => "INFO"
  | debug => "DEBUG"
  | trace => "TRACE"

/-- The higher the number, the less an event matters. -/
def number : Level → Nat
  | error => 1
  | warn => 2
  | info => 3
  | debug => 4
  | trace => 5

end Level

/-- Events up to a number are let through; none at zero. -/
structure Threshold where
  number : Nat
  deriving DecidableEq, Repr

namespace Threshold

def off : Threshold := ⟨0⟩

def upTo (level : Level) : Threshold :=
  ⟨level.number⟩

def allows (threshold : Threshold) (level : Level) : Bool :=
  level.number ≤ threshold.number

def names : List (String × Threshold) :=
  [("off", off), ("error", upTo .error), ("warn", upTo .warn), ("info", upTo .info),
    ("debug", upTo .debug), ("trace", upTo .trace)]

/-- A digit text, perhaps with a plus sign. -/
def number? (text : String) : Option Nat :=
  let digits := match text.toList with | '+' :: rest => rest | all => all
  if !digits.isEmpty && digits.all Char.isDigit then
    some (digits.foldl (fun value char => 10 * value + (char.toNat - 48)) 0)
  else none

/-- A threshold by its number or by its name in letters of any case. -/
def ofText? (text : String) : Option Threshold :=
  match number? text with
  | some number => if number ≤ 5 then some ⟨number⟩ else none
  | none => if text.isEmpty then some (upTo .error) else names.lookup text.toLower

end Threshold

def isLevel (text : String) : Bool :=
  ["trace", "debug", "info", "warn", "error"].contains text

def isFormat (text : String) : Bool :=
  ["text", "json"].contains text

end DesktopGateway.Logging
