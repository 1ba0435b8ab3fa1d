/-!
# Shortest numbers

A natural number as it is shown after it has been rounded to a significand of 53 binary digits: of
all decimal numbers that round to the same value, one with as few digits as possible, and of those
the nearest.
-/

namespace DesktopGateway.Text.Shortest

/-- How many binary digits a significand has at the most. -/
def precision : Nat := 53

structure Rounded where
  significand : Nat
  exponent : Nat
  deriving DecidableEq, Repr

namespace Rounded

def value (rounded : Rounded) : Nat :=
  rounded.significand * Nat.pow 2 rounded.exponent

/-- The nearest rounded number; a half goes to the even neighbour. -/
def ofNat (number : Nat) : Rounded :=
  let exponent := number.log2 + 1 - precision
  let unit := Nat.pow 2 exponent
  let below := number / unit
  let twice := 2 * (number % unit)
  let significand := if unit < twice || (twice = unit && below % 2 = 1) then below + 1 else below
  if significand = Nat.pow 2 precision then ⟨Nat.pow 2 (precision - 1), exponent + 1⟩
  else ⟨significand, exponent⟩

/-- A number lies no further away than half the way to the next rounded numbers. The way down from
a power of two is half as long as the way up. -/
def covers (rounded : Rounded) (number : Nat) : Bool :=
  let unit := Nat.pow 2 rounded.exponent
  let down := if rounded.significand = Nat.pow 2 (precision - 1) then unit else 2 * unit
  let low := 4 * rounded.value - down
  let high := 4 * rounded.value + 2 * unit
  if rounded.significand % 2 = 0 then low ≤ 4 * number && 4 * number ≤ high
  else low < 4 * number && 4 * number < high

/-- The nearest multiple of a unit that the number covers. -/
def onGrid? (rounded : Rounded) (unit : Nat) : Option Nat :=
  let below := rounded.value / unit * unit
  let above := if below = rounded.value then below else below + unit
  match rounded.covers below, rounded.covers above with
  | true, true =>
      some (if rounded.value - below < above - rounded.value then below else above)
  | true, false => some below
  | false, true => some above
  | false, false => none

end Rounded

/-- The powers of ten that can end a number, the highest first. -/
def places : List Nat :=
  (List.range 21).reverse

def ofNat (number : Nat) : Nat :=
  let rounded := Rounded.ofNat number
  (places.findSome? fun place => rounded.onGrid? (Nat.pow 10 place)).getD rounded.value

def text (number : Int) : String :=
  if number < 0 then "-" ++ toString (ofNat number.natAbs) else toString (ofNat number.natAbs)

end DesktopGateway.Text.Shortest
