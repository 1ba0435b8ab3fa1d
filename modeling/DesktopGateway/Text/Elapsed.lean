/-!
# Spans of time

A span as a number with the largest unit that it fills, and with no zeros at the end of its
fraction.
-/

namespace DesktopGateway.Text.Elapsed

def fraction (places value : Nat) : String :=
  let digits := (Nat.toDigits 10 value)
  let padded := List.replicate (places - digits.length) '0' ++ digits
  let kept := (padded.reverse.dropWhile (· = '0')).reverse
  if kept.isEmpty then "" else "." ++ String.ofList kept

def unit (nanoseconds places : Nat) (name : String) : String :=
  let whole := nanoseconds / Nat.pow 10 places
  toString whole ++ fraction places (nanoseconds % Nat.pow 10 places) ++ name

def ofNanoseconds (nanoseconds : Nat) : String :=
  if 1000000000 ≤ nanoseconds then unit nanoseconds 9 "s"
  else if 1000000 ≤ nanoseconds then unit nanoseconds 6 "ms"
  else if 1000 ≤ nanoseconds then unit nanoseconds 3 "µs"
  else unit nanoseconds 0 "ns"

def ofMicroseconds (microseconds : Nat) : String :=
  ofNanoseconds (1000 * microseconds)

end DesktopGateway.Text.Elapsed
