import DesktopGateway.Settings.Datum
import DesktopGateway.Text.Parts
import DesktopGateway.Toml.Text

/-!
# Scalars

Truth values, numbers and moments. A scalar is one word; only a date may be followed by a blank and
a time.
-/

namespace DesktopGateway.Toml.Scalar

open DesktopGateway.Settings
open DesktopGateway.Text

def isWordChar (char : Char) : Bool :=
  char.isAlphanum || char = '+' || char = '-' || char = '_' || char = '.' || char = ':'

/-- Digits in groups with single underscores between them. -/
def grouped? (isDigit : Char → Bool) (word : List Char) : Option (List Char) :=
  let groups := Parts.of '_' word
  if groups.all fun group => !group.isEmpty && group.all isDigit then some groups.flatten else none

def isOctal (char : Char) : Bool :=
  '0' ≤ char && char ≤ '7'

def isBinary (char : Char) : Bool :=
  char = '0' || char = '1'

def numberOf (base : Nat) (digits : List Char) : Nat :=
  digits.foldl (fun value digit => base * value + (Text.hexValue? digit).getD 0) 0

/-- The digits of a decimal number that does not start with a needless zero. -/
def decimal? (word : List Char) : Option (List Char) :=
  match grouped? Char.isDigit word with
  | some ['0'] => some ['0']
  | some ('0' :: _) => none
  | other => other

def signed : List Char → Bool × List Char
  | '-' :: rest => (true, rest)
  | '+' :: rest => (false, rest)
  | rest => (false, rest)

def integer? (word : List Char) : Option Int :=
  match word with
  | '0' :: 'x' :: rest =>
      (grouped? (fun char => (Text.hexValue? char).isSome) rest).map fun digits =>
        Int.ofNat (numberOf 16 digits)
  | '0' :: 'o' :: rest => (grouped? isOctal rest).map fun digits => Int.ofNat (numberOf 8 digits)
  | '0' :: 'b' :: rest => (grouped? isBinary rest).map fun digits => Int.ofNat (numberOf 2 digits)
  | _ =>
      let (negative, rest) := signed word
      (decimal? rest).map fun digits =>
        let value := Int.ofNat (numberOf 10 digits)
        if negative then -value else value

def inRange (value : Int) : Bool :=
  -0x8000000000000000 ≤ value && value < 0x8000000000000000

/-- A whole part with a fraction or none. -/
def isMantissa (word : List Char) : Bool :=
  match Parts.of '.' word with
  | [whole] => (decimal? whole).isSome
  | [whole, fraction] => (decimal? whole).isSome && (grouped? Char.isDigit fraction).isSome
  | _ => false

def isFloat (word : List Char) : Bool :=
  let rest := (signed word).2
  let small := rest.map Char.toLower
  if rest = ['i', 'n', 'f'] || rest = ['n', 'a', 'n'] then true
  else
    match Parts.of 'e' small with
    | [mantissa] => mantissa.contains '.' && isMantissa mantissa
    | [mantissa, exponent] =>
        isMantissa mantissa && (grouped? Char.isDigit (signed exponent).2).isSome
    | _ => false

def fixed? (width : Nat) (word : List Char) : Option Nat :=
  if word.length = width && word.all Char.isDigit then some (numberOf 10 word) else none

def isLeap (year : Nat) : Bool :=
  year % 4 = 0 && (year % 100 != 0 || year % 400 = 0)

def daysOf (year month : Nat) : Nat :=
  if month = 2 then if isLeap year then 29 else 28
  else if month = 4 || month = 6 || month = 9 || month = 11 then 30
  else 31

def isDate (word : List Char) : Bool :=
  match (Parts.of '-' word) with
  | [year, month, day] =>
      match fixed? 4 year, fixed? 2 month, fixed? 2 day with
      | some year, some month, some day =>
          1 ≤ month && month ≤ 12 && 1 ≤ day && day ≤ daysOf year month
      | _, _, _ => false
  | _ => false

/-- A number of two digits that is not larger than `most`. -/
def isPair (most : Nat) (word : List Char) : Bool :=
  match fixed? 2 word with
  | some value => value ≤ most
  | none => false

def isClock (word : List Char) : Bool :=
  match Parts.of ':' word with
  | [hour, minute, second] =>
      let (whole, fraction) := (second.take 2, second.drop 2)
      let fine := match fraction with
        | [] => true
        | '.' :: digits => !digits.isEmpty && digits.all Char.isDigit
        | _ => false
      isPair 23 hour && isPair 59 minute && isPair 60 whole && fine
  | _ => false

def isOffset (word : List Char) : Bool :=
  match word with
  | [] => true
  | ['Z'] | ['z'] => true
  | sign :: rest =>
      (sign = '+' || sign = '-') &&
        match Parts.of ':' rest with
        | [hour, minute] => isPair 23 hour && isPair 59 minute
        | _ => false

/-- A clock time with an offset or none. -/
def isClockWithOffset (word : List Char) : Bool :=
  let clock := word.takeWhile fun char => char.isDigit || char = ':' || char = '.'
  isClock clock && isOffset (word.drop clock.length)

def isMoment (word : List Char) : Bool :=
  let date := word.take 10
  match word.drop 10 with
  | [] => isDate date || isClock word
  | separator :: rest =>
      ((separator = 'T' || separator = 't' || separator = ' ') && isDate date &&
        isClockWithOffset rest) || isClock word

def ofWord? (word : List Char) : Option Datum :=
  if word = ['t', 'r', 'u', 'e'] then some (.boolean true)
  else if word = ['f', 'a', 'l', 's', 'e'] then some (.boolean false)
  else
    match integer? word with
    | some value => if inRange value then some (.integer value) else none
    | none =>
        if isFloat word then some (.float (String.ofList word))
        else if isMoment word then some (.moment (String.ofList word))
        else none

def word (input : List Char) : List Char :=
  let first := input.takeWhile isWordChar
  match input.drop first.length with
  | ' ' :: digit :: rest =>
      if isDate first && digit.isDigit then
        first ++ ' ' :: (digit :: rest).takeWhile isWordChar
      else first
  | _ => first

def read? : Reader Datum := fun input =>
  let word := word input
  (ofWord? word).map fun datum => (datum, input.drop word.length)

end DesktopGateway.Toml.Scalar
