import DesktopGateway.Text.Document

/-!
# Reading documents

Documents from JSON text. Numbers are whole numbers, and documents lie in at most `mostNested` lists
and records. `ofText?` reads a text to its end.
-/

namespace DesktopGateway.Text.Document

/-- Reads something at the beginning of some characters and leaves the others. -/
abbrev Reader (α : Type) :=
  List Char → Option (α × List Char)

def isSpace (char : Char) : Bool :=
  char = ' ' || char = '\n' || char = '\t' || char = '\r'

def skipSpace (input : List Char) : List Char :=
  input.dropWhile isSpace

/-! ## Texts -/

def hexValue? (char : Char) : Option Nat :=
  if '0' ≤ char && char ≤ '9' then some (char.toNat - 48)
  else if 'a' ≤ char && char ≤ 'f' then some (char.toNat - 87)
  else if 'A' ≤ char && char ≤ 'F' then some (char.toNat - 55)
  else none

def unit? : Reader Nat
  | first :: second :: third :: fourth :: rest => do
      let first ← hexValue? first
      let second ← hexValue? second
      let third ← hexValue? third
      let fourth ← hexValue? fourth
      return (4096 * first + 256 * second + 16 * third + fourth, rest)
  | _ => none

/-- The character that two units stand for together. -/
def paired (first second : Nat) : Char :=
  Char.ofNat (0x10000 + 1024 * (first - 0xD800) + (second - 0xDC00))

/-- The character of a unit; the first unit of a pair needs the second one behind it. -/
def ofUnit? (unit : Nat) (rest : List Char) : Option (Char × List Char) :=
  if unit < 0xD800 || 0xDFFF < unit then some (Char.ofNat unit, rest)
  else if 0xDC00 ≤ unit then none
  else
    match rest with
    | '\\' :: 'u' :: rest =>
        match unit? rest with
        | some (second, rest) =>
            if 0xDC00 ≤ second && second ≤ 0xDFFF then some (paired unit second, rest) else none
        | none => none
    | _ => none

def escaped? : Reader Char
  | [] => none
  | mark :: rest =>
      if mark = '"' || mark = '\\' || mark = '/' then some (mark, rest)
      else if mark = 'n' then some ('\n', rest)
      else if mark = 'r' then some ('\r', rest)
      else if mark = 't' then some ('\t', rest)
      else if mark = 'b' then some ('\x08', rest)
      else if mark = 'f' then some ('\x0c', rest)
      else if mark = 'u' then (unit? rest).bind fun (unit, rest) => ofUnit? unit rest
      else none

def char? : Reader Char
  | [] => none
  | char :: rest =>
      if char = '\\' then escaped? rest
      else if char < ' ' then none
      else some (char, rest)

theorem length_le_of_unit? {input rest : List Char} {unit : Nat}
    (read : unit? input = some (unit, rest)) : rest.length ≤ input.length := by
  unfold unit? at read
  split at read
  · simp only [Option.bind_eq_bind, Option.bind_eq_some_iff] at read
    obtain ⟨_, _, _, _, _, _, _, _, same⟩ := read
    cases same
    simp only [List.length_cons]
    omega
  · cases read

theorem length_le_of_ofUnit? {unit : Nat} {input rest : List Char} {char : Char}
    (read : ofUnit? unit input = some (char, rest)) : rest.length ≤ input.length := by
  unfold ofUnit? at read
  split at read
  · cases read
    exact Nat.le_refl _
  · split at read
    · cases read
    · split at read
      · split at read
        · rename_i second
          split at read
          · obtain ⟨-, rfl⟩ := Prod.mk.inj (Option.some.inj read)
            have shorter := length_le_of_unit? second
            simp only [List.length_cons]
            omega
          · cases read
        · cases read
      · cases read

theorem length_le_of_escaped? {input rest : List Char} {char : Char}
    (read : escaped? input = some (char, rest)) : rest.length ≤ input.length := by
  cases input with
  | nil => cases read
  | cons mark input =>
      simp only [escaped?] at read
      have one {value : Char} (same : some (value, input) = some (char, rest)) :
          rest.length ≤ input.length + 1 := by
        cases same
        exact Nat.le_succ _
      split at read
      · exact one read
      iterate 5
        split at read
        · exact one read
      split at read
      · obtain ⟨⟨unit, behind⟩, found, last⟩ := Option.bind_eq_some_iff.mp read
        exact Nat.le_succ_of_le
          (Nat.le_trans (length_le_of_ofUnit? last) (length_le_of_unit? found))
      · cases read

/-- A character takes at least one character of the input. -/
theorem length_lt_of_char? {input rest : List Char} {char : Char}
    (read : char? input = some (char, rest)) : rest.length < input.length := by
  cases input with
  | nil => cases read
  | cons first input =>
      rw [char?] at read
      split at read
      · exact Nat.lt_succ_of_le (length_le_of_escaped? read)
      · split at read
        · cases read
        · cases read
          exact Nat.lt_succ_self _

def quotedFrom (input : List Char) : Option (List Char × List Char) :=
  if input.head? = some '"' then some ([], input.tail)
  else
    match _read : char? input with
    | none => none
    | some (char, rest) =>
        (quotedFrom rest).map fun (chars, behind) => (char :: chars, behind)
  termination_by input.length
  decreasing_by exact length_lt_of_char? _read

def quoted? : Reader String
  | '"' :: rest => (quotedFrom rest).map fun (chars, behind) => (String.ofList chars, behind)
  | _ => none

/-! ## Numbers and words -/

/-- The value of some digits, the first of which is zero only if it is the only one. -/
def digits? : Reader Nat := fun input =>
  let digits := input.takeWhile Char.isDigit
  if digits.isEmpty || digits.head? = some '0' && 1 < digits.length then none
  else some (Nat.ofDigitChars 10 digits 0, input.dropWhile Char.isDigit)

def number? : Reader Int
  | '-' :: rest => (digits? rest).map fun (value, behind) => (-value, behind)
  | input => (digits? input).map fun (value, behind) => (value, behind)

def words : List (List Char × Document) :=
  [(['n', 'u', 'l', 'l'], null), (['t', 'r', 'u', 'e'], boolean true),
    (['f', 'a', 'l', 's', 'e'], boolean false)]

def word? : Reader Document := fun input =>
  words.findSome? fun (word, value) =>
    if word.isPrefixOf input then some (value, input.drop word.length) else none

def scalar? : Reader Document := fun input =>
  if input.head? = some '"' then (quoted? input).map fun (value, behind) => (text value, behind)
  else if input.head?.any fun char => char = '-' || char.isDigit then
    (number? input).map fun (value, behind) => (number value, behind)
  else word? input

/-! ## Lists and records -/

/-- Items with commas between them, up to a closing character. -/
def itemsFrom {α : Type} (item : Reader α) (closing : Char) (input : List Char) :
    Option (List α × List Char) :=
  match item input with
  | none => none
  | some (value, behind) =>
      match skipSpace behind with
      | [] => none
      | next :: rest =>
          if next = closing then some ([value], rest)
          else if _shorter : next = ',' ∧ rest.length < input.length then
            (itemsFrom item closing rest).map fun (values, last) => (value :: values, last)
          else none
  termination_by input.length
  decreasing_by exact _shorter.2

def sequence {α : Type} (item : Reader α) (closing : Char) : Reader (List α) := fun input =>
  if (skipSpace input).head? = some closing then some ([], (skipSpace input).tail)
  else itemsFrom item closing input

def pair? {α : Type} (value : Reader α) : Reader (String × α) := fun input =>
  match quoted? (skipSpace input) with
  | none => none
  | some (name, behind) =>
      match skipSpace behind with
      | ':' :: rest => (value rest).map fun (value, last) => ((name, value), last)
      | _ => none

/-- A document that lies in others, with at most `nesting` lists and records in one another. -/
def read? : (nesting : Nat) → Reader Document
  | 0, input => scalar? (skipSpace input)
  | nesting + 1, input =>
      match skipSpace input with
      | '[' :: rest =>
          (sequence (read? nesting) ']' rest).map fun (items, behind) => (list items, behind)
      | '\x7b' :: rest =>
          (sequence (pair? (read? nesting)) '\x7d' rest).map fun (fields, behind) =>
            (record fields, behind)
      | other => scalar? other

/-- Documents lie in at most this many lists and records. -/
def mostNested : Nat := 128

def ofText? (text : String) : Option Document :=
  match read? mostNested text.toList with
  | some (document, behind) => if (skipSpace behind).isEmpty then some document else none
  | none => none

end DesktopGateway.Text.Document
