/-!
# Texts and blanks of a settings file

The leaves of the grammar. Every reader takes the characters in front of it and gives what it read
with the characters behind it, or nothing when they are not well formed.
-/

namespace DesktopGateway.Toml

abbrev Reader (α : Type) := List Char → Option (α × List Char)

def isBlank (char : Char) : Bool :=
  char = ' ' || char = '\t'

def isPrintable (char : Char) : Bool :=
  char = '\t' || (' ' ≤ char && char != '\x7f')

def skipBlanks (input : List Char) : List Char :=
  input.dropWhile isBlank

def newline? : List Char → Option (List Char)
  | '\n' :: rest => some rest
  | '\r' :: '\n' :: rest => some rest
  | _ => none

def skipSpace (comment : Bool) : List Char → Option (List Char)
  | [] => some []
  | '\n' :: rest => skipSpace false rest
  | '\r' :: '\n' :: rest => skipSpace false rest
  | char :: rest =>
      if comment then
        if isPrintable char then skipSpace true rest else none
      else if isBlank char then skipSpace false rest
      else if char = '#' then skipSpace true rest
      else some (char :: rest)

/-- Skip to the next line, over blanks and a comment only. -/
def lineEnd? (input : List Char) : Option (List Char) :=
  let rest := skipBlanks input
  let rest := if rest.head? = some '#' then rest.dropWhile isPrintable else rest
  if rest.isEmpty then some [] else newline? rest

namespace Text

def hexValue? (char : Char) : Option Nat :=
  if '0' ≤ char && char ≤ '9' then some (char.toNat - 48)
  else if 'a' ≤ char && char ≤ 'f' then some (char.toNat - 87)
  else if 'A' ≤ char && char ≤ 'F' then some (char.toNat - 55)
  else none

def coded? (digits : List Char) : Option Char := do
  let value ← digits.foldlM (fun value digit => (hexValue? digit).map (16 * value + ·)) 0
  if value.isValidChar then some (Char.ofNat value) else none

def escaped? (char : Char) : Option Char :=
  if char = 'b' then some '\x08'
  else if char = 't' then some '\t'
  else if char = 'n' then some '\n'
  else if char = 'f' then some '\x0c'
  else if char = 'r' then some '\r'
  else if char = '"' || char = '\\' then some char
  else none

/-- Read to the closing quote of a text on one line; `taken` holds what is there, last character
first. -/
def basicFrom (taken : List Char) : Reader String
  | [] => none
  | '"' :: rest => some (String.ofList taken.reverse, rest)
  | ['\\'] => none
  | '\\' :: 'u' :: a :: b :: c :: d :: rest =>
      match coded? [a, b, c, d] with
      | some char => basicFrom (char :: taken) rest
      | none => none
  | '\\' :: 'U' :: a :: b :: c :: d :: e :: f :: g :: h :: rest =>
      match coded? [a, b, c, d, e, f, g, h] with
      | some char => basicFrom (char :: taken) rest
      | none => none
  | '\\' :: char :: rest =>
      match escaped? char with
      | some char => basicFrom (char :: taken) rest
      | none => none
  | char :: rest => if isPrintable char then basicFrom (char :: taken) rest else none

/-- What a backslash hides: blanks to the end of its line. -/
def hidesLineEnd (input : List Char) : Bool :=
  (newline? (skipBlanks input)).isSome

/-- Read to the three closing quotes of a text on many lines. Inside a gap, blanks and newlines do
not count. Up to two quotes may stand before the closing ones. -/
def longBasicFrom (gap : Bool) (taken : List Char) : Reader String
  | [] => none
  | '"' :: '"' :: '"' :: '"' :: '"' :: rest =>
      some (String.ofList ('"' :: '"' :: taken).reverse, rest)
  | '"' :: '"' :: '"' :: '"' :: rest => some (String.ofList ('"' :: taken).reverse, rest)
  | '"' :: '"' :: '"' :: rest => some (String.ofList taken.reverse, rest)
  | ['\\'] => none
  | '\\' :: 'u' :: a :: b :: c :: d :: rest =>
      match coded? [a, b, c, d] with
      | some char => longBasicFrom false (char :: taken) rest
      | none => none
  | '\\' :: 'U' :: a :: b :: c :: d :: e :: f :: g :: h :: rest =>
      match coded? [a, b, c, d, e, f, g, h] with
      | some char => longBasicFrom false (char :: taken) rest
      | none => none
  | '\\' :: char :: rest =>
      if hidesLineEnd (char :: rest) then longBasicFrom true taken rest
      else
        match escaped? char with
        | some char => longBasicFrom false (char :: taken) rest
        | none => none
  | '\r' :: '\n' :: rest => longBasicFrom gap (if gap then taken else '\n' :: taken) rest
  | char :: rest =>
      if gap && (isBlank char || char = '\n') then longBasicFrom true taken rest
      else if isPrintable char || char = '\n' then longBasicFrom false (char :: taken) rest
      else none

def literalFrom (taken : List Char) : Reader String
  | [] => none
  | '\'' :: rest => some (String.ofList taken.reverse, rest)
  | char :: rest => if isPrintable char then literalFrom (char :: taken) rest else none

/-- Read to the three closing apostrophes of a text without escapes. -/
def longLiteralFrom (taken : List Char) : Reader String
  | [] => none
  | '\'' :: '\'' :: '\'' :: '\'' :: '\'' :: rest =>
      some (String.ofList ('\'' :: '\'' :: taken).reverse, rest)
  | '\'' :: '\'' :: '\'' :: '\'' :: rest => some (String.ofList ('\'' :: taken).reverse, rest)
  | '\'' :: '\'' :: '\'' :: rest => some (String.ofList taken.reverse, rest)
  | '\r' :: '\n' :: rest => longLiteralFrom ('\n' :: taken) rest
  | char :: rest =>
      if isPrintable char || char = '\n' then longLiteralFrom (char :: taken) rest else none

/-- A newline directly behind the opening quotes does not count. -/
def afterOpening (input : List Char) : List Char :=
  (newline? input).getD input

def read? (long : Bool) : Reader String
  | '"' :: '"' :: '"' :: rest =>
      if long then longBasicFrom false [] (afterOpening rest) else some ("", '"' :: rest)
  | '\'' :: '\'' :: '\'' :: rest =>
      if long then longLiteralFrom [] (afterOpening rest) else some ("", '\'' :: rest)
  | '"' :: rest => basicFrom [] rest
  | '\'' :: rest => literalFrom [] rest
  | _ => none

end Text

def isKeyChar (char : Char) : Bool :=
  char.isAlphanum || char = '_' || char = '-'

def keyPart? : Reader String := fun input =>
  match input with
  | '"' :: _ => Text.read? false input
  | '\'' :: _ => Text.read? false input
  | _ =>
      let bare := input.takeWhile isKeyChar
      if bare.isEmpty then none else some (String.ofList bare, input.drop bare.length)

/-- A key: parts with points between them, at most `room` of them. -/
def keyPath? : (room : Nat) → Reader (List String)
  | 0, _ => none
  | room + 1, input =>
      match keyPart? input with
      | none => none
      | some (part, rest) =>
          match skipBlanks rest with
          | '.' :: more =>
              match keyPath? room (skipBlanks more) with
              | some (parts, behind) => some (part :: parts, behind)
              | none => none
          | behind => some ([part], behind)

end DesktopGateway.Toml
