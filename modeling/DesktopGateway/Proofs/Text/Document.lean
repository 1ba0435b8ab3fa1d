import Mathlib.Data.List.Basic
import Mathlib.Data.List.Forall2
import DesktopGateway.Text.DocumentReader

/-!
# Documents read back

The indented form of a document is read back as the document, unless it lies in more lists and
records than a reader goes into. What is read at the beginning of some characters does not depend on
what stands behind it; only a number must not go on.
-/

namespace DesktopGateway.Text.Document

/-! ## Texts -/

theorem hexValue?_hexDigit {value : Nat} (small : value < 16) :
    hexValue? (hexDigit value) = some value := by
  have all : ∀ value : Fin 16, hexValue? (hexDigit value) = some value.val := by decide
  exact all ⟨value, small⟩

theorem ofUnit?_small {unit : Nat} (small : unit < 0xD800) (rest : List Char) :
    ofUnit? unit rest = some (Char.ofNat unit, rest) := by
  simp [ofUnit?, small]

/-- Every escape is read as the character that it was written for. -/
theorem char?_escape (char : Char) (rest : List Char) :
    char? (escape char ++ rest) = some (char, rest) := by
  unfold escape
  split
  · simp [char?, escaped?, *]
  iterate 6
    split
    · simp [char?, escaped?, *]
  split
  · rename_i control
    have code : char.toNat < 32 := control
    have unit : unit? ('0' :: '0' :: hexDigit (char.toNat / 16) :: hexDigit (char.toNat % 16) ::
        rest) = some (char.toNat, rest) := by
      simp only [unit?, hexValue?_hexDigit (show char.toNat / 16 < 16 by omega),
        hexValue?_hexDigit (Nat.mod_lt char.toNat (show 0 < 16 by omega)),
        show hexValue? '0' = some 0 from rfl, Option.bind_eq_bind, Option.bind_some,
        Option.pure_def]
      congr 2
      omega
    simp only [List.cons_append, List.nil_append, char?, escaped?, unit, Option.bind_some,
      ofUnit?_small (show char.toNat < 0xD800 by omega), Char.ofNat_toNat, Char.reduceEq, if_true,
      if_false, decide_false, Bool.or_self, Bool.false_eq_true]
  · simp [char?, *]

/-- No escape begins with the quote that ends a text. -/
theorem head?_escape (char : Char) (rest : List Char) :
    (escape char ++ rest).head? ≠ some '"' := by
  intro quoted
  obtain ⟨behind, same⟩ := List.head?_eq_some_iff.mp quoted
  have quote : char? ('"' :: behind) = some ('"', behind) := rfl
  have read := char?_escape char rest
  rw [same, quote] at read
  cases read
  cases same

theorem quotedFrom_flatMap (chars rest : List Char) :
    quotedFrom (chars.flatMap escape ++ '"' :: rest) = some (chars, rest) := by
  induction chars with
  | nil => simp [quotedFrom]
  | cons char chars ih =>
      rw [List.flatMap_cons, List.append_assoc, quotedFrom, if_neg (head?_escape char _)]
      split
      · rename_i failed
        rw [char?_escape] at failed
        cases failed
      · rename_i value behind read
        rw [char?_escape] at read
        cases read
        rw [ih]
        rfl

theorem quoted?_quote (text : String) (rest : List Char) :
    quoted? ((quote text).toList ++ rest) = some (text, rest) := by
  have written : (quote text).toList ++ rest =
      '"' :: (text.toList.flatMap escape ++ '"' :: rest) := by
    simp [quote]
  rw [written, quoted?, quotedFrom_flatMap]
  exact congrArg (fun text => some (text, rest)) String.ofList_toList

/-! ## Numbers -/

def Ends (tail : List Char) : Prop :=
  ∀ char ∈ tail.head?, char.isDigit = false

theorem ends_cons {char : Char} (other : char.isDigit = false) (tail : List Char) :
    Ends (char :: tail) := by
  intro first same
  cases same
  exact other

/-- Only zero is written with a zero in front. -/
theorem head?_toDigits {value : Nat} (positive : 0 < value) :
    (Nat.toDigits 10 value).head? ≠ some '0' := by
  induction value using Nat.strongRecOn with
  | ind value ih =>
      by_cases small : value < 10
      · rw [Nat.toDigits_of_lt_base small]
        simp only [List.head?_cons, ne_eq, Option.some.injEq, Nat.digitChar_eq_zero]
        omega
      · rw [Nat.toDigits_of_base_le (by omega) (by omega),
          List.head?_append_of_ne_nil _ Nat.toDigits_ne_nil]
        exact ih (value / 10) (by omega) (by omega)

theorem digits?_toDigits (value : Nat) {tail : List Char} (ends : Ends tail) :
    digits? (Nat.toDigits 10 value ++ tail) = some (value, tail) := by
  have digits : ∀ char ∈ Nat.toDigits 10 value, char.isDigit = true := fun char =>
    Nat.isDigit_of_mem_toDigits (by omega) (by omega)
  have front : (Nat.toDigits 10 value ++ tail).takeWhile Char.isDigit = Nat.toDigits 10 value := by
    rw [List.takeWhile_append_of_pos digits]
    cases tail with
    | nil => simp
    | cons char tail => simp [ends char rfl]
  have behind : (Nat.toDigits 10 value ++ tail).dropWhile Char.isDigit = tail := by
    rw [List.dropWhile_append_of_pos digits]
    cases tail with
    | nil => rfl
    | cons char tail => simp [ends char rfl]
  have filled : (Nat.toDigits 10 value).isEmpty = false := by
    simp [Nat.toDigits_ne_nil]
  have plain : ((Nat.toDigits 10 value).head? = some '0' &&
      1 < (Nat.toDigits 10 value).length) = false := by
    cases value with
    | zero => rfl
    | succ value => simp [head?_toDigits (Nat.succ_pos value)]
  simp only [digits?, front, behind, filled, plain, Bool.or_self, Bool.false_eq_true, if_false,
    Nat.ofDigitChars_toDigits (show 1 < 10 by omega) (show 10 ≤ 10 by omega)]

/-- A number begins with a minus or a digit. -/
theorem head?_number (value : Int) (tail : List Char) :
    ∃ char, ((toString value).toList ++ tail).head? = some char ∧
      (char = '-' ∨ char.isDigit = true) := by
  cases value with
  | ofNat value =>
      refine ⟨(Nat.toDigits 10 value).head Nat.toDigits_ne_nil, ?_, Or.inr ?_⟩
      · change (value.repr.toList ++ tail).head? = _
        rw [Nat.toList_repr, List.head?_append_of_ne_nil _ Nat.toDigits_ne_nil,
          List.head?_eq_some_head]
      · exact Nat.isDigit_of_mem_toDigits (by omega) (by omega) (List.head_mem _)
  | negSucc value =>
      refine ⟨'-', ?_, Or.inl rfl⟩
      change (("-" ++ (value + 1).repr).toList ++ tail).head? = _
      simp

theorem number?_toString (value : Int) {tail : List Char} (ends : Ends tail) :
    number? ((toString value).toList ++ tail) = some (value, tail) := by
  cases value with
  | ofNat value =>
      change number? (value.repr.toList ++ tail) = _
      have unsigned : ∀ rest, Nat.toDigits 10 value ++ tail ≠ '-' :: rest := by
        intro rest same
        have first : (Nat.toDigits 10 value).head? = some '-' := by
          rw [← List.head?_append_of_ne_nil _ Nat.toDigits_ne_nil, same, List.head?_cons]
        have digit := Nat.isDigit_of_mem_toDigits (by omega) (by omega)
          (List.mem_of_mem_head? first)
        cases digit
      rw [Nat.toList_repr, number?, digits?_toDigits value ends]
      · rfl
      · exact unsigned
  | negSucc value =>
      change number? (("-" ++ (value + 1).repr).toList ++ tail) = _
      rw [String.toList_append, Nat.toList_repr]
      change number? ('-' :: (Nat.toDigits 10 (value + 1) ++ tail)) = _
      rw [number?, digits?_toDigits _ ends]
      rfl

/-! ## Lists and records -/

def IsClosing (char : Char) : Prop :=
  char = ']' ∨ char = '\x7d'

namespace IsClosing

variable {char : Char} (closing : IsClosing char)

include closing

theorem shown : isSpace char = false := by
  rcases closing with rfl | rfl <;> rfl

theorem ne_comma : char ≠ ',' := by
  rcases closing with rfl | rfl <;> decide

theorem ends (tail : List Char) : Ends (char :: tail) := by
  rcases closing with rfl | rfl <;> exact ends_cons rfl tail

end IsClosing

/-- What something is written as: it is read from there behind any blanks, and it does not begin
like the end of a list or a record. -/
structure Writes {α : Type} (item : Reader α) (front : List Char) (value : α) : Prop where
  begins : ∃ first ∈ front.head?, isSpace first = false ∧ ¬ IsClosing first
  read : ∀ space tail, (∀ char ∈ space, isSpace char = true) → Ends tail →
    item (space ++ front ++ tail) = some (value, tail)

theorem skipSpace_append {space : List Char} (blank : ∀ char ∈ space, isSpace char = true)
    {rest : List Char} (shown : ∀ char ∈ rest.head?, isSpace char = false) :
    skipSpace (space ++ rest) = rest := by
  rw [skipSpace, List.dropWhile_append_of_pos blank]
  cases rest with
  | nil => rfl
  | cons char rest => simp [shown char rfl]

theorem isSpace_of_isDigit {char : Char} (digit : char.isDigit = true) : isSpace char = false := by
  by_contra blank
  rw [Bool.not_eq_false] at blank
  simp only [isSpace, Bool.or_eq_true, decide_eq_true_eq] at blank
  rcases blank with ((rfl | rfl) | rfl) | rfl <;> cases digit

theorem ends_append {space : List Char} (blank : ∀ char ∈ space, isSpace char = true)
    {tail : List Char} (ends : Ends tail) : Ends (space ++ tail) := by
  cases space with
  | nil => exact ends
  | cons char space =>
      refine ends_cons ?_ _
      by_contra digit
      rw [Bool.not_eq_false] at digit
      have shown := isSpace_of_isDigit digit
      rw [blank char (List.mem_cons_self ..)] at shown
      cases shown

section Items

variable {α : Type} {item : Reader α} {closing : Char} {indent last : List Char}
  (blank : ∀ char ∈ indent, isSpace char = true) (final : ∀ char ∈ last, isSpace char = true)
  (bracket : IsClosing closing)

include blank final bracket

/-- Items on lines of their own are read one after the other. -/
theorem itemsFrom_lines {fronts : List (List Char)} {values : List α}
    (written : List.Forall₂ (Writes item) fronts values) (filled : fronts ≠ [])
    {space : List Char} (first : ∀ char ∈ space, isSpace char = true) (tail : List Char) :
    itemsFrom item closing
        (space ++ (',' :: '\n' :: indent).intercalate fronts ++ (last ++ closing :: tail)) =
      some (values, tail) := by
  induction written generalizing space with
  | nil => exact absurd rfl filled
  | @cons front value fronts values own more ih =>
      cases more with
      | nil =>
          have closed : skipSpace (last ++ closing :: tail) = closing :: tail :=
            skipSpace_append final fun char same => by cases same; exact bracket.shown
          rw [List.intercalate_singleton, itemsFrom,
            own.read _ _ first (ends_append final (bracket.ends tail))]
          simp only [closed, if_true]
      | @cons second next fronts values _ _ =>
          have line : ∀ char ∈ '\n' :: indent, isSpace char = true := by
            simpa [isSpace] using blank
          have later := ih (List.cons_ne_nil _ _) line
          have parted : space ++ (',' :: '\n' :: indent).intercalate (front :: second :: fronts) ++
              (last ++ closing :: tail) =
              space ++ front ++ ',' :: ('\n' :: indent ++
                (',' :: '\n' :: indent).intercalate (second :: fronts) ++
                (last ++ closing :: tail)) := by
            simp [List.intercalate_cons_cons]
          have comma (rest : List Char) : skipSpace (',' :: rest) = ',' :: rest := rfl
          rw [parted, itemsFrom, own.read _ _ first (ends_cons rfl _)]
          simp only [comma, bracket.ne_comma.symm, if_false, true_and]
          rw [dif_pos (by simp only [List.length_append, List.length_cons]; omega), later]
          rfl

theorem sequence_lines {fronts : List (List Char)} {values : List α}
    (written : List.Forall₂ (Writes item) fronts values) (filled : fronts ≠ [])
    {space : List Char} (first : ∀ char ∈ space, isSpace char = true) (tail : List Char) :
    sequence item closing
        (space ++ (',' :: '\n' :: indent).intercalate fronts ++ (last ++ closing :: tail)) =
      some (values, tail) := by
  have read := itemsFrom_lines blank final bracket written filled first tail
  cases written with
  | nil => exact absurd rfl filled
  | @cons front value fronts values own more =>
      obtain ⟨char, begins, shown, opens⟩ := own.begins
      obtain ⟨rest, rfl⟩ := List.head?_eq_some_iff.mp begins
      have head : ∃ behind, (',' :: '\n' :: indent).intercalate ((char :: rest) :: fronts) ++
          (last ++ closing :: tail) = char :: behind := by
        cases fronts <;> simp [List.intercalate_cons_cons]
      obtain ⟨behind, same⟩ := head
      rw [List.append_assoc] at read ⊢
      rw [same] at read ⊢
      have skipped : skipSpace (space ++ char :: behind) = char :: behind :=
        skipSpace_append first fun _ same => by cases same; exact shown
      have unclosed : char ≠ closing := fun same => opens (same ▸ bracket)
      rw [sequence, skipped, List.head?_cons, if_neg (by simpa using unclosed), read]

end Items

theorem isSpace_indentation (depth : Nat) :
    ∀ char ∈ (indentation depth).toList, isSpace char = true := by
  intro char member
  rw [indentation, String.toList_ofList] at member
  rw [List.eq_of_mem_replicate member]
  rfl

/-- The lines of some items, with commas between them. -/
theorem toList_intercalate_lines {space : String} {items : List String} (filled : items ≠ []) :
    (String.intercalate ",\n" (items.map fun item => space ++ item)).toList =
      space.toList ++ (',' :: '\n' :: space.toList).intercalate (items.map String.toList) := by
  induction items with
  | nil => exact absurd rfl filled
  | cons item items ih =>
      cases items with
      | nil => simp
      | cons second items =>
          have later := ih (List.cons_ne_nil _ _)
          simp only [List.map_cons, String.intercalate_cons_cons, List.intercalate_cons_cons,
            String.toList_append] at later ⊢
          rw [later]
          simp

/-- A block is read as the values of its items. -/
theorem sequence_block {α : Type} {item : Reader α} {opening closing : String}
    {left right : Char} (opens : opening.toList = [left]) (closes : closing.toList = [right])
    (bracket : IsClosing right) (depth : Nat) {items : List String} {values : List α}
    (written : List.Forall₂ (Writes item) (items.map String.toList) values) :
    ∃ inner, (block opening closing depth items).toList = left :: inner ∧
      ∀ tail, sequence item right (inner ++ tail) = some (values, tail) := by
  by_cases filled : items = []
  · subst filled
    cases written
    refine ⟨[right], by simp [block, opens, closes], ?_⟩
    intro tail
    simp [sequence, skipSpace, bracket.shown]
  · have listed : items.map String.toList ≠ [] := by simpa using filled
    have indent : ∀ char ∈ '\n' :: (indentation (depth + 1)).toList, isSpace char = true := by
      simpa [isSpace] using isSpace_indentation (depth + 1)
    have last : ∀ char ∈ '\n' :: (indentation depth).toList, isSpace char = true := by
      simpa [isSpace] using isSpace_indentation depth
    refine ⟨'\n' :: (indentation (depth + 1)).toList ++
      (',' :: '\n' :: (indentation (depth + 1)).toList).intercalate (items.map String.toList) ++
        ('\n' :: (indentation depth).toList ++ [right]), ?_, ?_⟩
    · simp only [block, List.isEmpty_iff, filled, if_false, String.toList_append,
        toList_intercalate_lines filled, opens, closes]
      simp
    · intro tail
      have read := sequence_lines (isSpace_indentation (depth + 1)) last bracket written listed
        indent tail
      simpa using read

theorem quote_begins (text : String) (rest : List Char) :
    ((quote text).toList ++ rest).head? = some '"' := by
  simp [quote]

/-- A field is written as its name, a colon and its value. -/
theorem Writes.field {α : Type} {value : Reader α} {front : List Char} {content : α}
    (written : Writes value front content) (name : String) :
    Writes (pair? value) ((quote name ++ ": ").toList ++ front) (name, content) where
  begins := by
    refine ⟨'"', ?_, rfl, by simp [IsClosing]⟩
    rw [String.toList_append, List.append_assoc]
    exact quote_begins name _
  read space tail blank ends := by
    have parted : space ++ ((quote name ++ ": ").toList ++ front) ++ tail =
        space ++ ((quote name).toList ++ ':' :: ([' '] ++ front ++ tail)) := by
      simp
    have skipped : skipSpace (space ++ ((quote name).toList ++ ':' :: ([' '] ++ front ++ tail))) =
        (quote name).toList ++ ':' :: ([' '] ++ front ++ tail) := by
      apply skipSpace_append blank
      intro char same
      rw [quote_begins] at same
      cases same
      rfl
    have colon (rest : List Char) : skipSpace (':' :: rest) = ':' :: rest := rfl
    rw [parted, pair?, skipped, quoted?_quote]
    simp only [colon, written.read [' '] tail (by simp [isSpace]) ends, Option.map_some]

/-! ## Documents -/

/-- The document lies in at most so many lists and records, its own included. -/
def Within : (nesting : Nat) → Document → Prop
  | 0, list _ | 0, record _ => False
  | nesting + 1, list items => ∀ item ∈ items, Within nesting item
  | nesting + 1, record fields => ∀ field ∈ fields, Within nesting field.2
  | _, null | _, boolean _ | _, number _ | _, text _ => True

/-- What holds no other documents is read whatever the nesting. -/
theorem read?_of_scalar {nesting : Nat} {space rest : List Char} {first : Char}
    (blank : ∀ char ∈ space, isSpace char = true) (shown : isSpace first = false)
    (single : first ≠ '[' ∧ first ≠ '\x7b') :
    read? nesting (space ++ first :: rest) = scalar? (first :: rest) := by
  have skipped : skipSpace (space ++ first :: rest) = first :: rest :=
    skipSpace_append blank fun char same => by cases same; exact shown
  cases nesting with
  | zero => rw [read?, skipped]
  | succ nesting =>
      rw [read?, skipped]
      split
      · exact absurd (List.cons.inj ‹_›).1 single.1
      · exact absurd (List.cons.inj ‹_›).1 single.2
      · rfl

/-- A document that holds no others is written as what begins with its first character. -/
theorem Writes.scalar {nesting : Nat} {front : List Char} {document : Document}
    (begins : ∃ first ∈ front.head?, isSpace first = false ∧ ¬ IsClosing first ∧
      first ≠ '[' ∧ first ≠ '\x7b')
    (read : ∀ tail, Ends tail → scalar? (front ++ tail) = some (document, tail)) :
    Writes (read? nesting) front document where
  begins := by
    obtain ⟨first, same, shown, opens, _⟩ := begins
    exact ⟨first, same, shown, opens⟩
  read space tail blank ends := by
    obtain ⟨first, same, shown, _, single⟩ := begins
    obtain ⟨rest, rfl⟩ := List.head?_eq_some_iff.mp same
    have found := read tail ends
    rw [List.append_assoc, List.cons_append] at *
    rw [read?_of_scalar blank shown single, found]

theorem writes_word (nesting : Nat) (word : String) {document : Document}
    (listed : (word.toList, document) ∈ words) : Writes (read? nesting) word.toList document := by
  simp only [words, List.mem_cons, Prod.mk.injEq, List.not_mem_nil, or_false] at listed
  rcases listed with ⟨same, rfl⟩ | ⟨same, rfl⟩ | ⟨same, rfl⟩ <;>
    (rw [same]; exact .scalar (by simp [IsClosing, isSpace]) fun _ _ => by
      simp [scalar?, word?, words])

theorem writes_text (nesting : Nat) (value : String) :
    Writes (read? nesting) (quote value).toList (text value) := by
  have begins := quote_begins value []
  rw [List.append_nil] at begins
  refine .scalar ⟨'"', begins, rfl, by simp [IsClosing], by decide⟩ ?_
  intro tail _
  rw [scalar?, quote_begins, if_pos rfl, quoted?_quote]
  rfl

theorem writes_number (nesting : Nat) (value : Int) :
    Writes (read? nesting) (toString value).toList (number value) := by
  obtain ⟨first, begins, sign⟩ := head?_number value []
  rw [List.append_nil] at begins
  have plain : isSpace first = false ∧ ¬ IsClosing first ∧ first ≠ '[' ∧ first ≠ '\x7b' := by
    rcases sign with rfl | digit
    · simp [isSpace, IsClosing]
    · refine ⟨isSpace_of_isDigit digit, ?_, ?_, ?_⟩
      · rintro (rfl | rfl) <;> cases digit
      · rintro rfl
        cases digit
      · rintro rfl
        cases digit
  refine .scalar ⟨first, begins, plain⟩ ?_
  intro tail ends
  obtain ⟨rest, same⟩ := List.head?_eq_some_iff.mp begins
  have number := number?_toString value ends
  have unquoted : first ≠ '"' := by
    rintro rfl
    rcases sign with impossible | digit
    · cases impossible
    · cases digit
  rw [same, List.cons_append] at number ⊢
  simp only [scalar?, List.head?_cons, Option.some.injEq, unquoted, if_false, Option.any_some,
    number, Option.map_some]
  rcases sign with rfl | digit
  · rfl
  · simp [digit]

theorem indentedItems_eq (depth : Nat) (items : List Document) :
    indentedItems depth items = items.map (indented depth) := by
  induction items with
  | nil => rfl
  | cons item items ih => rw [indentedItems, ih, List.map_cons]

theorem indentedFields_eq (depth : Nat) (fields : List (String × Document)) :
    indentedFields depth fields =
      fields.map fun field => quote field.1 ++ ": " ++ indented depth field.2 := by
  induction fields with
  | nil => rfl
  | cons field fields ih => rw [indentedFields, ih, List.map_cons]

theorem writes_plain {document : Document} (plain : Within 0 document) (nesting depth : Nat) :
    Writes (read? nesting) (document.indented depth).toList document := by
  cases document with
  | null => exact writes_word nesting "null" (by simp [words])
  | boolean value =>
      cases value with
      | false => exact writes_word nesting "false" (by simp [words])
      | true => exact writes_word nesting "true" (by simp [words])
  | number value => exact writes_number nesting value
  | text value => exact writes_text nesting value
  | list items => exact plain.elim
  | record fields => exact plain.elim

/-- A block is written as what its opening character begins. -/
theorem Writes.block {nesting : Nat} {front inner : List Char} {left : Char} {document : Document}
    (same : front = left :: inner) (opens : left = '[' ∨ left = '\x7b')
    (read : ∀ tail, read? nesting (left :: inner ++ tail) = some (document, tail)) :
    Writes (read? nesting) front document where
  begins := by
    subst same
    rcases opens with rfl | rfl <;> exact ⟨_, rfl, rfl, by simp [IsClosing]⟩
  read space tail blank ends := by
    subst same
    have shown : isSpace left = false := by rcases opens with rfl | rfl <;> rfl
    have skipped (space : List Char) (blank : ∀ char ∈ space, isSpace char = true) :
        skipSpace (space ++ left :: (inner ++ tail)) = left :: (inner ++ tail) :=
      skipSpace_append blank fun char same => by cases same; exact shown
    have direct := read tail
    rw [List.append_assoc, List.cons_append] at *
    cases nesting with
    | zero => rwa [read?, skipped space blank, ← skipped [] (by simp), ← read?]
    | succ nesting => rwa [read?, skipped space blank, ← skipped [] (by simp), ← read?]

/-- The indented form of a document is read as the document, at whatever depth it starts. -/
theorem writes_indented {nesting : Nat} {document : Document} (within : Within nesting document)
    (depth : Nat) : Writes (read? nesting) (document.indented depth).toList document := by
  induction nesting generalizing document depth with
  | zero => exact writes_plain within 0 depth
  | succ nesting ih =>
      cases document with
      | list items =>
          have written : List.Forall₂ (Writes (read? nesting))
              ((indentedItems (depth + 1) items).map String.toList) items := by
            rw [indentedItems_eq, List.map_map, List.forall₂_map_left_iff, List.forall₂_same]
            exact fun item member => ih (within item member) (depth + 1)
          have brackets : "[".toList = ['['] ∧ "]".toList = [']'] := ⟨rfl, rfl⟩
          obtain ⟨inner, same, read⟩ :=
            sequence_block brackets.1 brackets.2 (.inl rfl) depth written
          refine .block same (.inl rfl) fun tail => ?_
          have shown : skipSpace ('[' :: (inner ++ tail)) = '[' :: (inner ++ tail) := rfl
          rw [List.cons_append, read?, shown]
          simp only [read tail, Option.map_some]
      | record fields =>
          have written : List.Forall₂ (Writes (pair? (read? nesting)))
              ((indentedFields (depth + 1) fields).map String.toList) fields := by
            rw [indentedFields_eq, List.map_map, List.forall₂_map_left_iff, List.forall₂_same]
            intro field member
            have value := ih (within field member) (depth + 1)
            rw [Function.comp_apply, String.toList_append]
            exact value.field field.1
          have braces : "\x7b".toList = ['\x7b'] ∧ "\x7d".toList = ['\x7d'] := ⟨rfl, rfl⟩
          obtain ⟨inner, same, read⟩ := sequence_block braces.1 braces.2 (.inr rfl) depth written
          refine .block same (.inr rfl) fun tail => ?_
          have shown : skipSpace ('\x7b' :: (inner ++ tail)) = '\x7b' :: (inner ++ tail) := rfl
          rw [List.cons_append, read?, shown]
          simp only [read tail, Option.map_some]
      | null => exact writes_plain (show Within 0 null from trivial) _ depth
      | boolean value => exact writes_plain (show Within 0 (boolean value) from trivial) _ depth
      | number value => exact writes_plain (show Within 0 (number value) from trivial) _ depth
      | text value => exact writes_plain (show Within 0 (text value) from trivial) _ depth

/-- A document that is not nested too deeply is the document of its indented form. -/
theorem ofText?_indented {document : Document} (within : Within mostNested document) :
    ofText? (document.indented 0) = some document := by
  have read := (writes_indented within 0).read [] [] (by simp) (by simp [Ends])
  rw [List.nil_append, List.append_nil] at read
  rw [ofText?, read]
  rfl

end DesktopGateway.Text.Document
