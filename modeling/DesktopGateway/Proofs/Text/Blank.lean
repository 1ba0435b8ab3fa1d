import DesktopGateway.Text.Blank

/-!
# Words

White space ends a word wherever it stands, and a word has none. So the words of a sentence are the
words of its parts, and a text without white space is one word.
-/

namespace DesktopGateway.Text.Blank

def Unbroken (text : String) : Prop :=
  ∀ char ∈ text.toList, isBlank char = false

instance (text : String) : Decidable (Unbroken text) :=
  List.decidableBAll (fun char => isBlank char = false) text.toList

theorem unbroken_append {front back : String} :
    Unbroken (front ++ back) ↔ Unbroken front ∧ Unbroken back := by
  simp only [Unbroken, String.toList_append, List.mem_append, or_imp, forall_and]

/-! ## Words of characters -/

/-- A word and those behind it, if it is one. -/
def joined (word : List Char) (later : List (List Char)) : List (List Char) :=
  if word.isEmpty then later else word :: later

theorem joined_append (word : List Char) (later more : List (List Char)) :
    joined word (later ++ more) = joined word later ++ more := by
  unfold joined
  split <;> rfl

theorem mem_joined {part word : List Char} {later : List (List Char)}
    (member : part ∈ joined word later) : part = word ∨ part ∈ later := by
  unfold joined at member
  split at member
  · exact Or.inr member
  · exact List.mem_cons.mp member

def wordsOf (text : List Char) : List (List Char) :=
  joined (wordsFrom text).1 (wordsFrom text).2

theorem words_eq (text : String) : words text = (wordsOf text.toList).map String.ofList := rfl

theorem wordsFrom_cons (char : Char) (rest : List Char) :
    wordsFrom (char :: rest) =
      if isBlank char then ([], wordsOf rest)
      else (char :: (wordsFrom rest).1, (wordsFrom rest).2) := rfl

theorem wordsFrom_blank {char : Char} (blank : isBlank char = true) (rest : List Char) :
    wordsFrom (char :: rest) = ([], wordsOf rest) := by
  rw [wordsFrom_cons, if_pos blank]

theorem wordsFrom_other {char : Char} (other : isBlank char = false) (rest : List Char) :
    wordsFrom (char :: rest) = (char :: (wordsFrom rest).1, (wordsFrom rest).2) := by
  rw [wordsFrom_cons, if_neg (by rw [other]; decide)]

/-- White space between two texts keeps their words apart. -/
theorem wordsFrom_append {char : Char} (blank : isBlank char = true) (front back : List Char) :
    wordsFrom (front ++ char :: back) =
      ((wordsFrom front).1, (wordsFrom front).2 ++ wordsOf back) := by
  induction front with
  | nil => exact wordsFrom_blank blank back
  | cons first front ih =>
      rw [List.cons_append]
      cases kind : isBlank first with
      | true =>
          rw [wordsFrom_blank kind, wordsFrom_blank kind, wordsOf.eq_1 (front ++ _), ih,
            joined_append, ← wordsOf]
      | false => rw [wordsFrom_other kind, wordsFrom_other kind, ih]

theorem wordsOf_append {char : Char} (blank : isBlank char = true) (front back : List Char) :
    wordsOf (front ++ char :: back) = wordsOf front ++ wordsOf back := by
  rw [wordsOf.eq_1 (front ++ _), wordsFrom_append blank, joined_append, ← wordsOf]

theorem wordsFrom_unbroken {text : List Char} (unbroken : ∀ char ∈ text, isBlank char = false) :
    wordsFrom text = (text, []) := by
  induction text with
  | nil => rfl
  | cons char rest ih =>
      rw [wordsFrom_other (unbroken char (List.mem_cons_self ..)),
        ih fun other member => unbroken other (List.mem_cons_of_mem _ member)]

/-- No word has white space in it. -/
theorem unbroken_of_mem_wordsFrom (text : List Char) {part : List Char}
    (member : part = (wordsFrom text).1 ∨ part ∈ (wordsFrom text).2) :
    ∀ char ∈ part, isBlank char = false := by
  induction text generalizing part with
  | nil =>
      obtain rfl | impossible := member
      · intro char impossible
        cases impossible
      · cases impossible
  | cons first rest ih =>
      cases kind : isBlank first with
      | true =>
          rw [wordsFrom_blank kind] at member
          obtain rfl | later := member
          · intro char impossible
            cases impossible
          · exact ih (mem_joined later)
      | false =>
          rw [wordsFrom_other kind] at member
          obtain rfl | later := member
          · intro char inside
            obtain rfl | behind := List.mem_cons.mp inside
            · exact kind
            · exact ih (Or.inl rfl) char behind
          · exact ih (Or.inr later)

/-! ## Words of texts -/

/-- Words have no white space. -/
theorem unbroken_of_mem_words {text word : String} (member : word ∈ words text) :
    Unbroken word := by
  rw [words_eq, List.mem_map] at member
  obtain ⟨part, listed, rfl⟩ := member
  rw [Unbroken, String.toList_ofList]
  exact unbroken_of_mem_wordsFrom text.toList (mem_joined listed)

/-- A text without white space is a word of its own. -/
theorem words_unbroken {text : String} (unbroken : Unbroken text) (filled : text ≠ "") :
    words text = [text] := by
  have some : text.toList.isEmpty = false := by
    rw [List.isEmpty_eq_false_iff]
    exact fun empty => filled (String.toList_eq_nil_iff.mp empty)
  rw [words_eq, wordsOf, wordsFrom_unbroken unbroken, joined, some]
  simp

theorem words_append_blank (front back : String) :
    words (front ++ " " ++ back) = words front ++ words back := by
  have space : (front ++ " " ++ back).toList = front.toList ++ ' ' :: back.toList := by simp
  rw [words_eq, space, wordsOf_append (by decide), List.map_append, ← words_eq, ← words_eq]

/-- The words of a sentence are those of its phrases with those between them. -/
theorem words_intercalate (between : String) (phrases : List String) :
    words ((" " ++ between ++ " ").intercalate phrases) =
      (words between).intercalate (phrases.map words) := by
  induction phrases with
  | nil => rfl
  | cons phrase phrases ih =>
      cases phrases with
      | nil => simp
      | cons second phrases =>
          rw [String.intercalate_cons_cons, List.map_cons, List.map_cons,
            List.intercalate_cons_cons, ← List.map_cons, ← ih]
          have parted : phrase ++ (" " ++ between ++ " ") ++
              (" " ++ between ++ " ").intercalate (second :: phrases) =
                phrase ++ " " ++ (between ++ " " ++
                  (" " ++ between ++ " ").intercalate (second :: phrases)) := by
            simp only [String.append_assoc]
          rw [parted, words_append_blank, words_append_blank, List.append_assoc]

end DesktopGateway.Text.Blank
