import DesktopGateway.Proofs.Text.Utf8
import DesktopGateway.Volume.Route

/-!
# The names in a written path

Paths are cut at their slashes byte by byte. On the bytes of a text this is the same as cutting the
text, so that every name in a path that a client wrote is a text again.
-/

namespace DesktopGateway.Text.Parts

variable {α : Type} [DecidableEq α]

/-- What holds no separator lengthens the first part. -/
theorem of_plain_append {separator : α} {front : List α} (plain : separator ∉ front)
    (rest : List α) :
    of separator (front ++ rest) =
      (front ++ (cut separator rest).1) :: (cut separator rest).2 := by
  induction front with
  | nil => rfl
  | cons item front ih =>
      rw [List.mem_cons, not_or] at plain
      have same := ih plain.2
      rw [of, List.cons.injEq] at same
      rw [List.cons_append, of_other (Ne.symm plain.1), same.1, same.2, List.cons_append]

theorem sublist_of_mem {separator : α} {sequence part : List α}
    (member : part ∈ of separator sequence) : part.Sublist sequence := by
  induction sequence generalizing part with
  | nil =>
      rw [of_nil, List.mem_singleton] at member
      subst member
      exact List.Sublist.refl []
  | cons item rest ih =>
      by_cases same : item = separator
      · rw [same, of_separator, List.mem_cons] at member
        rcases member with rfl | later
        · exact List.nil_sublist _
        · exact (ih later).cons item
      · rw [of_other same, List.mem_cons] at member
        rcases member with rfl | later
        · exact (ih (List.mem_cons_self ..)).cons_cons item
        · exact (ih (List.mem_cons_of_mem _ later)).cons item

theorem separator_not_mem_of_mem {separator : α} {sequence part : List α}
    (member : part ∈ of separator sequence) : separator ∉ part := by
  induction sequence generalizing part with
  | nil =>
      rw [of_nil, List.mem_singleton] at member
      rw [member]
      exact List.not_mem_nil
  | cons item rest ih =>
      by_cases same : item = separator
      · rw [same, of_separator, List.mem_cons] at member
        rcases member with rfl | later
        · exact List.not_mem_nil
        · exact ih later
      · rw [of_other same, List.mem_cons] at member
        rcases member with rfl | later
        · rw [List.mem_cons, not_or]
          exact ⟨Ne.symm same, ih (List.mem_cons_self ..)⟩
        · exact ih (List.mem_cons_of_mem _ later)

theorem of_eq_splitOn (separator : α) (sequence : List α) :
    of separator sequence = sequence.splitOn separator := by
  induction sequence with
  | nil => rfl
  | cons item rest ih =>
      rw [List.splitOn, List.splitOnP_cons_eq_if_modifyHead, ← List.splitOn, ← ih]
      by_cases same : item = separator
      · rw [same, of_separator, if_pos (beq_self_eq_true separator)]
      · rw [of_other same, if_neg (by simpa using same)]
        rfl

theorem of_append_separator (separator : α) (front rest : List α) :
    of separator (front ++ separator :: rest) = of separator front ++ of separator rest := by
  rw [of_eq_splitOn, of_eq_splitOn, of_eq_splitOn]
  exact List.splitOnP_append_cons front rest (beq_self_eq_true separator)

/-- A sequence that ends with a separator has an empty last part. -/
theorem getLast?_of_closed {separator : α} {sequence : List α}
    (closed : sequence.getLast? = some separator) :
    (of separator sequence).getLast? = some [] := by
  obtain ⟨front, rfl⟩ := List.getLast?_eq_some_iff.mp closed
  rw [of_append_separator, of_nil, List.getLast?_concat]

end DesktopGateway.Text.Parts

namespace DesktopGateway.Volume.Route

open DesktopGateway.Text

theorem slash_mem_utf8EncodeChar_iff (char : Char) :
    slash ∈ String.utf8EncodeChar char ↔ char = '/' := by
  have found := @Utf8.mem_encode_iff '/' (by decide) (String.ofList [char])
  rw [Utf8.encode_ofList, String.toList_ofList, List.mem_singleton] at found
  simp only [List.flatMap_cons, List.flatMap_nil, List.append_nil] at found
  exact found.trans eq_comm

/-- The parts of the bytes of a text are the bytes of its parts. -/
theorem parts_flatMap (chars : List Char) :
    parts (chars.flatMap String.utf8EncodeChar) =
      (Parts.of '/' chars).map fun part => part.flatMap String.utf8EncodeChar := by
  unfold parts
  induction chars with
  | nil => rfl
  | cons char rest ih =>
      by_cases same : char = '/'
      · subst same
        have single : String.utf8EncodeChar '/' = [slash] := rfl
        rw [Parts.of_separator, List.flatMap_cons, single, List.singleton_append,
          Parts.of_separator, ih, List.map_cons, List.flatMap_nil]
      · have plain : slash ∉ String.utf8EncodeChar char := fun found =>
          same ((slash_mem_utf8EncodeChar_iff char).mp found)
        rw [Parts.of, Parts.of, List.map_cons, List.cons.injEq] at ih
        rw [List.flatMap_cons, Parts.of_plain_append plain, Parts.of_other same, List.map_cons,
          List.flatMap_cons, ih.1, ih.2]

theorem parts_encode (text : String) :
    parts (Utf8.encode text) =
      (Parts.of '/' text.toList).map fun part => Utf8.encode (String.ofList part) := by
  rw [Utf8.encode_eq_flatMap, parts_flatMap]
  apply List.map_congr_left
  intro part _
  rw [Utf8.encode_ofList]

theorem mem_parts_encode {text : String} {name : Name}
    (member : name ∈ parts (Utf8.encode text)) :
    ∃ part ∈ Parts.of '/' text.toList, name = Utf8.encode (String.ofList part) := by
  rw [parts_encode, List.mem_map] at member
  obtain ⟨part, found, same⟩ := member
  exact ⟨part, found, same.symm⟩

theorem segment?_eq_name {part : List UInt8} {name : Name}
    (found : segment? part = some (.name name)) : part = name := by
  unfold segment? at found
  split at found
  · cases found
  · split at found
    · cases found
    · split at found <;> cases found
      rfl

/-- The name at the end of a path is one of its parts. -/
theorem mem_parts_of_lastName? {bytes : List UInt8} {name : Name}
    (found : (ofBytes bytes).lastName? = some name) : name ∈ parts bytes := by
  unfold lastName? at found
  split at found
  · rename_i last ended
    cases found
    have member := List.mem_of_getLast? ended
    rw [List.mem_filter] at member
    have listed : Segment.name name ∈ (parts bytes).filterMap segment? := by
      unfold ofBytes at member
      dsimp only at member
      split at member
      · rw [List.mem_append, List.mem_singleton] at member
        rcases member.1 with listed | closing
        · exact listed
        · cases closing
      · exact member.1
    obtain ⟨part, present, segment⟩ := List.mem_filterMap.mp listed
    rw [← segment?_eq_name segment]
    exact present
  · cases found

/-- The name at the end of a text's path is shown as it is written. -/
theorem encode_lossy_lastName {text : String} {name : Name}
    (found : (ofBytes (Utf8.encode text)).lastName? = some name) :
    Utf8.encode (Utf8.lossy name) = name := by
  obtain ⟨part, _, same⟩ := mem_parts_encode (mem_parts_of_lastName? found)
  rw [same, Utf8.lossy_encode]

theorem lastName_sublist {bytes : List UInt8} {name : Name}
    (found : (ofBytes bytes).lastName? = some name) : name.Sublist bytes :=
  Parts.sublist_of_mem (mem_parts_of_lastName? found)

/-! ## Steps -/

def steps (bytes : List UInt8) : List Segment :=
  (parts bytes).filterMap segment?

theorem segments_of_open {bytes : List UInt8} (opened : bytes.getLast? ≠ some slash) :
    (ofBytes bytes).segments = steps bytes := by
  unfold ofBytes
  simp only [opened, decide_false, Bool.false_and, Bool.false_eq_true, if_false]
  rfl

/-- A closing slash adds at most a step that stays where it is. -/
theorem segments_eq_steps (bytes : List UInt8) :
    (ofBytes bytes).segments = steps bytes ∨
      (ofBytes bytes).segments = steps bytes ++ [.here] := by
  unfold ofBytes
  dsimp only
  split
  · exact Or.inr rfl
  · exact Or.inl rfl

end DesktopGateway.Volume.Route
