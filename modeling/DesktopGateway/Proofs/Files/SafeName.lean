import DesktopGateway.Files.Upload
import DesktopGateway.Proofs.Files.LexicalPath
import DesktopGateway.Proofs.Files.Placement
import Mathlib.Data.List.TakeWhile

/-!
# Safe names are exact

A safe name has a character for each one behind the last separator of the name it was made of: the
same character if it is allowed, and a dash otherwise. It is refused for just the parts that are no
names of files. What is left can stand behind any directory as one component more, and a safe name
is its own safe name.
-/

namespace DesktopGateway.Volume.Route

/-- The written path that another one means from a directory. One that starts at the root replaces
the directory. -/
def join (directory path : List UInt8) : List UInt8 :=
  if path.head? = some slash then path
  else if directory = [] ∨ directory.getLast? = some slash then directory ++ path
  else directory ++ slash :: path

theorem getLast?_encode_iff (text : String) :
    (Text.Utf8.encode text).getLast? = some slash ↔ text.toList.getLast? = some '/' := by
  rw [Text.Utf8.encode_eq_flatMap]
  rcases List.eq_nil_or_concat text.toList with empty | ⟨front, last, split⟩
  · rw [empty]
    simp
  · have filled : String.utf8EncodeChar last ≠ [] := by simp
    rw [split, List.concat_eq_append, List.flatMap_append, List.flatMap_singleton,
      List.getLast?_append_of_ne_nil _ filled, List.getLast?_concat, Option.some.injEq]
    constructor
    · intro ended
      exact (slash_mem_utf8EncodeChar_iff last).mp (List.mem_of_getLast? ended)
    · rintro rfl
      rfl

end DesktopGateway.Volume.Route

namespace DesktopGateway.Files

open DesktopGateway.Text
open Volume (Route)

namespace SafeName

/-! ## Characters -/

def IsAllowed (char : Char) : Prop :=
  ('A' ≤ char ∧ char ≤ 'Z') ∨ ('a' ≤ char ∧ char ≤ 'z') ∨ ('0' ≤ char ∧ char ≤ '9') ∨
    char = '.' ∨ char = '_' ∨ char = '-'

instance (char : Char) : Decidable (IsAllowed char) :=
  inferInstanceAs (Decidable (_ ∨ _))

theorem isSafe_iff (char : Char) : isSafe char = true ↔ IsAllowed char := by
  have upper : char.isUpper = true ↔ 'A' ≤ char ∧ char ≤ 'Z' := decide_eq_true_iff
  have lower : char.isLower = true ↔ 'a' ≤ char ∧ char ≤ 'z' :=
    Bool.and_eq_true_iff.trans (and_congr decide_eq_true_iff decide_eq_true_iff)
  have digit : char.isDigit = true ↔ '0' ≤ char ∧ char ≤ '9' :=
    Bool.and_eq_true_iff.trans (and_congr decide_eq_true_iff decide_eq_true_iff)
  have letter : char.isAlpha = true ↔ _ := Bool.or_eq_true_iff
  have either : char.isAlphanum = true ↔ _ := Bool.or_eq_true_iff
  simp only [isSafe, IsAllowed, Bool.or_eq_true, decide_eq_true_eq, either, letter, upper, lower,
    digit, or_assoc]

theorem replace_eq (char : Char) : replace char = if IsAllowed char then char else '-' := by
  simp only [replace, isSafe_iff]

theorem replace_of_allowed {char : Char} (allowed : IsAllowed char) : replace char = char := by
  rw [replace_eq, if_pos allowed]

theorem isAllowed_replace (char : Char) : IsAllowed (replace char) := by
  rw [replace_eq]
  split
  · assumption
  · decide

theorem replace_eq_dot_iff (char : Char) : replace char = '.' ↔ char = '.' := by
  constructor
  · intro dot
    rw [replace_eq] at dot
    split at dot
    · exact dot
    · cases dot
  · rintro rfl
    rfl

theorem not_isSeparator_of_isAllowed {char : Char} (allowed : IsAllowed char) :
    isSeparator char = false := by
  rw [isSeparator, Bool.or_eq_false_iff, decide_eq_false_iff_not, decide_eq_false_iff_not]
  constructor
  · rintro rfl
    exact absurd allowed (by decide)
  · rintro rfl
    exact absurd allowed (by decide)

/-! ## The last part -/

/-- What stands behind the last separator, if there is one. -/
theorem exists_lastPart (name : List Char) :
    ∃ front, name = front ++ lastPart name ∧
      (front = [] ∨ ∃ before separator, front = before ++ [separator] ∧
        isSeparator separator = true) ∧
      ∀ char ∈ lastPart name, isSeparator char = false := by
  have whole := List.takeWhile_append_dropWhile (p := fun char => !isSeparator char)
    (l := name.reverse)
  refine ⟨(name.reverse.dropWhile fun char => !isSeparator char).reverse, ?_, ?_, ?_⟩
  · rw [lastPart, ← List.reverse_append, whole, List.reverse_reverse]
  · cases ended : name.reverse.dropWhile fun char => !isSeparator char with
    | nil => exact Or.inl rfl
    | cons separator before =>
        refine Or.inr ⟨before.reverse, separator, List.reverse_cons, ?_⟩
        have stopped := List.head?_dropWhile_not (fun char => !isSeparator char) name.reverse
        rw [ended] at stopped
        simpa using stopped
  · intro char member
    rw [lastPart, List.mem_reverse] at member
    simpa using List.mem_takeWhile_imp member

theorem lastPart_of_plain {name : List Char} (plain : ∀ char ∈ name, isSeparator char = false) :
    lastPart name = name := by
  rw [lastPart, List.takeWhile_eq_self_iff.mpr, List.reverse_reverse]
  intro char member
  rw [plain char (List.mem_reverse.mp member)]
  rfl

/-! ## Names -/

theorem map_replace_of_allowed {chars : List Char} (allowed : ∀ char ∈ chars, IsAllowed char) :
    chars.map replace = chars := by
  have same := List.map_congr_left fun char member => replace_of_allowed (allowed char member)
  exact same.trans (List.map_id' chars)

theorem allowed_of_mem_map {part : List Char} {char : Char} (member : char ∈ part.map replace) :
    IsAllowed char := by
  obtain ⟨other, _, rfl⟩ := List.mem_map.mp member
  exact isAllowed_replace other

/-- Only dots are made of dots. -/
theorem map_replace_eq_replicate_iff (part : List Char) (count : Nat) :
    part.map replace = List.replicate count '.' ↔ part = List.replicate count '.' := by
  simp only [List.eq_replicate_iff, List.length_map, List.mem_map, forall_exists_index, and_imp,
    forall_apply_eq_imp_iff₂, replace_eq_dot_iff]

def IsUnusable (part : List Char) : Prop :=
  part = [] ∨ part = ['.'] ∨ part = ['.', '.']

theorem isUnusable_map_replace_iff (part : List Char) :
    IsUnusable (part.map replace) ↔ IsUnusable part := by
  have one := map_replace_eq_replicate_iff part 1
  have two := map_replace_eq_replicate_iff part 2
  simp only [List.replicate] at one two
  rw [IsUnusable, IsUnusable, one, two, List.map_eq_nil_iff]

instance (part : List Char) : Decidable (IsUnusable part) :=
  inferInstanceAs (Decidable (_ ∨ _))

theorem ofName?_eq (name : String) :
    ofName? name =
      if IsUnusable (lastPart name.toList) then none
      else some (String.ofList ((lastPart name.toList).map replace)) := by
  simp only [ofName?, Bool.or_eq_true, decide_eq_true_eq, or_assoc]
  exact if_congr (isUnusable_map_replace_iff _) rfl rfl

theorem ofName?_eq_none_iff (name : String) :
    ofName? name = none ↔ IsUnusable (lastPart name.toList) := by
  rw [ofName?_eq]
  split <;> simp [*]

theorem ofName?_eq_some_iff (name safe : String) :
    ofName? name = some safe ↔
      ¬ IsUnusable (lastPart name.toList) ∧ safe.toList = (lastPart name.toList).map replace := by
  rw [ofName?_eq]
  split
  · rename_i unusable
    simp [unusable]
  · rename_i usable
    rw [and_iff_right usable, Option.some.injEq, ← String.toList_inj, String.toList_ofList, eq_comm]

section Usable

variable {name safe : String} (usable : ofName? name = some safe)

include usable

theorem isAllowed_of_ofName? {char : Char} (member : char ∈ safe.toList) : IsAllowed char := by
  rw [((ofName?_eq_some_iff name safe).mp usable).2] at member
  exact allowed_of_mem_map member

theorem not_isUnusable_of_ofName? : ¬ IsUnusable safe.toList := by
  obtain ⟨refused, same⟩ := (ofName?_eq_some_iff name safe).mp usable
  rw [same, isUnusable_map_replace_iff]
  exact refused

/-- A safe name is its own last part, and nothing in it is replaced. -/
theorem ofName?_of_ofName? : ofName? safe = some safe := by
  have plain : ∀ char ∈ safe.toList, isSeparator char = false := fun char member =>
    not_isSeparator_of_isAllowed (isAllowed_of_ofName? usable member)
  rw [ofName?_eq_some_iff, lastPart_of_plain plain,
    map_replace_of_allowed fun char member => isAllowed_of_ofName? usable member]
  exact ⟨not_isUnusable_of_ofName? usable, rfl⟩

/-- A safe name is the name of an entry. -/
theorem isName_of_ofName? : IsName safe := by
  have refused := not_isUnusable_of_ofName? usable
  rw [IsUnusable, not_or, not_or] at refused
  obtain ⟨filled, inner, lower⟩ := refused
  constructor
  · rintro rfl
    exact filled rfl
  · rintro rfl
    exact inner rfl
  · rintro rfl
    exact lower rfl
  · intro slash
    exact absurd (isAllowed_of_ofName? usable slash) (by decide)

end Usable

end SafeName

/-! ## Names behind directories -/

theorem Place.intercalate_concat {names : List String} (inner : names ≠ []) (name : String) :
    String.intercalate "/" (names ++ [name]) = String.intercalate "/" names ++ "/" ++ name := by
  induction names with
  | nil => exact absurd rfl inner
  | cons first names ih =>
      cases names with
      | nil =>
          rw [List.singleton_append, String.intercalate_cons_cons, String.intercalate_singleton,
            String.intercalate_singleton]
      | cons second names =>
          have later := ih (List.cons_ne_nil _ _)
          rw [List.cons_append, List.cons_append, String.intercalate_cons_cons, ← List.cons_append,
            later, String.intercalate_cons_cons]
          simp only [String.append_assoc]

namespace IsName

variable {name : String} (named : IsName name)

include named

theorem parts : Parts.of '/' name.toList = [name.toList] := by
  have plain := Parts.of_plain_append named.whole []
  rwa [List.append_nil, Parts.cut, List.foldr_nil, List.append_nil] at plain

theorem parts_encode : Route.parts (Utf8.encode name) = [Utf8.encode name] := by
  rw [Route.parts_encode, named.parts, List.map_singleton, String.ofList_toList]

theorem steps_encode : Route.steps (Utf8.encode name) = [.name (Utf8.encode name)] := by
  rw [Route.steps, named.parts_encode, List.filterMap_cons, named.segment?]
  rfl

theorem head?_encode : (Utf8.encode name).head? ≠ some Route.slash := by
  intro closed
  have member := List.mem_of_mem_head? closed
  exact named.whole ((@Utf8.mem_encode_iff '/' (by decide) name).mp member)

/-- A name stands behind a directory as one component more. -/
theorem components_join (directory : List UInt8) :
    Route.components (Route.join directory (Utf8.encode name)) =
      (Route.components directory).extend [name] := by
  have below : Route.steps (Utf8.encode name) =
      [name].map fun name => .name (Utf8.encode name) := named.steps_encode
  unfold Route.join
  rw [if_neg named.head?_encode]
  split
  · rename_i ended
    by_cases empty : directory = []
    · subst empty
      have dots : (Route.parts (Utf8.encode name)).head? ≠ some [Route.dot] := by
        rw [named.parts_encode, List.head?_singleton]
        intro dot
        exact named.inner ((@Utf8.encode_inj name ".").mp (Option.some.inj dot))
      have root : Route.components [] = ⟨false, []⟩ := rfl
      rw [root, Route.components, List.nil_append, if_neg fun relative => dots relative.2,
        named.steps_encode]
      simp [Route.extend, named.head?_encode]
    · obtain ⟨front, rfl⟩ := List.getLast?_eq_some_iff.mp (ended.resolve_left empty)
      rw [List.append_assoc, List.singleton_append]
      apply Route.components_of_steps
      · cases front <;> rfl
      · rw [Route.parts, Route.parts, Parts.of_append_separator, Parts.of_append_separator]
        rfl
      · rw [Route.steps, Route.steps, Route.parts, Route.parts, Parts.of_append_separator,
          Parts.of_append_separator, List.filterMap_append, List.filterMap_append, ← below]
        exact congrArg (· ++ _) (List.append_nil _).symm
  · rename_i closed
    rw [not_or] at closed
    apply Route.components_of_steps
    · rw [List.head?_append_of_ne_nil _ closed.1]
    · rw [Route.parts, Parts.of_append_separator]
      rfl
    · rw [Route.steps, Route.parts, Parts.of_append_separator, List.filterMap_append, ← below]
      rfl

end IsName

theorem Place.path_singleton (home name : String) : (Place.mk home [name]).path =
    (if home.toList.getLast? = some '/' then home else home ++ "/") ++ name :=
  rfl

/-- The child of a place has the path of a child of a home at the place's path. -/
theorem Place.path_child {place : Place} (plain : ∀ name ∈ place.below, IsName name)
    (name : String) : (place.child name).path = (Place.mk place.path [name]).path := by
  by_cases inner : place.below = []
  · have home : place.path = place.home := by
      rw [Place.path, inner]
      rfl
    rw [home, Place.path, Place.child, inner]
    rfl
  · have unended : place.path.toList.getLast? ≠ some '/' := by
      rw [ne_eq, ← Route.getLast?_encode_iff]
      exact Place.getLast?_bytes inner plain
    rw [Place.path_singleton, if_neg unended]
    simp only [Place.path, Place.child, List.isEmpty_iff, inner, List.append_eq_nil_iff,
      List.cons_ne_nil, and_false, if_false, Place.intercalate_concat inner, String.append_assoc]
    rfl

/-- The child of a place is what its name means from there. -/
theorem IsName.bytes_child {name : String} (named : IsName name) {place : Place}
    (written : place.home ≠ "") (plain : ∀ name ∈ place.below, IsName name) :
    (place.child name).bytes = Route.join place.bytes (Utf8.encode name) := by
  have filled : Utf8.encode place.path ≠ [] := by
    obtain ⟨rest, same⟩ := place.bytes_eq_append
    rw [← Place.bytes, same]
    intro empty
    exact written ((@Utf8.encode_inj place.home "").mp (List.append_eq_nil_iff.mp empty).1)
  rw [Place.bytes, Place.path_child plain, Place.path_singleton, Utf8.encode_append, Route.join,
    if_neg named.head?_encode, Place.bytes]
  simp only [filled, false_or, Route.getLast?_encode_iff]
  split
  · rfl
  · rw [Utf8.encode_append, List.append_assoc]
    rfl

namespace SafeName

/-- The part of a name behind its last slash or backslash decides what becomes of it. It is refused
exactly if it is empty, a dot or two dots. Otherwise the safe name has a character for each of the
part's: the same one if it is allowed, and a dash if not. A safe name
* is not empty, a dot or two dots, and has no separator,
* stands behind every directory as one component more, and joining it to a place gives the place's
  child,
* and is its own safe name. -/
theorem ofName?_exact (name : String) :
    ∃ front part, name.toList = front ++ part ∧
      (front = [] ∨ ∃ before separator, front = before ++ [separator] ∧
        (separator = '/' ∨ separator = '\\')) ∧
      '/' ∉ part ∧ '\\' ∉ part ∧
      (ofName? name = none ↔ part = [] ∨ part = ['.'] ∨ part = ['.', '.']) ∧
      ∀ safe, ofName? name = some safe →
        (safe.toList.length = part.length ∧
          ∀ (place : Nat) (char : Char), part[place]? = some char →
            safe.toList[place]? = some (if IsAllowed char then char else '-')) ∧
        (safe ≠ "" ∧ safe ≠ "." ∧ safe ≠ ".." ∧ '/' ∉ safe.toList ∧ '\\' ∉ safe.toList) ∧
        (∀ directory, Route.components (Route.join directory (Utf8.encode safe)) =
          (Route.components directory).extend [safe]) ∧
        (∀ place : Place, place.home ≠ "" → (∀ name ∈ place.below, IsName name) →
          (place.child safe).bytes = Route.join place.bytes (Utf8.encode safe)) ∧
        ofName? safe = some safe := by
  obtain ⟨front, whole, closed, plain⟩ := exists_lastPart name.toList
  refine ⟨front, lastPart name.toList, whole, ?_, ?_, ?_, ofName?_eq_none_iff name, ?_⟩
  · simpa [isSeparator] using closed
  · exact fun slash => absurd (plain _ slash) (by decide)
  · exact fun backslash => absurd (plain _ backslash) (by decide)
  intro safe usable
  have named := isName_of_ofName? usable
  have same := ((ofName?_eq_some_iff name safe).mp usable).2
  refine ⟨⟨?_, ?_⟩, ⟨named.filled, named.inner, named.lower, named.whole, ?_⟩,
    named.components_join, fun place written above => named.bytes_child written above,
    ofName?_of_ofName? usable⟩
  · rw [same, List.length_map]
  · intro place char here
    rw [same, List.getElem?_map, here, ← replace_eq]
    rfl
  · exact fun backslash => absurd (isAllowed_of_ofName? usable backslash) (by decide)

end SafeName

end DesktopGateway.Files
