import DesktopGateway.Proofs.Text.Blank
import DesktopGateway.Text.Upper

/-!
# White space and spelling

Neither the upper case of a character nor the digits of a number have white space that was not there
before.
-/

namespace DesktopGateway.Text.Blank

/-- The first and the last of each row of white space. -/
def spaces : List (Nat × Nat) :=
  [(0x9, 0xD), (0x20, 0x20), (0x85, 0x85), (0xA0, 0xA0), (0x1680, 0x1680), (0x2000, 0x200A),
    (0x2028, 0x2029), (0x202F, 0x202F), (0x205F, 0x205F), (0x3000, 0x3000)]

theorem isBlank_iff (char : Char) :
    isBlank char = true ↔ ∃ space ∈ spaces, space.1 ≤ char.toNat ∧ char.toNat ≤ space.2 := by
  simp only [isBlank, spaces, List.mem_cons, List.not_mem_nil, or_false, exists_eq_or_imp,
    exists_eq_left, Bool.or_eq_true, Bool.and_eq_true, decide_eq_true_eq]
  omega

theorem positive_of_mem_spaces : ∀ space ∈ spaces, 0 < space.1 := by
  decide

/-- A code point outside these rows is no white space. -/
theorem isBlank_ofNat {code : Nat}
    (outside : ∀ space ∈ spaces, code < space.1 ∨ space.2 < code) :
    isBlank (Char.ofNat code) = false := by
  rw [← Bool.not_eq_true, isBlank_iff]
  rintro ⟨space, listed, above, below⟩
  by_cases valid : code.isValidChar
  · have same : (Char.ofNat code).toNat = code := by
      rw [Char.ofNat, dif_pos valid]
      rfl
    rw [same] at above below
    have := outside space listed
    omega
  · have zero : (Char.ofNat code).toNat = 0 := by
      simp [Char.ofNat, valid, Char.toNat]
    rw [zero] at above
    have := positive_of_mem_spaces space listed
    omega

/-- Digits are no white space. -/
theorem unbroken_toString (number : UInt32) : Unbroken (toString number) := by
  intro char member
  have digit : char.isDigit = true := by
    have written : (toString number).toList = Nat.toDigits 10 number.toNat := Nat.toList_repr
    rw [written] at member
    exact Nat.isDigit_of_mem_toDigits (by omega) (by omega) member
  rw [Char.isDigit, Bool.and_eq_true, decide_eq_true_eq, decide_eq_true_eq] at digit
  rw [← Bool.not_eq_true, isBlank_iff]
  rintro ⟨space, listed, above, below⟩
  have low : 48 ≤ char.toNat := digit.1
  have high : char.toNat ≤ 57 := digit.2
  have apart : ∀ space ∈ spaces, space.2 < 48 ∨ 57 < space.1 := by decide
  have := apart space listed
  omega

end DesktopGateway.Text.Blank

namespace DesktopGateway.Text.Upper

open DesktopGateway.Text.Blank

/-- No run moves a character onto white space. -/
theorem runs_clear : ∀ run ∈ runs, ∀ space ∈ spaces,
    run.last + run.shift < space.1 ∨ (space.2 : Int) < run.first + run.shift := by
  decide +kernel

theorem expansions_clear : ∀ expansion ∈ expansions, ∀ code ∈ expansion.2,
    isBlank (Char.ofNat code) = false := by
  decide +kernel

theorem toUpper_clear : ∀ code < 128, isBlank (Char.ofNat code) = false →
    isBlank (Char.ofNat code).toUpper = false := by
  decide +kernel

theorem ofChar_clear {char upper : Char} (clear : isBlank char = false)
    (member : upper ∈ ofChar char) : isBlank upper = false := by
  unfold ofChar at member
  dsimp only at member
  split at member
  case isTrue small =>
      rw [List.mem_singleton] at member
      have := toUpper_clear char.toNat small (by rwa [Char.ofNat_toNat])
      rwa [Char.ofNat_toNat, ← member] at this
  case isFalse =>
      split at member
      case h_1 expansion found =>
          obtain ⟨code, inside, rfl⟩ := List.mem_map.mp member
          obtain ⟨front, back, listed, -⟩ := List.lookup_eq_some_iff.mp found
          refine expansions_clear (char.toNat, expansion) ?_ code inside
          rw [listed]
          exact List.mem_append_right _ (List.mem_cons_self ..)
      case h_2 =>
          split at member
          case h_1 run found =>
              rw [List.mem_singleton] at member
              have inside := List.find?_some found
              simp only [Bool.and_eq_true, decide_eq_true_eq] at inside
              subst member
              refine isBlank_ofNat fun space listed => ?_
              have apart := runs_clear run (List.mem_of_find?_eq_some found) space listed
              have := positive_of_mem_spaces space listed
              omega
          case h_2 =>
              rw [List.mem_singleton] at member
              rwa [member]

/-- The upper case of a text without white space has none either. -/
theorem unbroken_ofString {text : String} (unbroken : Unbroken text) :
    Unbroken (ofString text) := by
  intro char member
  rw [ofString, String.toList_ofList] at member
  obtain ⟨lower, inside, upper⟩ := List.mem_flatMap.mp member
  exact ofChar_clear (unbroken lower inside) upper

end DesktopGateway.Text.Upper
