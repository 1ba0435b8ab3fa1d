/-!
# Parts

A sequence cut at a separator. The parts, joined with the separator, are the sequence again. Cut at
its last separator only, it has two parts.
-/

namespace DesktopGateway.Text.Parts

variable {α : Type} [DecidableEq α]

/-- The parts of a sequence between its separators; there is always one. -/
def cut (separator : α) (sequence : List α) : List α × List (List α) :=
  sequence.foldr
    (fun item (part, later) =>
      if item = separator then ([], part :: later) else (item :: part, later))
    ([], [])

def of (separator : α) (sequence : List α) : List (List α) :=
  let parts := cut separator sequence
  parts.1 :: parts.2

/-- What stands behind the last separator, and what stands before it. -/
def atLast? (separator : α) (sequence : List α) : Option (List α × List α) :=
  let behind := (sequence.reverse.takeWhile (· ≠ separator)).reverse
  if behind.length < sequence.length then
    some (sequence.take (sequence.length - behind.length - 1), behind)
  else none

theorem of_nil (separator : α) : of separator [] = [[]] := rfl

theorem of_separator (separator : α) (rest : List α) :
    of separator (separator :: rest) = [] :: of separator rest := by
  simp [of, cut]

theorem of_other {separator item : α} (other : item ≠ separator) (rest : List α) :
    of separator (item :: rest) =
      (item :: (cut separator rest).1) :: (cut separator rest).2 := by
  simp [of, cut, other]

/-- Every item other than the separator is in one of the parts. -/
theorem exists_mem_of {separator item : α} (other : item ≠ separator) {sequence : List α}
    (member : item ∈ sequence) : ∃ part ∈ of separator sequence, item ∈ part := by
  induction sequence with
  | nil => cases member
  | cons first rest ih =>
      by_cases same : first = separator
      · rw [same, of_separator]
        rcases List.mem_cons.mp member with rfl | later
        · exact absurd same other
        · obtain ⟨part, listed, inside⟩ := ih later
          exact ⟨part, List.mem_cons_of_mem _ listed, inside⟩
      · rw [of_other same]
        rcases List.mem_cons.mp member with rfl | later
        · exact ⟨_, List.mem_cons_self .., List.mem_cons_self ..⟩
        · obtain ⟨part, listed, inside⟩ := ih later
          rcases List.mem_cons.mp listed with rfl | further
          · exact ⟨_, List.mem_cons_self .., List.mem_cons_of_mem _ inside⟩
          · exact ⟨part, List.mem_cons_of_mem _ further, inside⟩

theorem takeWhile_ne_append {separator : α} {items : List α} (plain : separator ∉ items)
    (more : List α) :
    (items ++ more).takeWhile (· ≠ separator) = items ++ more.takeWhile (· ≠ separator) :=
  List.takeWhile_append_of_pos fun _ member => decide_eq_true fun same => plain (same ▸ member)

theorem atLast?_append {separator : α} {behind : List α} (plain : separator ∉ behind)
    (before : List α) :
    atLast? separator (before ++ separator :: behind) = some (before, behind) := by
  have found : ((before ++ separator :: behind).reverse.takeWhile (· ≠ separator)).reverse =
      behind := by
    rw [List.reverse_append, List.reverse_cons, List.append_assoc, List.singleton_append,
      takeWhile_ne_append fun member => plain (List.mem_reverse.mp member)]
    simp
  have front : before.length + (behind.length + 1) - behind.length - 1 = before.length := by omega
  unfold atLast?
  dsimp only
  rw [found, List.length_append, List.length_cons, if_pos (by omega), front, List.take_left]

theorem atLast?_of_not_mem {separator : α} {sequence : List α} (plain : separator ∉ sequence) :
    atLast? separator sequence = none := by
  have whole := takeWhile_ne_append (fun member => plain (List.mem_reverse.mp member)) []
  rw [List.append_nil, List.takeWhile_nil, List.append_nil] at whole
  unfold atLast?
  dsimp only
  rw [whole, List.reverse_reverse, if_neg (Nat.lt_irrefl _)]

omit [DecidableEq α] in
theorem exists_last {separator : α} {sequence : List α} (member : separator ∈ sequence) :
    ∃ before behind, sequence = before ++ separator :: behind ∧ separator ∉ behind := by
  obtain ⟨later, earlier, split, plain⟩ :=
    List.eq_append_cons_of_mem (List.mem_reverse.mpr member)
  refine ⟨earlier.reverse, later.reverse, ?_, fun found => plain (List.mem_reverse.mp found)⟩
  rw [← List.reverse_reverse sequence, split]
  simp

theorem atLast?_eq_some_iff {separator : α} {sequence before behind : List α} :
    atLast? separator sequence = some (before, behind) ↔
      sequence = before ++ separator :: behind ∧ separator ∉ behind := by
  constructor
  · intro found
    by_cases member : separator ∈ sequence
    · obtain ⟨front, back, rfl, plain⟩ := exists_last member
      rw [atLast?_append plain] at found
      cases found
      exact ⟨rfl, plain⟩
    · rw [atLast?_of_not_mem member] at found
      cases found
  · rintro ⟨rfl, plain⟩
    exact atLast?_append plain before

end DesktopGateway.Text.Parts
