import DesktopGateway.Proofs.Wire.Field
import DesktopGateway.Wire.Line

/-!
# The grammar of lines

The first newline decides what a line is. One that comes in time ends the line, and the reading
takes just the line and the newline. Without one, the reading takes as many bytes as a line may
have with its newline, or all there are, and the number of bytes taken tells the two apart. How the
stream is cut into pieces makes no difference.
-/

namespace DesktopGateway.Wire

open DesktopGateway.Text

namespace Pieces

/-- What is taken of a stream up to a mark, and what is left of it. -/
inductive Taken (mark : UInt8) (room : Nat) : List UInt8 → List UInt8 → List UInt8 → Prop where
  | marked {line rest : List UInt8} (fits : line.length < room) (plain : mark ∉ line) :
      Taken mark room (line ++ mark :: rest) (line ++ [mark]) rest
  | full {front rest : List UInt8} (fills : front.length = room) (plain : mark ∉ front) :
      Taken mark room (front ++ rest) front rest
  | ended {bytes : List UInt8} (short : bytes.length < room) (plain : mark ∉ bytes) :
      Taken mark room bytes bytes []

variable {mark : UInt8} {room : Nat}

/-- A piece without the mark is taken before the others. -/
theorem Taken.prepend {piece bytes front rest : List UInt8} (plain : mark ∉ piece)
    (taken : Taken mark room bytes front rest) :
    Taken mark (piece.length + room) (piece ++ bytes) (piece ++ front) rest := by
  cases taken with
  | @marked line rest fits later =>
      rw [← List.append_assoc, ← List.append_assoc]
      refine .marked ?_ ?_
      · rw [List.length_append]
        exact Nat.add_lt_add_left fits _
      · rw [List.mem_append, not_or]
        exact ⟨plain, later⟩
  | full fills later =>
      rw [← List.append_assoc]
      refine .full ?_ ?_
      · rw [List.length_append, fills]
      · rw [List.mem_append, not_or]
        exact ⟨plain, later⟩
  | ended short later =>
      refine .ended ?_ ?_
      · rw [List.length_append]
        exact Nat.add_lt_add_left short _
      · rw [List.mem_append, not_or]
        exact ⟨plain, later⟩

theorem taken_takeUntil (source : Pieces) :
    Taken mark room source.flatten (takeUntil mark room source).1
      (takeUntil mark room source).2.flatten := by
  induction source generalizing room with
  | nil =>
      cases room with
      | zero => exact @Taken.full mark 0 [] [] rfl List.not_mem_nil
      | succ room => exact .ended (Nat.succ_pos room) List.not_mem_nil
  | cons piece source ih =>
      rw [takeUntil]
      split
      · rename_i place found
        obtain ⟨first, early⟩ := idxOf?_of_take found
        have marked := firstMark_of_idxOf? first
        have whole : (piece :: source).flatten =
            piece.take place ++ mark :: (piece.drop (place + 1) :: source).flatten := by
          rw [List.flatten_cons, List.flatten_cons, ← List.cons_append, ← List.append_assoc,
            ← marked.around]
        rw [whole, marked.closed]
        exact .marked (by rw [marked.length]; exact early) marked.plain
      · rename_i missing
        rw [List.idxOf?_eq_none_iff] at missing
        split
        · rename_i roomy
          rw [List.take_of_length_le (Nat.le_of_lt roomy)] at missing
          have later := (@ih (room - piece.length)).prepend missing
          rw [Nat.add_sub_cancel' (Nat.le_of_lt roomy)] at later
          exact later
        · rename_i full
          have whole : (piece :: source).flatten =
              piece.take room ++ (piece.drop room :: source).flatten := by
            rw [List.flatten_cons, List.flatten_cons, ← List.append_assoc, List.take_append_drop]
          rw [whole]
          exact .full (List.length_take_of_le (Nat.le_of_not_lt full)) missing

end Pieces

namespace Field

/-! ## One line -/

theorem closeLine_of_newline (line : List UInt8) :
    closeLine (line ++ [newline]) = finishLine line.reverse := by
  rw [closeLine, List.getLast?_concat, if_pos rfl, List.dropLast_concat, finishLine,
    List.reverse_reverse]

theorem closeLine_of_plain {taken : List UInt8} (plain : newline ∉ taken) :
    closeLine taken =
      if longestLine < taken.length then .error .lineTooLong else .error .unfinishedLine := by
  rw [closeLine, if_neg fun last => plain (List.mem_of_getLast? last)]

/-- Taking a line piece by piece gives what asking for its bytes one by one gives. -/
theorem receiveLine_run (source : Pieces) :
    readLine.run source.flatten = ((receiveLine source).1, (receiveLine source).2.flatten) := by
  have taken := @Pieces.taken_takeUntil newline (longestLine + 1) source
  unfold receiveLine readLine
  dsimp only
  generalize source.takeUntil newline (longestLine + 1) = result at taken
  generalize source.flatten = bytes at taken
  obtain ⟨front, rest⟩ := result
  dsimp only at taken ⊢
  generalize rest.flatten = left at taken
  cases taken with
  | @marked line _ fits plain =>
      rw [readLineWithin_newline line [] _ _ fits plain, List.append_nil, closeLine_of_newline]
  | full fills plain =>
      rw [closeLine_of_plain plain, if_pos (by omega), ← fills,
        readLineWithin_long front [] _ plain]
  | ended short plain =>
      rw [closeLine_of_plain plain, if_neg (by omega),
        readLineWithin_unfinished bytes [] _ short plain]

/-- A text passes the check exactly if it comes back from its own line. -/
theorem checkLine_iff_readLine (text : String) :
    (∃ count, checkLine text = .ok count) ↔ (readLine.run (lineBytes text)).1 = .ok text := by
  have accepted : (∃ count, checkLine text = .ok count) ↔ IsLine text := by
    simp only [checkLine_eq_ok_iff]
    constructor
    · rintro ⟨_, line, _⟩
      exact line
    · intro line
      exact ⟨_, line, rfl⟩
  rw [accepted]
  constructor
  · intro line
    rw [(readLine_run_iff _ [] text).mpr ⟨line, (List.append_nil _).symm⟩]
  · intro read
    have whole : readLine.run (lineBytes text) = (.ok text, (readLine.run (lineBytes text)).2) := by
      rw [← read]
    exact ((readLine_run_iff _ _ text).mp whole).1

/-- For a stream that is cut in any way, the place of its first newline decides:
* A newline with at most the longest text before it ends the line. The reading takes the line and
  the newline, and gives the text of these bytes, or says that they are no text.
* Without a newline among as many bytes as a line can have with its newline, the line is too long,
  and just these bytes are taken.
* Without a newline among fewer bytes, the line is unfinished, and all of them are taken.

Asking for the bytes one by one gives the same. A text passes the check before writing exactly if it
is what is read from its bytes with a newline behind them. -/
theorem receiveLine_exact (source : Pieces) :
    let bytes := source.flatten
    let line := receiveLine source
    readLine.run bytes = (line.1, line.2.flatten) ∧
      (∀ place, bytes.idxOf? newline = some place → place ≤ longestLine →
        line.2.flatten = bytes.drop (place + 1) ∧
          (∀ text, Utf8.encode text = bytes.take place → line.1 = .ok text) ∧
          ((∀ text, Utf8.encode text ≠ bytes.take place) →
            ∃ flaw, line.1 = .error (.malformedText flaw))) ∧
      (longestLine < bytes.length → newline ∉ bytes.take (longestLine + 1) →
        line.1 = .error .lineTooLong ∧ line.2.flatten = bytes.drop (longestLine + 1)) ∧
      (bytes.length ≤ longestLine → newline ∉ bytes →
        line.1 = .error .unfinishedLine ∧ line.2.flatten = []) ∧
      ∀ text, (∃ count, checkLine text = .ok count) ↔
        (readLine.run (lineBytes text)).1 = .ok text := by
  intro bytes line
  have same : readLine.run bytes = (line.1, line.2.flatten) := receiveLine_run source
  refine ⟨same, ?_, ?_, ?_, checkLine_iff_readLine⟩
  · intro place found fits
    have read := readLine_of_newline found fits
    rw [same, Prod.mk.injEq] at read
    refine ⟨read.2, ?_, ?_⟩
    · intro text encoded
      rw [read.1, ← encoded, Utf8.decode_encode]
      rfl
    · intro none
      rw [read.1]
      cases decoded : Utf8.decode (bytes.take place) with
      | ok text => exact absurd (Utf8.encode_of_decode decoded) (none text)
      | error flaw => exact ⟨flaw, rfl⟩
  · intro long plain
    have read := readLine_of_long long plain
    rw [same, Prod.mk.injEq] at read
    exact read
  · intro short plain
    have read := readLine_of_short short plain
    rw [same, Prod.mk.injEq] at read
    exact read

end Field

end DesktopGateway.Wire
