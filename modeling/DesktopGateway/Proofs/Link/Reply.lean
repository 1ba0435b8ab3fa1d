import DesktopGateway.Link.Endpoint
import DesktopGateway.Proofs.Wire.Field

/-!
# Refusals on the stream

The reason of a refusal is made one line, which is only possible when it is not too long: then the
verdict and the line are written. The verdict of a reason that is too long is written all the same,
and nothing behind it.
-/

namespace DesktopGateway.Link.Endpoint

open DesktopGateway.Text
open DesktopGateway.Wire
open DesktopGateway.Wire.Field (IsLine lineBytes)

/-- A text that a line holds once its newlines are blanks. -/
def FitsLine (reason : String) : Prop :=
  (Utf8.encode reason).length ≤ longestLine

theorem newline_not_mem_reasonLine (reason : String) :
    Field.newline ∉ Utf8.encode (reasonLine reason) := by
  intro found
  rw [Field.newline_mem_encode_iff, reasonLine, String.toList_map, List.mem_map] at found
  obtain ⟨char, _, same⟩ := found
  by_cases newline : char = '\n'
  · rw [if_pos newline] at same
    exact absurd same (by decide)
  · rw [if_neg newline] at same
    exact newline same

theorem length_encode_reasonLine (reason : String) :
    (Utf8.encode (reasonLine reason)).length = (Utf8.encode reason).length := by
  apply Utf8.length_encode_map
  intro char
  by_cases newline : char = '\n'
  · rw [if_pos newline, newline]
    decide
  · rw [if_neg newline]

theorem isLine_reasonLine_iff (reason : String) :
    IsLine (reasonLine reason) ↔ FitsLine reason := by
  rw [IsLine, FitsLine, length_encode_reasonLine]
  exact and_iff_right (newline_not_mem_reasonLine reason)

theorem refusal_of_fits {reason : String} (fits : FitsLine reason) :
    refusal reason = ⟨Verdict.refused.code :: lineBytes (reasonLine reason), none⟩ := by
  have line := (isLine_reasonLine_iff reason).mpr fits
  rw [refusal, (Field.write_line_eq_ok_iff _ _).mpr ⟨line, rfl⟩]

theorem refusal_of_long {reason : String} (long : ¬ FitsLine reason) :
    refusal reason = ⟨[Verdict.refused.code], some .lineTooLong⟩ := by
  have above : longestLine < (Utf8.encode (reasonLine reason)).length := by
    rw [length_encode_reasonLine]
    exact Nat.not_le.mp long
  have checked : Field.checkLine (reasonLine reason) = .error .lineTooLong := by
    unfold Field.checkLine
    simp only [newline_not_mem_reasonLine, above, if_false, if_true]
  rw [refusal, Field.write, checked]
  rfl

/-- A refusal opens with its verdict in either case. -/
theorem refusal_opens (reason : String) :
    ∃ rest, (refusal reason).bytes = Verdict.refused.code :: rest := by
  by_cases fits : FitsLine reason
  · exact ⟨_, by rw [refusal_of_fits fits]⟩
  · exact ⟨[], by rw [refusal_of_long fits]⟩

/-- What stands behind the verdict of a refusal, up to the first newline, is one line. -/
theorem isLine_of_refusal {reason text : String} {rest : List UInt8}
    (opens : (refusal reason).bytes = Verdict.refused.code :: (lineBytes text ++ rest)) :
    IsLine text := by
  by_cases fits : FitsLine reason
  · have line := (isLine_reasonLine_iff reason).mpr fits
    rw [refusal_of_fits fits] at opens
    have same := (List.cons.inj opens).2
    rw [lineBytes, lineBytes, List.append_assoc] at same
    rcases List.eq_nil_or_concat rest with rfl | ⟨front, last, rfl⟩
    · rwa [IsLine, ← List.append_cancel_right same]
    · -- the first newline would stand within the line
      rw [List.concat_eq_append, ← List.append_assoc, ← List.append_assoc] at same
      have within := (List.append_inj' same rfl).1
      refine absurd ?_ line.1
      rw [within]
      exact List.mem_append_left _ (List.mem_append_right _ (List.mem_singleton_self _))
  · rw [refusal_of_long fits] at opens
    have none := (List.cons.inj opens).2
    simp [lineBytes] at none

/-! ## Reading the verdict -/

/-- Behind the verdict of a refusal its reason is read. -/
theorem verdict_run_refused (rest : List UInt8) :
    verdict.run (Verdict.refused.code :: rest) =
      ((Field.readLine.run rest).1.bind fun reason => .error (.remote reason),
        (Field.readLine.run rest).2) := by
  have behind : verdict.run (Verdict.refused.code :: rest) =
      (Field.readLine.andThen fun reason => .done (.error (.remote reason))).run rest := rfl
  rw [behind, Demand.andThen, Demand.run_bind]
  cases (Field.readLine.run rest).1 with
  | error fault => exact Demand.run_done ..
  | ok reason => exact Demand.run_done ..

theorem verdict_run_line {text : String} (line : IsLine text) (rest : List UInt8) :
    verdict.run (Verdict.refused.code :: (lineBytes text ++ rest)) =
      (.error (.remote text), rest) := by
  rw [verdict_run_refused, (Field.readLine_run_iff _ rest text).mpr ⟨line, rfl⟩]
  rfl

theorem verdict_run_unknown {code : UInt8} (unknown : Verdict.ofCode? code = none)
    (rest : List UInt8) : verdict.run (code :: rest) = (.error (.unknownVerdict code), rest) := by
  simp [verdict, Demand.andThen, Demand.run_bind, Field.readByte, unknown]

/-- Only a stream that begins with the verdict of success is read as one. -/
theorem verdict_run_ok_iff (bytes : List UInt8) :
    (verdict.run bytes).1 = .ok () ↔ ∃ rest, bytes = Verdict.accepted.code :: rest := by
  constructor
  · intro accepted
    cases bytes with
    | nil => cases accepted
    | cons code rest =>
        by_cases first : code = Verdict.accepted.code
        · exact ⟨rest, by rw [first]⟩
        · exfalso
          by_cases second : code = Verdict.refused.code
          · rw [second, verdict_run_refused] at accepted
            cases read : (Field.readLine.run rest).1 <;> rw [read] at accepted <;> cases accepted
          · have unknown : Verdict.ofCode? code = none := by
              rw [Verdict.ofCode?, if_neg (show ¬ code = 1 from first),
                if_neg (show ¬ code = 2 from second)]
            rw [verdict_run_unknown unknown] at accepted
            cases accepted
  · rintro ⟨rest, rfl⟩
    rfl

/-- A reason without a newline is its own line. -/
theorem reasonLine_of_plain {reason : String} (plain : '\n' ∉ reason.toList) :
    reasonLine reason = reason := by
  have kept (char : Char) (found : char ∈ reason.toList) :
      (if char = '\n' then ' ' else char) = char := by
    apply if_neg
    rintro rfl
    exact plain found
  apply String.ext
  rw [reasonLine, String.toList_map, List.map_congr_left kept, List.map_id']

end DesktopGateway.Link.Endpoint
