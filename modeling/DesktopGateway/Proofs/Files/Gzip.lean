import DesktopGateway.Files.Gzip
import DesktopGateway.Proofs.Wire.Field
import Mathlib.Data.List.Basic

/-!
# Compressed data read back

Each stored block says how long it is, so that the blocks are read up to the last one and give back
the data, and what stands behind them is its check sum and its length.
-/

namespace DesktopGateway.Files.Gzip

open DesktopGateway.Wire

/-- A block is read with the length that it says, whatever stands behind it. -/
theorem unblock?_stored {last : Bool} {data : List UInt8} (short : data.length ≤ longestBlock)
    (behind : List UInt8) :
    unblock? (stored last data ++ behind) =
      if last then some (data, behind)
      else (unblock? behind).map fun (later, rest) => (data ++ later, rest) := by
  have fits : data.length ≤ 65535 := short
  obtain ⟨low, high, length⟩ := List.length_eq_two.mp (Field.length_lowestFirst 2 data.length)
  obtain ⟨first, second, other⟩ :=
    List.length_eq_two.mp (Field.length_lowestFirst 2 (65535 - data.length))
  have own : Field.ofLowestFirst [low, high] = data.length := by
    rw [← length, Field.ofLowestFirst_lowestFirst, Nat.mod_eq_of_lt (Nat.lt_succ_of_le fits)]
  have complement : Field.ofLowestFirst [first, second] = 65535 - data.length := by
    rw [← other, Field.ofLowestFirst_lowestFirst,
      Nat.mod_eq_of_lt (Nat.lt_succ_of_le (Nat.sub_le ..))]
  have written : stored last data ++ behind =
      (if last then 1 else 0) :: low :: high :: first :: second :: (data ++ behind) := by
    simp [stored, length, other]
  rw [written, unblock?]
  simp only [own, complement, List.length_append, Nat.le_add_right, decide_true, Bool.and_self,
    if_true, List.take_left, List.drop_left]
  cases last <;> simp

theorem unblock?_blocks (data behind : List UInt8) :
    unblock? (blocks data ++ behind) = some (data, behind) := by
  fun_induction blocks data with
  | case1 data short => rw [unblock?_stored short, if_pos rfl]
  | case2 data long ih =>
      have short : (data.take longestBlock).length ≤ longestBlock := List.length_take_le ..
      rw [List.append_assoc, unblock?_stored short, ih, if_neg Bool.false_ne_true]
      simp only [Option.map_some, List.take_append_drop]

/-- What was compressed is what a file of it expands to. -/
theorem expand?_compress (data : List UInt8) : expand? (compress data) = some data := by
  have opened : [0x1F, 0x8B, 8, 0].isPrefixOf (compress data) = true := rfl
  have behind : (compress data).drop 10 = blocks data ++
      (Field.lowestFirst 4 (checkSum data).toNat ++ Field.lowestFirst 4 data.length) := by
    rw [compress, List.append_assoc, List.append_assoc]
    rfl
  rw [expand?, if_pos opened, behind, unblock?_blocks]
  exact if_pos rfl

end DesktopGateway.Files.Gzip
