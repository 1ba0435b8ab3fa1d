import DesktopGateway.Proofs.Text.Utf8
import DesktopGateway.Wire.Field

/-!
# Reading what was written

Reading a field accepts exactly the bytes that writing it produces, whatever stands behind them, and
leaves the source right behind the field.
-/

namespace DesktopGateway.Wire

open DesktopGateway.Text

/-- Two steps succeed together exactly if the second one succeeds on what the first one gives. -/
theorem bind_eq_ok_iff {ε α β : Type} (first : Except ε α) (further : α → Except ε β) (result : β) :
    (first >>= further) = .ok result ↔ ∃ value, first = .ok value ∧ further value = .ok result := by
  cases first with
  | error fault => simp [bind, Except.bind]
  | ok value => simp [bind, Except.bind]

theorem mapError_ok {ε δ α : Type} (change : ε → δ) (value : α) :
    (Except.ok value).mapError change = .ok value := rfl

theorem mapError_eq_ok_iff {ε δ α : Type} (outcome : Except ε α) (change : ε → δ) (result : α) :
    outcome.mapError change = .ok result ↔ outcome = .ok result := by
  cases outcome with
  | error fault =>
      constructor
      · intro impossible; cases impossible
      · intro impossible; cases impossible
  | ok value =>
      constructor
      · intro same; cases same; rfl
      · intro same; cases same; rfl

/-! ## Checks -/

namespace Fault

variable {α β : Type}

def check (fault? : Option Fault) (value : α) : Except Fault α :=
  match fault? with
  | some fault => .error fault
  | none => .ok value

theorem check_eq_ok_iff (fault? : Option Fault) (value result : α) :
    check fault? value = .ok result ↔ fault? = none ∧ value = result := by
  cases fault? <;> simp [check]

theorem check_eq_error_iff (fault? : Option Fault) (value : α) (fault : Fault) :
    check fault? value = .error fault ↔ fault? = some fault := by
  cases fault? <;> simp [check]

/-- Of two checks in a row the first fault counts. -/
theorem check_bind {first second : Option Fault} {value : α} {result : β}
    {further : α → Except Fault β} (later : further value = check second result) :
    (check first value >>= further) = check (first.or second) result := by
  cases first with
  | some fault => rfl
  | none => exact later

theorem check_map (fault? : Option Fault) (value : α) (change : α → β) :
    (check fault? value).map change = check fault? (change value) := by
  cases fault? <;> rfl

theorem check_bind_pure (fault? : Option Fault) (value : α) (change : α → β) :
    (check fault? value >>= fun checked => pure (change checked)) =
      check fault? (change value) := by
  cases fault? <;> rfl

end Fault

namespace Demand

variable {α β ε : Type}

/-- Two readings in a row succeed together exactly if the second one succeeds behind the first. -/
theorem run_andThen_ok_iff (first : Demand (Except ε α)) (further : α → Demand (Except ε β))
    (bytes rest : List UInt8) (result : β) :
    (first.andThen further).run bytes = (.ok result, rest) ↔
      ∃ value middle, first.run bytes = (.ok value, middle) ∧
        (further value).run middle = (.ok result, rest) := by
  unfold andThen
  rw [run_bind]
  cases outcome : first.run bytes with
  | mk read middle =>
      cases read with
      | error fault => simp
      | ok value =>
          constructor
          · intro found
            exact ⟨value, middle, rfl, found⟩
          · rintro ⟨other, behind, same, found⟩
            cases same
            exact found

@[simp] theorem run_done_ok_iff (outcome : Except ε α) (bytes rest : List UInt8) (result : α) :
    (done outcome).run bytes = (.ok result, rest) ↔ outcome = .ok result ∧ bytes = rest := by
  rw [run_done, Prod.mk.injEq]

theorem run_nil (demand : Demand α) : (demand.run []).2 = [] := by
  induction demand with
  | done result => rfl
  | next onByte onEnd ihByte ihEnd => exact ihEnd

/-- A reading takes just these bytes, whatever stands behind them. -/
def Takes (demand : Demand α) (front : List UInt8) (result : α) : Prop :=
  ∀ rest, demand.run (front ++ rest) = (result, rest)

theorem Takes.of_done {own result : α} {front : List UInt8}
    (takes : (done own).Takes front result) : own = result ∧ front = [] := by
  have none := takes []
  rw [run_done, List.append_nil] at none
  exact ⟨congrArg Prod.fst none, congrArg Prod.snd none⟩

/-- A reading that asks for a byte has not taken all it takes. -/
theorem Takes.of_next {onByte : UInt8 → Demand α} {onEnd : Demand α} {front : List UInt8}
    {result : α} (takes : (next onByte onEnd).Takes front result) :
    ∃ first more, front = first :: more ∧ (onByte first).Takes more result := by
  cases front with
  | nil =>
      have one : ((onByte 0).run []).2 = [0] := congrArg Prod.snd (takes [0])
      rw [run_nil] at one
      cases one
  | cons first more => exact ⟨first, more, rfl, takes⟩

end Demand

/-! ## First marks -/

/-- The bytes around a mark that none comes before. -/
structure FirstMark (mark : UInt8) (bytes : List UInt8) (place : Nat) : Prop where
  around : bytes = bytes.take place ++ mark :: bytes.drop (place + 1)
  closed : bytes.take (place + 1) = bytes.take place ++ [mark]
  plain : mark ∉ bytes.take place
  length : (bytes.take place).length = place

theorem firstMark_of_idxOf? {mark : UInt8} {bytes : List UInt8} {place : Nat}
    (found : bytes.idxOf? mark = some place) : FirstMark mark bytes place := by
  obtain ⟨inside, here, before⟩ := List.idxOf?_eq_some_iff.mp found
  constructor
  · rw [← here, ← List.drop_eq_getElem_cons inside, List.take_append_drop]
  · rw [← here]
    exact List.take_succ_eq_append_getElem inside
  · intro member
    obtain ⟨other, early, same⟩ := List.mem_iff_getElem.mp member
    rw [List.length_take] at early
    rw [List.getElem_take] at same
    exact before other (Nat.lt_of_lt_of_le early (Nat.min_le_left ..)) same
  · exact List.length_take_of_le (Nat.le_of_lt inside)

/-- The first mark of a beginning is the first of all. -/
theorem idxOf?_of_take {mark : UInt8} {room : Nat} {bytes : List UInt8} {place : Nat}
    (found : (bytes.take room).idxOf? mark = some place) :
    bytes.idxOf? mark = some place ∧ place < room := by
  obtain ⟨inside, here, before⟩ := List.idxOf?_eq_some_iff.mp found
  have bound := inside
  rw [List.length_take, Nat.lt_min] at bound
  refine ⟨List.idxOf?_eq_some_iff.mpr ⟨bound.2, ?_, ?_⟩, bound.1⟩
  · rw [← here, List.getElem_take]
  · intro other early same
    exact before other early (by rw [List.getElem_take, same])

namespace Field

/-! ## Sizes -/

@[simp] theorem length_lowestFirst (count value : Nat) :
    (lowestFirst count value).length = count := by
  induction count generalizing value with
  | zero => rfl
  | succ count ih => rw [lowestFirst, List.length_cons, ih]

theorem ofLowestFirst_lowestFirst (count value : Nat) :
    ofLowestFirst (lowestFirst count value) = value % Nat.pow 256 count := by
  induction count generalizing value with
  | zero => exact (Nat.mod_one value).symm
  | succ count ih =>
      rw [lowestFirst, ofLowestFirst, ih, UInt8.toNat_ofNat',
        show Nat.pow 256 (count + 1) = 256 * Nat.pow 256 count from Nat.mul_comm .., Nat.mod_mul]
      omega

theorem lowestFirst_ofLowestFirst (bytes : List UInt8) :
    lowestFirst bytes.length (ofLowestFirst bytes) = bytes := by
  induction bytes with
  | nil => rfl
  | cons lowest rest ih =>
      have small := lowest.toNat_lt
      rw [List.length_cons, ofLowestFirst, lowestFirst]
      have low : (lowest.toNat + 256 * ofLowestFirst rest) % 256 = lowest.toNat := by omega
      have high : (lowest.toNat + 256 * ofLowestFirst rest) / 256 = ofLowestFirst rest := by omega
      rw [low, high, ih, UInt8.ofNat_toNat]

theorem ofLowestFirst_lt (bytes : List UInt8) :
    ofLowestFirst bytes < Nat.pow 256 bytes.length := by
  have small : 0 < Nat.pow 256 bytes.length := Nat.pow_pos (by decide)
  rw [← lowestFirst_ofLowestFirst bytes, ofLowestFirst_lowestFirst, length_lowestFirst]
  exact Nat.mod_lt _ small

@[simp] theorem length_sizeBytes (size : Int64) : (sizeBytes size).length = 8 :=
  length_lowestFirst 8 _

def sizeOf (bytes : List UInt8) : Int64 :=
  (UInt64.ofNat (ofLowestFirst bytes)).toInt64

theorem sizeOf_sizeBytes (size : Int64) : sizeOf (sizeBytes size) = size := by
  unfold sizeOf sizeBytes
  rw [ofLowestFirst_lowestFirst, Nat.mod_eq_of_lt (UInt64.toNat_lt _), UInt64.ofNat_toNat]
  exact Int64.toInt64_toUInt64 size

theorem sizeBytes_sizeOf {bytes : List UInt8} (eight : bytes.length = 8) :
    sizeBytes (sizeOf bytes) = bytes := by
  have small := ofLowestFirst_lt bytes
  rw [eight] at small
  unfold sizeOf sizeBytes
  rw [UInt64.toUInt64_toInt64, UInt64.toNat_ofNat', Nat.mod_eq_of_lt small, ← eight]
  exact lowestFirst_ofLowestFirst bytes

/-- With all its bytes there, a number is read from them alone. -/
theorem readSizeWithin_append (bytes taken rest : List UInt8) :
    (readSizeWithin bytes.length taken).run (bytes ++ rest) =
      (.ok (sizeOf (taken.reverse ++ bytes)), rest) := by
  induction bytes generalizing taken with
  | nil => simp [readSizeWithin, sizeOf]
  | cons value bytes ih =>
      rw [List.length_cons, readSizeWithin, List.cons_append, Demand.run_next_cons, ih]
      simp

theorem readSizeWithin_short (missing : Nat) (bytes taken : List UInt8)
    (short : bytes.length < missing) :
    (readSizeWithin missing taken).run bytes = (.error .endOfStream, []) := by
  induction bytes generalizing missing taken with
  | nil =>
      cases missing with
      | zero => cases short
      | succ missing => rfl
  | cons value bytes ih =>
      cases missing with
      | zero => cases short
      | succ missing =>
          rw [readSizeWithin, Demand.run_next_cons]
          exact ih missing (value :: taken) (Nat.lt_of_succ_lt_succ short)

/-- Reading a size accepts the eight bytes of every size. -/
theorem readSize_run_iff (bytes rest : List UInt8) (size : Int64) :
    readSize.run bytes = (.ok size, rest) ↔ bytes = sizeBytes size ++ rest := by
  constructor
  · intro read
    by_cases short : bytes.length < 8
    · rw [readSize, readSizeWithin_short 8 bytes [] short] at read
      cases read
    · have eight : (bytes.take 8).length = 8 := by rw [List.length_take]; omega
      have whole := readSizeWithin_append (bytes.take 8) [] (bytes.drop 8)
      rw [eight, List.take_append_drop] at whole
      rw [readSize, whole] at read
      cases read
      rw [List.reverse_nil, List.nil_append, sizeBytes_sizeOf eight, List.take_append_drop]
  · rintro rfl
    have whole := readSizeWithin_append (sizeBytes size) [] rest
    rw [length_sizeBytes] at whole
    rw [readSize, whole, List.reverse_nil, List.nil_append, sizeOf_sizeBytes]

/-! ## Lines -/

def IsLine (text : String) : Prop :=
  newline ∉ Utf8.encode text ∧ (Utf8.encode text).length ≤ longestLine

theorem newline_mem_encode_iff (text : String) :
    newline ∈ Utf8.encode text ↔ '\n' ∈ text.toList :=
  @Utf8.mem_encode_iff '\n' (by decide) text

theorem isLine_iff (text : String) :
    IsLine text ↔ '\n' ∉ text.toList ∧ (Utf8.encode text).length ≤ longestLine := by
  rw [IsLine, newline_mem_encode_iff]

/-- Why a text may not stand in a line: a newline in it, or else too many bytes. -/
def lineFault? (text : String) : Option Fault :=
  if '\n' ∈ text.toList then some .newlineInLine
  else if longestLine < (Utf8.encode text).length then some .lineTooLong
  else none

theorem lineFault?_eq_none_iff (text : String) : lineFault? text = none ↔ IsLine text := by
  rw [isLine_iff, ← Nat.not_lt]
  unfold lineFault?
  split <;> simp [*]

theorem checkLine_eq (text : String) :
    checkLine text = Fault.check (lineFault? text) (Utf8.encode text).length := by
  simp only [checkLine, lineFault?, newline_mem_encode_iff]
  split
  · rfl
  · split <;> rfl

theorem write_line_eq (text : String) :
    write (.line text) = Fault.check (lineFault? text) (lineBytes text) := by
  rw [write, checkLine_eq, Fault.check_map]

theorem checkLine_eq_ok_iff (text : String) (count : Nat) :
    checkLine text = .ok count ↔ IsLine text ∧ count = (Utf8.encode text).length := by
  rw [checkLine_eq, Fault.check_eq_ok_iff, lineFault?_eq_none_iff, @eq_comm _ count]

theorem write_line_eq_ok_iff (text : String) (bytes : List UInt8) :
    write (.line text) = .ok bytes ↔ IsLine text ∧ bytes = lineBytes text := by
  rw [write_line_eq, Fault.check_eq_ok_iff, lineFault?_eq_none_iff, @eq_comm _ bytes]

/-- A newline within the room ends the line, and what was read so far is its text. -/
theorem readLineWithin_newline (line taken rest : List UInt8) (room : Nat)
    (fits : line.length < room) (plain : newline ∉ line) :
    (readLineWithin room taken).run (line ++ newline :: rest) =
      (finishLine (line.reverse ++ taken), rest) := by
  induction line generalizing room taken with
  | nil =>
      cases room with
      | zero => cases fits
      | succ room => simp [readLineWithin]
  | cons value line ih =>
      cases room with
      | zero => cases fits
      | succ room =>
          rw [List.mem_cons, not_or] at plain
          have other : value ≠ newline := fun same => plain.1 same.symm
          rw [readLineWithin, List.cons_append, Demand.run_next_cons, if_neg other,
            ih (value :: taken) room (Nat.lt_of_succ_lt_succ fits) plain.2]
          simp

theorem readLineWithin_long (line taken rest : List UInt8) (plain : newline ∉ line) :
    (readLineWithin line.length taken).run (line ++ rest) = (.error .lineTooLong, rest) := by
  induction line generalizing taken with
  | nil => simp [readLineWithin]
  | cons value line ih =>
      rw [List.mem_cons, not_or] at plain
      have other : value ≠ newline := fun same => plain.1 same.symm
      rw [List.length_cons, readLineWithin, List.cons_append, Demand.run_next_cons, if_neg other,
        ih (value :: taken) plain.2]

theorem readLineWithin_unfinished (line taken : List UInt8) (room : Nat)
    (fits : line.length < room) (plain : newline ∉ line) :
    (readLineWithin room taken).run line = (.error .unfinishedLine, []) := by
  induction line generalizing room taken with
  | nil =>
      cases room with
      | zero => cases fits
      | succ room => rfl
  | cons value line ih =>
      cases room with
      | zero => cases fits
      | succ room =>
          rw [List.mem_cons, not_or] at plain
          have other : value ≠ newline := fun same => plain.1 same.symm
          rw [readLineWithin, Demand.run_next_cons, if_neg other]
          exact ih (value :: taken) room (Nat.lt_of_succ_lt_succ fits) plain.2

theorem finishLine_eq_ok_iff (taken : List UInt8) (text : String) :
    finishLine taken = .ok text ↔ Utf8.encode text = taken.reverse := by
  rw [← Utf8.decode_eq_ok_iff]
  exact mapError_eq_ok_iff (Utf8.decode taken.reverse) Fault.malformedText text

/-- The first newline, when it comes in time, ends the line. -/
theorem readLine_of_newline {bytes : List UInt8} {place : Nat}
    (found : bytes.idxOf? newline = some place) (fits : place ≤ longestLine) :
    readLine.run bytes =
      ((Utf8.decode (bytes.take place)).mapError .malformedText, bytes.drop (place + 1)) := by
  have marked := firstMark_of_idxOf? found
  have room : (bytes.take place).length < longestLine + 1 := by
    rw [marked.length]
    exact Nat.lt_succ_of_le fits
  have read := readLineWithin_newline _ [] (bytes.drop (place + 1)) _ room marked.plain
  rw [← marked.around, List.append_nil, finishLine, List.reverse_reverse] at read
  exact read

theorem readLine_of_long {bytes : List UInt8} (long : longestLine < bytes.length)
    (plain : newline ∉ bytes.take (longestLine + 1)) :
    readLine.run bytes = (.error .lineTooLong, bytes.drop (longestLine + 1)) := by
  have full : (bytes.take (longestLine + 1)).length = longestLine + 1 :=
    List.length_take_of_le long
  have read := readLineWithin_long _ [] (bytes.drop (longestLine + 1)) plain
  rw [full, List.take_append_drop] at read
  exact read

theorem readLine_of_short {bytes : List UInt8} (short : bytes.length ≤ longestLine)
    (plain : newline ∉ bytes) : readLine.run bytes = (.error .unfinishedLine, []) :=
  readLineWithin_unfinished bytes [] _ (Nat.lt_succ_of_le short) plain

/-- Reading a line accepts exactly the bytes of the texts that may stand in a line. -/
theorem readLine_run_iff (bytes rest : List UInt8) (text : String) :
    readLine.run bytes = (.ok text, rest) ↔ IsLine text ∧ bytes = lineBytes text ++ rest := by
  constructor
  · intro read
    cases found : (bytes.take (longestLine + 1)).idxOf? newline with
    | some place =>
        obtain ⟨first, early⟩ := idxOf?_of_take found
        have marked := firstMark_of_idxOf? first
        rw [readLine_of_newline first (Nat.le_of_lt_succ early), Prod.mk.injEq, mapError_eq_ok_iff,
          Utf8.decode_eq_ok_iff] at read
        refine ⟨⟨?_, ?_⟩, ?_⟩
        · rw [read.1]
          exact marked.plain
        · rw [read.1, marked.length]
          exact Nat.le_of_lt_succ early
        · rw [lineBytes, read.1, ← read.2, List.append_assoc]
          exact marked.around
    | none =>
        have plain := List.idxOf?_eq_none_iff.mp found
        by_cases short : bytes.length ≤ longestLine
        · rw [List.take_of_length_le (Nat.le_succ_of_le short)] at plain
          rw [readLine_of_short short plain] at read
          cases read
        · rw [readLine_of_long (Nat.not_le.mp short) plain] at read
          cases read
  · rintro ⟨⟨plain, fits⟩, rfl⟩
    rw [readLine, lineBytes, List.append_assoc]
    change (readLineWithin _ []).run (Utf8.encode text ++ newline :: rest) = _
    rw [readLineWithin_newline _ [] rest _ (Nat.lt_succ_of_le fits) plain, Prod.mk.injEq,
      List.append_nil, finishLine_eq_ok_iff, List.reverse_reverse]
    exact ⟨rfl, rfl⟩

end Field

end DesktopGateway.Wire
