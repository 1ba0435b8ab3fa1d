import DesktopGateway.Text.Utf8

/-!
# The bytes of a text

A text is the text of its bytes and of no others, so decoding accepts exactly what encoding
produces. Bytes below 0x80 stand for themselves: they occur among the bytes of a text only where
their character occurs in it.
-/

namespace DesktopGateway.Text.Utf8

theorem encode_eq_flatMap (text : String) :
    encode text = text.toList.flatMap String.utf8EncodeChar := by
  unfold encode
  rw [String.toUTF8_eq_toByteArray, ← String.utf8Encode_toList, List.utf8Encode,
    List.data_toByteArray]

theorem encode_ofList (chars : List Char) :
    encode (String.ofList chars) = chars.flatMap String.utf8EncodeChar := by
  rw [encode_eq_flatMap, String.toList_ofList]

@[simp] theorem encode_append (first second : String) :
    encode (first ++ second) = encode first ++ encode second := by
  simp [encode_eq_flatMap]

/-- The text that bytes were decoded to has exactly these bytes. -/
theorem encode_of_decode {bytes : List UInt8} {text : String} (decoded : decode bytes = .ok text) :
    encode text = bytes := by
  unfold decode String.fromUTF8? at decoded
  split at decoded
  · rename_i found
    split at found
    · cases decoded
      have same : text.toByteArray = ⟨bytes.toArray⟩ := by
        rw [← Option.some.inj found]
        rfl
      rw [encode, String.toUTF8_eq_toByteArray, same]
    · cases found
  · cases decoded

theorem decode_eq_ok_iff {bytes : List UInt8} {text : String} :
    decode bytes = .ok text ↔ encode text = bytes := by
  constructor
  · exact encode_of_decode
  · intro same
    rw [← same, decode_encode]

theorem encode_inj {first second : String} : encode first = encode second ↔ first = second := by
  constructor
  · intro same
    have decoded := decode_encode first
    rw [same, decode_encode] at decoded
    exact (Except.ok.inj decoded).symm
  · exact congrArg encode

/-- A character of one byte is written as its code. -/
theorem utf8EncodeChar_of_small {char : Char} (small : char.toNat < 0x80) :
    String.utf8EncodeChar char = [UInt8.ofNat char.toNat] := by
  have fits : char.val.toNat ≤ 0x7F := Nat.le_of_lt_succ small
  simp only [String.utf8EncodeChar, fits, if_true]
  rfl

/-- Every byte of a longer character is at least 0x80. -/
theorem le_of_mem_utf8EncodeChar {char : Char} (large : 0x80 ≤ char.toNat) {byte : UInt8}
    (found : byte ∈ String.utf8EncodeChar char) : 0x80 ≤ byte.toNat := by
  have bound : char.val.toNat < 0x110000 := by
    have valid := char.valid
    simp only [UInt32.isValidChar, Nat.isValidChar] at valid
    omega
  have above : ¬ char.val.toNat ≤ 0x7F := Nat.not_le.mpr large
  simp only [String.utf8EncodeChar, above, if_false] at found
  split at found
  · simp only [List.mem_cons, List.not_mem_nil, or_false] at found
    rcases found with rfl | rfl <;> (rw [UInt8.toNat_ofNat']; omega)
  · split at found
    · simp only [List.mem_cons, List.not_mem_nil, or_false] at found
      rcases found with rfl | rfl | rfl <;> (rw [UInt8.toNat_ofNat']; omega)
    · simp only [List.mem_cons, List.not_mem_nil, or_false] at found
      rcases found with rfl | rfl | rfl | rfl <;> (rw [UInt8.toNat_ofNat']; omega)

/-- A byte below 0x80 is among the bytes of a text exactly if its character is in the text. -/
theorem mem_encode_iff {char : Char} (small : char.toNat < 0x80) (text : String) :
    UInt8.ofNat char.toNat ∈ encode text ↔ char ∈ text.toList := by
  rw [encode_eq_flatMap, List.mem_flatMap]
  constructor
  · rintro ⟨other, member, found⟩
    by_cases short : other.toNat < 0x80
    · rw [utf8EncodeChar_of_small short, List.mem_singleton] at found
      have codes := congrArg UInt8.toNat found
      rw [UInt8.toNat_ofNat', UInt8.toNat_ofNat', Nat.mod_eq_of_lt (by omega),
        Nat.mod_eq_of_lt (by omega)] at codes
      rw [Char.toNat_inj.mp codes]
      exact member
    · have large := le_of_mem_utf8EncodeChar (Nat.not_lt.mp short) found
      rw [UInt8.toNat_ofNat', Nat.mod_eq_of_lt (by omega)] at large
      omega
  · intro member
    refine ⟨char, member, ?_⟩
    rw [utf8EncodeChar_of_small small]
    exact List.mem_singleton.mpr rfl

/-- Replacing characters by characters of the same length keeps the length of a text. -/
theorem length_encode_map (change : Char → Char)
    (kept : ∀ char, (change char).utf8Size = char.utf8Size) (text : String) :
    (encode (text.map change)).length = (encode text).length := by
  rw [encode_eq_flatMap, encode_eq_flatMap, String.toList_map, List.length_flatMap,
    List.length_flatMap, List.map_map]
  congr 2
  funext char
  simp only [Function.comp_apply, String.length_utf8EncodeChar, kept]

/-! ## Showing well-formed bytes -/

theorem start?_one {byte : UInt8} (high : byte.toNat < 0x80) :
    start? byte = some (.finished (Char.ofNat byte.toNat)) := by
  have below : byte < 0x80 := UInt8.lt_iff_toNat_lt.mpr high
  simp [start?, below]

theorem start?_two {byte : UInt8} (low : 0xC2 ≤ byte.toNat) (high : byte.toNat < 0xE0) :
    start? byte = some (.inside ⟨1, 1, 0x80, 0xBF, byte.toNat - 0xC0⟩) := by
  have above : ¬ byte < 0x80 := by rw [UInt8.lt_iff_toNat_lt]; simp; omega
  have least : ¬ byte < 0xC2 := by rw [UInt8.lt_iff_toNat_lt]; simp; omega
  have below : byte < 0xE0 := UInt8.lt_iff_toNat_lt.mpr high
  simp [start?, above, least, below]

/-- A byte that starts three bytes leaves a range for the next one that refuses nothing but forms
that are too long and surrogates. -/
theorem start?_three {byte : UInt8} (low : 0xE0 ≤ byte.toNat) (high : byte.toNat < 0xF0) :
    start? byte = some (.inside ⟨1, 2, if byte.toNat = 0xE0 then 0xA0 else 0x80,
      if byte.toNat = 0xED then 0x9F else 0xBF, byte.toNat - 0xE0⟩) := by
  have above : ¬ byte < 0x80 := by rw [UInt8.lt_iff_toNat_lt]; simp; omega
  have least : ¬ byte < 0xC2 := by rw [UInt8.lt_iff_toNat_lt]; simp; omega
  have two : ¬ byte < 0xE0 := by rw [UInt8.lt_iff_toNat_lt]; simp; omega
  have below : byte < 0xF0 := UInt8.lt_iff_toNat_lt.mpr high
  by_cases first : byte = 0xE0
  · subst first; rfl
  by_cases surrogate : byte = 0xED
  · subst surrogate; rfl
  have notFirst : byte.toNat ≠ 0xE0 := fun same => first (UInt8.toNat_inj.mp same)
  have notSurrogate : byte.toNat ≠ 0xED := fun same => surrogate (UInt8.toNat_inj.mp same)
  simp [start?, above, least, two, below, first, surrogate, notFirst, notSurrogate]

theorem start?_four {byte : UInt8} (low : 0xF0 ≤ byte.toNat) (high : byte.toNat < 0xF5) :
    start? byte = some (.inside ⟨1, 3, if byte.toNat = 0xF0 then 0x90 else 0x80,
      if byte.toNat = 0xF4 then 0x8F else 0xBF, byte.toNat - 0xF0⟩) := by
  have choice : byte.toNat = 0xF0 ∨ byte.toNat = 0xF1 ∨ byte.toNat = 0xF2 ∨ byte.toNat = 0xF3 ∨
      byte.toNat = 0xF4 := by omega
  have of (code : UInt8) (same : byte.toNat = code.toNat) : byte = code := UInt8.toNat_inj.mp same
  rcases choice with same | same | same | same | same
  · cases of 0xF0 same; rfl
  · cases of 0xF1 same; rfl
  · cases of 0xF2 same; rfl
  · cases of 0xF3 same; rfl
  · cases of 0xF4 same; rfl

theorem nextShown_first {byte : UInt8} {unfinished : Unfinished} (shown : List Char)
    (started : start? byte = some (.inside unfinished)) :
    nextShown none shown byte = (some unfinished, shown) := by
  simp [nextShown, startShown, started]

theorem nextShown_inner {unfinished : Unfinished} {byte : UInt8} (shown : List Char)
    (low : unfinished.low.toNat ≤ byte.toNat) (high : byte.toNat ≤ unfinished.high.toNat)
    (more : unfinished.missing ≠ 1) :
    nextShown (some unfinished) shown byte =
      (some ⟨unfinished.seen + 1, unfinished.missing - 1, 0x80, 0xBF,
        unfinished.value * 64 + (byte.toNat - 0x80)⟩, shown) := by
  have fits : unfinished.low ≤ byte ∧ byte ≤ unfinished.high :=
    ⟨UInt8.le_iff_toNat_le.mpr low, UInt8.le_iff_toNat_le.mpr high⟩
  simp [nextShown, Unfinished.next?, fits, more]

theorem nextShown_last {unfinished : Unfinished} {byte : UInt8} (shown : List Char)
    (low : unfinished.low.toNat ≤ byte.toNat) (high : byte.toNat ≤ unfinished.high.toNat)
    (last : unfinished.missing = 1) :
    nextShown (some unfinished) shown byte =
      (none, Char.ofNat (unfinished.value * 64 + (byte.toNat - 0x80)) :: shown) := by
  have fits : unfinished.low ≤ byte ∧ byte ≤ unfinished.high :=
    ⟨UInt8.le_iff_toNat_le.mpr low, UInt8.le_iff_toNat_le.mpr high⟩
  simp [nextShown, Unfinished.next?, fits, last]

theorem char_of_code (char : Char) {code : Nat} (same : code = char.val.toNat) :
    Char.ofNat code = char := by
  subst same
  exact Char.ofNat_toNat char

abbrev shownStep (scan : Option Unfinished × List Char) (byte : UInt8) :
    Option Unfinished × List Char :=
  nextShown scan.1 scan.2 byte

theorem byte_toNat (code : Nat) (small : code < 256) : (UInt8.ofNat code).toNat = code := by
  rw [UInt8.toNat_ofNat', Nat.mod_eq_of_lt small]

theorem foldl_shownStep_two (char : Char) (shown : List Char) (above : 0x7f < char.val.toNat)
    (below : char.val.toNat ≤ 0x7ff) :
    [UInt8.ofNat (char.val.toNat / 64 % 0x20 + 0xc0),
      UInt8.ofNat (char.val.toNat % 0x40 + 0x80)].foldl shownStep (none, shown) =
        (none, char :: shown) := by
  have first := byte_toNat (char.val.toNat / 64 % 0x20 + 0xc0) (by omega)
  have second := byte_toNat (char.val.toNat % 0x40 + 0x80) (by omega)
  simp only [List.foldl_cons, List.foldl_nil, shownStep]
  rw [nextShown_first shown (start?_two (by omega) (by omega)),
    nextShown_last shown (by simp; omega) (by simp; omega) rfl,
    char_of_code char (by simp only [first, second]; omega)]

theorem foldl_shownStep_three (char : Char) (shown : List Char) (above : 0x7ff < char.val.toNat)
    (below : char.val.toNat ≤ 0xffff) :
    [UInt8.ofNat (char.val.toNat / 4096 % 0x10 + 0xe0),
      UInt8.ofNat (char.val.toNat / 64 % 0x40 + 0x80),
      UInt8.ofNat (char.val.toNat % 0x40 + 0x80)].foldl shownStep (none, shown) =
        (none, char :: shown) := by
  have valid := char.valid
  simp only [UInt32.isValidChar, Nat.isValidChar] at valid
  have first := byte_toNat (char.val.toNat / 4096 % 0x10 + 0xe0) (by omega)
  have second := byte_toNat (char.val.toNat / 64 % 0x40 + 0x80) (by omega)
  have third := byte_toNat (char.val.toNat % 0x40 + 0x80) (by omega)
  simp only [List.foldl_cons, List.foldl_nil, shownStep]
  rw [nextShown_first shown (start?_three (by omega) (by omega)),
    nextShown_inner shown ?low ?high (by simp),
    nextShown_last shown (by simp; omega) (by simp; omega) rfl,
    char_of_code char (by simp only [first, second, third]; omega)]
  case low =>
    dsimp only
    rw [first, second]
    split <;> simp only [UInt8.reduceToNat] <;> omega
  case high =>
    -- No surrogate is a character, so that the second byte is small after 0xED.
    dsimp only
    rw [first, second]
    split <;> simp only [UInt8.reduceToNat] <;> omega

theorem foldl_shownStep_four (char : Char) (shown : List Char)
    (above : 0xffff < char.val.toNat) :
    [UInt8.ofNat (char.val.toNat / 262144 % 0x08 + 0xf0),
      UInt8.ofNat (char.val.toNat / 4096 % 0x40 + 0x80),
      UInt8.ofNat (char.val.toNat / 64 % 0x40 + 0x80),
      UInt8.ofNat (char.val.toNat % 0x40 + 0x80)].foldl shownStep (none, shown) =
        (none, char :: shown) := by
  have valid := char.valid
  simp only [UInt32.isValidChar, Nat.isValidChar] at valid
  have first := byte_toNat (char.val.toNat / 262144 % 0x08 + 0xf0) (by omega)
  have second := byte_toNat (char.val.toNat / 4096 % 0x40 + 0x80) (by omega)
  have third := byte_toNat (char.val.toNat / 64 % 0x40 + 0x80) (by omega)
  have fourth := byte_toNat (char.val.toNat % 0x40 + 0x80) (by omega)
  simp only [List.foldl_cons, List.foldl_nil, shownStep]
  rw [nextShown_first shown (start?_four (by omega) (by omega)),
    nextShown_inner shown ?low ?high (by simp),
    nextShown_inner shown (by simp; omega) (by simp; omega) (by simp),
    nextShown_last shown (by simp; omega) (by simp; omega) rfl,
    char_of_code char (by simp only [first, second, third, fourth]; omega)]
  case low =>
    dsimp only
    rw [first, second]
    split <;> simp only [UInt8.reduceToNat] <;> omega
  case high =>
    -- Characters end at 0x10FFFF, so that the second byte is small after 0xF4.
    dsimp only
    rw [first, second]
    split <;> simp only [UInt8.reduceToNat] <;> omega

/-- The bytes of one character are shown as that character. -/
theorem foldl_shownStep_char (char : Char) (shown : List Char) :
    (String.utf8EncodeChar char).foldl shownStep (none, shown) = (none, char :: shown) := by
  unfold String.utf8EncodeChar
  dsimp only
  split
  · rename_i one
    have code : (UInt8.ofNat char.val.toNat).toNat = char.val.toNat :=
      byte_toNat _ (by omega)
    simp only [List.foldl_cons, List.foldl_nil, shownStep, nextShown, startShown,
      @start?_one (UInt8.ofNat char.val.toNat) (by omega)]
    rw [char_of_code char code]
  · rename_i above
    split
    · rename_i below
      exact foldl_shownStep_two char shown (Nat.lt_of_not_le above) below
    · rename_i above
      split
      · rename_i below
        exact foldl_shownStep_three char shown (Nat.lt_of_not_le above) below
      · rename_i above
        exact foldl_shownStep_four char shown (Nat.lt_of_not_le above)

/-- Well-formed bytes are shown as their text. -/
@[simp] theorem lossy_encode (text : String) : lossy (encode text) = text := by
  have scanned : ∀ (chars shown : List Char),
      (chars.flatMap String.utf8EncodeChar).foldl shownStep (none, shown) =
        (none, chars.reverse ++ shown) := by
    intro chars
    induction chars with
    | nil => intro shown; rfl
    | cons char rest ih =>
        intro shown
        rw [List.flatMap_cons, List.foldl_append, foldl_shownStep_char, ih]
        simp
  have all := scanned text.toList []
  rw [← encode_eq_flatMap] at all
  change (let last := (encode text).foldl shownStep (none, [])
    String.ofList (if last.1.isSome then replacement :: last.2 else last.2).reverse) = text
  rw [all]
  simp

end DesktopGateway.Text.Utf8
