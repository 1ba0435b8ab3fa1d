import DesktopGateway.Files.Tape
import DesktopGateway.Proofs.Files.Gzip

/-!
# Tapes read back

Every header has one block and tells how many bytes of content stand behind it, so that a tape is
read entry by entry. Paths and targets come back whole: those that are too long for a header stand
in front of it. Zeros that a file only counts come back as zeros.
-/

namespace DesktopGateway.Files.Tape

open DesktopGateway.Text
open DesktopGateway.Wire

/-! ## Fields -/

@[simp] theorem length_field (width : Nat) (bytes : List UInt8) :
    (field width bytes).length = width := by
  simp only [field, List.length_append, List.length_take, List.length_replicate]
  omega

@[simp] theorem length_octal (width value : Nat) : (octal width value).length = width :=
  length_field ..

@[simp] theorem length_sizeField (size : Nat) : (sizeField size).length = 12 := by
  unfold sizeField
  split <;> simp

theorem field_of_le {width : Nat} {bytes : List UInt8} (fits : bytes.length ≤ width) :
    field width bytes = bytes ++ List.replicate (width - bytes.length) 0 := by
  rw [field, List.take_of_length_le fits]

/-- Bytes without a zero end where they end. -/
theorem unfield_append {bytes : List UInt8} (plain : 0 ∉ bytes) (count : Nat) :
    unfield (bytes ++ List.replicate count 0) = bytes := by
  rw [unfield, List.takeWhile_append_of_pos]
  · cases count <;> simp [List.replicate_succ]
  · intro byte member
    exact bne_iff_ne.mpr (ne_of_mem_of_not_mem member plain)

theorem unfield_field {width : Nat} {bytes : List UInt8} (fits : bytes.length ≤ width)
    (plain : 0 ∉ bytes) : unfield (field width bytes) = bytes := by
  rw [field_of_le fits, unfield_append plain]

/-! ## Sizes -/

def octalDigits (value : Nat) : List UInt8 :=
  (Nat.toDigits 8 value).map fun char => UInt8.ofNat char.toNat

theorem mem_toDigits_octal {value : Nat} {char : Char} (member : char ∈ Nat.toDigits 8 value) :
    ∃ digit, digit < 8 ∧ char.toNat = 48 + digit := by
  induction value using Nat.strongRecOn with
  | ind value ih =>
      have digit {small : Nat} (octal : small < 8) (same : char = small.digitChar) :
          ∃ digit, digit < 8 ∧ char.toNat = 48 + digit :=
        ⟨small, octal, by rw [same, Nat.toNat_digitChar_of_lt_ten (by omega)]⟩
      by_cases small : value < 8
      · rw [Nat.toDigits_of_lt_base small, List.mem_singleton] at member
        exact digit small member
      · rw [Nat.toDigits_of_base_le (by omega) (by omega), List.mem_append,
          List.mem_singleton] at member
        rcases member with earlier | last
        · exact ih (value / 8) (by omega) earlier
        · exact digit (Nat.mod_lt _ (by omega)) last

theorem toNat_ofNat_of_mem {value : Nat} {char : Char} (member : char ∈ Nat.toDigits 8 value) :
    (UInt8.ofNat char.toNat).toNat = char.toNat := by
  obtain ⟨digit, octal, same⟩ := mem_toDigits_octal member
  rw [UInt8.toNat_ofNat', Nat.mod_eq_of_lt (by omega)]

theorem mem_octalDigits {value : Nat} {byte : UInt8} (member : byte ∈ octalDigits value) :
    (48 ≤ byte && byte ≤ 55) = true := by
  obtain ⟨char, listed, rfl⟩ := List.mem_map.mp member
  obtain ⟨digit, octal, same⟩ := mem_toDigits_octal listed
  have code := toNat_ofNat_of_mem listed
  simp only [Bool.and_eq_true, decide_eq_true_eq, UInt8.le_iff_toNat_le, UInt8.reduceToNat, code]
  omega

theorem foldl_octalDigits (value : Nat) :
    (octalDigits value).foldl (fun (sum : Nat) (byte : UInt8) => 8 * sum + (byte.toNat - 48)) 0 =
      value := by
  have digits := @Nat.ofDigitChars_toDigits 8 value (by omega) (by omega)
  rw [octalDigits, List.foldl_map]
  refine Eq.trans ?_ digits
  unfold Nat.ofDigitChars
  apply List.foldl_ext
  intro sum char member
  rw [toNat_ofNat_of_mem member]
  rfl

theorem foldl_zeros (count : Nat) :
    (List.replicate count 48).foldl
      (fun (sum : Nat) (byte : UInt8) => 8 * sum + (byte.toNat - 48)) 0 = 0 := by
  induction count with
  | zero => rfl
  | succ count ih => rwa [List.replicate_succ, List.foldl_cons]

/-- A number with at most eleven digits stands in its field between zeros and a closing one. -/
theorem octal_eq {value : Nat} (small : value < octalLimit) :
    octal 12 value =
      List.replicate (11 - (octalDigits value).length) 48 ++ octalDigits value ++ [0] := by
  have fits : (octalDigits value).length ≤ 11 := by
    rw [octalDigits, List.length_map, Nat.length_toDigits_le_iff (by omega) (by omega)]
    exact small
  have eleven : (List.replicate (11 - (octalDigits value).length) 48 ++
      octalDigits value).length = 11 := by
    rw [List.length_append, List.length_replicate]
    omega
  rw [octal, ← octalDigits, field_of_le (by rw [eleven]; omega), eleven]
  rfl

theorem mem_zeros_octalDigits {value count : Nat} {byte : UInt8}
    (member : byte ∈ List.replicate count 48 ++ octalDigits value) :
    (48 ≤ byte && byte ≤ 55) = true := by
  rcases List.mem_append.mp member with zero | digit
  · rw [List.eq_of_mem_replicate zero]
    rfl
  · exact mem_octalDigits digit

theorem unoctal_octal {value : Nat} (small : value < octalLimit) :
    unoctal (octal 12 value) = value := by
  have digits : ∀ byte ∈ List.replicate (11 - (octalDigits value).length) 48 ++ octalDigits value,
      (48 ≤ byte && byte ≤ 55) = true := fun _ => mem_zeros_octalDigits
  have closed : [(0 : UInt8)].takeWhile (fun byte => 48 ≤ byte && byte ≤ 55) = [] := rfl
  rw [unoctal, octal_eq small, List.takeWhile_append_of_pos digits, closed, List.append_nil,
    List.foldl_append, foldl_zeros, foldl_octalDigits]

/-- Octal digits are told apart from the mark of a size in bytes. -/
theorem headD_octal {value : Nat} (small : value < octalLimit) :
    (octal 12 value).headD 0 < 0x80 := by
  cases written : octal 12 value with
  | nil => decide
  | cons first rest =>
      have member : first ∈ octal 12 value := by
        rw [written]
        exact List.mem_cons_self ..
      rw [octal_eq small, List.mem_append, List.mem_singleton] at member
      rcases member with digit | rfl
      · have bounds := mem_zeros_octalDigits digit
        rw [Bool.and_eq_true, decide_eq_true_eq, decide_eq_true_eq] at bounds
        exact UInt8.lt_of_le_of_lt bounds.2 (by decide)
      · exact (by decide : (0 : UInt8) < 0x80)

/-- A size is read from its field, whether or not it is written in octal digits. -/
theorem unsize_sizeField {size : Nat} (bounded : size < Nat.pow 256 8) :
    unsize (sizeField size) = size := by
  unfold sizeField
  split
  · rename_i small
    rw [unsize, if_neg (UInt8.not_le.mpr (headD_octal small)), unoctal_octal small]
  · have marked (bytes : List UInt8) : ([0x80, 0, 0, 0] ++ bytes).headD 0 = 0x80 := rfl
    have behind (bytes : List UInt8) : ([0x80, 0, 0, 0] ++ bytes).drop 4 = bytes := rfl
    rw [unsize, marked, if_pos (UInt8.le_refl _), behind, List.reverse_reverse,
      Field.ofLowestFirst_lowestFirst, Nat.mod_eq_of_lt bounded]

/-! ## Headers -/

section Header

variable (name : List UInt8) (mode size : Nat) (flag : UInt8) (target : List UInt8)

/-- Where the parts of a header stand that are read again. -/
theorem header_eq : ∃ owners sum rest, header name mode size flag target =
      field 100 name ++
        (owners ++ (sizeField size ++ (sum ++ flag :: (field 100 target ++ rest)))) ∧
    owners.length = 24 ∧ sum.length = 20 ∧ rest.length = 255 := by
  unfold header
  dsimp only
  -- what the check sum is makes no difference to where it stands
  generalize List.foldl _ _ _ = sum
  refine ⟨octal 8 mode ++ octal 8 0 ++ octal 8 0, octal 12 0 ++ octal 7 sum ++ [32],
    Utf8.encode "ustar  " ++ [0] ++ field 247 [], ?_, by simp, by simp, ?_⟩
  · simp only [List.append_assoc, List.cons_append, List.nil_append]
  · have mark : (Utf8.encode "ustar  ").length = 7 := rfl
    simp [mark]

@[simp] theorem length_header : (header name mode size flag target).length = block := by
  obtain ⟨owners, sum, rest, same, before, between, behind⟩ := header_eq name mode size flag target
  rw [same]
  simp [before, between, behind, block]

theorem take_header : (header name mode size flag target).take 100 = field 100 name := by
  obtain ⟨owners, sum, rest, same, _⟩ := header_eq name mode size flag target
  rw [same, List.take_left' (length_field ..)]

theorem size_header :
    ((header name mode size flag target).drop 124).take 12 = sizeField size := by
  obtain ⟨owners, sum, rest, same, before, _⟩ := header_eq name mode size flag target
  rw [same, ← List.append_assoc, List.drop_left' (by simp [before]),
    List.take_left' (length_sizeField _)]

theorem drop_header :
    ∃ rest, (header name mode size flag target).drop 156 = flag :: (field 100 target ++ rest) := by
  obtain ⟨owners, sum, rest, same, before, between, _⟩ := header_eq name mode size flag target
  refine ⟨rest, ?_⟩
  rw [same, ← List.append_assoc, ← List.append_assoc, ← List.append_assoc,
    List.drop_left' (by simp [before, between])]

theorem flag_header : ((header name mode size flag target).drop 156).headD 0 = flag := by
  obtain ⟨rest, same⟩ := drop_header name mode size flag target
  rw [same]
  rfl

theorem target_header :
    ((header name mode size flag target).drop 157).take 100 = field 100 target := by
  obtain ⟨rest, same⟩ := drop_header name mode size flag target
  have behind := congrArg (List.drop 1) same
  rw [List.drop_drop] at behind
  rw [behind, List.drop_succ_cons, List.drop_zero, List.take_left' (length_field ..)]

variable {flag}

/-- A header is no empty block. -/
theorem all_header (marked : flag ≠ 0) :
    (header name mode size flag target).all (· = 0) = false := by
  obtain ⟨owners, sum, rest, same, _⟩ := header_eq name mode size flag target
  rw [same, List.all_eq_false]
  exact ⟨flag, by simp, by simpa using marked⟩

end Header

/-! ## Entries -/

/-- Content stands in front of its padding. -/
theorem take_padded (content rest : List UInt8) :
    (padded content ++ rest).take content.length = content := by
  rw [padded, List.append_assoc, List.take_left]

/-- A header is read with the content behind it. -/
theorem entriesFrom_header {flag : UInt8} (marked : flag ≠ 0) {content : List UInt8}
    (bounded : content.length < Nat.pow 256 8) (longName longTarget : Option (List UInt8))
    (name : List UInt8) (mode : Nat) (target rest : List UInt8) :
    entriesFrom longName longTarget
        (header name mode content.length flag target ++ (padded content ++ rest)) =
      if flag = 76 then entriesFrom (some (unfield content)) longTarget rest
      else if flag = 75 then entriesFrom longName (some (unfield content)) rest
      else
        (kind? flag content (longTarget.getD (unfield (field 100 target)))).bind fun kind =>
          (entriesFrom none none rest).map
            (⟨longName.getD (unfield (field 100 name)), kind⟩ :: ·) := by
  have whole := length_header name mode content.length flag target
  have long : ¬ (header name mode content.length flag target ++ (padded content ++ rest)).length <
      block := by
    rw [List.length_append, whole]
    omega
  rw [entriesFrom]
  simp only [List.take_left' whole, List.drop_left' whole, long, take_header, size_header,
    flag_header, target_header, all_header _ _ _ _ marked, unsize_sizeField bounded, take_padded,
    List.drop_left, Nat.lt_irrefl, Bool.false_eq_true, if_false, dite_false]
  cases kind? flag content (longTarget.getD (unfield (field 100 target))) <;> rfl

/-- What is too long for a header is kept for the next entry; nothing is written for the rest. -/
theorem entriesFrom_long {flag : UInt8} (marked : flag = 76 ∨ flag = 75) {bytes : List UInt8}
    (plain : 0 ∉ bytes) (bounded : bytes.length + 1 < Nat.pow 256 8)
    (name target : Option (List UInt8)) (rest : List UInt8) :
    entriesFrom name target (long flag bytes ++ rest) =
      if bytes.length ≤ 100 then entriesFrom name target rest
      else if flag = 76 then entriesFrom (some bytes) target rest
      else entriesFrom name (some bytes) rest := by
  unfold long
  split
  · rfl
  · have length : (bytes ++ [0]).length < Nat.pow 256 8 := by
      rwa [List.length_append]
    have kept : unfield (bytes ++ [0]) = bytes := unfield_append plain 1
    rcases marked with rfl | rfl
    · rw [List.append_assoc, entriesFrom_header (by decide) length, kept, if_pos rfl, if_pos rfl]
    · rw [List.append_assoc, entriesFrom_header (by decide) length, kept, if_neg (by decide),
        if_pos rfl, if_neg (by decide)]

theorem entriesFrom_long_name {name : List UInt8} (plain : 0 ∉ name)
    (bounded : name.length + 1 < Nat.pow 256 8) (target : Option (List UInt8))
    (rest : List UInt8) :
    entriesFrom none target (long 76 name ++ rest) =
      entriesFrom (if name.length ≤ 100 then none else some name) target rest := by
  rw [entriesFrom_long (.inl rfl) plain bounded]
  split <;> rfl

theorem entriesFrom_long_target {target : List UInt8} (plain : 0 ∉ target)
    (bounded : target.length + 1 < Nat.pow 256 8) (name : Option (List UInt8))
    (rest : List UInt8) :
    entriesFrom name none (long 75 target ++ rest) =
      entriesFrom name (if target.length ≤ 100 then none else some target) rest := by
  rw [entriesFrom_long (.inr rfl) plain bounded]
  split <;> rfl

/-- A name comes back from its header or from the entry in front of it. -/
theorem getD_long {name : List UInt8} (plain : 0 ∉ name) :
    (if name.length ≤ 100 then none else some name).getD (unfield (field 100 name)) = name := by
  split
  · exact unfield_field ‹_› plain
  · rfl

/-- A long name and a header without content are read as one entry. -/
theorem entriesFrom_bare {flag : UInt8} {kind : Bundle.Kind} {name target : List UInt8}
    {longTarget : Option (List UInt8)}
    (marked : flag ≠ 0 ∧ flag ≠ 76 ∧ flag ≠ 75) (plain : 0 ∉ name)
    (read : kind? flag [] (longTarget.getD (unfield (field 100 target))) = some kind) (mode : Nat)
    (rest : List UInt8) :
    entriesFrom (if name.length ≤ 100 then none else some name) longTarget
        (header name mode 0 flag target ++ rest) =
      (entriesFrom none none rest).map (⟨name, kind⟩ :: ·) := by
  have step := @entriesFrom_header flag marked.1 [] (by decide)
    (if name.length ≤ 100 then none else some name) longTarget name mode target rest
  rw [if_neg marked.2.1, if_neg marked.2.2, read, getD_long plain] at step
  exact step

/-- An entry that a tape can hold: no zero ends its path or its target early, and its lengths can be
written. -/
structure Storable (entry : Bundle.Entry) : Prop where
  plain : 0 ∉ entry.path
  path : entry.path.length + 1 < Nat.pow 256 8
  target : ∀ target, entry.kind = .link target →
    0 ∉ target ∧ target.length + 1 < Nat.pow 256 8
  content : ∀ content, entry.kind = .regular content → content.length < Nat.pow 256 8

/-- An entry is read with all that was written for it. -/
theorem entriesFrom_entry {own : Bundle.Entry} (storable : Storable own) (rest : List UInt8) :
    entriesFrom none none (entry own ++ rest) =
      (entriesFrom none none rest).map (own.plain :: ·) := by
  obtain ⟨path, kind⟩ := own
  obtain ⟨plain, short, links, contents⟩ := storable
  cases kind with
  | directory =>
      change entriesFrom none none (long 76 path ++ header path 0o755 0 53 [] ++ rest) = _
      rw [List.append_assoc, entriesFrom_long_name plain short]
      exact entriesFrom_bare (by decide) plain rfl _ _
  | device =>
      change entriesFrom none none (long 76 path ++ header path 0o644 0 51 [] ++ rest) = _
      rw [List.append_assoc, entriesFrom_long_name plain short]
      exact entriesFrom_bare (by decide) plain rfl _ _
  | link target =>
      obtain ⟨whole, fits⟩ := links target rfl
      change entriesFrom none none
        (long 76 path ++ long 75 target ++ header path 0o777 0 50 target ++ rest) = _
      rw [List.append_assoc, List.append_assoc, entriesFrom_long_name plain short,
        entriesFrom_long_target whole fits]
      refine entriesFrom_bare (by decide) plain ?_ _ _
      rw [getD_long whole]
      rfl
  | regular content =>
      have length : content.length = content.toList.length := content.length_toList.symm
      change entriesFrom none none
        (long 76 path ++ header path 0o644 content.length 48 [] ++ padded content.toList ++ rest) =
          _
      rw [List.append_assoc, List.append_assoc, entriesFrom_long_name plain short, length,
        entriesFrom_header (by decide) (length ▸ contents content rfl)]
      simp only [getD_long plain]
      rfl

theorem entriesFrom_end : entriesFrom none none (List.replicate (2 * block) 0) = some [] := by
  have long : ¬ (List.replicate (2 * block) (0 : UInt8)).length < block := by
    rw [List.length_replicate]
    decide
  have empty : ((List.replicate (2 * block) (0 : UInt8)).take block).all (· = 0) = true := by
    rw [List.all_eq_true]
    intro byte member
    rw [List.eq_of_mem_replicate (List.mem_of_mem_take member)]
    rfl
  rw [entriesFrom]
  simp only [long, empty, dite_false, if_true]

/-- A tape is read as the entries that it was written for, with tidy targets. -/
theorem entries?_ofBundle {bundle : Bundle}
    (storable : ∀ entry ∈ bundle.entries, Storable (tidy entry)) :
    entries? (ofBundle bundle) =
      some (bundle.entries.map fun entry => (tidy entry).plain) := by
  obtain ⟨base, entries⟩ := bundle
  unfold entries? ofBundle
  induction entries with
  | nil => exact entriesFrom_end
  | cons entry entries ih =>
      obtain ⟨own, others⟩ := List.forall_mem_cons.mp storable
      rw [List.map_cons, List.flatMap_cons, List.append_assoc, entriesFrom_entry own, ih others]
      rfl

theorem unpack?_pack {bundle : Bundle}
    (storable : ∀ entry ∈ bundle.entries, Storable (tidy entry)) :
    unpack? (archiver.pack bundle) = some (bundle.entries.map fun entry => (tidy entry).plain) := by
  change (Gzip.expand? (Gzip.compress (ofBundle bundle))).bind entries? = _
  rw [Gzip.expand?_compress, Option.bind_some, entries?_ofBundle storable]

/-- Where the targets of all links are tidy, tapes store what they are given. -/
theorem stores_of_tidy {bundle : Bundle}
    (storable : ∀ entry ∈ bundle.entries, Storable (tidy entry))
    (tidied : ∀ entry ∈ bundle.entries, tidy entry = entry) :
    archiver.Stores unpack? bundle := by
  refine ⟨_, unpack?_pack storable, ?_⟩
  rw [List.map_congr_left fun entry member => by rw [tidied entry member]]

end DesktopGateway.Files.Tape

namespace DesktopGateway.Files.Bundle

/-- The bundle that a directory is told to have is what its tape is unpacked to. -/
theorem unpack?_ofDirectory {volume : Volume} {path : List UInt8} {bundle : Bundle}
    (gathered : gather volume path = .ok bundle)
    (storable : ∀ entry ∈ bundle.entries, Tape.Storable (Tape.tidy entry)) :
    (ofDirectory volume path).map (fun listed => some (listed.entries.map Entry.plain)) =
      .ok (Tape.unpack? (Tape.archiver.pack bundle)) := by
  rw [ofDirectory, gathered, Tape.unpack?_pack storable]
  simp [Except.map]

end DesktopGateway.Files.Bundle
