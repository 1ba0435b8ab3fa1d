import DesktopGateway.Net.Address
import Mathlib.Data.List.Basic
import Mathlib.Data.List.TakeWhile

/-!
# Where an address ends

The reader of an address never looks behind a mark that no address holds: what stands in front of
the mark is read as if nothing stood behind. So a text with such a mark is no address, and an
address that is followed by a colon or a bracket is still found.
-/

namespace DesktopGateway.Net

variable {α β : Type} {mark : Char}

/-- A reader that halts at a mark at the latest. What stands from there on makes no difference. -/
def HaltsAt (mark : Char) (read : List Char → Option (α × List Char)) : Prop :=
  ∀ text more, read (text ++ mark :: more) =
    (read text).map fun (value, rest) => (value, rest ++ mark :: more)

namespace HaltsAt

theorem pure (value : α) : HaltsAt mark fun text => some (value, text) := by
  intro text more
  rfl

theorem bind {read : List Char → Option (α × List Char)}
    {next : α → List Char → Option (β × List Char)} (first : HaltsAt mark read)
    (later : ∀ value, HaltsAt mark (next value)) :
    HaltsAt mark fun text => (read text).bind fun (value, rest) => next value rest := by
  intro text more
  dsimp only
  rw [first]
  cases read text with
  | none => rfl
  | some found => exact later found.1 found.2 more

theorem behindMark {wanted : Char} {next : List Char → Option (α × List Char)}
    (other : mark ≠ wanted) (later : HaltsAt mark next) :
    HaltsAt mark fun text => (IpAddress.readMark wanted text).bind next := by
  intro text more
  cases text with
  | nil => simp [IpAddress.readMark, other]
  | cons char text =>
      by_cases same : char = wanted
      · simpa [IpAddress.readMark, same] using later text more
      · simp [IpAddress.readMark, same]

/-- Nothing that holds the mark is read to its end. -/
theorem ne_of_mem {read : List Char → Option (α × List Char)} (halts : HaltsAt mark read)
    {text : List Char} (member : mark ∈ text) (value : α) : read text ≠ some (value, []) := by
  obtain ⟨front, behind, rfl⟩ := List.append_of_mem member
  rw [halts]
  cases read front <;> simp

end HaltsAt

namespace IpAddress

/-! ## Readers -/

/-- The first characters that fit end at a mark that does not. -/
theorem while_append {fits : Char → Bool} (stops : fits mark = false) (text more : List Char) :
    (text ++ mark :: more).takeWhile fits = text.takeWhile fits ∧
      (text ++ mark :: more).dropWhile fits = text.dropWhile fits ++ mark :: more := by
  induction text with
  | nil => simp [stops]
  | cons char text ih =>
      cases fit : fits char with
      | true => simpa [fit] using ih
      | false => simp [fit]

theorem readNumber_append {radix : Nat} (foreign : digit? radix mark = none)
    (text more : List Char) :
    readNumber radix (text ++ mark :: more) =
      (readNumber radix text).map fun (digits, value, rest) =>
        (digits, value, rest ++ mark :: more) := by
  have stops : (digit? radix mark).isSome = false := by rw [foreign]; rfl
  have parted := @while_append mark (fun char => (digit? radix char).isSome) stops text more
  unfold readNumber
  dsimp only
  rw [parted.1, parted.2]
  split <;> rfl

theorem haltsAt_readOctet (foreign : digit? 10 mark = none) : HaltsAt mark readOctet := by
  intro text more
  rw [readOctet, readOctet, readNumber_append foreign]
  cases readNumber 10 text with
  | none => rfl
  | some found =>
      dsimp only [Option.map_some]
      split <;> rfl

theorem haltsAt_readGroup (foreign : digit? 16 mark = none) : HaltsAt mark readGroup := by
  intro text more
  rw [readGroup, readGroup, readNumber_append foreign]
  cases readNumber 16 text with
  | none => rfl
  | some found =>
      dsimp only [Option.map_some]
      split <;> rfl

theorem haltsAt_readFour (foreign : digit? 10 mark = none) (noDot : mark ≠ '.') :
    HaltsAt mark readFour := by
  have octet := haltsAt_readOctet foreign
  exact octet.bind fun first => .behindMark noDot <| octet.bind fun second =>
    .behindMark noDot <| octet.bind fun third => .behindMark noDot <| octet.bind fun fourth =>
      .pure [first, second, third, fourth]

theorem haltsAt_behindColon {read : List Char → Option (α × List Char)} (noColon : mark ≠ ':')
    (halts : HaltsAt mark read) (first : Bool) : HaltsAt mark (behindColon first read) := by
  cases first with
  | true => exact halts
  | false => exact HaltsAt.behindMark noColon halts

structure IsForeign (mark : Char) : Prop where
  decimal : digit? 10 mark = none
  hexadecimal : digit? 16 mark = none
  noDot : mark ≠ '.'
  noColon : mark ≠ ':'

theorem readGroups_append (foreign : IsForeign mark) (left : Nat) (first : Bool)
    (text more : List Char) :
    readGroups left first (text ++ mark :: more) =
      ((readGroups left first text).1, (readGroups left first text).2.1,
        (readGroups left first text).2.2 ++ mark :: more) := by
  induction left generalizing first text with
  | zero => rfl
  | succ left ih =>
      have four := haltsAt_behindColon foreign.noColon
        (haltsAt_readFour foreign.decimal foreign.noDot) first text more
      have group := haltsAt_behindColon foreign.noColon
        (haltsAt_readGroup foreign.hexadecimal) first text more
      have either : (if left = 0 then none else behindColon first readFour (text ++ mark :: more)) =
          (if left = 0 then none else behindColon first readFour text).map
            fun found => (found.1, found.2 ++ mark :: more) := by
        split
        · rfl
        · exact four
      rw [readGroups, readGroups, either, group]
      cases if left = 0 then none else behindColon first readFour text with
      | some found => rfl
      | none =>
          cases behindColon first readGroup text with
          | none => rfl
          | some found => simp only [Option.map_none, Option.map_some, ih]

/-- The groups behind a double colon, which stands for the zeros between them and the head. -/
def readTail (head : List UInt16) (text : List Char) : Option (List UInt16 × List Char) :=
  match readGroups (7 - head.length) true text with
  | (tail, _, rest) =>
      some (head ++ List.replicate (8 - head.length - tail.length) 0 ++ tail, rest)

theorem readSix_eq (text : List Char) :
    readSix text =
      match readGroups 8 true text with
      | (head, embedded, rest) =>
          if head.length = 8 then some (head, rest)
          else if embedded then none
          else (readMark ':' rest).bind fun rest => (readMark ':' rest).bind (readTail head) := by
  unfold readSix
  obtain ⟨head, embedded, rest⟩ := readGroups 8 true text
  dsimp only
  split
  · rfl
  · split
    · rfl
    · split
      · rfl
      · next others =>
          match rest with
          | [] => rfl
          | [first] => by_cases same : first = ':' <;> simp [readMark, same]
          | first :: second :: rest =>
              have apart : first = ':' → second ≠ ':' := by
                rintro rfl rfl
                exact others rest rfl
              by_cases same : first = ':' <;> simp [readMark, same, apart]

theorem haltsAt_readSix (foreign : IsForeign mark) : HaltsAt mark readSix := by
  intro text more
  rw [readSix_eq, readSix_eq, readGroups_append foreign]
  obtain ⟨head, embedded, rest⟩ := readGroups 8 true text
  have tail : HaltsAt mark (readTail head) := by
    intro text more
    rw [readTail, readGroups_append foreign]
    rfl
  have double := HaltsAt.behindMark foreign.noColon (.behindMark foreign.noColon tail) rest more
  dsimp only at double ⊢
  split
  · rfl
  · split
    · rfl
    · exact double

/-! ## Whole texts -/

theorem ofText?_eq_none_of_mem (foreign : IsForeign mark) {text : String}
    (member : mark ∈ text.toList) : ofText? text = none := by
  have noFour := (haltsAt_readFour foreign.decimal foreign.noDot).ne_of_mem member
  have noSix := (haltsAt_readSix foreign).ne_of_mem member
  unfold ofText?
  split
  · next octets read =>
      split at read
      · exact absurd read (noFour octets)
      · cases read
  · split
    · next groups read => exact absurd read (noSix groups)
    · rfl

theorem readFour_of_ofText? {text : String} {octets : List UInt8}
    (parsed : ofText? text = some (.four octets)) : readFour text.toList = some (octets, []) := by
  unfold ofText? at parsed
  split at parsed
  · next found read =>
      cases parsed
      split at read
      · exact read
      · cases read
  · split at parsed <;> cases parsed

theorem readSix_of_ofText? {text : String} {groups : List UInt16}
    (parsed : ofText? text = some (.six groups)) : readSix text.toList = some (groups, []) := by
  unfold ofText? at parsed
  split at parsed
  · cases parsed
  · split at parsed
    · next found read =>
        cases parsed
        exact read
    · cases parsed

/-- What begins with four bytes is not read as groups: two groups are too few, and none may follow
them. -/
theorem readSix_of_readFour {text rest : List Char} {octets : List UInt8}
    (read : readFour text = some (octets, rest)) : readSix text = none := by
  have groups : readGroups 8 true text = (pair octets, true, rest) := by
    rw [readGroups, if_neg (by decide), behindColon, if_pos rfl, read]
  have few : (pair octets).length ≠ 8 := by
    unfold pair
    split <;> simp
  rw [readSix_eq, groups]
  dsimp only
  rw [if_neg few, if_pos rfl]

theorem foreign_open : IsForeign '[' :=
  ⟨by decide, by decide, by decide, by decide⟩

theorem foreign_close : IsForeign ']' :=
  ⟨by decide, by decide, by decide, by decide⟩

/-! ## Numbers -/

theorem digit?_of_isDigit {char : Char} (decimal : char.isDigit = true) :
    digit? 10 char = some (char.toNat - 48) := by
  have bounds : '0' ≤ char ∧ char ≤ '9' := by
    simpa [Char.isDigit, Char.le_def] using decimal
  have small : char.toNat - 48 < 10 := by
    have high : char.toNat ≤ 57 := bounds.2
    omega
  simp [digit?, bounds, small]

theorem valueOf_of_digits {digits : List Char} (decimal : ∀ char ∈ digits, char.isDigit = true) :
    valueOf 10 digits = Nat.ofDigitChars 10 digits 0 := by
  unfold valueOf Nat.ofDigitChars
  refine List.foldl_ext _ _ _ fun value char member => ?_
  rw [digit?_of_isDigit (decimal char member)]
  rfl

theorem not_mem_toDigits {char : Char} (other : char.isDigit = false) (value : Nat) :
    char ∉ Nat.toDigits 10 value := by
  intro member
  rw [Nat.isDigit_of_mem_toDigits (by omega) (by omega) member] at other
  cases other

/-- A number in its shortest notation is read to its end. -/
theorem readNumber_toDigits (value : Nat) :
    readNumber 10 (Nat.toDigits 10 value) = some (Nat.toDigits 10 value, value, []) := by
  have decimal : ∀ char ∈ Nat.toDigits 10 value, char.isDigit = true := fun char =>
    Nat.isDigit_of_mem_toDigits (by omega) (by omega)
  have fits : ∀ char ∈ Nat.toDigits 10 value, (digit? 10 char).isSome = true := by
    intro char member
    rw [digit?_of_isDigit (decimal char member)]
    rfl
  have filled : (Nat.toDigits 10 value).isEmpty = false := by
    simp [Nat.toDigits_ne_nil]
  unfold readNumber
  dsimp only
  rw [List.takeWhile_eq_self_iff.mpr fits, List.dropWhile_eq_nil_iff.mpr fits, filled,
    valueOf_of_digits decimal, Nat.ofDigitChars_toDigits (by omega) (by omega)]
  rfl

end IpAddress

namespace SocketAddress

open IpAddress

/-! ## Addresses with a port -/

def written (host : String) (port : UInt16) : String :=
  s!"{host}:{port}"

theorem toList_written (host : String) (port : UInt16) :
    (written host port).toList = host.toList ++ ':' :: Nat.toDigits 10 port.toNat := by
  have digits : (toString port).toList = Nat.toDigits 10 port.toNat := Nat.toList_repr
  rw [← digits]
  simp [written, ToString.toString]

theorem readPort_toDigits (port : UInt16) :
    readPort (':' :: Nat.toDigits 10 port.toNat) = some (port, []) := by
  have small := port.toNat_lt
  simp [readPort, readMark, readNumber_toDigits, small]

/-- Behind four bytes a port is found. -/
theorem ofText?_written_four {host : String} {octets : List UInt8}
    (parsed : IpAddress.ofText? host = some (.four octets)) (port : UInt16) :
    ofText? (written host port) = some ⟨.four octets, port, 0⟩ := by
  have four := haltsAt_readFour (show digit? 10 ':' = none by decide) (by decide) host.toList
    (Nat.toDigits 10 port.toNat)
  rw [readFour_of_ofText? parsed] at four
  have read : SocketAddress.readFour (written host port).toList =
      some (⟨.four octets, port, 0⟩, []) := by
    rw [toList_written, SocketAddress.readFour, four]
    simp [readPort_toDigits]
  rw [ofText?, read]

/-- Groups without brackets are no host of a port. -/
theorem ofText?_written_six {host : String} {groups : List UInt16}
    (parsed : IpAddress.ofText? host = some (.six groups)) (port : UInt16) :
    ofText? (written host port) = none := by
  have six := readSix_of_ofText? parsed
  have noFour : IpAddress.readFour host.toList = none := by
    cases read : IpAddress.readFour host.toList with
    | none => rfl
    | some found =>
        rw [readSix_of_readFour read] at six
        cases six
  have noOpen : '[' ∉ host.toList := fun member =>
    (haltsAt_readSix foreign_open).ne_of_mem member groups six
  have four : SocketAddress.readFour (written host port).toList = none := by
    rw [toList_written, SocketAddress.readFour,
      haltsAt_readFour (show digit? 10 ':' = none by decide) (by decide), noFour]
    rfl
  have bracketed : SocketAddress.readSix (written host port).toList = none := by
    rw [toList_written, SocketAddress.readSix]
    cases characters : host.toList with
    | nil => simp [readMark]
    | cons first more =>
        rw [characters, List.mem_cons, not_or] at noOpen
        simp [readMark, Ne.symm noOpen.1]
  rw [ofText?, four, bracketed]

/-- Groups in brackets are. -/
theorem ofText?_written_bracketed {host : String} {groups : List UInt16}
    (parsed : IpAddress.ofText? host = some (.six groups)) (port : UInt16) :
    ofText? (written ("[" ++ host ++ "]") port) = some ⟨.six groups, port, 0⟩ := by
  have six := haltsAt_readSix foreign_close host.toList (':' :: Nat.toDigits 10 port.toNat)
  rw [readSix_of_ofText? parsed] at six
  have characters : (written ("[" ++ host ++ "]") port).toList =
      '[' :: (host.toList ++ ']' :: ':' :: Nat.toDigits 10 port.toNat) := by
    simp [toList_written, String.toList_append]
  have four : SocketAddress.readFour (written ("[" ++ host ++ "]") port).toList = none := by
    have none := haltsAt_readFour foreign_open.decimal foreign_open.noDot []
      (host.toList ++ ']' :: ':' :: Nat.toDigits 10 port.toNat)
    rw [List.nil_append] at none
    rw [characters, SocketAddress.readFour, none]
    rfl
  have bracketed : SocketAddress.readSix (written ("[" ++ host ++ "]") port).toList =
      some (⟨.six groups, port, 0⟩, []) := by
    rw [characters, SocketAddress.readSix]
    simp [readMark, six, readScope, readPort_toDigits]
  rw [ofText?, four, bracketed]

end SocketAddress

end DesktopGateway.Net
