/-!
# UTF-8 text

Texts travel as bytes. `decode` either gives the text or says where its longest well-formed
beginning ends; `lossy` shows every malformed part as one replacement character.
-/

namespace DesktopGateway.Text.Utf8

def encode (text : String) : List UInt8 :=
  text.toUTF8.data.toList

/-- The well-formed beginning has `offset` bytes. `length` counts the malformed bytes behind it;
it is absent when the bytes end inside a character. -/
structure Flaw where
  offset : Nat
  length : Option Nat
  deriving DecidableEq, Repr

def Flaw.message (flaw : Flaw) : String :=
  match flaw.length with
  | some length => s!"invalid utf-8 sequence of {length} bytes from index {flaw.offset}"
  | none => s!"incomplete utf-8 byte sequence from index {flaw.offset}"

/-- A character of which `seen` bytes were read and `missing` more are due, the next of them
between `low` and `high`. -/
structure Unfinished where
  seen : Nat
  missing : Nat
  low : UInt8
  high : UInt8
  value : Nat

/-- What a scan knows after one more byte that fits. -/
inductive State where
  | finished (char : Char)
  | inside (unfinished : Unfinished)

def start? (byte : UInt8) : Option State :=
  let three (low high : UInt8) := State.inside ⟨1, 2, low, high, byte.toNat - 0xE0⟩
  let four (low high : UInt8) := State.inside ⟨1, 3, low, high, byte.toNat - 0xF0⟩
  if byte < 0x80 then some (.finished (Char.ofNat byte.toNat))
  else if byte < 0xC2 then none
  else if byte < 0xE0 then some (.inside ⟨1, 1, 0x80, 0xBF, byte.toNat - 0xC0⟩)
  else if byte = 0xE0 then some (three 0xA0 0xBF)
  else if byte = 0xED then some (three 0x80 0x9F)
  else if byte < 0xF0 then some (three 0x80 0xBF)
  else if byte = 0xF0 then some (four 0x90 0xBF)
  else if byte < 0xF4 then some (four 0x80 0xBF)
  else if byte = 0xF4 then some (four 0x80 0x8F)
  else none

/-- The state after one more byte of a character, or nothing when the byte cannot continue it. -/
def Unfinished.next? (unfinished : Unfinished) (byte : UInt8) : Option State :=
  if unfinished.low ≤ byte ∧ byte ≤ unfinished.high then
    let value := unfinished.value * 64 + (byte.toNat - 0x80)
    if unfinished.missing = 1 then some (.finished (Char.ofNat value))
    else some (.inside ⟨unfinished.seen + 1, unfinished.missing - 1, 0x80, 0xBF, value⟩)
  else none

/-- The first flaw of the bytes, when `offset` bytes were well formed before the character that
is being read. -/
def flawFrom (offset : Nat) (state : Option Unfinished) : List UInt8 → Option Flaw
  | [] => state.map fun _ => ⟨offset, none⟩
  | byte :: rest =>
      match state with
      | none =>
          match start? byte with
          | some (.finished _) => flawFrom (offset + 1) none rest
          | some (.inside unfinished) => flawFrom offset (some unfinished) rest
          | none => some ⟨offset, some 1⟩
      | some unfinished =>
          match unfinished.next? byte with
          | some (.finished _) => flawFrom (offset + unfinished.seen + 1) none rest
          | some (.inside further) => flawFrom offset (some further) rest
          | none => some ⟨offset, some unfinished.seen⟩

def decode (bytes : List UInt8) : Except Flaw String :=
  match String.fromUTF8? ⟨bytes.toArray⟩ with
  | some text => .ok text
  | none => .error ((flawFrom 0 none bytes).getD ⟨bytes.length, none⟩)

def replacement : Char := '\uFFFD'

/-- What is shown, last character first, after a byte that starts a character. -/
def startShown (shown : List Char) (byte : UInt8) : Option Unfinished × List Char :=
  match start? byte with
  | some (.finished char) => (none, char :: shown)
  | some (.inside unfinished) => (some unfinished, shown)
  | none => (none, replacement :: shown)

def nextShown (state : Option Unfinished) (shown : List Char) (byte : UInt8) :
    Option Unfinished × List Char :=
  match state with
  | none => startShown shown byte
  | some unfinished =>
      match unfinished.next? byte with
      | some (.finished char) => (none, char :: shown)
      | some (.inside further) => (some further, shown)
      | none => startShown (replacement :: shown) byte

/-- The bytes as a text in which each malformed part is one replacement character. -/
def lossy (bytes : List UInt8) : String :=
  let last := bytes.foldl (fun (state, shown) byte => nextShown state shown byte) (none, [])
  String.ofList (if last.1.isSome then replacement :: last.2 else last.2).reverse

theorem decode_encode (text : String) : decode (encode text) = .ok text := by
  have same : (⟨(encode text).toArray⟩ : ByteArray) = text.toUTF8 := by
    simp [encode]
  unfold decode
  rw [same, String.fromUTF8?, String.toUTF8_eq_toByteArray, dif_pos text.isValidUTF8]
  rfl

end DesktopGateway.Text.Utf8
