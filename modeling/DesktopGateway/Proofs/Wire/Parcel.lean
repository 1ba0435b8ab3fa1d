import DesktopGateway.Proofs.Wire.Field
import DesktopGateway.Proofs.Wire.Window
import DesktopGateway.Wire.Parcel

/-!
# Messages on the stream

Encoding and decoding of messages are inverse to each other: what was encoded is decoded again in
front of any continuation, and what is decoded has only one encoding, namely the bytes it was read
from. A stream that ends within a message never yields a whole one.
-/

namespace DesktopGateway.Wire

namespace Parcel

open DesktopGateway.Wire.Field (IsLine lineBytes sizeBytes)

variable {β γ : Type}

@[simp] theorem kind_map (change : β → γ) (parcel : Parcel β) :
    (parcel.map change).kind = parcel.kind := by
  cases parcel <;> rfl

@[simp] theorem contentSize_map (change : β → γ) (parcel : Parcel β) :
    (parcel.map change).contentSize = parcel.contentSize := by
  cases parcel <;> rfl

/-! ## Headers -/

/-- A message with a size and texts that may be sent. -/
def IsSendable : Parcel β → Prop
  | statRequest path => IsLine path
  | fetchRequest path => IsLine path
  | storeRequest name size _ => 0 ≤ size ∧ IsLine name
  | fetchedFile name contentType size _ => 0 ≤ size ∧ IsLine name ∧ IsLine contentType

def headerBytes : Parcel β → List UInt8
  | statRequest path => lineBytes path
  | fetchRequest path => lineBytes path
  | storeRequest name size _ => lineBytes name ++ sizeBytes size
  | fetchedFile name contentType size _ => lineBytes name ++ lineBytes contentType ++ sizeBytes size

theorem headerBytes_ne_nil (parcel : Parcel β) : parcel.headerBytes ≠ [] := by
  cases parcel <;> simp [headerBytes, lineBytes]

@[simp] theorem isSendable_map (change : β → γ) (parcel : Parcel β) :
    (parcel.map change).IsSendable ↔ parcel.IsSendable := by
  cases parcel <;> rfl

@[simp] theorem headerBytes_map (change : β → γ) (parcel : Parcel β) :
    (parcel.map change).headerBytes = parcel.headerBytes := by
  cases parcel <;> rfl

def sizeFault? (size : Int64) : Option Fault :=
  if size < 0 then some (.negativeSize size) else none

theorem sizeFault?_eq_none_iff (size : Int64) : sizeFault? size = none ↔ 0 ≤ size := by
  rw [← Int64.not_lt]
  unfold sizeFault?
  split <;> simp [*]

theorem checkSize_eq (size : Int64) : checkSize size = Fault.check (sizeFault? size) () := by
  unfold checkSize sizeFault?
  split <;> rfl

theorem checkSize_eq_ok_iff (size : Int64) (checked : Unit) :
    checkSize size = .ok checked ↔ 0 ≤ size := by
  rw [checkSize_eq, Fault.check_eq_ok_iff, sizeFault?_eq_none_iff]
  exact and_iff_left rfl

theorem checkSize_map_eq_ok_iff (size : Int64) (made parcel : Parcel Unit) :
    ((checkSize size).map fun _ => made) = .ok parcel ↔ 0 ≤ size ∧ made = parcel := by
  rw [checkSize_eq, Fault.check_map, Fault.check_eq_ok_iff, sizeFault?_eq_none_iff]

/-- The first reason not to send a message. A size comes before the texts. -/
def refusal? : Parcel β → Option Fault
  | statRequest path => Field.lineFault? path
  | fetchRequest path => Field.lineFault? path
  | storeRequest name size _ => (sizeFault? size).or (Field.lineFault? name)
  | fetchedFile name contentType size _ =>
      (sizeFault? size).or ((Field.lineFault? name).or (Field.lineFault? contentType))

theorem refusal?_eq_none_iff (parcel : Parcel β) : parcel.refusal? = none ↔ parcel.IsSendable := by
  cases parcel with
  | statRequest path => exact Field.lineFault?_eq_none_iff path
  | fetchRequest path => exact Field.lineFault?_eq_none_iff path
  | storeRequest name size content =>
      rw [refusal?, Option.or_eq_none_iff, sizeFault?_eq_none_iff, Field.lineFault?_eq_none_iff]
      exact Iff.rfl
  | fetchedFile name contentType size content =>
      rw [refusal?, Option.or_eq_none_iff, Option.or_eq_none_iff, sizeFault?_eq_none_iff,
        Field.lineFault?_eq_none_iff, Field.lineFault?_eq_none_iff]
      exact Iff.rfl

theorem header_eq (parcel : Parcel β) :
    parcel.header = Fault.check parcel.refusal? parcel.headerBytes := by
  cases parcel with
  | statRequest path => exact Field.write_line_eq path
  | fetchRequest path => exact Field.write_line_eq path
  | storeRequest name size content =>
      rw [header, checkSize_eq, Field.write_line_eq, refusal?]
      exact Fault.check_bind (Fault.check_bind_pure ..)
  | fetchedFile name contentType size content =>
      rw [header, checkSize_eq, Field.write_line_eq, Field.write_line_eq, refusal?]
      exact Fault.check_bind (Fault.check_bind (Fault.check_bind_pure ..))

/-- The checks before a header pass exactly for the messages that may be sent. -/
theorem header_eq_ok_iff (parcel : Parcel β) (bytes : List UInt8) :
    parcel.header = .ok bytes ↔ parcel.IsSendable ∧ bytes = parcel.headerBytes := by
  rw [header_eq, Fault.check_eq_ok_iff, refusal?_eq_none_iff, @eq_comm _ bytes]

/-- Decoding a header accepts exactly the headers of the messages that may be sent. -/
theorem decode_run_iff (kind : Kind) (bytes rest : List UInt8) (parcel : Parcel Unit) :
    (decode kind).run bytes = (.ok parcel, rest) ↔
      parcel.kind = kind ∧ parcel.IsSendable ∧ bytes = parcel.headerBytes ++ rest := by
  cases kind with
  | statRequest =>
      simp only [decode, Demand.run_andThen_ok_iff, Field.readLine_run_iff,
        Demand.run_done_ok_iff, Except.ok.injEq]
      constructor
      · rintro ⟨path, _, ⟨line, rfl⟩, rfl, rfl⟩
        exact ⟨rfl, line, rfl⟩
      · rintro ⟨sort, line, rfl⟩
        cases parcel <;> cases sort
        exact ⟨_, _, ⟨line, rfl⟩, rfl, rfl⟩
  | fetchRequest =>
      simp only [decode, Demand.run_andThen_ok_iff, Field.readLine_run_iff,
        Demand.run_done_ok_iff, Except.ok.injEq]
      constructor
      · rintro ⟨path, _, ⟨line, rfl⟩, rfl, rfl⟩
        exact ⟨rfl, line, rfl⟩
      · rintro ⟨sort, line, rfl⟩
        cases parcel <;> cases sort
        exact ⟨_, _, ⟨line, rfl⟩, rfl, rfl⟩
  | storeRequest =>
      simp only [decode, Demand.run_andThen_ok_iff, Field.readLine_run_iff,
        Field.readSize_run_iff, Demand.run_done_ok_iff, checkSize_map_eq_ok_iff]
      constructor
      · rintro ⟨name, _, ⟨line, rfl⟩, size, _, rfl, ⟨accepted, rfl⟩, rfl⟩
        exact ⟨rfl, ⟨accepted, line⟩, (List.append_assoc ..).symm⟩
      · rintro ⟨sort, sendable, rfl⟩
        cases parcel <;> cases sort
        obtain ⟨accepted, line⟩ := sendable
        exact ⟨_, _, ⟨line, List.append_assoc ..⟩, _, _, rfl, ⟨accepted, rfl⟩, rfl⟩
  | fetchedFile =>
      simp only [decode, Demand.run_andThen_ok_iff, Field.readLine_run_iff,
        Field.readSize_run_iff, Demand.run_done_ok_iff, checkSize_map_eq_ok_iff]
      constructor
      · rintro ⟨name, _, ⟨line, rfl⟩, contentType, _, ⟨lineType, rfl⟩, size, _, rfl,
          ⟨accepted, rfl⟩, rfl⟩
        refine ⟨rfl, ⟨accepted, line, lineType⟩, ?_⟩
        simp only [headerBytes, List.append_assoc]
      · rintro ⟨sort, sendable, rfl⟩
        cases parcel <;> cases sort
        obtain ⟨accepted, line, lineType⟩ := sendable
        refine ⟨_, _, ⟨line, ?_⟩, _, _, ⟨lineType, rfl⟩, _, _, rfl, ⟨accepted, rfl⟩, rfl⟩
        simp only [headerBytes, List.append_assoc]

/-! ## Whole messages -/

def sentContent (parcel : Parcel (List UInt8)) : List UInt8 :=
  (parcel.content?.getD []).take parcel.contentSize

/-- What is reported of content that has fewer bytes than were announced. -/
def shortage? (announced available : Nat) : Option Fault :=
  if available < announced then some (.shortContent announced available) else none

theorem shortage?_eq_none_iff (announced available : Nat) :
    shortage? announced available = none ↔ announced ≤ available := by
  rw [← Nat.not_lt]
  unfold shortage?
  split <;> simp [*]

/-- It makes no difference whether the content or its copy is counted. -/
theorem shortage?_min (announced available : Nat) :
    shortage? announced (min announced available) = shortage? announced available := by
  unfold shortage?
  by_cases few : available < announced
  · rw [Nat.min_eq_right (Nat.le_of_lt few)]
  · rw [Nat.min_eq_left (Nat.not_lt.mp few), if_neg few, if_neg (Nat.lt_irrefl _)]

theorem encode_of_refused {parcel : Parcel (List UInt8)} {fault : Fault}
    (refused : parcel.refusal? = some fault) : parcel.encode = ⟨[], some fault⟩ := by
  unfold encode
  rw [header_eq, refused]
  rfl

theorem encode_of_accepted {parcel : Parcel (List UInt8)} (accepted : parcel.refusal? = none) :
    parcel.encode = ⟨parcel.headerBytes ++ parcel.sentContent,
      shortage? parcel.contentSize parcel.sentContent.length⟩ := by
  unfold encode
  rw [header_eq, accepted]
  rfl

/-- Encoding succeeds exactly for the messages that may be sent and have enough content, and then
writes the header and the content. -/
theorem encode_fault_eq_none_iff (parcel : Parcel (List UInt8)) :
    parcel.encode.fault = none ↔
      parcel.IsSendable ∧ parcel.sentContent.length = parcel.contentSize := by
  have shorter : parcel.sentContent.length ≤ parcel.contentSize := List.length_take_le ..
  rw [← refusal?_eq_none_iff]
  cases refused : parcel.refusal? with
  | some fault => simp [encode_of_refused refused]
  | none =>
      rw [encode_of_accepted refused, shortage?_eq_none_iff, and_iff_right rfl]
      omega

/-- A message that may not be sent leaves no byte on the stream. -/
theorem encode_bytes_of_refused (parcel : Parcel (List UInt8)) (refused : ¬ parcel.IsSendable) :
    parcel.encode.bytes = [] := by
  rw [← refusal?_eq_none_iff] at refused
  obtain ⟨fault, first⟩ := Option.ne_none_iff_exists'.mp refused
  rw [encode_of_refused first]

theorem encode_bytes (parcel : Parcel (List UInt8)) (sendable : parcel.IsSendable) :
    parcel.encode.bytes = parcel.headerBytes ++ parcel.sentContent := by
  rw [encode_of_accepted ((refusal?_eq_none_iff parcel).mpr sendable)]

theorem read_of_decode {kind : Kind} {bytes rest : List UInt8} {parcel : Parcel Unit}
    (decoded : (decode kind).run bytes = (.ok parcel, rest)) :
    read kind bytes = (.ok (parcel.map fun _ => (Content.take parcel.contentSize rest).1),
      rest.drop parcel.contentSize) := by
  unfold read
  rw [decoded]
  cases parcel <;> rfl

/-- A message is read exactly if its header is decoded, and its content is what then follows. -/
theorem read_eq_ok_iff (kind : Kind) (bytes rest : List UInt8) (parcel : Parcel Content) :
    read kind bytes = (.ok parcel, rest) ↔
      ∃ head behind, (decode kind).run bytes = (.ok head, behind) ∧
        parcel = head.map (fun _ => (Content.take head.contentSize behind).1) ∧
        rest = behind.drop head.contentSize := by
  cases decoded : (decode kind).run bytes with
  | mk outcome behind =>
      cases outcome with
      | error fault =>
          unfold read
          rw [decoded]
          simp
      | ok head =>
          rw [read_of_decode decoded]
          constructor
          · intro same
            cases same
            exact ⟨head, behind, rfl, rfl, rfl⟩
          · rintro ⟨_, _, same, rfl, rfl⟩
            cases same
            rfl

/-- The content, if there is any, was there to its end. -/
def IsWhole (parcel : Parcel Content) : Prop :=
  ∀ content ∈ parcel.content?, content.failure? = none

theorem failure?_take_eq_none_iff (announced : Nat) (bytes : List UInt8) :
    (Content.take announced bytes).1.failure? = none ↔ announced ≤ bytes.length := by
  simp only [Content.take, Content.failure?, List.length_take]
  by_cases enough : announced ≤ bytes.length
  · rw [Nat.min_eq_left enough]
    simp [enough]
  · have missing : announced - min announced bytes.length ≠ 0 := by omega
    simp [missing, enough]

/-- A message that was read is whole exactly if what followed its header was long enough. -/
theorem isWhole_map_take_iff (head : Parcel Unit) (behind : List UInt8) :
    (head.map fun _ => (Content.take head.contentSize behind).1).IsWhole ↔
      head.contentSize ≤ behind.length := by
  cases head with
  | statRequest path => simp [IsWhole, contentSize, content?, map]
  | fetchRequest path => simp [IsWhole, contentSize, content?, map]
  | storeRequest name size content =>
      simp [IsWhole, content?, map, failure?_take_eq_none_iff]
  | fetchedFile name contentType size content =>
      simp [IsWhole, content?, map, failure?_take_eq_none_iff]

/-- An encoded header is decoded again, and the content behind it is still to be read. -/
theorem decode_run_encode (parcel : Parcel (List UInt8)) (rest : List UInt8)
    (sendable : parcel.IsSendable) :
    (decode parcel.kind).run (parcel.encode.bytes ++ rest) =
      (.ok (parcel.map fun _ => ()), parcel.sentContent ++ rest) := by
  rw [decode_run_iff, isSendable_map, headerBytes_map, kind_map, encode_bytes parcel sendable]
  exact ⟨rfl, sendable, List.append_assoc ..⟩

theorem read_encode_append (parcel : Parcel (List UInt8)) (rest : List UInt8)
    (accepted : parcel.encode.fault = none) :
    read parcel.kind (parcel.encode.bytes ++ rest) =
      (.ok (parcel.map fun _ => ⟨parcel.contentSize, parcel.sentContent, 0⟩), rest) := by
  obtain ⟨sendable, full⟩ := (encode_fault_eq_none_iff parcel).mp accepted
  have taken : Content.take parcel.contentSize (parcel.sentContent ++ rest) =
      (⟨parcel.contentSize, parcel.sentContent, 0⟩, rest) := by
    simp [Content.take, ← full]
  have behind : (parcel.sentContent ++ rest).drop parcel.contentSize = rest :=
    congrArg Prod.snd taken
  rw [read_of_decode (decode_run_encode parcel rest sendable), contentSize_map, taken, behind]
  cases parcel <;> rfl

/-- What was encoded is read again in front of any continuation: decoding gives the header and
leaves the content unread, reading the content to its end gives as much of it as the size says and
leaves the continuation. -/
theorem read_encode (parcel : Parcel (List UInt8)) (rest : List UInt8)
    (accepted : parcel.encode.fault = none) :
    (decode parcel.kind).run (parcel.encode.bytes ++ rest) =
        (.ok (parcel.map fun _ => ()), parcel.sentContent ++ rest) ∧
      parcel.sentContent.length = parcel.contentSize ∧
      (∀ source : Pieces, source.flatten = parcel.sentContent ++ rest →
        ∃ left, parcel.window.readToEnd source = (.ok parcel.sentContent, ⟨0⟩, left) ∧
          left.flatten = rest) ∧
      read parcel.kind (parcel.encode.bytes ++ rest) =
        (.ok (parcel.map fun _ => ⟨parcel.contentSize, parcel.sentContent, 0⟩), rest) := by
  obtain ⟨sendable, full⟩ := (encode_fault_eq_none_iff parcel).mp accepted
  refine ⟨decode_run_encode parcel rest sendable, full, ?_, read_encode_append parcel rest accepted⟩
  intro source same
  rw [window, ← full]
  exact Window.readToEnd_append parcel.sentContent rest same

/-- An upload of two bytes out of longer content, in front of a byte of what follows. -/
theorem read_encode_upload :
    (storeRequest "a" 2 [10, 7, 8]).encode.fault = none ∧
      (decode .storeRequest).run ((storeRequest "a" 2 [10, 7, 8]).encode.bytes ++ [9]) =
        (.ok (storeRequest "a" 2 ()), [10, 7, 9]) ∧
      read .storeRequest ((storeRequest "a" 2 [10, 7, 8]).encode.bytes ++ [9]) =
        (.ok (storeRequest "a" 2 ⟨2, [10, 7], 0⟩), [9]) :=
  have encoded := read_encode (storeRequest "a" 2 [10, 7, 8]) [9] (by decide)
  ⟨by decide, encoded.1, encoded.2.2.2⟩

def received (head : Parcel Unit) (behind : List UInt8) : Parcel (List UInt8) :=
  (head.map fun _ => (Content.take head.contentSize behind).1).map Content.bytes

theorem sentContent_received (head : Parcel Unit) (behind : List UInt8) :
    (received head behind).sentContent = behind.take head.contentSize := by
  unfold sentContent
  rw [received, contentSize_map, contentSize_map]
  cases head with
  | statRequest path => rfl
  | fetchRequest path => rfl
  | storeRequest name size content => simp [map, content?, Content.take, List.take_take]
  | fetchedFile name contentType size content =>
      simp [map, content?, Content.take, List.take_take]

/-- The bytes that a whole message was read from are its encoding. -/
theorem encode_of_read {kind : Kind} {bytes rest : List UInt8} {parcel : Parcel Content}
    (found : read kind bytes = (.ok parcel, rest)) (whole : parcel.IsWhole) :
    parcel.kind = kind ∧ ∃ consumed, bytes = consumed ++ rest ∧
      (parcel.map Content.bytes).encode = ⟨consumed, none⟩ := by
  obtain ⟨head, behind, decoded, rfl, rfl⟩ := (read_eq_ok_iff kind bytes rest parcel).mp found
  have enough := (isWhole_map_take_iff head behind).mp whole
  obtain ⟨sort, sendable, rfl⟩ := (decode_run_iff kind bytes behind head).mp decoded
  have sendableAgain : (received head behind).IsSendable := by
    simpa only [received, isSendable_map] using sendable
  have complete : (received head behind).encode.fault = none := by
    rw [encode_fault_eq_none_iff, sentContent_received, List.length_take]
    refine ⟨sendableAgain, ?_⟩
    rw [received, contentSize_map, contentSize_map]
    exact Nat.min_eq_left enough
  have written : (received head behind).encode.bytes =
      head.headerBytes ++ behind.take head.contentSize := by
    rw [encode_bytes _ sendableAgain, sentContent_received, received, headerBytes_map,
      headerBytes_map]
  refine ⟨by rw [kind_map, sort], head.headerBytes ++ behind.take head.contentSize, ?_, ?_⟩
  · rw [List.append_assoc, List.take_append_drop]
  · change (received head behind).encode = _
    rw [← written, ← complete]

/-- A message that is found whole before the end of an encoded one is that one, so that nothing can
have been cut off. -/
theorem not_isWhole_of_cut {cut rest missing : List UInt8} {parcel : Parcel (List UInt8)}
    (accepted : parcel.encode.fault = none) (same : parcel.encode.bytes = cut ++ missing)
    (short : missing ≠ []) {found : Parcel Content}
    (readCut : read parcel.kind cut = (.ok found, rest)) : ¬ found.IsWhole := by
  intro whole
  obtain ⟨sort, consumed, rfl, again⟩ := encode_of_read readCut whole
  -- The cut begins with the whole message that was found, which is read from the whole bytes too.
  have early := read_encode_append (found.map Content.bytes) (rest ++ missing) (by rw [again])
  have late := read_encode_append parcel [] accepted
  rw [again, kind_map, sort] at early
  rw [List.append_nil, same, List.append_assoc, early] at late
  have behind := congrArg Prod.snd late
  exact short (List.append_eq_nil_iff.mp behind).2

/-- Reading is canonical and notices every cut: a whole message re-encodes to exactly the bytes it
was read from, and no stream that ends within an encoded message yields a whole one. -/
theorem read_canonical (kind : Kind) (bytes : List UInt8) :
    (∀ parcel rest, read kind bytes = (.ok parcel, rest) → parcel.IsWhole →
      ∃ consumed, bytes = consumed ++ rest ∧
        (parcel.map Content.bytes).encode = ⟨consumed, none⟩) ∧
      ∀ parcel : Parcel (List UInt8), parcel.kind = kind → parcel.encode.fault = none →
        bytes <+: parcel.encode.bytes → bytes ≠ parcel.encode.bytes →
        ∀ found rest, read kind bytes = (.ok found, rest) → ¬ found.IsWhole := by
  constructor
  · intro parcel rest found whole
    exact (encode_of_read found whole).2
  · rintro parcel rfl accepted ⟨missing, same⟩ different found rest readCut
    refine not_isWhole_of_cut accepted same.symm ?_ readCut
    rintro rfl
    exact different (by rw [← same, List.append_nil])

/-- An upload that is whole, and the same upload without its last byte. -/
theorem read_canonical_upload :
    (∃ consumed, [97, 10, 2, 0, 0, 0, 0, 0, 0, 0, 10, 7, 9] = consumed ++ [9] ∧
        (storeRequest "a" 2 [10, 7]).encode = ⟨consumed, none⟩) ∧
      ¬ (storeRequest "a" 2 ⟨2, [10], 1⟩).IsWhole := by
  constructor
  · refine (read_canonical .storeRequest [97, 10, 2, 0, 0, 0, 0, 0, 0, 0, 10, 7, 9]).1
      (storeRequest "a" 2 ⟨2, [10, 7], 0⟩) [9] rfl ?_
    rintro content ⟨⟩
    rfl
  · exact (read_canonical .storeRequest [97, 10, 2, 0, 0, 0, 0, 0, 0, 0, 10]).2
      (storeRequest "a" 2 [10, 7]) rfl (by decide) ⟨[7], by decide⟩ (by decide) _ [] rfl

end Parcel

end DesktopGateway.Wire
