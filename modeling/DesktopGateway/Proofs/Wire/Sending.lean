import DesktopGateway.Proofs.Wire.Parcel
import DesktopGateway.Wire.Sending

/-!
# What sending puts on the stream

A message that may not be sent leaves the stream and the source of its content untouched. Any other
puts its header on the stream and as much content as its size says or its source has, takes just
that much from the source, and fails if it was too little. Whoever reads the stream then finds the
same header, and in the content the same number of bytes missing.
-/

namespace DesktopGateway.Wire

open DesktopGateway.Text

namespace Field

def fault? : Field → Option Fault
  | line text => lineFault? text
  | byte _ | size _ => none

def bytes : Field → List UInt8
  | byte value => [value]
  | line text => lineBytes text
  | size value => sizeBytes value

theorem write_eq (field : Field) : field.write = Fault.check field.fault? field.bytes := by
  cases field with
  | byte value => rfl
  | line text => exact write_line_eq text
  | size value => rfl

end Field

namespace Dispatch

/-! ## Fields and content -/

theorem put_of_accepted {fields : List Field} (accepted : ∀ field ∈ fields, field.fault? = none)
    (dispatch : Dispatch) :
    dispatch.put fields =
      (none, { dispatch with written := dispatch.written ++ fields.flatMap Field.bytes }) := by
  induction fields generalizing dispatch with
  | nil => simp [put]
  | cons field fields ih =>
      rw [put, Field.write_eq, accepted field (List.mem_cons_self ..)]
      have later := ih (fun other mem => accepted other (List.mem_cons_of_mem _ mem))
      simp only [Fault.check, later, List.flatMap_cons, List.append_assoc]

theorem put_of_refused {field : Field} {fault : Fault} (refused : field.fault? = some fault)
    (fields : List Field) (dispatch : Dispatch) :
    dispatch.put (field :: fields) = (some fault, dispatch) := by
  rw [put, Field.write_eq, refused]
  rfl

/-- However the source is cut, the copy takes its first bytes and leaves the others. -/
theorem copy_exact (missing : Nat) (dispatch : Dispatch) :
    (dispatch.copy missing).1 = min missing dispatch.source.flatten.length ∧
      (dispatch.copy missing).2.written =
        dispatch.written ++ dispatch.source.flatten.take missing ∧
      (dispatch.copy missing).2.source.flatten = dispatch.source.flatten.drop missing := by
  fun_induction copy missing dispatch with
  | case1 dispatch =>
      simp
  | case2 missing dispatch source nothing =>
      have roomy : 0 < min portion (missing + 1) := by
        unfold portion
        omega
      have whole := Pieces.read_flatten (min portion (missing + 1)) dispatch.source
      have empty := Pieces.flatten_of_read_nil roomy (congrArg Prod.fst nothing)
      rw [nothing, empty] at whole
      rw [empty]
      simpa using whole
  | case3 missing dispatch first more source taken later ih =>
      have whole := Pieces.read_flatten (min portion (missing + 1)) dispatch.source
      have bound := Pieces.length_read_le (min portion (missing + 1)) dispatch.source
      rw [taken] at whole bound
      dsimp only at whole bound ih
      rw [List.length_cons] at bound
      obtain ⟨copied, written, left⟩ := ih
      have parted : missing.succ = (first :: more).length + (missing - more.length) := by
        rw [List.length_cons]
        omega
      refine ⟨?_, ?_, ?_⟩
      · rw [copied, ← whole, List.length_append, List.length_cons]
        omega
      · rw [written, ← whole, parted, List.take_length_add_append, List.append_assoc]
      · rw [left, ← whole, parted, List.drop_length_add_append]

end Dispatch

namespace Parcel

variable {β γ : Type}

def size? : Parcel β → Option Int64
  | statRequest _ => none
  | fetchRequest _ => none
  | storeRequest _ size _ => some size
  | fetchedFile _ _ size _ => some size

/-- With a size, everything is checked before the first field is written. -/
theorem inspect_eq {parcel : Parcel β} {size : Int64} (sized : parcel.size? = some size) :
    parcel.inspect = Fault.check parcel.refusal? () := by
  cases parcel with
  | statRequest path => cases sized
  | fetchRequest path => cases sized
  | storeRequest name size content =>
      rw [inspect, checkSize_eq, Field.checkLine_eq, refusal?]
      exact Fault.check_bind (Fault.check_bind_pure ..)
  | fetchedFile name contentType size content =>
      rw [inspect, checkSize_eq, Field.checkLine_eq, Field.checkLine_eq, refusal?]
      exact Fault.check_bind (Fault.check_bind (Fault.check_bind_pure ..))

theorem fault?_eq_none_of_mem_fields {parcel : Parcel β} (accepted : parcel.refusal? = none) :
    ∀ field ∈ parcel.fields, field.fault? = none := by
  cases parcel with
  | statRequest path =>
      simpa [fields, Field.fault?, refusal?] using accepted
  | fetchRequest path =>
      simpa [fields, Field.fault?, refusal?] using accepted
  | storeRequest name size content =>
      simp only [refusal?, Option.or_eq_none_iff] at accepted
      simp [fields, Field.fault?, accepted]
  | fetchedFile name contentType size content =>
      simp only [refusal?, Option.or_eq_none_iff] at accepted
      simp [fields, Field.fault?, accepted]

theorem flatMap_bytes_fields (parcel : Parcel β) :
    parcel.fields.flatMap Field.bytes = parcel.headerBytes := by
  cases parcel <;> simp [fields, headerBytes, Field.bytes]

/-! ## Messages -/

theorem inspect_of_accepted {parcel : Parcel β} (accepted : parcel.refusal? = none) :
    parcel.inspect = .ok () := by
  cases sized : parcel.size? with
  | some size => rw [inspect_eq sized, accepted]; rfl
  | none =>
      cases parcel with
      | statRequest path => rfl
      | fetchRequest path => rfl
      | storeRequest => cases sized
      | fetchedFile => cases sized

/-- A refused message leaves the stream and its content alone. -/
theorem send_of_refused {parcel : Parcel Pieces} {fault : Fault}
    (refused : parcel.refusal? = some fault) :
    parcel.send = (some fault, ⟨[], parcel.content?.getD []⟩) := by
  cases sized : parcel.size? with
  | some size =>
      unfold send
      rw [inspect_eq sized, refused]
      rfl
  | none =>
      cases parcel with
      | statRequest path =>
          have line : (Field.line path).fault? = some fault := refused
          simp only [send, inspect, fields, Dispatch.put_of_refused line]
      | fetchRequest path =>
          have line : (Field.line path).fault? = some fault := refused
          simp only [send, inspect, fields, Dispatch.put_of_refused line]
      | storeRequest => cases sized
      | fetchedFile => cases sized

/-- Any other message is sent as a header and a copy of its content. -/
theorem send_of_accepted {parcel : Parcel Pieces} (accepted : parcel.refusal? = none) :
    let content := (parcel.content?.getD []).flatten
    parcel.send.1 = shortage? parcel.contentSize content.length ∧
      parcel.send.2.written = parcel.headerBytes ++ content.take parcel.contentSize ∧
      parcel.send.2.source.flatten = content.drop parcel.contentSize := by
  intro content
  have copied := Dispatch.copy_exact parcel.contentSize
    ⟨parcel.headerBytes, parcel.content?.getD []⟩
  unfold send
  rw [inspect_of_accepted accepted]
  dsimp only
  rw [Dispatch.put_of_accepted (fault?_eq_none_of_mem_fields accepted), List.nil_append,
    flatMap_bytes_fields]
  refine ⟨?_, copied.2⟩
  dsimp only
  rw [copied.1]
  exact shortage?_min ..

@[simp] theorem refusal?_map (change : β → γ) (parcel : Parcel β) :
    (parcel.map change).refusal? = parcel.refusal? := by
  cases parcel <;> rfl

theorem content?_map_flatten (parcel : Parcel Pieces) :
    (parcel.map List.flatten).content?.getD [] = (parcel.content?.getD []).flatten := by
  cases parcel <;> rfl

/-- Sending from pieces writes what encoding writes at once. -/
theorem encode_map_flatten (parcel : Parcel Pieces) :
    (parcel.map List.flatten).encode = ⟨parcel.send.2.written, parcel.send.1⟩ := by
  cases refused : parcel.refusal? with
  | some fault =>
      rw [encode_of_refused ((refusal?_map List.flatten parcel).trans refused),
        send_of_refused refused]
  | none =>
      obtain ⟨ended, written, _⟩ := send_of_accepted refused
      rw [encode_of_accepted ((refusal?_map List.flatten parcel).trans refused), ended, written,
        headerBytes_map, contentSize_map, sentContent, content?_map_flatten, contentSize_map,
        List.length_take, shortage?_min]

theorem contentSize_of_accepted {parcel : Parcel β} (accepted : parcel.refusal? = none) :
    ∀ size ∈ parcel.size?, (parcel.contentSize : Int) = size.toInt := by
  have sendable := (refusal?_eq_none_iff parcel).mp accepted
  intro size sized
  cases parcel with
  | statRequest path => cases sized
  | fetchRequest path => cases sized
  | storeRequest name announced content =>
      cases sized
      exact Int.toNat_of_nonneg (Int64.le_iff_toInt_le.mp sendable.1)
  | fetchedFile name contentType announced content =>
      cases sized
      exact Int.toNat_of_nonneg (Int64.le_iff_toInt_le.mp sendable.1)

/-- Sending checks the size, then the texts, and reports the first fault before it touches the
stream or the content. A message without one puts its header on the stream and behind it the first
bytes of its content, and takes those and no others from the source, however that is cut; encoding
the same message at once writes the same bytes and ends in the same way.

Content that is too short is reported with its size and its length. Whoever decodes what was written
finds the same header, and reading the content to its end fails with as many bytes outstanding as
were missing. -/
theorem send_exact (parcel : Parcel Pieces) :
    let content := (parcel.content?.getD []).flatten
    let size := parcel.contentSize
    let sent := parcel.send
    (parcel.map List.flatten).encode = ⟨sent.2.written, sent.1⟩ ∧
      match parcel.refusal? with
      | some fault => sent = (some fault, ⟨[], parcel.content?.getD []⟩)
      | none =>
          (∀ announced ∈ parcel.size?, (size : Int) = announced.toInt) ∧
          sent.2.written = parcel.headerBytes ++ content.take size ∧
          sent.2.source.flatten = content.drop size ∧
          if size ≤ content.length then sent.1 = none
          else
            sent.1 = some (.shortContent size content.length) ∧
            (decode parcel.kind).run sent.2.written = (.ok (parcel.map fun _ => ()), content) ∧
            (∀ source : Pieces, source.flatten = content → ∀ result,
              (result = parcel.window.readToEnd source ∨
                ∃ room, result = parcel.window.readOn room [] source) →
              result.1 = .error (Window.ended (size - content.length)) ∧
                result.2.1 = ⟨size - content.length⟩) ∧
            read parcel.kind sent.2.written =
              (.ok (parcel.map fun _ => ⟨size, content, size - content.length⟩), []) := by
  intro content size sent
  refine ⟨encode_map_flatten parcel, ?_⟩
  cases refused : parcel.refusal? with
  | some fault => exact send_of_refused refused
  | none =>
      obtain ⟨ended, written, left⟩ := send_of_accepted refused
      refine ⟨contentSize_of_accepted refused, written, left, ?_⟩
      split
      · rename_i enough
        exact ended.trans (if_neg (Nat.not_lt.mpr enough))
      · rename_i few
        have short : content.length < size := Nat.not_le.mp few
        have decoded : (decode parcel.kind).run sent.2.written =
            (.ok (parcel.map fun _ => ()), content) := by
          rw [decode_run_iff, isSendable_map, headerBytes_map, kind_map, written,
            List.take_of_length_le (Nat.le_of_lt short)]
          exact ⟨rfl, (refusal?_eq_none_iff parcel).mp refused, rfl⟩
        refine ⟨ended.trans (if_pos short), decoded, ?_, ?_⟩
        · intro source same result reading
          have finishes : Window.Finishes parcel.window [] content result := by
            rw [← same]
            rcases reading with rfl | ⟨room, rfl⟩
            · exact Window.finishes_readToEnd _ _
            · exact Window.finishes_readOn room [] _ _
          obtain ⟨failed, due, _⟩ := finishes.of_few short
          exact ⟨failed, due⟩
        · rw [read_of_decode decoded, contentSize_map, List.drop_of_length_le (Nat.le_of_lt short),
            Content.take, List.take_of_length_le (Nat.le_of_lt short)]
          cases parcel <;> rfl

end Parcel

end DesktopGateway.Wire
