import DesktopGateway.Proofs.Wire.Sending

/-!
# Sequences of fields

Nothing stands between two fields, and bytes and sizes may hold the byte that closes a line. A
sequence is read back all the same, since each reading takes just the bytes of its own field. A text
that is refused leaves no trace among the others.
-/

namespace DesktopGateway.Wire.Field

open DesktopGateway.Text

/-! ## One field -/

/-- A field that may be written: any byte, any size, and a text that passes the check. -/
def passes : Field → Bool
  | line text => (checkLine text).isOk
  | byte _ | size _ => true

theorem passes_iff (field : Field) : field.passes = true ↔ field.fault? = none := by
  cases field with
  | byte value => simp [passes, fault?]
  | size value => simp [passes, fault?]
  | line text =>
      rw [passes, fault?, checkLine_eq]
      cases lineFault? text <;> simp [Fault.check, Except.isOk, Except.toBool]

theorem readByte_run_iff (bytes rest : List UInt8) (value : UInt8) :
    readByte.run bytes = (.ok value, rest) ↔ bytes = value :: rest := by
  cases bytes with
  | nil => simp [readByte]
  | cons first more => simp [readByte]

/-- Reading a field of its kind accepts just the bytes of a field that may be written. -/
theorem read_run_iff (field : Field) (bytes rest : List UInt8) :
    field.kind.read.run bytes = (.ok field, rest) ↔
      field.fault? = none ∧ bytes = field.bytes ++ rest := by
  cases field with
  | byte value =>
      simp only [kind, Kind.read, Demand.run_andThen_ok_iff, readByte_run_iff,
        Demand.run_done_ok_iff, Except.ok.injEq, byte.injEq, fault?, true_and]
      constructor
      · rintro ⟨_, _, same, rfl, rfl⟩
        exact same
      · intro same
        exact ⟨value, rest, same, rfl, rfl⟩
  | line text =>
      simp only [kind, Kind.read, Demand.run_andThen_ok_iff, readLine_run_iff,
        Demand.run_done_ok_iff, Except.ok.injEq, line.injEq, fault?, lineFault?_eq_none_iff]
      constructor
      · rintro ⟨_, _, accepted, rfl, rfl⟩
        exact accepted
      · intro accepted
        exact ⟨text, rest, accepted, rfl, rfl⟩
  | size value =>
      simp only [kind, Kind.read, Demand.run_andThen_ok_iff, readSize_run_iff,
        Demand.run_done_ok_iff, Except.ok.injEq, size.injEq, fault?, true_and]
      constructor
      · rintro ⟨_, _, same, rfl, rfl⟩
        exact same
      · intro same
        exact ⟨value, rest, same, rfl, rfl⟩

/-! ## Writing -/

theorem writeAll_cons_of_accepted {field : Field} (accepted : field.fault? = none)
    (written : List UInt8) (fields : List Field) :
    writeAll written (field :: fields) =
      ((none, (written ++ field.bytes).length) :: (writeAll (written ++ field.bytes) fields).1,
        (writeAll (written ++ field.bytes) fields).2) := by
  rw [writeAll, write_eq, accepted, List.length_append]
  rfl

theorem writeAll_cons_of_refused {field : Field} {fault : Fault}
    (refused : field.fault? = some fault) (written : List UInt8) (fields : List Field) :
    writeAll written (field :: fields) =
      ((some fault, written.length) :: (writeAll written fields).1,
        (writeAll written fields).2) := by
  rw [writeAll, write_eq, refused]
  rfl

/-- Of the fields only those count that may be written; the others are reported. -/
theorem writeAll_eq (written : List UInt8) (fields : List Field) :
    (writeAll written fields).1.map Prod.fst = fields.map fault? ∧
      (writeAll written fields).1.filter (fun report => report.1.isNone) =
        (writeAll written (fields.filter passes)).1 ∧
      (writeAll written fields).2 = written ++ (fields.filter passes).flatMap bytes := by
  induction fields generalizing written with
  | nil => simp [writeAll]
  | cons field fields ih =>
      cases outcome : field.fault? with
      | none =>
          obtain ⟨reports, kept, output⟩ := ih (written ++ field.bytes)
          rw [List.filter_cons_of_pos ((passes_iff field).mpr outcome),
            writeAll_cons_of_accepted outcome, writeAll_cons_of_accepted outcome]
          refine ⟨?_, ?_, ?_⟩
          · rw [List.map_cons, List.map_cons, reports, outcome]
          · rw [List.filter_cons_of_pos (by rfl), kept]
          · rw [output, List.flatMap_cons, List.append_assoc]
      | some fault =>
          obtain ⟨reports, kept, output⟩ := ih written
          have refused : ¬field.passes = true := by
            rw [passes_iff, outcome]
            intro impossible
            cases impossible
          rw [List.filter_cons_of_neg refused, writeAll_cons_of_refused outcome]
          refine ⟨?_, ?_, output⟩
          · rw [List.map_cons, List.map_cons, reports, outcome]
          · rw [List.filter_cons_of_neg (by simp), kept]

/-! ## Reading -/

def readEach : List Kind → Demand (List (Except Fault Field))
  | [] => .done []
  | kind :: kinds =>
      kind.read.bind fun result => (readEach kinds).bind fun later => .done (result :: later)

theorem run_readEach_cons (kind : Kind) (kinds : List Kind) (bytes : List UInt8) :
    (readEach (kind :: kinds)).run bytes =
      ((kind.read.run bytes).1 :: ((readEach kinds).run (kind.read.run bytes).2).1,
        ((readEach kinds).run (kind.read.run bytes).2).2) := by
  rw [readEach, Demand.run_bind, Demand.run_bind, Demand.run_done]

/-- Each reading takes just its own field, so the next one starts where it has to. -/
theorem readEach_takes {fields : List Field} (accepted : ∀ field ∈ fields, field.fault? = none) :
    (readEach (fields.map kind)).Takes (fields.flatMap bytes) (fields.map .ok) := by
  intro rest
  induction fields with
  | nil => rfl
  | cons field fields ih =>
      have first := (read_run_iff field _ (fields.flatMap bytes ++ rest)).mpr
        ⟨accepted field (List.mem_cons_self ..), rfl⟩
      have others := ih fun other member => accepted other (List.mem_cons_of_mem _ member)
      rw [List.map_cons, run_readEach_cons, List.flatMap_cons, List.append_assoc, first, others,
        List.map_cons]

/-- The places where readings end are those where the writings ended. -/
theorem go_writeAll {fields : List Field} (accepted : ∀ field ∈ fields, field.fault? = none)
    (written rest : List UInt8) :
    readAll.go (written ++ fields.flatMap bytes ++ rest) (fields.flatMap bytes ++ rest)
        (fields.map kind) =
      fields.zipWith (fun field report => (.ok field, report.2)) (writeAll written fields).1 := by
  induction fields generalizing written with
  | nil => rfl
  | cons field fields ih =>
      have clean := accepted field (List.mem_cons_self ..)
      have first := (read_run_iff field _ (fields.flatMap bytes ++ rest)).mpr ⟨clean, rfl⟩
      have others := ih (fun other member => accepted other (List.mem_cons_of_mem _ member))
        (written ++ field.bytes)
      rw [List.append_assoc written] at others
      rw [List.map_cons, readAll.go, List.flatMap_cons, List.append_assoc field.bytes, first,
        writeAll_cons_of_accepted clean, List.zipWith_cons_cons, ← others]
      simp only [List.append_assoc, List.length_append, List.cons.injEq, Prod.mk.injEq, true_and,
        and_true]
      omega

/-- Fields are written one after the other, each any byte, any size or any text. Every text that
does not pass the check is reported and adds nothing. All else is read back with the same kinds in
the same order: each reading gives its field and ends where the writing of that field has ended, and
what follows the last field is left as it is. -/
theorem readAll_writeAll (fields : List Field) (rest : List UInt8) :
    let kept := fields.filter passes
    let output := (writeAll [] fields).2
    let reports := (writeAll [] fields).1
    reports.map Prod.fst = fields.map fault? ∧
      output = kept.flatMap bytes ∧
      output = (writeAll [] kept).2 ∧
      readAll (output ++ rest) (kept.map kind) =
        kept.zipWith (fun field report => (.ok field, report.2))
          (reports.filter fun report => report.1.isNone) ∧
      (readEach (kept.map kind)).run (output ++ rest) = (kept.map .ok, rest) := by
  intro kept output reports
  obtain ⟨faults, counted, whole⟩ := writeAll_eq [] fields
  have accepted : ∀ field ∈ kept, field.fault? = none := fun field member =>
    (passes_iff field).mp (List.mem_filter.mp member).2
  have clean : output = kept.flatMap bytes := whole
  have again := (writeAll_eq [] kept).2.2
  rw [List.filter_filter] at again
  refine ⟨faults, clean, ?_, ?_, ?_⟩
  · rw [clean, again]
    simp [kept]
  · rw [clean, counted]
    exact go_writeAll accepted [] rest
  · rw [clean]
    exact readEach_takes accepted rest

-- A byte that closes lines elsewhere, and a text that is refused between two others.
example : (writeAll [] [.byte 10, .line "a\nb", .size (-1), .line "x"]).2 =
    [10, 255, 255, 255, 255, 255, 255, 255, 255, 120, 10] := by
  decide

end DesktopGateway.Wire.Field
