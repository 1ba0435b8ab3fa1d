import DesktopGateway.Wire.Window

/-!
# Exact windows

However the source is cut into pieces and however much room each read has, a window delivers the
first bytes of its source, as many as were announced, and leaves the source right behind them. What
is still due and what was delivered make up the size at every moment. A read can tell the end of the
window from a source that ended too early, and one without room from both.
-/

namespace DesktopGateway.Wire

open DesktopGateway.Host

namespace Pieces

/-- A read with room gets nothing from an empty stream only. -/
theorem flatten_of_read_nil {room : Nat} (roomy : 0 < room) {pieces : Pieces}
    (nothing : (read room pieces).1 = []) : pieces.flatten = [] := by
  induction pieces with
  | nil => rfl
  | cons piece rest ih =>
      cases piece with
      | nil => exact ih nothing
      | cons first more =>
          obtain ⟨room, rfl⟩ := Nat.exists_eq_succ_of_ne_zero (Nat.pos_iff_ne_zero.mp roomy)
          cases nothing

/-- With room, a read takes a byte when there is one. -/
theorem read_cons {room : Nat} {pieces : Pieces} (roomy : 0 < room) (some : pieces.flatten ≠ []) :
    ∃ first more, (read room pieces).1 = first :: more := by
  cases taken : (read room pieces).1 with
  | nil => exact absurd (flatten_of_read_nil roomy taken) some
  | cons first more => exact ⟨first, more, rfl⟩

end Pieces

namespace Window

/-! ## One read -/

/-- What one read through a window can do: it delivers what comes next, and nothing only without
room or at the end of the window; or it fails because the source has ended while bytes are due. -/
inductive Reads (window : Window) (room : Nat) (source : Pieces) :
    Except Failure (List UInt8) × Window × Pieces → Prop where
  | delivered {portion : List UInt8} {rest : Pieces} (roomy : portion.length ≤ room)
      (due : portion.length ≤ window.remaining)
      (whole : portion ++ rest.flatten = source.flatten)
      (nothing : portion = [] → room = 0 ∨ window.remaining = 0) :
      Reads window room source (.ok portion, ⟨window.remaining - portion.length⟩, rest)
  | ended {rest : Pieces} (roomy : 0 < room) (due : 0 < window.remaining)
      (exhausted : source.flatten = []) (empty : rest.flatten = []) :
      Reads window room source (.error (ended window.remaining), window, rest)

theorem reads_read (window : Window) (room : Nat) (source : Pieces) :
    Reads window room source (window.read room source) := by
  have bound := Pieces.length_read_le (min room window.remaining) source
  have whole := Pieces.read_flatten (min room window.remaining) source
  unfold read
  dsimp only
  split
  · rename_i nothing
    rw [Bool.and_eq_true, Bool.and_eq_true, List.isEmpty_iff, decide_eq_true_eq,
      decide_eq_true_eq] at nothing
    obtain ⟨⟨nothing, roomy⟩, due⟩ := nothing
    have exhausted := Pieces.flatten_of_read_nil (Nat.lt_min.mpr ⟨roomy, due⟩) nothing
    rw [nothing, exhausted] at whole
    exact .ended roomy due exhausted whole
  · rename_i some
    rw [Nat.le_min] at bound
    refine .delivered bound.1 bound.2 whole ?_
    intro nothing
    rw [nothing] at some
    simp at some
    omega

/-- A read without room changes nothing. -/
theorem read_zero (window : Window) (source : Pieces) :
    (window.read 0 source).1 = .ok [] ∧ (window.read 0 source).2.1 = window ∧
      (window.read 0 source).2.2.flatten = source.flatten := by
  have reads := reads_read window 0 source
  generalize window.read 0 source = result at reads
  cases reads with
  | delivered roomy due whole nothing =>
      have none := List.length_eq_zero_iff.mp (Nat.le_zero.mp roomy)
      subst none
      exact ⟨rfl, rfl, whole⟩
  | ended roomy => cases roomy

section Read

variable {window : Window} {room : Nat} {source : Pieces} (roomy : 0 < room)

include roomy

/-- Nothing without a failure is the end of the window. -/
theorem read_eq_ok_nil_iff :
    (window.read room source).1 = .ok [] ↔ window.remaining = 0 := by
  have reads := reads_read window room source
  generalize window.read room source = result at reads
  cases reads with
  | @delivered portion rest short due whole nothing =>
      constructor
      · intro same
        cases same
        exact (nothing rfl).resolve_left (Nat.ne_of_gt roomy)
      · intro done
        rw [done] at due
        rw [List.length_eq_zero_iff.mp (Nat.le_zero.mp due)]
  | ended _ due =>
      constructor
      · intro impossible
        cases impossible
      · intro done
        exact absurd done (Nat.ne_of_gt due)

/-- A read fails exactly if its source has ended while bytes are due. -/
theorem read_eq_error_iff (failure : Failure) :
    (window.read room source).1 = .error failure ↔
      source.flatten = [] ∧ 0 < window.remaining ∧ failure = ended window.remaining := by
  have reads := reads_read window room source
  generalize window.read room source = result at reads
  cases reads with
  | @delivered portion rest short due whole nothing =>
      constructor
      · intro impossible
        cases impossible
      · rintro ⟨exhausted, awaited, _⟩
        rw [exhausted, List.append_eq_nil_iff] at whole
        rcases nothing whole.1 with none | none
        · exact absurd none (Nat.ne_of_gt roomy)
        · exact absurd none (Nat.ne_of_gt awaited)
  | ended _ due exhausted empty =>
      constructor
      · intro same
        cases same
        exact ⟨exhausted, due, rfl⟩
      · rintro ⟨_, _, rfl⟩
        rfl

end Read

/-- A read that fails leaves everything as it was. -/
theorem unchanged_of_read_error {window : Window} {room : Nat} {source : Pieces} {failure : Failure}
    (failed : (window.read room source).1 = .error failure) :
    (window.read room source).2.1 = window ∧
      (window.read room source).2.2.flatten = source.flatten := by
  have reads := reads_read window room source
  generalize window.read room source = result at reads failed
  cases reads with
  | delivered => cases failed
  | ended _ _ exhausted empty => exact ⟨rfl, empty.trans exhausted.symm⟩

/-! ## Reads one after the other -/

/-- A window on its source, and what has been delivered through it. -/
structure Reading where
  delivered : List UInt8
  window : Window
  source : Pieces

namespace Reading

def start (size : Nat) (source : Pieces) : Reading :=
  ⟨[], ⟨size⟩, source⟩

def note (reading : Reading) (result : Except Failure (List UInt8) × Window × Pieces) : Reading :=
  match result with
  | (.ok portion, window, source) => ⟨reading.delivered ++ portion, window, source⟩
  | (.error _, window, source) => ⟨reading.delivered, window, source⟩

/-- The reading after some reads, failed ones included, that have so much room. -/
def after (reading : Reading) (rooms : List Nat) : Reading :=
  (reading.window.applyAll reading.source (rooms.map .upTo)).foldl note reading

theorem after_cons (reading : Reading) (room : Nat) (rooms : List Nat) :
    reading.after (room :: rooms) =
      (reading.note (reading.window.read room reading.source)).after rooms := by
  have applied : reading.window.apply reading.source (.upTo room) =
      reading.window.read room reading.source := rfl
  rw [after, after, List.map_cons, applyAll, List.foldl_cons, applied]
  rcases reading.window.read room reading.source with ⟨failure | portion, window, source⟩
  · rfl
  · rfl

/-- What is due and what was delivered make up the size, and what was delivered and what is left
make up the source. -/
structure Exact (size : Nat) (bytes : List UInt8) (reading : Reading) : Prop where
  size : reading.window.remaining + reading.delivered.length = size
  bytes : reading.delivered ++ reading.source.flatten = bytes

variable {size : Nat} {bytes : List UInt8} {reading : Reading}

theorem exact_start (size : Nat) (source : Pieces) :
    Exact size source.flatten (start size source) :=
  ⟨rfl, rfl⟩

theorem Exact.note (exact : Exact size bytes reading) (room : Nat) :
    Exact size bytes (reading.note (reading.window.read room reading.source)) := by
  obtain ⟨sized, made⟩ := exact
  have reads := reads_read reading.window room reading.source
  generalize reading.window.read room reading.source = result at reads
  cases reads with
  | @delivered portion rest roomy due whole nothing =>
      constructor
      · simp only [Reading.note, List.length_append]
        omega
      · rw [Reading.note, List.append_assoc, whole, made]
  | ended _ _ exhausted empty =>
      constructor
      · exact sized
      · rw [Reading.note, empty, ← exhausted, made]

theorem Exact.after (exact : Exact size bytes reading) (rooms : List Nat) :
    Exact size bytes (reading.after rooms) := by
  induction rooms generalizing reading with
  | nil => exact exact
  | cons room rooms ih =>
      rw [after_cons]
      exact ih (exact.note room)

end Reading

/-! ## Reading to the end -/

/-- What reading a window to its end gives: all that is due, behind what was taken before, or a
failure at the end of a source that has too little. -/
inductive Finishes (window : Window) (taken bytes : List UInt8) :
    Except Failure (List UInt8) × Window × Pieces → Prop where
  | full {content : List UInt8} {rest : Pieces} (sized : content.length = window.remaining)
      (whole : content ++ rest.flatten = bytes) :
      Finishes window taken bytes (.ok (taken ++ content), ⟨0⟩, rest)
  | short {missing : Nat} {rest : Pieces} (few : bytes.length + missing = window.remaining)
      (awaited : 0 < missing) (empty : rest.flatten = []) :
      Finishes window taken bytes (.error (ended missing), ⟨missing⟩, rest)

theorem finishes_readOn (room : Nat → Nat) (taken : List UInt8) (window : Window)
    (source : Pieces) :
    Finishes window taken source.flatten (window.readOn room taken source) := by
  fun_induction readOn room taken window source with
  | case1 room taken window source failure left rest failed =>
      have reads := reads_read window (room 0 + 1) source
      rw [failed] at reads
      cases reads with
      | ended _ due exhausted empty =>
          rw [exhausted]
          exact .short (Nat.zero_add _) due empty
  | case2 room taken window source left rest finished =>
      have reads := reads_read window (room 0 + 1) source
      rw [finished] at reads
      cases reads with
      | delivered _ _ whole nothing =>
          have done := (nothing rfl).resolve_left (Nat.succ_ne_zero _)
          have full : Finishes window taken _ (.ok (taken ++ []), ⟨0⟩, rest) :=
            .full done.symm whole
          rw [List.append_nil] at full
          rw [done]
          exact full
  | case3 room taken window source first more left rest delivered nearer ih =>
      have reads := reads_read window (room 0 + 1) source
      rw [delivered] at reads
      cases reads with
      | delivered _ due whole =>
          generalize readOn _ _ _ rest = result at ih
          cases ih with
          | full sized later =>
              rw [List.append_assoc]
              refine .full ?_ ?_
              · rw [List.length_append, sized]
                exact Nat.add_sub_cancel' due
              · rw [List.append_assoc, later, whole]
          | short few awaited empty =>
              refine .short ?_ awaited empty
              rw [← whole, List.length_append, Nat.add_assoc, few]
              exact Nat.add_sub_cancel' due

/-- Reading to the end of a window takes what the window announces and nothing behind it. -/
theorem readToEnd_append (taken rest : List UInt8) {source : Pieces}
    (same : source.flatten = taken ++ rest) :
    ∃ left, (⟨taken.length⟩ : Window).readToEnd source = (.ok taken, ⟨0⟩, left) ∧
      left.flatten = rest := by
  have front : (taken ++ rest).take taken.length = taken := List.take_left
  have behind : (taken ++ rest).drop taken.length = rest := List.drop_left
  unfold readToEnd
  simp only [same, front, behind, Nat.lt_irrefl, if_false, Nat.sub_self]
  refine ⟨_, rfl, ?_⟩
  split
  · rename_i empty
    exact (List.isEmpty_iff.mp empty).symm
  · simp

theorem finishes_readToEnd (window : Window) (source : Pieces) :
    Finishes window [] source.flatten (window.readToEnd source) := by
  by_cases enough : window.remaining ≤ source.flatten.length
  · have sized : (source.flatten.take window.remaining).length = window.remaining :=
      List.length_take_of_le enough
    obtain ⟨left, read, behind⟩ :=
      readToEnd_append _ _ (List.take_append_drop window.remaining source.flatten).symm
    rw [sized] at read
    rw [read]
    refine .full sized ?_
    rw [behind, List.take_append_drop]
  · have all := List.take_of_length_le (Nat.le_of_not_le enough)
    unfold readToEnd
    dsimp only
    rw [all, if_pos (Nat.lt_of_not_le enough)]
    exact .short (by omega) (by omega) rfl

section Finishes

variable {window : Window} {taken bytes : List UInt8}
  {result : Except Failure (List UInt8) × Window × Pieces}

theorem Finishes.of_enough (finishes : Finishes window taken bytes result)
    (enough : window.remaining ≤ bytes.length) :
    result.1 = .ok (taken ++ bytes.take window.remaining) ∧ result.2.1 = ⟨0⟩ ∧
      result.2.2.flatten = bytes.drop window.remaining := by
  cases finishes with
  | full sized whole =>
      rw [← sized, ← whole, List.take_left, List.drop_left]
      exact ⟨rfl, rfl, rfl⟩
  | short few awaited => omega

theorem Finishes.of_few (finishes : Finishes window taken bytes result)
    (few : bytes.length < window.remaining) :
    result.1 = .error (ended (window.remaining - bytes.length)) ∧
      result.2.1 = ⟨window.remaining - bytes.length⟩ ∧ result.2.2.flatten = [] := by
  cases finishes with
  | full sized whole =>
      rw [← whole, List.length_append] at few
      omega
  | @short missing rest same awaited empty =>
      have counted : window.remaining - bytes.length = missing := by omega
      rw [counted]
      exact ⟨rfl, rfl, empty⟩

end Finishes

/-- A window that is read to its end after other reads has delivered the front of the source in
all. -/
theorem Reading.Exact.finishes {size : Nat} {bytes : List UInt8} {reading : Reading}
    {result : Except Failure (List UInt8) × Window × Pieces} (exact : Exact size bytes reading)
    (finishes : Finishes reading.window [] reading.source.flatten result) :
    if size ≤ bytes.length then
      ∃ content, result.1 = .ok content ∧ reading.delivered ++ content = bytes.take size ∧
        result.2.1 = ⟨0⟩ ∧ result.2.2.flatten = bytes.drop size
    else
      result.1 = .error (ended (size - bytes.length)) ∧
        result.2.1 = ⟨size - bytes.length⟩ ∧ result.2.2.flatten = [] := by
  obtain ⟨sized, made⟩ := exact
  have lengths := congrArg List.length made
  rw [List.length_append] at lengths
  split
  · rename_i enough
    obtain ⟨content, left, behind⟩ := finishes.of_enough (by omega)
    refine ⟨_, content, ?_, left, ?_⟩
    · rw [← made, ← sized, Nat.add_comm, List.take_length_add_append, List.nil_append]
    · rw [behind, ← made, ← sized, Nat.add_comm, List.drop_length_add_append]
  · rename_i few
    have same : reading.window.remaining - reading.source.flatten.length = size - bytes.length := by
      omega
    rw [← same]
    exact finishes.of_few (by omega)

/-- After any reads, what is due and what was delivered make up the size, what was delivered is the
front of the source, and the source stands right behind it. A read with room then
* delivers nothing without a failure exactly at the end of the window,
* and fails exactly if the source has ended before, with a failure that names what is due; it then
  changes nothing, so that the next read fails in the same way.

A read without room succeeds and changes nothing. Reading to the end, at once or with any room for
each read, succeeds exactly if the source has enough, and then leaves it behind the window. -/
theorem delivers_exactly (size : Nat) (source : Pieces) (rooms : List Nat) :
    let bytes := source.flatten
    let reading := (Reading.start size source).after rooms
    let due := reading.window.remaining
    (due + reading.delivered.length = size ∧
        reading.delivered ++ reading.source.flatten = bytes) ∧
      (∀ room, 0 < room →
        let next := reading.window.read room reading.source
        (next.1 = .ok [] ↔ due = 0) ∧
          ∀ failure,
            (next.1 = .error failure ↔
              reading.source.flatten = [] ∧ 0 < due ∧
                failure = .described .unexpectedEnd s!"Datenstrom endete {due} Bytes zu frueh") ∧
            (next.1 = .error failure →
              next.2.1 = reading.window ∧ next.2.2.flatten = reading.source.flatten ∧
                ∀ again, 0 < again → (next.2.1.read again next.2.2).1 = .error failure)) ∧
      ((reading.window.read 0 reading.source).1 = .ok [] ∧
          (reading.window.read 0 reading.source).2.1 = reading.window ∧
          (reading.window.read 0 reading.source).2.2.flatten = reading.source.flatten) ∧
      ∀ result,
        (result = reading.window.readToEnd reading.source ∨
          ∃ room, result = reading.window.readOn room [] reading.source) →
        if size ≤ bytes.length then
          ∃ content, result.1 = .ok content ∧ reading.delivered ++ content = bytes.take size ∧
            result.2.1 = ⟨0⟩ ∧ result.2.2.flatten = bytes.drop size
        else
          result.1 = .error (ended (size - bytes.length)) ∧
            result.2.1 = ⟨size - bytes.length⟩ ∧ result.2.2.flatten = [] := by
  intro bytes reading due
  have exact : Reading.Exact size bytes reading := (Reading.exact_start size source).after rooms
  refine ⟨⟨exact.size, exact.bytes⟩, ?_, read_zero _ _, ?_⟩
  · intro room roomy next
    refine ⟨read_eq_ok_nil_iff roomy, fun failure => ⟨read_eq_error_iff roomy failure, ?_⟩⟩
    intro failed
    obtain ⟨window, left⟩ := unchanged_of_read_error failed
    refine ⟨window, left, ?_⟩
    intro again roomyAgain
    rw [read_eq_error_iff roomyAgain, left, window]
    exact (read_eq_error_iff roomy failure).mp failed
  · rintro result (rfl | ⟨room, rfl⟩)
    · exact exact.finishes (finishes_readToEnd _ _)
    · exact exact.finishes (finishes_readOn room [] _ _)

end Window

end DesktopGateway.Wire
