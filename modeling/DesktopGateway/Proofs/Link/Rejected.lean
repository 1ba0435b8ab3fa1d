import DesktopGateway.Proofs.Link.Operations
import DesktopGateway.Proofs.Link.Reply
import DesktopGateway.Proofs.Wire.Parcel

/-!
# Rejected answers

An answer is its verdict and then a message or a reason, and what stands behind the verdict is
checked only when the verdict has been written. An answer that is rejected for its size or for one
of its texts has therefore put one byte on the stream, and that byte is counted.
-/

namespace DesktopGateway.Wire

/-- A fault of what is to be written, in which no stream has a part. -/
def Fault.IsLocal : Fault → Prop
  | .negativeSize _ | .newlineInLine | .lineTooLong => True
  | _ => False

theorem Field.isLocal_of_lineFault? {text : String} {fault : Fault}
    (refused : lineFault? text = some fault) : fault.IsLocal := by
  unfold lineFault? at refused
  split at refused
  · cases refused
    exact trivial
  · split at refused
    · cases refused
      exact trivial
    · cases refused

theorem Field.isLocal_of_line {text : String} {fault : Fault}
    (rejected : Field.write (.line text) = .error fault) : fault.IsLocal := by
  rw [write_line_eq, Fault.check_eq_error_iff] at rejected
  exact isLocal_of_lineFault? rejected

namespace Parcel

theorem isLocal_of_sizeFault? {size : Int64} {fault : Fault}
    (refused : sizeFault? size = some fault) : fault.IsLocal := by
  unfold sizeFault? at refused
  split at refused
  · cases refused
    exact trivial
  · cases refused

/-- A header is rejected only for its size or for one of its texts. -/
theorem isLocal_of_header {β : Type} {parcel : Parcel β} {fault : Fault}
    (rejected : parcel.header = .error fault) : fault.IsLocal := by
  rw [header_eq, Fault.check_eq_error_iff] at rejected
  cases parcel with
  | statRequest path => exact Field.isLocal_of_lineFault? rejected
  | fetchRequest path => exact Field.isLocal_of_lineFault? rejected
  | storeRequest name size content =>
      rcases Option.or_eq_some_iff.mp rejected with negative | ⟨_, plain⟩
      · exact isLocal_of_sizeFault? negative
      · exact Field.isLocal_of_lineFault? plain
  | fetchedFile name contentType size content =>
      rcases Option.or_eq_some_iff.mp rejected with negative | ⟨_, plain⟩
      · exact isLocal_of_sizeFault? negative
      · rcases Option.or_eq_some_iff.mp plain with first | ⟨_, second⟩
        · exact Field.isLocal_of_lineFault? first
        · exact Field.isLocal_of_lineFault? second

/-- A message fails with a local fault when its header is rejected, and then has no bytes. -/
theorem encode_rejected_iff {parcel : Parcel (List UInt8)} {fault : Fault}
    (isLocal : fault.IsLocal) :
    parcel.encode.fault = some fault ↔ parcel.header = .error fault := by
  unfold encode
  cases parcel.header with
  | error other => simp
  | ok bytes =>
      refine iff_of_false (fun same => ?_) (fun same => by cases same)
      dsimp only at same
      split at same
      · cases same
        exact isLocal
      · cases same

end Parcel

end DesktopGateway.Wire

namespace DesktopGateway.Link

open DesktopGateway.Wire

namespace Endpoint

/-- An emission ends with a local fault when it has that fault and the stream takes its bytes. -/
theorem emit_rejected_iff {emission : Parcel.Emission} {fault : Fault} (isLocal : fault.IsLocal)
    (sink later : Endpoint × Pipe) :
    emit emission sink = (some (.error fault), later) ↔
      emission.fault = some fault ∧ write emission.bytes sink = (some (.ok ()), later) := by
  unfold emit
  split
  · rename_i waiting
    rw [waiting]
    exact iff_of_false (fun same => by cases same) (fun both => by cases both.2)
  · rename_i failed
    rw [failed]
    refine iff_of_false (fun same => ?_) (fun both => by cases both.2)
    cases same
    exact isLocal
  · rename_i sink written
    rw [written]
    cases fails : emission.fault with
    | none => simp
    | some other => simp

/-- One byte is written when the pipe is open and not full. -/
theorem write_one_iff (byte : UInt8) (endpoint : Endpoint) (pipe : Pipe)
    (later : Endpoint × Pipe) :
    write [byte] (endpoint, pipe) = (some (.ok ()), later) ↔
      pipe.closed = false ∧ pipe.held.length < pipe.capacity ∧
        later = ({ endpoint with counters := endpoint.counters.send 1 },
          { pipe with pieces := [pipe.held ++ [byte]] }) := by
  unfold write Pipe.write
  dsimp only [List.isEmpty_cons]
  rw [if_neg Bool.false_ne_true]
  cases closed : pipe.closed with
  | true => simp
  | false =>
      rw [if_neg Bool.false_ne_true]
      dsimp only
      by_cases room : pipe.held.length < pipe.capacity
      · have fits : [byte].take (pipe.capacity - pipe.held.length) = [byte] :=
          List.take_of_length_le (by rw [List.length_singleton]; omega)
        rw [fits, if_neg (Nat.lt_irrefl _)]
        simp only [room, true_and, Prod.mk.injEq, List.length_singleton]
        exact eq_comm
      · have full : [byte].take (pipe.capacity - pipe.held.length) = [] := by
          rw [Nat.sub_eq_zero_of_le (Nat.not_lt.mp room), List.take_zero]
        rw [full, if_pos (show ([] : List UInt8).length < [byte].length from Nat.zero_lt_one)]
        exact iff_of_false (fun same => by cases same) (fun all => room all.2.1)

end Endpoint

inductive Answer where
  | reply (parcel : Parcel (List UInt8))
  | refusal (reason : String)

namespace Answer

def act : Answer → Act
  | reply parcel => .writeReply parcel
  | refusal reason => .writeRefusal reason

def verdict : Answer → Verdict
  | reply _ => .accepted
  | refusal _ => .refused

/-- What comes first behind the verdict, when the answer is acceptable. -/
def opening : Answer → Except Fault (List UInt8)
  | reply parcel => parcel.header
  | refusal reason => Field.write (.line (Endpoint.reasonLine reason))

def emission : Answer → Parcel.Emission
  | reply parcel => Endpoint.reply parcel
  | refusal reason => Endpoint.refusal reason

theorem act_eq_emitting (answer : Answer) (post : Post) :
    post.act answer.act = post.emitting post.whole? answer.emission := by
  cases answer <;> rfl

theorem emission_of_rejected {answer : Answer} {fault : Fault}
    (rejected : answer.opening = .error fault) :
    answer.emission = ⟨[answer.verdict.code], some fault⟩ := by
  cases answer with
  | reply parcel =>
      change parcel.header = .error fault at rejected
      rw [emission, Endpoint.reply, Parcel.encode, rejected]
      rfl
  | refusal reason =>
      change Field.write (.line (Endpoint.reasonLine reason)) = .error fault at rejected
      rw [emission, Endpoint.refusal, rejected]
      rfl

theorem fault_emission_iff {answer : Answer} {fault : Fault} (isLocal : fault.IsLocal) :
    answer.emission.fault = some fault ↔ answer.opening = .error fault := by
  cases answer with
  | reply parcel => exact Parcel.encode_rejected_iff isLocal
  | refusal reason =>
      rw [emission, opening, Endpoint.refusal]
      split <;> rename_i written <;> rw [written] <;> simp

theorem isLocal_of_opening {answer : Answer} {fault : Fault}
    (rejected : answer.opening = .error fault) : fault.IsLocal := by
  cases answer with
  | reply parcel => exact Parcel.isLocal_of_header rejected
  | refusal reason => exact Field.isLocal_of_line rejected

end Answer

namespace Post

theorem emitting_rejected_iff {post later : Post} {emission : Parcel.Emission} {fault : Fault}
    (isLocal : fault.IsLocal) {endpoint : Endpoint} (whole : post.whole? = some endpoint) :
    post.emitting (some endpoint) emission = (.fault fault, later) ↔
      emission.fault = some fault ∧ ∃ sink,
        Endpoint.write emission.bytes (endpoint, post.outgoing) = (some (.ok ()), sink) ∧
          later = ⟨.whole sink.1, post.incoming, sink.2⟩ := by
  have side := side_of_whole whole
  obtain ⟨_, incoming, outgoing⟩ := post
  cases side
  unfold emitting writing
  dsimp only [setEndpoint]
  constructor
  · intro same
    obtain ⟨outcome, rfl⟩ := Prod.mk.inj same
    cases emitted : Endpoint.emit emission (endpoint, outgoing) with
    | mk result sink =>
        rw [emitted] at outcome
        rcases result with _ | _ | _
        · cases outcome
        · cases outcome
          obtain ⟨fails, written⟩ := (Endpoint.emit_rejected_iff isLocal _ _).mp emitted
          exact ⟨fails, sink, written, rfl⟩
        · cases outcome
  · rintro ⟨fails, sink, written, rfl⟩
    rw [(Endpoint.emit_rejected_iff isLocal _ _).mpr ⟨fails, written⟩]
    rfl

end Post

/-- An answer fails with a local fault when it is rejected while its verdict can be written; then
its verdict alone has been written and is counted as sent. -/
theorem answer_rejected_iff (post later : Post) (answer : Answer) (fault : Fault) :
    fault.IsLocal ∧ post.act answer.act = (.fault fault, later) ↔
      answer.opening = .error fault ∧ ∃ endpoint, post.whole? = some endpoint ∧
        post.outgoing.closed = false ∧ post.outgoing.held.length < post.outgoing.capacity ∧
          later = ⟨.whole { endpoint with counters := endpoint.counters.send 1 }, post.incoming,
            { post.outgoing with pieces := [post.outgoing.held ++ [answer.verdict.code]] }⟩ := by
  rw [answer.act_eq_emitting]
  cases whole : post.whole? with
  | none =>
      refine iff_of_false (fun both => by cases both.2) ?_
      rintro ⟨_, endpoint, same, _⟩
      cases same
  | some endpoint =>
      constructor
      · rintro ⟨isLocal, failed⟩
        obtain ⟨fails, sink, written, rfl⟩ := (Post.emitting_rejected_iff isLocal whole).mp failed
        have rejected := (Answer.fault_emission_iff isLocal).mp fails
        rw [Answer.emission_of_rejected rejected] at written
        obtain ⟨openly, room, rfl⟩ := (Endpoint.write_one_iff ..).mp written
        exact ⟨rejected, endpoint, rfl, openly, room, rfl⟩
      · rintro ⟨rejected, _, same, openly, room, rfl⟩
        cases same
        have isLocal := Answer.isLocal_of_opening rejected
        refine ⟨isLocal, (Post.emitting_rejected_iff isLocal whole).mpr ?_⟩
        rw [Answer.emission_of_rejected rejected]
        exact ⟨rfl, _, (Endpoint.write_one_iff ..).mpr ⟨openly, room, rfl⟩, rfl⟩

/-- A file of negative size is answered with the verdict of success and nothing behind it. -/
example :
    (⟨.whole (.new .fetch "caller"), .empty 4, .empty 4⟩ : Post).act
        (.writeReply (.fetchedFile "n.bin" "text/plain" (-1) [97, 98, 99, 100])) =
      (.fault (.negativeSize (-1)),
        ⟨.whole ⟨.fetch, "caller", [], ⟨1, 0⟩⟩, .empty 4, ⟨4, [[1]], false⟩⟩) :=
  rfl

end DesktopGateway.Link
