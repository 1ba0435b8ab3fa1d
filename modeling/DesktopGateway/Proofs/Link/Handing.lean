import DesktopGateway.Link.Poll
import DesktopGateway.Proofs.Wire.Window

/-!
# What an endpoint hands out

A poll hands out the bytes at the front of what is unread, be they read ahead or still in the pipe,
and counts them. It hands out nothing only when nothing is unread.
-/

namespace DesktopGateway.Link

open DesktopGateway.Host
open DesktopGateway.Wire

theorem Pipe.held_eq_nil_iff (pipe : Pipe) :
    pipe.held = [] ↔ pipe.pieces.all List.isEmpty = true := by
  rw [held, List.flatten_eq_nil_iff, List.all_eq_true]
  exact forall₂_congr fun _ _ => List.isEmpty_iff.symm

/-- A pipe delivers some bytes when it holds any; otherwise it has ended, or it waits. -/
theorem Pipe.take_cases (pipe : Pipe) {room : Nat} (roomy : 0 < room) :
    pipe.held = [] ∧ (pipe.take room).1 = (if pipe.closed then .ended else .waiting) ∨
      ∃ first more, (pipe.take room).1 = .bytes (first :: more) := by
  unfold take
  split <;> rename_i empty
  · exact .inl ⟨(held_eq_nil_iff pipe).mpr empty, rfl⟩
  · obtain ⟨first, more, same⟩ :=
      Pieces.read_cons roomy (mt (held_eq_nil_iff pipe).mp empty)
    exact .inr ⟨first, more, congrArg Delivery.bytes same⟩

namespace Endpoint

/-- The bytes that have not been handed out, in their order. -/
def unread (source : Endpoint × Pipe) : List UInt8 :=
  source.1.ahead ++ source.2.held

/-- Some of what was unread has been handed out, and nothing else has happened. -/
structure HandsOut (source : Endpoint × Pipe) (taken : List UInt8) (later : Endpoint × Pipe) :
    Prop where
  conserved : taken ++ unread later = unread source
  endpoint : later.1 = { source.1 with
    ahead := later.1.ahead, counters := source.1.counters.receive taken.length }
  capacity : later.2.capacity = source.2.capacity
  closed : later.2.closed = source.2.closed

/-- Where nothing is handed out nothing is counted. -/
theorem HandsOut.of_still {source later : Endpoint × Pipe} (endpoint : later.1 = source.1)
    (held : later.2.held = source.2.held) (capacity : later.2.capacity = source.2.capacity)
    (closed : later.2.closed = source.2.closed) : HandsOut source [] later := by
  refine ⟨?_, ?_, capacity, closed⟩
  · rw [List.nil_append, unread, unread, endpoint, held]
  · rw [endpoint, List.length_nil, Counters.receive_zero]

theorem HandsOut.refl (source : Endpoint × Pipe) : HandsOut source [] source :=
  .of_still rfl rfl rfl rfl

theorem HandsOut.trans {first second third : Endpoint × Pipe} {front back : List UInt8}
    (earlier : HandsOut first front second) (later : HandsOut second back third) :
    HandsOut first (front ++ back) third := by
  refine ⟨?_, ?_, later.capacity.trans earlier.capacity, later.closed.trans earlier.closed⟩
  · rw [List.append_assoc, later.conserved, earlier.conserved]
  · rw [later.endpoint, earlier.endpoint, List.length_append, ← Counters.receive_receive]

/-! ## One poll -/

theorem take_pipe (pipe : Pipe) (room : Nat) :
    (pipe.take room).2.capacity = pipe.capacity ∧ (pipe.take room).2.closed = pipe.closed := by
  unfold Pipe.take
  split <;> exact ⟨rfl, rfl⟩

theorem pull_handsOut (source : Endpoint × Pipe) :
    HandsOut source (pull source).1.taken (pull source).2 := by
  obtain ⟨⟨service, peer, ahead, counters⟩, pipe⟩ := source
  cases ahead with
  | cons first rest => exact ⟨rfl, rfl, rfl, rfl⟩
  | nil =>
      have whole := Pipe.taken_append_held pipe readAhead
      obtain ⟨capacity, closed⟩ := take_pipe pipe readAhead
      unfold pull
      dsimp only
      cases taken : pipe.take readAhead with
      | mk delivery later =>
          rw [taken] at whole capacity closed
          cases delivery with
          | bytes bytes =>
              cases bytes with
              | nil => exact .of_still rfl whole capacity closed
              | cons first rest => exact ⟨whole, rfl, capacity, closed⟩
          | ended => exact .of_still rfl whole capacity closed
          | waiting => exact .of_still rfl whole capacity closed

theorem take_handsOut (room : Nat) (source : Endpoint × Pipe) :
    HandsOut source (take room source).1.taken (take room source).2 := by
  obtain ⟨⟨service, peer, ahead, counters⟩, pipe⟩ := source
  cases ahead with
  | cons first rest =>
      refine ⟨?_, rfl, rfl, rfl⟩
      unfold take unread
      dsimp only [Delivery.taken]
      rw [← List.append_assoc, List.take_append_drop]
  | nil =>
      have whole := Pipe.taken_append_held pipe (max room readAhead)
      obtain ⟨capacity, closed⟩ := take_pipe pipe (max room readAhead)
      unfold take
      dsimp only
      cases taken : pipe.take (max room readAhead) with
      | mk delivery later =>
          rw [taken] at whole capacity closed
          cases delivery with
          | bytes bytes =>
              refine ⟨?_, rfl, capacity, closed⟩
              dsimp only [Delivery.taken, unread] at whole ⊢
              rw [← List.append_assoc, List.take_append_drop, whole, List.nil_append]
          | ended => exact .of_still rfl whole capacity closed
          | waiting => exact .of_still rfl whole capacity closed

/-- Whatever is handed out comes from the front of what is unread. -/
theorem poll_handsOut (poll : ReadPoll) (source : Endpoint × Pipe) :
    HandsOut source (Endpoint.poll source poll).1 (Endpoint.poll source poll).2 := by
  cases poll with
  | byte => exact pull_handsOut source
  | upTo room => exact take_handsOut room source
  | rest =>
      refine ⟨?_, rfl, rfl, rfl⟩
      simp [Endpoint.poll, readToEnd, unread, Pipe.held]

/-! ## What a poll gives -/

/-- What a source gives to one who has room for some bytes: the first of those that are unread, the
end, or nothing yet. -/
inductive Gives (source : Endpoint × Pipe) (room : Nat) (later : Endpoint × Pipe) :
    Delivery → Prop where
  | bytes (first : UInt8) (more : List UInt8) (short : more.length < room)
      (whole : unread source = first :: more ++ unread later) :
      Gives source room later (.bytes (first :: more))
  | ended (closed : source.2.closed = true) (empty : unread source = [])
      (rest : unread later = []) : Gives source room later .ended
  | waiting (openly : source.2.closed = false) (empty : unread source = [])
      (rest : unread later = []) : Gives source room later .waiting

variable {source : Endpoint × Pipe}

/-- A source that has handed out nothing because it holds nothing. -/
theorem gives_of_empty {room : Nat} {delivery : Delivery} {later : Endpoint × Pipe}
    (handed : HandsOut source delivery.taken later) (empty : unread source = [])
    (same : delivery = if source.2.closed then .ended else .waiting) :
    Gives source room later delivery := by
  have conserved := handed.conserved
  subst same
  cases closed : source.2.closed with
  | true =>
      rw [closed, empty] at conserved
      exact .ended closed empty conserved
  | false =>
      rw [closed, empty] at conserved
      exact .waiting closed empty conserved

theorem take_gives {room : Nat} (roomy : 0 < room) (source : Endpoint × Pipe) :
    Gives source room (take room source).2 (take room source).1 := by
  have handed := take_handsOut room source
  have either : unread source = [] ∧
        (take room source).1 = (if source.2.closed then .ended else .waiting) ∨
      ∃ first more, (take room source).1 = .bytes (first :: more) ∧ more.length < room := by
    obtain ⟨⟨service, peer, ahead, counters⟩, pipe⟩ := source
    obtain ⟨room, rfl⟩ := Nat.exists_eq_add_of_lt roomy
    rw [Nat.zero_add]
    have short (bytes : List UInt8) : (bytes.take room).length < room + 1 :=
      Nat.lt_succ_of_le (List.length_take_le ..)
    cases ahead with
    | cons first rest => exact .inr ⟨first, rest.take room, rfl, short rest⟩
    | nil =>
        have wide : 0 < max (room + 1) readAhead := by omega
        unfold take
        dsimp only
        cases taken : pipe.take (max (room + 1) readAhead) with
        | mk delivery later =>
            have either := pipe.take_cases wide
            rw [taken] at either
            rcases either with ⟨empty, rfl⟩ | ⟨first, more, rfl⟩
            · cases pipe.closed <;> exact .inl ⟨empty, rfl⟩
            · exact .inr ⟨first, more.take room, rfl, short more⟩
  rcases either with ⟨empty, same⟩ | ⟨first, more, same, short⟩
  · exact gives_of_empty handed empty same
  · have conserved := handed.conserved
    rw [same] at conserved ⊢
    exact .bytes first more short conserved.symm

theorem pull_gives (source : Endpoint × Pipe) :
    Gives source 1 (pull source).2 (pull source).1.delivery := by
  have handed := pull_handsOut source
  have either : unread source = [] ∧
        (pull source).1.delivery = (if source.2.closed then .ended else .waiting) ∨
      ∃ value, (pull source).1 = .byte value := by
    obtain ⟨⟨service, peer, ahead, counters⟩, pipe⟩ := source
    cases ahead with
    | cons first rest => exact .inr ⟨first, rfl⟩
    | nil =>
        unfold pull
        dsimp only
        cases taken : pipe.take readAhead with
        | mk delivery later =>
            have either := pipe.take_cases (by decide : 0 < readAhead)
            rw [taken] at either
            rcases either with ⟨empty, rfl⟩ | ⟨first, more, rfl⟩
            · cases pipe.closed <;> exact .inl ⟨empty, rfl⟩
            · exact .inr ⟨first, rfl⟩
  rcases either with ⟨empty, same⟩ | ⟨value, same⟩
  · rw [← Pulled.taken_delivery] at handed
    exact gives_of_empty handed empty same
  · have conserved := handed.conserved
    rw [same] at conserved ⊢
    exact .bytes value [] Nat.zero_lt_one conserved.symm

end Endpoint

end DesktopGateway.Link
