import DesktopGateway.Link.Passing
import DesktopGateway.Proofs.Link.Draining

/-!
# What passes through a pipe

A step of a writer adds bytes at the end of what is unread, a step of a reader takes them from the
front. How the bytes are cut into pieces does not matter.
-/

namespace DesktopGateway.Link

open DesktopGateway.Wire

namespace Pipe

/-- Pipes of one capacity, both of them closed or neither. -/
structure Resembles (first second : Pipe) : Prop where
  capacity : second.capacity = first.capacity
  closed : second.closed = first.closed

theorem Resembles.refl (pipe : Pipe) : pipe.Resembles pipe :=
  ⟨rfl, rfl⟩

theorem Resembles.trans {first second third : Pipe} (earlier : first.Resembles second)
    (later : second.Resembles third) : first.Resembles third :=
  ⟨later.capacity.trans earlier.capacity, later.closed.trans earlier.closed⟩

theorem recut?_self (pipe : Pipe) : pipe.recut? pipe.pieces = some pipe :=
  if_pos rfl

theorem recut?_eq_some {pipe cut : Pipe} {pieces : Pieces}
    (done : pipe.recut? pieces = some cut) : pipe.Resembles cut ∧ cut.held = pipe.held := by
  unfold recut? at done
  split at done
  · rename_i same
    cases done
    exact ⟨⟨rfl, rfl⟩, same⟩
  · cases done

end Pipe

namespace Endpoint

theorem unread_recut (endpoint : Endpoint) {pipe cut : Pipe} (held : cut.held = pipe.held) :
    unread (endpoint, cut) = unread (endpoint, pipe) :=
  congrArg (endpoint.ahead ++ ·) held

theorem unread_of_ahead {first second : Endpoint} (ahead : second.ahead = first.ahead)
    (pipe : Pipe) : unread (second, pipe) = unread (first, pipe) :=
  congrArg (· ++ pipe.held) ahead

theorem HandsOut.resembles {source later : Endpoint × Pipe} {taken : List UInt8}
    (handed : HandsOut source taken later) : source.2.Resembles later.2 :=
  ⟨handed.capacity, handed.closed⟩

theorem length_unread_append {endpoint : Endpoint} {pipe later : Pipe} {bytes : List UInt8}
    (held : later.held = pipe.held ++ bytes) :
    (unread (endpoint, later)).length = (unread (endpoint, pipe)).length + bytes.length := by
  rw [unread, unread, held, ← List.append_assoc, List.length_append]

/-- What a source gives does not depend on how the bytes in its pipe are cut. -/
theorem Gives.of_recut {endpoint : Endpoint} {pipe cut : Pipe} {room : Nat}
    {later : Endpoint × Pipe} {delivery : Delivery} (resembles : pipe.Resembles cut)
    (held : cut.held = pipe.held) (gives : Gives (endpoint, cut) room later delivery) :
    Gives (endpoint, pipe) room later delivery := by
  have same := unread_recut endpoint held
  cases gives with
  | bytes first more short whole => exact .bytes first more short (same.symm.trans whole)
  | ended closed empty rest =>
      exact .ended (resembles.closed.symm.trans closed) (same.symm.trans empty) rest
  | waiting openly empty rest =>
      exact .waiting (resembles.closed.symm.trans openly) (same.symm.trans empty) rest

theorem HandsOut.of_recut {endpoint : Endpoint} {pipe cut : Pipe} {taken : List UInt8}
    {later : Endpoint × Pipe} (resembles : pipe.Resembles cut) (held : cut.held = pipe.held)
    (handed : HandsOut (endpoint, cut) taken later) : HandsOut (endpoint, pipe) taken later where
  conserved := handed.conserved.trans (unread_recut endpoint held)
  endpoint := handed.endpoint
  capacity := handed.capacity.trans resembles.capacity
  closed := handed.closed.trans resembles.closed

section Recut

variable {endpoint : Endpoint} {pipe cut : Pipe} {pieces : Pieces} {later : Endpoint × Pipe}
  {pulled : Pulled}

theorem pulled_handsOut (recut : pipe.recut? pieces = some cut)
    (done : pull (endpoint, cut) = (pulled, later)) :
    HandsOut (endpoint, pipe) pulled.taken later := by
  obtain ⟨resembles, held⟩ := Pipe.recut?_eq_some recut
  have handed := pull_handsOut (endpoint, cut)
  rw [done] at handed
  exact handed.of_recut resembles held

theorem pulled_gives (recut : pipe.recut? pieces = some cut)
    (done : pull (endpoint, cut) = (pulled, later)) :
    Gives (endpoint, pipe) 1 later pulled.delivery ∧ pipe.Resembles later.2 := by
  obtain ⟨resembles, held⟩ := Pipe.recut?_eq_some recut
  have gives := pull_gives (endpoint, cut)
  rw [done] at gives
  exact ⟨gives.of_recut resembles held, (pulled_handsOut recut done).resembles⟩

end Recut

/-- Some bytes have passed into a pipe that is not closed. -/
structure Passes (sink : Endpoint × Pipe) (bytes : List UInt8) (later : Endpoint × Pipe) :
    Prop where
  some : bytes ≠ []
  openly : sink.2.closed = false
  ahead : later.1.ahead = sink.1.ahead
  held : later.2.held = sink.2.held ++ bytes
  resembles : sink.2.Resembles later.2

theorem pass?_eq_some {count : Nat} {pending rest : List UInt8} {sink later : Endpoint × Pipe}
    (done : pass? count pending sink = some (rest, later)) :
    ∃ bytes, bytes = pending.take count ∧ pending = bytes ++ rest ∧ Passes sink bytes later := by
  obtain ⟨endpoint, pipe⟩ := sink
  unfold pass? at done
  split at done
  · rename_i possible
    obtain ⟨positive, there, openly, room⟩ := possible
    cases done
    refine ⟨_, rfl, (List.take_append_drop ..).symm, ?_⟩
    have filled : pending.take count ≠ [] := by
      rw [← List.length_pos_iff, List.length_take]
      omega
    have fits : (pending.take count).take (pipe.capacity - pipe.held.length) =
        pending.take count := by
      refine List.take_of_length_le ?_
      rw [List.length_take]
      dsimp only at room
      omega
    dsimp only at openly
    have written : (pipe.write (pending.take count)).2 =
        { pipe with pieces := [pipe.held ++ pending.take count] } := by
      rw [Pipe.write, if_neg (by rwa [List.isEmpty_iff]), if_neg (by rw [openly]; decide)]
      dsimp only
      rw [fits]
    refine ⟨filled, openly, rfl, ?_, ?_⟩
    · rw [write]
      dsimp only
      rw [written, Pipe.held, List.flatten_singleton]
    · rw [write]
      dsimp only
      rw [written]
      exact ⟨rfl, rfl⟩
  · cases done

/-- A byte passes into an open pipe that is not full. -/
theorem pass?_one {pending : List UInt8} {sink : Endpoint × Pipe} (some : pending ≠ [])
    (openly : sink.2.closed = false) (room : sink.2.held.length < sink.2.capacity) :
    ∃ result, pass? 1 pending sink = .some result := by
  have one : 1 ≤ pending.length := List.length_pos_iff.mpr some
  exact ⟨_, if_pos ⟨Nat.zero_lt_one, one, openly, room⟩⟩

end Endpoint

end DesktopGateway.Link
