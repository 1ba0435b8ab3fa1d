import DesktopGateway.Link.Hearing
import DesktopGateway.Proofs.Link.Chunking
import DesktopGateway.Proofs.Link.Passing
import DesktopGateway.Proofs.Link.Reply

/-!
# What is said is heard

The listener takes from the front of what is said, and its reading gives what it gives on the whole
of it: neither the room in the pipe nor the pieces nor the order of the steps matters. Until the
reading has its result somebody can do a step, and no hearing goes on for ever. So a refusal arrives
as it was written, whatever is said behind it.
-/

namespace DesktopGateway.Link

open DesktopGateway.Text
open DesktopGateway.Wire
open DesktopGateway.Link.Endpoint (unread HandsOut Passes Gives)

namespace Hearing

variable {α : Type} {first hearing next : Hearing α}

def coming (hearing : Hearing α) : List UInt8 :=
  unread (hearing.listener, hearing.incoming) ++ hearing.pending

/-- The pipe is closed only when everything is said. -/
def Ready (hearing : Hearing α) : Prop :=
  hearing.incoming.closed = true → hearing.pending = []

/-! ## One step -/

inductive Moves (hearing : Hearing α) : Hearing α → Prop where
  | said {bytes rest : List UInt8} {speaker : Endpoint} {incoming : Pipe}
      (pending : hearing.pending = bytes ++ rest)
      (passes : Passes (hearing.speaker, hearing.incoming) bytes (speaker, incoming)) :
      Moves hearing { hearing with pending := rest, speaker := speaker, incoming := incoming }
  | left (quiet : hearing.pending = []) (openly : hearing.incoming.closed = false) :
      Moves hearing { hearing with incoming := hearing.incoming.close }
  | heard {onByte : UInt8 → Demand α} {onEnd : Demand α} {value : UInt8} {listener : Endpoint}
      {incoming : Pipe} (demand : hearing.demand = .next onByte onEnd)
      (handed : HandsOut (hearing.listener, hearing.incoming) [value] (listener, incoming)) :
      Moves hearing { hearing with
        demand := onByte value, listener := listener, incoming := incoming }
  | ended {onByte : UInt8 → Demand α} {onEnd : Demand α} {listener : Endpoint} {incoming : Pipe}
      (demand : hearing.demand = .next onByte onEnd) (closed : hearing.incoming.closed = true)
      (empty : unread (hearing.listener, hearing.incoming) = [])
      (handed : HandsOut (hearing.listener, hearing.incoming) [] (listener, incoming)) :
      Moves hearing { hearing with
        demand := .done (onEnd.run []).1, listener := listener, incoming := incoming }

theorem moves_say {count : Nat} (done : hearing.say count = some next) : hearing.Moves next := by
  obtain ⟨⟨rest, speaker, incoming⟩, passed, rfl⟩ := Option.map_eq_some_iff.mp done
  obtain ⟨bytes, -, pending, passes⟩ := Endpoint.pass?_eq_some passed
  exact .said pending passes

theorem moves_leave (done : hearing.leave = some next) : hearing.Moves next := by
  unfold leave at done
  split at done
  · rename_i both
    cases done
    simp only [Bool.and_eq_true, List.isEmpty_iff, Bool.not_eq_true'] at both
    exact .left both.1 both.2
  · cases done

theorem moves_hear {pieces : Pieces} (done : hearing.hear pieces = some next) :
    hearing.Moves next := by
  unfold hear at done
  split at done
  · rename_i onByte onEnd cut demand recut
    split at done <;> rename_i pulled
    · cases done
      exact .heard demand (Endpoint.pulled_handsOut recut pulled)
    · cases done
      have handed := Endpoint.pulled_handsOut recut pulled
      cases (Endpoint.pulled_gives recut pulled).1 with
      | ended closed empty rest => exact .ended demand closed empty handed
    · cases done
  · cases done
  · cases done

/-- Every step that is possible is one of these. -/
theorem moves_of_turn {turn : Turn} (done : hearing.turn turn = some next) :
    hearing.Moves next := by
  cases turn with
  | say count => exact moves_say done
  | leave => exact moves_leave done
  | hear pieces => exact moves_hear done

theorem Ready.moves (ready : hearing.Ready) (moves : hearing.Moves next) : next.Ready := by
  cases moves with
  | @said bytes rest speaker incoming pending passes =>
      intro closed
      have openly : incoming.closed = false := passes.resembles.closed.trans passes.openly
      exact absurd closed (by simp [openly])
  | left quiet openly => exact fun _ => quiet
  | heard demand handed => exact fun closed => ready (handed.closed.symm.trans closed)
  | ended demand closed empty handed => exact fun _ => ready closed

theorem coming_of_passes {bytes rest : List UInt8} {speaker : Endpoint} {incoming : Pipe}
    (pending : hearing.pending = bytes ++ rest)
    (passes : Passes (hearing.speaker, hearing.incoming) bytes (speaker, incoming)) :
    unread (hearing.listener, incoming) ++ rest = hearing.coming := by
  have held : incoming.held = hearing.incoming.held ++ bytes := passes.held
  simp only [coming, unread, held, pending, List.append_assoc]

/-! ## All steps -/

/-- The listener has taken what came first, and its reading goes on where it stands. -/
structure Leads (first next : Hearing α) : Prop where
  taken : ∃ taken, first.coming = taken ++ next.coming ∧
    next.listener.counters = first.listener.counters.receive taken.length
  capacity : next.incoming.capacity = first.incoming.capacity
  hears : next.demand.run next.coming = first.demand.run first.coming

theorem Leads.refl (hearing : Hearing α) : hearing.Leads hearing :=
  ⟨⟨[], rfl, (Counters.receive_zero _).symm⟩, rfl, rfl⟩

theorem Leads.trans {third : Hearing α} (earlier : first.Leads hearing)
    (later : hearing.Leads third) : first.Leads third := by
  obtain ⟨⟨front, ahead, counted⟩, capacity, hears⟩ := earlier
  obtain ⟨⟨back, behind, further⟩, kept, goes⟩ := later
  refine ⟨⟨front ++ back, ?_, ?_⟩, kept.trans capacity, goes.trans hears⟩
  · rw [ahead, behind, List.append_assoc]
  · rw [further, counted, List.length_append, Counters.receive_receive]

theorem Ready.leads (ready : hearing.Ready) (moves : hearing.Moves next) : hearing.Leads next := by
  cases moves with
  | said pending passes =>
      have same := coming_of_passes pending passes
      exact ⟨⟨[], same.symm, (Counters.receive_zero _).symm⟩, passes.resembles.capacity,
        congrArg hearing.demand.run same⟩
  | left quiet openly => exact ⟨⟨[], rfl, (Counters.receive_zero _).symm⟩, rfl, rfl⟩
  | @heard onByte onEnd value listener incoming demand handed =>
      have front : hearing.coming = value :: (unread (listener, incoming) ++ hearing.pending) :=
        congrArg (· ++ hearing.pending) handed.conserved.symm
      refine ⟨⟨[value], front, congrArg Endpoint.counters handed.endpoint⟩, handed.capacity, ?_⟩
      rw [front, demand]
      rfl
  | @ended onByte onEnd listener incoming demand closed empty handed =>
      have nothing : hearing.coming = [] := by rw [coming, empty, ready closed, List.append_nil]
      have still : unread (listener, incoming) ++ hearing.pending = [] := by
        have conserved := handed.conserved
        rw [empty, List.nil_append] at conserved
        rw [conserved, ready closed, List.append_nil]
      have received := congrArg Endpoint.counters handed.endpoint
      refine ⟨⟨[], nothing.trans still.symm, received⟩, handed.capacity, ?_⟩
      have last : onEnd.run [] = ((onEnd.run []).1, []) :=
        Prod.ext rfl (Demand.run_nil onEnd)
      rw [nothing, demand, Demand.run_next_nil, last]
      exact (congrArg (Demand.run (.done (onEnd.run []).1)) still).trans (Demand.run_done ..)

theorem Ready.follow (ready : first.Ready) {turns : List Turn}
    (follows : first.follow turns = some next) : next.Ready ∧ first.Leads next := by
  induction turns generalizing first with
  | nil =>
      cases follows
      exact ⟨ready, .refl _⟩
  | cons turn turns ih =>
      obtain ⟨middle, one, rest⟩ := Option.bind_eq_some_iff.mp follows
      have moves := moves_of_turn one
      obtain ⟨still, leads⟩ := ih (ready.moves moves) rest
      exact ⟨still, (ready.leads moves).trans leads⟩

/-- A reading that has its result has it from all that is said. -/
theorem Leads.result (leads : first.Leads next) {value : α} (known : next.demand = .done value) :
    first.demand.run first.coming = (value, next.coming) := by
  rw [← leads.hears, known, Demand.run_done]

/-! ## The end -/

def CanGo (hearing : Hearing α) : Prop :=
  ∃ turn, (hearing.turn turn).isSome

theorem canGo_of_hear {onByte : UInt8 → Demand α} {onEnd : Demand α}
    (demand : hearing.demand = .next onByte onEnd)
    (some : unread (hearing.listener, hearing.incoming) ≠ [] ∨ hearing.incoming.closed = true) :
    hearing.CanGo := by
  have gives := Endpoint.pull_gives (hearing.listener, hearing.incoming)
  refine ⟨.hear hearing.incoming.pieces, ?_⟩
  rw [turn, hear, demand, Pipe.recut?_self]
  dsimp only
  cases pulled : Endpoint.pull (hearing.listener, hearing.incoming) with
  | mk answer later =>
      rw [pulled] at gives
      cases answer with
      | byte value => rfl
      | ended => rfl
      | waiting =>
          cases gives with
          | waiting openly empty rest =>
              rcases some with filled | closed
              · exact absurd empty filled
              · rw [openly] at closed
                cases closed

/-- Until the reading has its result the speaker or the listener can go on. -/
theorem canGo_of_next (roomy : 0 < hearing.incoming.capacity) {onByte : UInt8 → Demand α}
    {onEnd : Demand α} (demand : hearing.demand = .next onByte onEnd) : hearing.CanGo := by
  by_cases empty : unread (hearing.listener, hearing.incoming) = []
  · cases closed : hearing.incoming.closed with
    | true => exact canGo_of_hear demand (.inr closed)
    | false =>
        cases pending : hearing.pending with
        | nil => exact ⟨.leave, by simp [turn, leave, pending, closed]⟩
        | cons byte rest =>
            -- The pipe is empty, so that there is room for a byte.
            have held : hearing.incoming.held = [] := (List.append_eq_nil_iff.mp empty).2
            have room : hearing.incoming.held.length < hearing.incoming.capacity := by
              rw [held]
              exact roomy
            obtain ⟨result, passed⟩ := @Endpoint.pass?_one (byte :: rest)
              (hearing.speaker, hearing.incoming) (List.cons_ne_nil byte rest) closed room
            refine ⟨.say 1, ?_⟩
            rw [turn, say, pending, passed]
            rfl
  · exact canGo_of_hear demand (.inl empty)

/-- What is still to be done. A byte that is not in the pipe yet has to be moved twice. -/
def effort (hearing : Hearing α) : Nat :=
  2 * hearing.pending.length + (unread (hearing.listener, hearing.incoming)).length +
    (if hearing.incoming.closed then 0 else 1) +
    match hearing.demand with
    | .next .. => 1
    | .done _ => 0

/-- Each step brings the end nearer. -/
theorem effort_lt (moves : hearing.Moves next) : next.effort < hearing.effort := by
  have most (demand : Demand α) : (match demand with | .next .. => 1 | .done _ => 0) ≤ 1 := by
    cases demand <;> simp
  unfold effort
  cases moves with
  | @said bytes rest speaker incoming pending passes =>
      have some : 0 < bytes.length := List.length_pos_iff.mpr passes.some
      have grown := @Endpoint.length_unread_append hearing.listener _ _ _ passes.held
      have same : incoming.closed = hearing.incoming.closed := passes.resembles.closed
      dsimp only at grown
      simp only [pending, grown, same, List.length_append]
      omega
  | left quiet openly =>
      have closed : hearing.incoming.close.closed = true := rfl
      simp only [unread, Pipe.held_close, openly, closed]
      simp
  | @heard onByte onEnd value listener incoming demand handed =>
      have front := congrArg List.length handed.conserved
      have same : incoming.closed = hearing.incoming.closed := handed.closed
      have further := most (onByte value)
      simp only [List.length_append, List.length_singleton] at front
      simp only [demand, same]
      omega
  | @ended onByte onEnd listener incoming demand closed empty handed =>
      have front := congrArg List.length handed.conserved
      have same : incoming.closed = hearing.incoming.closed := handed.closed
      simp only [List.nil_append] at front
      simp only [demand, same, front]
      omega

theorem length_le {turns : List Turn} (follows : first.follow turns = some next) :
    turns.length + next.effort ≤ first.effort := by
  induction turns generalizing first with
  | nil =>
      cases follows
      simp
  | cons turn turns ih =>
      obtain ⟨middle, one, rest⟩ := Option.bind_eq_some_iff.mp follows
      have less := effort_lt (moves_of_turn one)
      have bound := ih rest
      simp only [List.length_cons]
      omega

end Hearing

end DesktopGateway.Link
