import DesktopGateway.Proofs.Link.Hearing

/-!
# Refusals surface

One side refuses and perhaps says more, the other one reads the verdict. Whatever the room in the
pipe and the order of the steps, the reader learns the reason as one line, has taken the refusal and
nothing behind it, and has ended its own direction. A verdict is only read as success from a stream
that begins with that verdict.
-/

namespace DesktopGateway.Link

open DesktopGateway.Text
open DesktopGateway.Wire
open DesktopGateway.Wire.Field (lineBytes)

namespace Endpoint

theorem pipe_of_ended {pipe later : Pipe} {room : Nat} (ended : pipe.take room = (.ended, later)) :
    later = pipe := by
  unfold Pipe.take at ended
  split at ended
  · exact (congrArg Prod.snd ended).symm
  · cases congrArg Prod.fst ended

theorem source_of_ended {source later : Endpoint × Pipe} (ended : pull source = (.ended, later)) :
    later = source := by
  obtain ⟨⟨service, peer, ahead, counters⟩, pipe⟩ := source
  unfold pull at ended
  cases ahead with
  | cons first rest => cases ended
  | nil =>
      dsimp only at ended
      cases taken : pipe.take readAhead with
      | mk delivery left =>
          rw [taken] at ended
          rcases delivery with (_ | ⟨first, rest⟩) | _ | _
          · cases ended
          · cases ended
          · cases ended
            exact congrArg _ (pipe_of_ended taken)
          · cases ended

/-- Behind its end a source only ends again. -/
theorem drive_of_ended {α : Type} (demand : Demand α) {source : Endpoint × Pipe}
    (ended : pull source = (.ended, source)) :
    demand.drive pull source = (some (demand.run []).1, source) := by
  induction demand with
  | done result => rfl
  | next onByte onEnd ihByte ihEnd =>
      rw [Demand.drive, ended]
      exact ihEnd

end Endpoint

namespace Hearing

variable {α : Type}

/-- A reading that is done at once is one way to hear. -/
theorem follow_of_read (demand : Demand α) {hearing : Hearing α} (asks : hearing.demand = demand)
    {value : α} {later : Endpoint × Pipe}
    (read : Endpoint.read demand (hearing.listener, hearing.incoming) = (some value, later)) :
    ∃ turns, hearing.follow turns = some { hearing with
      demand := .done value, listener := later.1, incoming := later.2 } := by
  induction demand generalizing hearing with
  | done result =>
      cases read
      exact ⟨[], by rw [← asks]; rfl⟩
  | next onByte onEnd ihByte ihEnd =>
      have step (rest : List Turn) : hearing.follow (.hear hearing.incoming.pieces :: rest) =
          (hearing.hear hearing.incoming.pieces).bind fun next => next.follow rest := rfl
      rw [Endpoint.read, Demand.drive] at read
      cases pulled : Endpoint.pull (hearing.listener, hearing.incoming) with
      | mk answer source =>
          rw [pulled] at read
          cases answer with
          | waiting => cases read
          | byte first =>
              obtain ⟨turns, follows⟩ := @ihByte first { hearing with
                demand := onByte first, listener := source.1, incoming := source.2 } rfl read
              refine ⟨.hear hearing.incoming.pieces :: turns, ?_⟩
              rw [step, hear, asks, Pipe.recut?_self]
              dsimp only
              rw [pulled]
              exact follows
          | ended =>
              have same := Endpoint.source_of_ended pulled
              subst same
              dsimp only at read
              rw [Endpoint.drive_of_ended onEnd pulled] at read
              cases read
              refine ⟨[.hear hearing.incoming.pieces], ?_⟩
              rw [step, hear, asks, Pipe.recut?_self]
              dsimp only
              rw [pulled]
              rfl

/-- The operation that reads a verdict is one way to hear it. -/
theorem follow_readVerdict {hearing : Hearing (Except Fault Unit)}
    (fresh : hearing.demand = Endpoint.verdict) (outgoing : Pipe)
    (answered : ((hearing.post outgoing).act .readVerdict).1 ≠ .waiting) :
    ∃ turns last, hearing.follow turns = some last ∧
      last.verdict outgoing = some ((hearing.post outgoing).act .readVerdict) := by
  have whole : (hearing.post outgoing).act .readVerdict = (hearing.post outgoing).readVerdict := rfl
  rw [whole] at answered ⊢
  cases read : Endpoint.read Endpoint.verdict (hearing.listener, hearing.incoming) with
  | mk result later =>
      have reads : (hearing.post outgoing).readingFault (hearing.post outgoing).reader?
          (fun _ => .nothing) (Endpoint.read Endpoint.verdict) =
            (.ofFault (fun _ => .nothing) result, ⟨.whole later.1, later.2, outgoing⟩) := by
        have known : (hearing.post outgoing).reading hearing.listener
            (Endpoint.read Endpoint.verdict) =
              (result, ⟨.whole later.1, later.2, outgoing⟩) := by
          unfold Post.reading
          rw [post, read]
          rfl
        exact congrArg (fun known => (Outcome.ofFault _ known.1, known.2)) known
      cases result with
      | none =>
          refine absurd ?_ answered
          rw [Post.readVerdict_fst, reads]
          rfl
      | some answer =>
          obtain ⟨turns, follows⟩ := follow_of_read Endpoint.verdict fresh read
          refine ⟨turns, _, follows, ?_⟩
          unfold Post.readVerdict
          rw [reads]
          cases answer with
          | ok accepted => rfl
          | error fault => cases fault <;> rfl

theorem verdict_eq_some {hearing : Hearing (Except Fault Unit)} {outgoing : Pipe}
    {outcome : Outcome} {post : Post} (known : hearing.verdict outgoing = some (outcome, post)) :
    ∃ answer, hearing.demand = .done answer ∧
      outcome = .ofFault (fun _ => .nothing) (some answer) ∧
        ∀ reason, answer = .error (.remote reason) → post = hearing.post outgoing.close := by
  unfold verdict at known
  split at known <;> rename_i demand
  · cases known
  · cases known
    exact ⟨_, demand, rfl, fun _ _ => rfl⟩
  · rename_i other
    cases known
    exact ⟨_, demand, rfl, fun reason same => absurd same (other reason)⟩

/-- Behind the end of what is said the listener reads on where its hearing stopped. -/
theorem Ready.continues {hearing : Hearing α} (ready : hearing.Ready)
    (closed : hearing.incoming.closed = true) (outgoing : Pipe) :
    (hearing.post outgoing).Continues hearing.coming := by
  have all : hearing.coming = (hearing.post outgoing).stock := by
    rw [coming, ready closed, List.append_nil]
    rfl
  rw [all]
  exact Post.continues_of_reader closed rfl

/-- The other side of a listener that has ended its direction reads what is left, and the end. -/
theorem opposite_continues (hearing : Hearing α) (outgoing : Pipe) :
    (hearing.opposite outgoing.close).Continues (hearing.speaker.ahead ++ outgoing.held) :=
  @Post.continues_of_reader (hearing.opposite outgoing.close) hearing.speaker rfl rfl

/-- A refusal that fits on a line is heard with its reason, and what was said behind it is left. -/
theorem Leads.refused {first last : Hearing (Except Fault Unit)} (leads : first.Leads last)
    (fresh : first.demand = Endpoint.verdict) {answer : Except Fault Unit}
    (done : last.demand = .done answer) {reason : String} {behind : List UInt8}
    (fits : Endpoint.FitsLine reason)
    (said : first.coming = (Endpoint.refusal reason).bytes ++ behind) :
    answer = .error (.remote (Endpoint.reasonLine reason)) ∧ last.coming = behind ∧
      last.listener.counters =
        first.listener.counters.receive ((Utf8.encode reason).length + 2) := by
  have line := (Endpoint.isLine_reasonLine_iff reason).mpr fits
  have written := Endpoint.refusal_of_fits fits
  have heard := leads.result done
  rw [fresh, said, written] at heard
  obtain ⟨told, rest⟩ :=
    Prod.mk.inj ((Endpoint.verdict_run_line line behind).symm.trans heard)
  obtain ⟨taken, whole, counted⟩ := leads.taken
  have length : taken.length = (Utf8.encode reason).length + 2 := by
    have total := congrArg List.length whole
    rw [said, written, ← rest, List.length_append, List.length_append, List.length_cons,
      lineBytes, List.length_append, Endpoint.length_encode_reasonLine,
      List.length_singleton] at total
    omega
  exact ⟨told.symm, rest.symm, by rw [counted, length]⟩

end Hearing

/-- A hearing of a verdict comes to its end, and only a verdict of success is heard as one. Of a
refusal that fits on a line the listener learns the reason with its newlines as blanks. It has then
taken the refusal, can read on behind it, and has ended its own direction, so that the other side
meets the end of the stream. -/
theorem refusal_surfaces {first : Hearing (Except Fault Unit)}
    (fresh : first.demand = Endpoint.verdict) (ready : first.Ready)
    {turns : List Hearing.Turn} {last : Hearing (Except Fault Unit)}
    (follows : first.follow turns = some last) (outgoing : Pipe) :
    turns.length ≤ first.effort ∧
    (0 < first.incoming.capacity → last.verdict outgoing = none →
      ∃ turn, (last.turn turn).isSome) ∧
    ∀ outcome post, last.verdict outgoing = some (outcome, post) →
      (outcome = .gain .nothing ↔ ∃ rest, first.coming = Verdict.accepted.code :: rest) ∧
      ∀ reason behind, Endpoint.FitsLine reason →
        first.coming = (Endpoint.refusal reason).bytes ++ behind →
          (Endpoint.refusal reason).fault = none ∧
          outcome = .fault (.remote (Endpoint.reasonLine reason)) ∧
          ('\n' ∉ reason.toList → Endpoint.reasonLine reason = reason) ∧
          last.listener.counters =
            first.listener.counters.receive ((Utf8.encode reason).length + 2) ∧
          last.coming = behind ∧
          post = last.post outgoing.close ∧
          (last.incoming.closed = true → post.Continues behind) ∧
          (∀ (β : Type) (further : Demand β) more (later : Hearing β) value,
            (last.ask further).follow more = some later → later.demand = .done value →
              further.run behind = (value, later.coming)) ∧
          (last.opposite post.outgoing).Continues (last.speaker.ahead ++ outgoing.held) := by
  obtain ⟨still, leads⟩ := ready.follow follows
  refine ⟨?_, fun roomy silent => ?_, fun outcome post known => ?_⟩
  · have bound := Hearing.length_le follows
    omega
  · cases demand : last.demand with
    | next onByte onEnd => exact Hearing.canGo_of_next (leads.capacity ▸ roomy) demand
    | done answer =>
        unfold Hearing.verdict at silent
        rw [demand] at silent
        split at silent <;> rename_i same <;> cases same <;> cases silent
  · obtain ⟨answer, done, rfl, ended⟩ := Hearing.verdict_eq_some known
    have heard := leads.result done
    rw [fresh] at heard
    constructor
    · rw [← Endpoint.verdict_run_ok_iff, heard]
      rcases answer with fault | ⟨⟩
      · exact iff_of_false (fun same => by cases same) (fun same => by cases same)
      · exact iff_of_true rfl rfl
    · intro reason behind fits said
      obtain ⟨rfl, rest, received⟩ := leads.refused fresh done fits said
      obtain rfl := ended _ rfl
      refine ⟨by rw [Endpoint.refusal_of_fits fits], rfl, Endpoint.reasonLine_of_plain, received,
        rest, rfl, fun closed => ?_, ?_, Hearing.opposite_continues last outgoing⟩
      · rw [← rest]
        exact still.continues closed outgoing.close
      · intro β further more later value goes known
        have asked : (last.ask further).Ready := still
        have result := (asked.follow goes).2.result known
        have same : (last.ask further).coming = last.coming := rfl
        rwa [same, rest] at result

/-- A refusal of two lines, of which the pipe takes one byte at a time, and a byte behind it. -/
def narrowRefusal : Hearing (Except Fault Unit) :=
  ⟨.new .fetch "gateway", [2, 97, 32, 98, 10, 7], .empty 1, .new .fetch "caller", Endpoint.verdict⟩

def narrowTurns : List Hearing.Turn :=
  [2, 97, 32, 98, 10].flatMap (fun byte => [.say 1, .hear [[], [byte]]]) ++ [.say 1, .leave]

theorem refusal_surfaces_narrow :
    ∃ last, narrowRefusal.follow narrowTurns = some last ∧
      last.verdict (.empty 4) = some (.fault (.remote "a b"), last.post (Pipe.empty 4).close) ∧
      last.listener.received = 5 ∧ last.coming = [7] ∧
      (last.post (Pipe.empty 4).close).Continues [7] ∧
      (last.opposite (Pipe.empty 4).close).Continues [] := by
  obtain ⟨-, -, surfaces⟩ :=
    @refusal_surfaces narrowRefusal rfl (fun closed => by cases closed) narrowTurns _ rfl (.empty 4)
  obtain ⟨-, reads⟩ := surfaces _ _ rfl
  obtain ⟨-, -, -, received, coming, post, continues, -, opposite⟩ :=
    reads "a\nb" [7] (by unfold Endpoint.FitsLine; decide) (by decide +kernel)
  exact ⟨_, rfl, rfl, congrArg (·.received.toNat) received, coming, continues rfl, opposite⟩

end DesktopGateway.Link
