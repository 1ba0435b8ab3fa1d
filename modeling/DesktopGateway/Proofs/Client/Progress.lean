import DesktopGateway.Proofs.Client.Course

/-!
# A transfer gets on and comes to an end

Until the call has returned somebody can do a step: when one side waits for room in a pipe the other
one reads from it, and when it waits for bytes the other one has some to write, or has closed the
pipe.
Each step brings the end nearer, so that no transfer goes on for ever.
-/

namespace DesktopGateway.Client

open DesktopGateway.Files
open DesktopGateway.Files.Upload (Order Stands Stage emission)
open DesktopGateway.Host
open DesktopGateway.Link
open DesktopGateway.Link.Endpoint (unread Gives Passes)
open DesktopGateway.Serving
open DesktopGateway.Wire

namespace Transfer

variable {site : Site} {owner : Option Nat} {order : Order} {transfer next : Transfer}

def CanGo (site : Site) (owner : Option Nat) (transfer : Transfer) : Prop :=
  ∃ turn, (transfer.turn site owner turn).isSome

theorem calling_of_waits (waits : transfer.returned = none) (step : Transfer → Option Transfer) :
    transfer.calling step = step transfer := by
  rw [calling, waits]

/-! ## The sender -/

theorem canGo_of_load {count : Nat} (waits : transfer.returned = none)
    (possible : (transfer.sender.load? count).isSome) : transfer.CanGo site owner := by
  refine ⟨.load count, ?_⟩
  rw [turn, calling_of_waits waits, load, Option.isSome_map]
  exact possible

theorem canGo_of_stop (waits : transfer.returned = none) (possible : transfer.stop.isSome) :
    transfer.CanGo site owner := by
  refine ⟨.stop, ?_⟩
  rw [turn, calling_of_waits waits]
  exact possible

/-- A sender that has not ended can go on when its pipe is empty. -/
theorem canGo_of_sender (waits : transfer.returned = none) (upward : 0 < transfer.uplink.capacity)
    (empty : transfer.uplink.held = []) (active : ∀ fault, transfer.sender ≠ .ended fault) :
    transfer.CanGo site owner := by
  cases sender : transfer.sender with
  | ended fault => exact absurd sender (active fault)
  | failing fault =>
      refine canGo_of_stop waits ?_
      rw [stop, sender]
      rfl
  | sending pending source copied missing =>
      cases pending with
      | nil =>
          cases missing with
          | zero =>
              refine canGo_of_stop waits ?_
              rw [stop, sender]
              rfl
          | succ missing =>
              cases source with
              | nil =>
                  refine canGo_of_stop waits ?_
                  rw [stop, sender]
                  rfl
              | cons first more =>
                  have one : 0 < 1 ∧ 1 ≤ (first :: more).length ∧ 1 ≤ missing + 1 ∧
                      ([] : List UInt8).length + 1 ≤ Sender.portion :=
                    ⟨Nat.zero_lt_one, Nat.succ_le_succ (Nat.zero_le _),
                      Nat.succ_le_succ (Nat.zero_le _), by decide⟩
                  refine @canGo_of_load _ _ _ 1 waits ?_
                  rw [sender, Sender.load?, if_pos one]
                  rfl
      | cons first more =>
          cases closed : transfer.uplink.closed with
          | true =>
              refine canGo_of_stop waits ?_
              rw [stop, sender]
              dsimp only
              rw [if_pos closed]
              rfl
          | false =>
              have room : transfer.uplink.held.length < transfer.uplink.capacity := by
                rw [empty]
                exact upward
              obtain ⟨result, passed⟩ := @Endpoint.pass?_one (first :: more)
                (transfer.client, transfer.uplink) (List.cons_ne_nil first more) closed room
              refine ⟨.send 1, ?_⟩
              rw [turn, calling_of_waits waits, send, sender]
              dsimp only
              rw [passed]
              rfl

/-! ## The reader -/

/-- A verdict that is not known yet can be read on. -/
theorem canGo_of_hear (waits : transfer.returned = none)
    {onByte : UInt8 → Demand (Except Fault Unit)} {onEnd : Demand (Except Fault Unit)}
    (verdict : transfer.verdict = .next onByte onEnd)
    (some : unread (transfer.client, transfer.downlink) ≠ [] ∨ transfer.downlink.closed = true) :
    transfer.CanGo site owner := by
  have gives := Endpoint.pull_gives (transfer.client, transfer.downlink)
  refine ⟨.hear transfer.downlink.pieces, ?_⟩
  rw [turn, calling_of_waits waits, hear, verdict, Pipe.recut?_self]
  dsimp only
  cases pulled : Endpoint.pull (transfer.client, transfer.downlink) with
  | mk answer later =>
      rw [pulled] at gives
      cases answer with
      | byte value => rfl
      | ended => rfl
      | waiting =>
          cases gives with
          | waiting openly empty rest =>
              rcases some with filled | closed
              · exact absurd empty filled
              · rw [openly] at closed
                cases closed

/-- Once the verdict is known the call can return, or its sender can end. -/
theorem canGo_of_verdict (sound : transfer.Sound site order) (waits : transfer.returned = none)
    {verdict : Except Fault Unit} (known : transfer.verdict = .done verdict) :
    transfer.CanGo site owner := by
  cases settled : Call.settle verdict transfer.sender.shown with
  | some outcome =>
      refine ⟨.conclude, ?_⟩
      rw [turn, calling_of_waits waits, conclude, known]
      dsimp only
      rw [settled]
      rfl
  | none =>
      -- Only an acceptance waits for the sender, which has nothing left to write then.
      have accepted : verdict = .ok () ∧ transfer.sender.shown = .underway := by
        unfold Call.settle at settled
        split at settled <;> cases settled
        exact ⟨rfl, by assumption⟩
      obtain ⟨rfl, underway⟩ := accepted
      have loud : ¬ transfer.Silent := by
        intro quiet
        rw [quiet.verdict] at known
        cases known
      obtain ⟨result, unsaid, answered, -⟩ := sound.accords.answered fun _ => loud
      have hears := answered.hears
      rw [known, Demand.run_done] at hears
      obtain ⟨-, done⟩ :=
        answered.stored ((verdict_emission result).mp (congrArg Prod.fst hears).symm)
      cases sender : transfer.sender with
      | ended fault =>
          rw [sender] at underway
          cases underway
      | failing fault =>
          rw [sender] at done
          cases done
      | sending pending source copied missing =>
          rw [sender, Sender.isDone_sending_iff] at done
          obtain ⟨rfl, rfl⟩ := done
          refine canGo_of_stop waits ?_
          rw [stop, sender]
          rfl

theorem canGo_of_reader (sound : transfer.Sound site order) (waits : transfer.returned = none)
    (some : unread (transfer.client, transfer.downlink) ≠ [] ∨ transfer.downlink.closed = true) :
    transfer.CanGo site owner := by
  cases verdict : transfer.verdict with
  | done verdict => exact canGo_of_verdict sound waits verdict
  | next onByte onEnd => exact canGo_of_hear waits verdict some

/-! ## The gateway -/

theorem canGo_of_work (possible : (transfer.work site owner).isSome) : transfer.CanGo site owner :=
  ⟨.work, possible⟩

theorem canGo_of_serve (possible : (transfer.serve transfer.uplink.pieces).isSome) :
    transfer.CanGo site owner :=
  ⟨.serve transfer.uplink.pieces, possible⟩

/-- A stage that wants nothing goes on alone. -/
theorem isSome_work {stage : Stage} (phase : transfer.phase = .handling stage)
    (alone : stage.wish? = none) : (transfer.work site owner).isSome := by
  rw [work, phase]
  cases stage with
  | asking demand =>
      cases demand with
      | done request => rfl
      | next onByte onEnd => cases alone
  | writing upload missing offset =>
      cases missing with
      | zero => rfl
      | succ missing => cases alone
  | resolving name size => rfl
  | making directory safe size => rfl
  | claiming directory safe size => rfl
  | opening directory safe size => rfl
  | syncing upload => rfl
  | granting upload => rfl
  | discarding upload failure => rfl
  | settled result => rfl

/-- A stage that wants something has not had all that its client sends. -/
theorem ne_nil_of_stands {stage : Stage} {wish : Wish} {rest : List UInt8}
    (stands : Stands site order stage rest) (wished : stage.wish? = some wish)
    (enough : order.count ≤ order.stream.length) : rest ≠ [] := by
  rintro rfl
  cases stands.fed wished .ended with
  | ended usable target lacking => exact absurd enough (Nat.not_le.mpr lacking)

/-- While the gateway waits for bytes the client can send some, if there are any to come. -/
theorem canGo_of_hungry (sound : transfer.Sound site order) (waits : transfer.returned = none)
    (openly : transfer.uplink.closed = false)
    (empty : unread (transfer.server, transfer.uplink) = [])
    (hungry : order.count ≤ order.stream.length → transfer.coming ≠ []) :
    transfer.CanGo site owner := by
  have held := (List.append_eq_nil_iff.mp empty).2
  refine canGo_of_sender waits sound.upward held fun fault ended => ?_
  have running := sound.sender
  have closed := sound.uplink waits
  rw [ended] at running closed
  cases running with
  | failed cause =>
      rw [closed.mpr (.inl ⟨_, rfl⟩)] at openly
      cases openly
  | sent whole =>
      apply hungry whole
      rw [coming, empty, ended]
      rfl

theorem canGo_of_accepting (sound : transfer.Sound site order)
    {demand : Demand (Except Fault Service)} (phase : transfer.phase = .accepting demand) :
    transfer.CanGo site owner := by
  obtain ⟨quiet, -, front, takes, same⟩ := sound.accords_at phase
  cases demand with
  | done outcome =>
      obtain rfl := sound.accepted phase
      refine canGo_of_work ?_
      rw [work, phase]
      rfl
  | next onByte onEnd =>
      have gives := Endpoint.pull_gives (transfer.server, transfer.uplink)
      cases pulled : Endpoint.pull (transfer.server, transfer.uplink) with
      | mk answer later =>
          rw [pulled] at gives
          cases answer with
          | byte value =>
              refine canGo_of_serve ?_
              rw [serve, phase, Pipe.recut?_self]
              dsimp only
              rw [pulled]
              rfl
          | ended =>
              refine canGo_of_serve ?_
              rw [serve, phase, Pipe.recut?_self]
              dsimp only
              rw [pulled]
              rfl
          | waiting =>
              cases gives with
              | waiting openly empty rest =>
                  refine canGo_of_hungry sound quiet.waits openly empty fun _ => ?_
                  obtain ⟨first, more, rfl, -⟩ := takes.of_next
                  rw [same]
                  exact nofun

theorem canGo_of_handling (sound : transfer.Sound site order) {stage : Stage}
    (phase : transfer.phase = .handling stage) : transfer.CanGo site owner := by
  obtain ⟨quiet, -, stands, -⟩ := sound.accords_at phase
  cases wished : stage.wish? with
  | none => exact canGo_of_work (isSome_work phase wished)
  | some wish =>
      have gives := Endpoint.deliver_gives (transfer.server, transfer.uplink)
        (Upload.wish?_roomy wished)
      cases delivered : Endpoint.deliver (transfer.server, transfer.uplink) wish with
      | mk delivery later =>
          rw [delivered] at gives
          cases gives with
          | bytes first more short whole =>
              refine canGo_of_serve ?_
              rw [serve, phase, Pipe.recut?_self]
              dsimp only
              rw [wished]
              dsimp only
              rw [delivered]
              rfl
          | ended closed empty rest =>
              refine canGo_of_serve ?_
              rw [serve, phase, Pipe.recut?_self]
              dsimp only
              rw [wished]
              dsimp only
              rw [delivered]
              rfl
          | waiting openly empty rest =>
              exact canGo_of_hungry sound quiet.waits openly empty (ne_nil_of_stands stands wished)

theorem canGo_of_answering (sound : transfer.Sound site order) (waits : transfer.returned = none)
    {pending : List UInt8} (phase : transfer.phase = .answering pending) :
    transfer.CanGo site owner := by
  cases pending with
  | nil =>
      refine canGo_of_work ?_
      rw [work, phase]
      rfl
  | cons first more =>
      have openly : transfer.downlink.closed = false := by
        rw [← Bool.not_eq_true, sound.downlink waits, phase]
        exact id
      by_cases room : transfer.downlink.held.length < transfer.downlink.capacity
      · obtain ⟨result, passed⟩ := @Endpoint.pass?_one (first :: more)
          (transfer.server, transfer.downlink) (List.cons_ne_nil first more) openly room
        refine ⟨.answer 1, ?_⟩
        rw [turn, answer, phase]
        dsimp only
        rw [passed]
        rfl
      · refine canGo_of_reader sound waits (.inl fun empty => ?_)
        have held : transfer.downlink.held = [] := (List.append_eq_nil_iff.mp empty).2
        rw [held] at room
        exact room sound.downward

/-- No transfer is stuck before its call has returned. -/
theorem Sound.canGo (sound : transfer.Sound site order) (waits : transfer.returned = none) :
    transfer.CanGo site owner := by
  cases phase : transfer.phase with
  | accepting demand => exact canGo_of_accepting sound phase
  | handling stage => exact canGo_of_handling sound phase
  | answering pending => exact canGo_of_answering sound waits phase
  | parting =>
      refine canGo_of_work ?_
      rw [work, phase]
      rfl
  | leaving =>
      refine canGo_of_work ?_
      rw [work, phase]
      rfl
  | gone =>
      refine canGo_of_reader sound waits (.inr ?_)
      rw [sound.downlink waits, phase]
      trivial

end Transfer

/-! ## The end -/

/-- What a sender has still to do. A byte costs more the more often it has to be moved. -/
def Sender.effort : Sender → Nat
  | sending pending source _ missing => 3 * (source.take missing).length + 2 * pending.length + 2
  | failing _ => 1
  | ended _ => 0

def stageEffort : Stage → Nat
  | .asking _ => 9
  | .resolving .. => 8
  | .making .. => 7
  | .claiming .. => 6
  | .opening .. => 5
  | .writing .. => 4
  | .syncing _ => 3
  | .granting _ => 2
  | .discarding .. => 1
  | .settled _ => 0

def longestAnswer : Nat := longestLine + 2

def demandEffort {α : Type} : Demand α → Nat
  | .next .. => 1
  | .done _ => 0

def Phase.effort : Phase → Nat
  | accepting demand => 2 * longestAnswer + 14 + demandEffort demand
  | handling stage => 2 * longestAnswer + 4 + stageEffort stage
  | answering pending => 2 * pending.length + 3
  | parting => 2
  | leaving => 1
  | gone => 0

@[simp] theorem demandEffort_next {α : Type} (onByte : UInt8 → Demand α) (onEnd : Demand α) :
    demandEffort (.next onByte onEnd) = 1 := rfl

@[simp] theorem demandEffort_done {α : Type} (result : α) :
    demandEffort (.done result) = 0 := rfl

theorem demandEffort_le_one {α : Type} (demand : Demand α) : demandEffort demand ≤ 1 := by
  cases demand with
  | next onByte onEnd => exact Nat.le_refl 1
  | done result => exact Nat.zero_le 1

theorem length_emission_le (result : Except Serving.Failure Unit) :
    (emission result).bytes.length ≤ longestAnswer := by
  cases result with
  | ok stored => exact Nat.succ_le_succ (Nat.zero_le _)
  | error failure =>
      rw [emission]
      by_cases fits : Endpoint.FitsLine failure.message
      · have line : (Field.lineBytes (Endpoint.reasonLine failure.message)).length ≤
            longestLine + 1 := by
          rw [Field.lineBytes, List.length_append, Endpoint.length_encode_reasonLine]
          exact Nat.succ_le_succ fits
        rw [Endpoint.refusal_of_fits fits]
        exact Nat.succ_le_succ line
      · rw [Endpoint.refusal_of_long fits]
        decide

namespace Sender

theorem effort_loaded {pending bytes rest : List UInt8} {copied missing : Nat} (some : bytes ≠ []) :
    (sending (pending ++ bytes) rest (copied + bytes.length) missing).effort <
      (sending pending (bytes ++ rest) copied (bytes.length + missing)).effort := by
  have positive := List.length_pos_iff.mpr some
  have taken : (bytes ++ rest).take (bytes.length + missing) = bytes ++ rest.take missing :=
    List.take_length_add_append missing
  simp only [effort, taken, List.length_append]
  omega

theorem effort_sent (bytes rest source : List UInt8) (copied missing : Nat) :
    (sending (bytes ++ rest) source copied missing).effort =
      (sending rest source copied missing).effort + 2 * bytes.length := by
  simp only [effort, List.length_append]
  omega

theorem one_lt_effort_sending (pending source : List UInt8) (copied missing : Nat) :
    1 < (sending pending source copied missing).effort :=
  Nat.le_add_left 2 _

end Sender

/-- A stage that goes on alone comes nearer to its end. -/
theorem stageEffort_work {stage : Stage} (alone : stage.wish? = none)
    (unsettled : ∀ result, stage ≠ .settled result) (site : Site) (owner : Option Nat)
    (volume : Volume) : stageEffort (stage.work site owner volume).1 < stageEffort stage := by
  have works := stage.works site owner volume
  generalize stage.work site owner volume = worked at works ⊢
  cases works with
  | @asked request =>
      unfold Stage.asked
      split <;> simp [stageEffort]
  | refused failure =>
      refine Nat.pos_of_ne_zero fun none => ?_
      cases stage with
      | settled result => exact unsettled result rfl
      | _ => cases none
  | idle rests =>
      obtain ⟨result, settled⟩ := rests alone
      exact absurd settled (unsettled result)
  | _ => simp [stageEffort]

/-- A stage that is given bytes stays; one that wants more than there is comes to its end. -/
theorem stageEffort_feed {site : Site} {order : Order} {stage : Stage} {wish : Wish}
    {rest later : List UInt8} {delivery : Delivery} (stands : Stands site order stage rest)
    (wished : stage.wish? = some wish) (delivers : Delivers wish rest delivery later)
    (volume : Volume) :
    stageEffort (stage.feed volume delivery).1 + later.length <
      stageEffort stage + rest.length := by
  cases delivers with
  | bytes first more later fits =>
      have same :
          stageEffort (stage.feed volume (.bytes (first :: more))).1 = stageEffort stage := by
        cases stage with
        | asking demand => cases demand <;> rfl
        | writing upload missing offset => cases missing <;> rfl
        | _ => rfl
      rw [same, List.length_append, List.length_cons]
      omega
  | ended =>
      cases stands.fed wished .ended with
      | ended usable target lacking => simp [Stage.feed, stageEffort]

namespace Transfer

/-- A bound on the steps that a transfer can still do. -/
def effort (transfer : Transfer) : Nat :=
  transfer.sender.effort + (unread (transfer.server, transfer.uplink)).length +
    transfer.phase.effort + (unread (transfer.client, transfer.downlink)).length +
    demandEffort transfer.verdict + (if transfer.returned.isSome then 0 else 1)

variable {site : Site} {owner : Option Nat} {order : Order} {transfer next : Transfer}

/-! ### Kinds of steps -/

theorem effort_lt_of_sender {sender : Sender} (less : sender.effort < transfer.sender.effort) :
    effort { transfer with sender := sender } < transfer.effort := by
  unfold effort
  dsimp only
  omega

theorem effort_lt_of_sent {bytes rest source : List UInt8} {copied missing : Nat}
    {client : Endpoint} {uplink : Pipe}
    (sender : transfer.sender = .sending (bytes ++ rest) source copied missing)
    (passes : Passes (transfer.client, transfer.uplink) bytes (client, uplink)) :
    effort { transfer with
      sender := .sending rest source copied missing, client := client, uplink := uplink } <
      transfer.effort := by
  have positive := List.length_pos_iff.mpr passes.some
  have grown := @Endpoint.length_unread_append transfer.server _ _ _ passes.held
  have same := Endpoint.unread_of_ahead passes.ahead transfer.downlink
  dsimp only at grown same
  simp only [effort, sender, Sender.effort_sent, same, grown]
  omega

theorem effort_lt_of_failed {fault : Fault} (sender : transfer.sender = .failing fault) :
    effort { transfer with sender := .ended (some fault), uplink := transfer.uplink.close } <
      transfer.effort := by
  simp only [effort, sender, Sender.effort, unread, Pipe.held_close]
  omega

theorem effort_lt_of_read {verdict : Demand (Except Fault Unit)} {client : Endpoint}
    {downlink : Pipe}
    (less : demandEffort verdict + (unread (client, downlink)).length <
      demandEffort transfer.verdict + (unread (transfer.client, transfer.downlink)).length) :
    effort { transfer with verdict := verdict, client := client, downlink := downlink } <
      transfer.effort := by
  unfold effort
  dsimp only
  omega

theorem effort_lt_of_concluded {result : Except Fault Unit} (waits : transfer.returned = none) :
    effort { transfer with
      returned := some result
      uplink := transfer.uplink.close
      downlink := transfer.downlink.close } < transfer.effort := by
  simp [effort, waits, unread]

theorem effort_lt_of_taken {phase : Phase} {server : Endpoint} {uplink : Pipe} {volume : Volume}
    (less : phase.effort + (unread (server, uplink)).length <
      transfer.phase.effort + (unread (transfer.server, transfer.uplink)).length) :
    effort { transfer with phase := phase, volume := volume, server := server, uplink := uplink } <
      transfer.effort := by
  unfold effort
  dsimp only
  omega

/-- The gateway goes on by itself, and closes its pipes or not. -/
theorem effort_lt_of_phase {phase : Phase} {volume : Volume} {uplink downlink : Pipe}
    (upward : uplink.held = transfer.uplink.held)
    (downward : downlink.held = transfer.downlink.held)
    (less : phase.effort < transfer.phase.effort) :
    effort { transfer with
      phase := phase, volume := volume, uplink := uplink, downlink := downlink } <
      transfer.effort := by
  simp only [effort, unread, upward, downward]
  omega

theorem effort_lt_of_answered {bytes rest : List UInt8} {server : Endpoint} {downlink : Pipe}
    (phase : transfer.phase = .answering (bytes ++ rest))
    (passes : Passes (transfer.server, transfer.downlink) bytes (server, downlink)) :
    effort { transfer with
      phase := .answering rest
      server := server
      downlink := downlink
      told := transfer.told ++ bytes } < transfer.effort := by
  have positive := List.length_pos_iff.mpr passes.some
  have grown := @Endpoint.length_unread_append transfer.client _ _ _ passes.held
  have same := Endpoint.unread_of_ahead passes.ahead transfer.uplink
  dsimp only at grown same
  simp only [effort, phase, Phase.effort, same, grown, List.length_append]
  omega

/-- Each step brings the end nearer. -/
theorem Sound.effort_lt (sound : transfer.Sound site order)
    (moves : Moves site owner transfer next) :
    next.effort < transfer.effort := by
  cases moves with
  | loaded waits sender some =>
      exact effort_lt_of_sender (by rw [sender]; exact Sender.effort_loaded some)
  | sent waits sender passes => exact effort_lt_of_sent sender passes
  | finished waits sender => exact effort_lt_of_sender (by simp [sender, Sender.effort])
  | short waits sender => exact effort_lt_of_sender (by simp [sender, Sender.effort])
  | broken waits sender closed =>
      exact effort_lt_of_sender (by rw [sender]; exact Sender.one_lt_effort_sending ..)
  | failed waits sender => exact effort_lt_of_failed sender
  | @heard onByte onEnd value client downlink waits verdict front resembles =>
      have further := demandEffort_le_one (onByte value)
      refine effort_lt_of_read ?_
      rw [verdict, demandEffort_next, front, List.length_cons]
      omega
  | unheard waits verdict closed empty rest resembles =>
      refine effort_lt_of_read ?_
      rw [verdict, demandEffort_next, demandEffort_done, empty, rest]
      exact Nat.zero_lt_one
  | concluded waits known settled => exact effort_lt_of_concluded waits
  | @greeted onByte onEnd value server uplink phase front resembles =>
      have further := demandEffort_le_one (onByte value)
      refine effort_lt_of_taken ?_
      simp only [phase, Phase.effort, demandEffort_next, front, List.length_cons]
      omega
  | ungreeted phase closed empty rest resembles =>
      refine effort_lt_of_taken ?_
      simp only [phase, Phase.effort, demandEffort_next, demandEffort_done, empty, rest]
      omega
  | welcomed phase =>
      have started : stageEffort (Stage.start .store) = 9 := rfl
      have same : unread ({ transfer.server with service := .store }, transfer.uplink) =
          unread (transfer.server, transfer.uplink) := rfl
      refine effort_lt_of_taken ?_
      simp only [phase, Phase.effort, demandEffort_done, started, same]
      omega
  | rejected phase other => exact effort_lt_of_phase rfl rfl (by simp [phase, Phase.effort])
  | @fed stage wish delivery server uplink phase wished gives given resembles =>
      obtain ⟨-, -, stands, -⟩ := sound.accords_at phase
      have nearer :=
        stageEffort_feed stands wished (sound.delivers phase gives given) transfer.volume
      rw [coming, List.length_append, List.length_append] at nearer
      refine effort_lt_of_taken ?_
      simp only [phase, Phase.effort]
      omega
  | worked phase alone unsettled =>
      have nearer := stageEffort_work alone unsettled site owner transfer.volume
      refine effort_lt_of_phase rfl rfl ?_
      rw [phase]
      exact Nat.add_lt_add_left nearer _
  | @settled result phase =>
      have short := length_emission_le result
      refine effort_lt_of_phase rfl rfl ?_
      simp only [phase, Phase.effort]
      omega
  | answered phase passes => exact effort_lt_of_answered phase passes
  | done phase => exact effort_lt_of_phase rfl rfl (by simp [phase, Phase.effort])
  | unanswered phase closed => exact effort_lt_of_phase rfl rfl (by simp [phase, Phase.effort])
  | parted phase =>
      exact effort_lt_of_phase rfl (Pipe.held_close _) (by simp [phase, Phase.effort])
  | left phase =>
      exact effort_lt_of_phase (Pipe.held_close _) (Pipe.held_close _)
        (by simp [phase, Phase.effort])

end Transfer

end DesktopGateway.Client
