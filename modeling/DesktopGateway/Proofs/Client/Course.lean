import DesktopGateway.Proofs.Client.Transfer

/-!
# The course of a transfer

The gateway takes the request and the content as they were sent, answers once, and closes the
connection. So a transfer stands as it should from its beginning on, whoever does the next step.
-/

namespace DesktopGateway.Client.Transfer

open DesktopGateway.Files
open DesktopGateway.Files.Upload
  (Order Stands IsExact emission lasting_exact effect_feed effect_work)
open DesktopGateway.Host
open DesktopGateway.Link
open DesktopGateway.Link.Endpoint (unread Gives Passes)
open DesktopGateway.Serving
open DesktopGateway.Wire

variable {site : Site} {owner : Option Nat} {order : Order} {transfer next : Transfer}

/-- The gateway has done a step that neither begins nor follows its leaving. -/
theorem Sound.of_server (sound : transfer.Sound site order) {server : Endpoint}
    {uplink downlink : Pipe} {phase : Phase} {volume : Volume} {told : List UInt8}
    (up : transfer.uplink.Resembles uplink) (down : transfer.downlink.Resembles downlink)
    (before : ¬ transfer.phase.IsOver) (after : ¬ phase.IsOver)
    (accords : Accords site order { transfer with
      server := server, uplink := uplink, downlink := downlink, phase := phase, volume := volume
      told := told } phase) :
    Sound site order { transfer with
      server := server, uplink := uplink, downlink := downlink, phase := phase, volume := volume
      told := told } := by
  have here : transfer.phase ≠ .gone := fun gone => before (gone ▸ trivial)
  have there : phase ≠ .gone := fun gone => after (gone ▸ trivial)
  refine ⟨sound.sendable, sound.limited, ?_, ?_, ?_, fun waits => ?_, fun waits => ?_, accords⟩
  · dsimp only
    rw [up.capacity]
    exact sound.upward
  · dsimp only
    rw [down.capacity]
    exact sound.downward
  · exact sound.sender.mono fun gone => absurd gone here
  · dsimp only
    rw [up.closed, sound.uplink waits]
    exact or_congr_right ⟨fun gone => absurd gone here, fun gone => absurd gone there⟩
  · dsimp only
    rw [down.closed, sound.downlink waits]
    exact ⟨fun finished => absurd finished before, fun finished => absurd finished after⟩

/-- While the gateway reads, nothing is lost that the client sends. -/
theorem Sound.coming_of_closed (sound : transfer.Sound site order)
    (waits : transfer.returned = none) (here : transfer.phase ≠ .gone)
    (closed : transfer.uplink.closed = true) : transfer.sender.owed = [] := by
  obtain ⟨fault, failed⟩ := ((sound.uplink waits).mp closed).resolve_right here
  rw [failed]
  rfl

/-! ## Accepting -/

theorem Sound.greeted (sound : transfer.Sound site order)
    {onByte : UInt8 → Demand (Except Fault Service)} {onEnd : Demand (Except Fault Service)}
    {value : UInt8} {server : Endpoint} {uplink : Pipe}
    (phase : transfer.phase = .accepting (.next onByte onEnd))
    (front : unread (transfer.server, transfer.uplink) = value :: unread (server, uplink))
    (resembles : transfer.uplink.Resembles uplink) :
    Sound site order { transfer with
      phase := .accepting (onByte value), server := server, uplink := uplink } := by
  obtain ⟨quiet, recorded, ahead, takes, same⟩ := sound.accords_at phase
  obtain ⟨first, more, rfl, further⟩ := takes.of_next
  rw [coming, front] at same
  obtain ⟨rfl, rest⟩ := List.cons.inj same
  exact sound.of_server resembles (.refl _) (by rw [phase]; exact id) id
    ⟨⟨quiet.told, quiet.heard, quiet.verdict, quiet.waits⟩, recorded, more, further, rest⟩

/-- The client has sent the byte of its service before anything can end. -/
theorem Sound.not_ungreeted (sound : transfer.Sound site order)
    {onByte : UInt8 → Demand (Except Fault Service)} {onEnd : Demand (Except Fault Service)}
    (phase : transfer.phase = .accepting (.next onByte onEnd))
    (closed : transfer.uplink.closed = true) :
    unread (transfer.server, transfer.uplink) ≠ [] := by
  intro empty
  have here : transfer.phase ≠ .gone := by
    rw [phase]
    exact nofun
  obtain ⟨quiet, -, ahead, takes, same⟩ := sound.accords_at phase
  obtain ⟨first, more, rfl, -⟩ := takes.of_next
  rw [coming, empty, sound.coming_of_closed quiet.waits here closed] at same
  cases same

theorem Sound.welcomed (sound : transfer.Sound site order)
    (phase : transfer.phase = .accepting (.done (.ok .store))) :
    Sound site order { transfer with
      server := { transfer.server with service := .store }
      phase := .handling (.start .store) } := by
  obtain ⟨quiet, recorded, ahead, takes, same⟩ := sound.accords_at phase
  obtain ⟨-, rfl⟩ := takes.of_done
  have stands : Stands site order (.start .store) transfer.coming := by
    rw [same, List.nil_append]
    exact .start rfl sound.sendable
  exact sound.of_server (.refl _) (.refl _) (by rw [phase]; exact id) id
    ⟨⟨quiet.told, quiet.heard, quiet.verdict, quiet.waits⟩, recorded, stands,
      ⟨⟨site.home, []⟩, .file 0⟩, trivial⟩

theorem Sound.accepted (sound : transfer.Sound site order) {outcome : Except Fault Service}
    (phase : transfer.phase = .accepting (.done outcome)) : outcome = .ok .store := by
  obtain ⟨-, -, ahead, takes, -⟩ := sound.accords_at phase
  exact takes.of_done.1

/-! ## Handling -/

theorem safeName_named (order : Order) (other : String)
    (same : SafeName.ofName? order.name = some other) : other = safeName order := by
  rw [safeName, same]
  rfl

/-- What a source gives meets a wish, as long as nothing behind it is lost. -/
theorem delivers_of_gives {wish : Wish} {source later : Endpoint × Pipe} {delivery : Delivery}
    {behind : List UInt8} (gives : Gives source wish.room later delivery)
    (given : delivery ≠ .waiting) (ended : source.2.closed = true → behind = []) :
    Delivers wish (unread source ++ behind) delivery (unread later ++ behind) := by
  cases gives with
  | bytes first more short whole =>
      rw [whole, List.append_assoc]
      exact .bytes first more _ short
  | ended closed empty rest =>
      rw [empty, rest, ended closed]
      exact .ended
  | waiting => exact absurd rfl given

/-- A stage is given what comes next of all that the client sends. -/
theorem Sound.delivers (sound : transfer.Sound site order) {stage : Upload.Stage} {wish : Wish}
    {delivery : Delivery} {later : Endpoint × Pipe} (phase : transfer.phase = .handling stage)
    (gives : Gives (transfer.server, transfer.uplink) wish.room later delivery)
    (given : delivery ≠ .waiting) :
    Delivers wish transfer.coming delivery (unread later ++ transfer.sender.owed) := by
  have here : transfer.phase ≠ .gone := by
    rw [phase]
    exact nofun
  obtain ⟨quiet, -⟩ := sound.accords_at phase
  exact delivers_of_gives gives given (sound.coming_of_closed quiet.waits here)

theorem Sound.fed (sound : transfer.Sound site order) {stage : Upload.Stage} {wish : Wish}
    {delivery : Delivery} {server : Endpoint} {uplink : Pipe}
    (phase : transfer.phase = .handling stage) (wished : stage.wish? = some wish)
    (gives : Gives (transfer.server, transfer.uplink) wish.room (server, uplink) delivery)
    (given : delivery ≠ .waiting) (resembles : transfer.uplink.Resembles uplink) :
    Sound site order { transfer with
      phase := .handling (stage.feed transfer.volume delivery).1
      volume := (stage.feed transfer.volume delivery).2
      server := server
      uplink := uplink } := by
  obtain ⟨quiet, recorded, stands, upload, put⟩ := sound.accords_at phase
  have delivers := sound.delivers phase gives given
  refine sound.of_server resembles (.refl _) (by rw [phase]; exact id) id
    ⟨⟨quiet.told, quiet.heard, quiet.verdict, quiet.waits⟩, ?_, ?_, upload, ?_⟩
  · exact (@effect_feed site none _ _ _ _ _ _ stands wished delivers _).recorded recorded
  · exact stands.feed wished delivers transfer.volume
  · exact (@lasting_exact site none (safeName order) [order]).feed List.mem_cons_self stands wished
      delivers put

theorem Sound.worked (sound : transfer.Sound site order) (owner : Option Nat) {stage : Upload.Stage}
    (phase : transfer.phase = .handling stage) :
    Sound site order { transfer with
      phase := .handling (stage.work site owner transfer.volume).1
      volume := (stage.work site owner transfer.volume).2 } := by
  obtain ⟨quiet, recorded, stands, put⟩ := sound.accords_at phase
  refine sound.of_server (.refl _) (.refl _) (by rw [phase]; exact id) id
    ⟨⟨quiet.told, quiet.heard, quiet.verdict, quiet.waits⟩, ?_, ?_, ?_⟩
  · exact (effect_work stands owner transfer.volume).recorded recorded
  · exact stands.work owner transfer.volume
  · exact (@lasting_exact site owner (safeName order) [order]).work_any stands
      (safeName_named order) recorded put

/-! ## Answering -/

/-- When the upload is stored, the whole content has come and nothing is left to be sent. -/
theorem Sound.stored (sound : transfer.Sound site order)
    (phase : transfer.phase = .handling (.settled (.ok ()))) :
    Stored site order transfer.volume ∧ transfer.sender.IsDone := by
  have running := sound.sender
  rw [phase] at running
  obtain ⟨-, -, stands, upload, number, -, opens, holds⟩ := sound.accords_at phase
  generalize same : transfer.coming = rest at stands
  cases stands with
  | @stored safe usable enough =>
      obtain rfl := safeName_named order safe usable
      rw [List.drop_of_length_le sound.limited] at same
      refine ⟨⟨_, usable, enough, holds.readsAs opens⟩, ?_⟩
      exact (running.mono nofun).isDone enough (List.append_eq_nil_iff.mp same).2

theorem Sound.settled (sound : transfer.Sound site order)
    {result : Except Serving.Failure Unit} (phase : transfer.phase = .handling (.settled result)) :
    Sound site order { transfer with phase := .answering (emission result).bytes } := by
  obtain ⟨quiet, -, -, -⟩ := sound.accords_at phase
  refine sound.of_server (.refl _) (.refl _) (by rw [phase]; exact id) id ⟨result, ?_, ?_, ?_, ?_⟩
  · exact congrArg (· ++ _) quiet.told
  · dsimp only
    rw [quiet.verdict, quiet.heard, List.nil_append]
  · rintro rfl
    exact sound.stored phase
  · rintro outcome (returned : transfer.returned = some outcome)
    rw [quiet.waits] at returned
    cases returned

theorem Sound.answered (sound : transfer.Sound site order) {bytes rest : List UInt8}
    {server : Endpoint} {downlink : Pipe} (phase : transfer.phase = .answering (bytes ++ rest))
    (passes : Passes (transfer.server, transfer.downlink) bytes (server, downlink)) :
    Sound site order { transfer with
      phase := .answering rest
      server := server
      downlink := downlink
      told := transfer.told ++ bytes } := by
  obtain ⟨result, answered⟩ := sound.accords_at phase
  refine sound.of_server (.refl _) passes.resembles (by rw [phase]; exact id) id
    ⟨result, ?_, ?_, answered.stored, answered.concluded⟩
  · dsimp only
    rw [List.append_assoc]
    exact answered.said
  · have held : downlink.held = transfer.downlink.held ++ bytes := passes.held
    have hears := answered.hears
    rw [unread] at hears ⊢
    dsimp only
    rw [held, List.append_assoc, List.append_assoc, ← List.append_assoc]
    exact hears

theorem Sound.done (sound : transfer.Sound site order) (phase : transfer.phase = .answering []) :
    Sound site order { transfer with phase := .parting } := by
  obtain ⟨result, answered⟩ := sound.accords_at phase
  exact sound.of_server (.refl _) (.refl _) (by rw [phase]; exact id) id
    ⟨result, [], ⟨answered.said, answered.hears, answered.stored, answered.concluded⟩, fun _ => rfl⟩

/-- An answer can only be lost when the call has returned. -/
theorem Sound.unanswered (sound : transfer.Sound site order) {pending : List UInt8}
    (phase : transfer.phase = .answering pending) (closed : transfer.downlink.closed = true) :
    Sound site order { transfer with phase := .parting } := by
  obtain ⟨result, answered⟩ := sound.accords_at phase
  refine sound.of_server (.refl _) (.refl _) (by rw [phase]; exact id) id
    ⟨result, pending, ⟨answered.said, answered.hears, answered.stored, answered.concluded⟩, ?_⟩
  intro waits
  have finished := (sound.downlink waits).mp closed
  rw [phase] at finished
  cases finished

/-! ## Leaving -/

theorem Sound.parted (sound : transfer.Sound site order) (phase : transfer.phase = .parting) :
    Sound site order { transfer with
      downlink := transfer.downlink.close, phase := .leaving } := by
  have here : transfer.phase ≠ .gone := by
    rw [phase]
    exact nofun
  obtain ⟨result, unsaid, answered, all⟩ := sound.accords_at phase
  refine ⟨sound.sendable, sound.limited, sound.upward, sound.downward,
    sound.sender.mono fun gone => absurd gone here, fun waits => ?_,
    fun _ => ⟨fun _ => trivial, fun _ => rfl⟩,
    ⟨result, unsaid, ⟨answered.said, answered.hears, answered.stored, answered.concluded⟩, all⟩⟩
  exact (sound.uplink waits).trans (or_congr_right ⟨fun gone => absurd gone here, nofun⟩)

theorem Sound.left (sound : transfer.Sound site order) (phase : transfer.phase = .leaving) :
    Sound site order { transfer with
      uplink := transfer.uplink.close, downlink := transfer.downlink.close, phase := .gone } := by
  obtain ⟨result, unsaid, answered, all⟩ := sound.accords_at phase
  exact ⟨sound.sendable, sound.limited, sound.upward, sound.downward,
    sound.sender.mono fun _ => rfl, fun _ => ⟨fun _ => .inr rfl, fun _ => rfl⟩,
    fun _ => ⟨fun _ => trivial, fun _ => rfl⟩,
    ⟨result, unsaid, ⟨answered.said, answered.hears, answered.stored, answered.concluded⟩, all⟩⟩

/-! ## The whole course -/

/-- Whoever does a step, the transfer stands as it should. -/
theorem Sound.moves (sound : transfer.Sound site order) (moves : Moves site owner transfer next) :
    next.Sound site order := by
  cases moves with
  | loaded waits sender some => exact sound.loaded waits sender some
  | sent waits sender passes => exact sound.sent waits sender passes
  | finished waits sender => exact sound.finished waits sender
  | short waits sender => exact sound.short waits sender _
  | broken waits sender closed => exact sound.broken waits sender closed _
  | failed waits sender => exact sound.failed sender
  | heard waits verdict front resembles => exact sound.heard waits verdict front resembles
  | unheard waits verdict closed empty rest resembles =>
      exact sound.unheard waits verdict closed empty rest resembles
  | concluded waits known settled => exact sound.concluded known settled
  | greeted phase front resembles => exact sound.greeted phase front resembles
  | ungreeted phase closed empty => exact absurd empty (sound.not_ungreeted phase closed)
  | welcomed phase => exact sound.welcomed phase
  | rejected phase other => exact absurd (sound.accepted phase) other
  | fed phase wished gives given resembles => exact sound.fed phase wished gives given resembles
  | worked phase => exact sound.worked owner phase
  | settled phase => exact sound.settled phase
  | answered phase passes => exact sound.answered phase passes
  | done phase => exact sound.done phase
  | unanswered phase closed => exact sound.unanswered phase closed
  | parted phase => exact sound.parted phase
  | left phase => exact sound.left phase

theorem Sound.follow (sound : transfer.Sound site order) {turns : List Turn}
    (follows : transfer.follow site owner turns = some next) : next.Sound site order := by
  induction turns generalizing transfer with
  | nil =>
      cases follows
      exact sound
  | cons turn turns ih =>
      obtain ⟨middle, first, rest⟩ := Option.bind_eq_some_iff.mp follows
      exact ih (sound.moves (moves_of_turn first)) rest

/-! ## What is sent -/

theorem phase_of_gone (moves : Moves site owner transfer next) (gone : transfer.phase = .gone) :
    next.phase = .gone := by
  cases moves with
  | greeted phase => cases gone.symm.trans phase
  | ungreeted phase => cases gone.symm.trans phase
  | welcomed phase => cases gone.symm.trans phase
  | rejected phase => cases gone.symm.trans phase
  | fed phase => cases gone.symm.trans phase
  | worked phase => cases gone.symm.trans phase
  | settled phase => cases gone.symm.trans phase
  | answered phase => cases gone.symm.trans phase
  | done phase => cases gone.symm.trans phase
  | unanswered phase => cases gone.symm.trans phase
  | parted phase => cases gone.symm.trans phase
  | left => rfl
  | _ => exact gone

/-- As long as the gateway stays, a sender writes what it owes, and its fate is the same. -/
theorem Sound.sends (sound : transfer.Sound site order) (moves : Moves site owner transfer next)
    (stays : transfer.phase ≠ .gone) :
    ∃ written, transfer.sender.owed = written ++ next.sender.owed ∧
      next.sender.fate = transfer.sender.fate := by
  cases moves with
  | @loaded pending bytes rest copied missing waits sender =>
      have taken : (bytes ++ rest).take (bytes.length + missing) = bytes ++ rest.take missing :=
        List.take_length_add_append missing
      refine ⟨[], ?_, ?_⟩
      · simp only [sender, Sender.owed, taken, List.nil_append, List.append_assoc]
      · simp only [sender, Sender.fate, taken, List.length_append, Nat.add_assoc,
          Nat.add_lt_add_iff_left]
  | @sent bytes rest source copied missing client uplink waits sender =>
      refine ⟨bytes, ?_, ?_⟩
      · simp only [sender, Sender.owed, List.append_assoc]
      · simp only [sender, Sender.fate]
  | finished waits sender =>
      refine ⟨[], ?_, ?_⟩
      · simp [sender, Sender.owed]
      · simp [sender, Sender.fate]
  | short waits sender =>
      refine ⟨[], ?_, ?_⟩
      · simp [sender, Sender.owed]
      · simp [sender, Sender.fate]
  | broken waits sender closed =>
      rcases (sound.uplink waits).mp closed with ⟨fault, failed⟩ | gone
      · cases sender.symm.trans failed
      · exact absurd gone stays
  | failed waits sender =>
      refine ⟨[], ?_, ?_⟩
      · simp [sender, Sender.owed]
      · simp [sender, Sender.fate]
  | _ => exact ⟨[], rfl, rfl⟩

theorem Sound.sends_of_follow (sound : transfer.Sound site order) {turns : List Turn}
    (follows : transfer.follow site owner turns = some next) (stays : next.phase ≠ .gone) :
    transfer.phase ≠ .gone ∧ ∃ written, transfer.sender.owed = written ++ next.sender.owed ∧
      next.sender.fate = transfer.sender.fate := by
  induction turns generalizing transfer with
  | nil =>
      cases follows
      exact ⟨stays, [], rfl, rfl⟩
  | cons turn turns ih =>
      obtain ⟨middle, first, rest⟩ := Option.bind_eq_some_iff.mp follows
      have moves := moves_of_turn first
      obtain ⟨later, back, behind, fate⟩ := ih (sound.moves moves) rest
      have before : transfer.phase ≠ .gone := fun gone => later (phase_of_gone moves gone)
      obtain ⟨front, ahead, same⟩ := sound.sends moves before
      exact ⟨before, front ++ back, by rw [ahead, behind, List.append_assoc], fate.trans same⟩

end DesktopGateway.Client.Transfer
