import DesktopGateway.Proofs.Client.Moves
import DesktopGateway.Proofs.Link.Reply

/-!
# How a transfer stands

Whoever does the next step, what the gateway has not read yet is the rest of the request and of the
content, and what the client has not been told yet is the rest of the answer. The sending has failed
only when the content is too short or when nobody reads any more.
-/

namespace DesktopGateway.Client

open DesktopGateway.Files
open DesktopGateway.Files.Upload (Order Stands IsExact targetPlace emission)
open DesktopGateway.Host
open DesktopGateway.Link
open DesktopGateway.Link.Endpoint (unread)
open DesktopGateway.Serving
open DesktopGateway.Wire

namespace Sender

def owed : Sender → List UInt8
  | sending pending source _ missing => pending ++ source.take missing
  | failing _ | ended _ => []

/-- The fault that it ends with when all of them can be written. -/
def fate : Sender → Option Fault
  | sending _ source copied missing =>
      let there := (source.take missing).length
      if there < missing then some (.shortContent (copied + missing) (copied + there)) else none
  | failing fault => some fault
  | ended fault => fault

/-- At first it owes the whole message, and its fate is the fault of the message. -/
theorem emission_start (parcel : Parcel (List UInt8)) :
    (⟨(start parcel).owed, (start parcel).fate⟩ : Parcel.Emission) = parcel.encode := by
  rw [start, Parcel.encode]
  cases parcel.header with
  | error fault => rfl
  | ok header => simp only [owed, fate, Nat.zero_add]

def IsDone : Sender → Prop
  | sending [] _ _ 0 | ended none => True
  | _ => False

def HasClosed (sender : Sender) : Prop :=
  ∃ fault, sender = ended (some fault)

/-- A sender copies the content that is there. It fails when that is too little, or when nobody
reads it any more. -/
inductive Sound (order : Order) (unread : Prop) : Sender → Prop where
  | sending {pending source : List UInt8} {copied missing : Nat}
      (total : copied + missing = order.count)
      (there : copied + (source.take missing).length = order.stream.length) :
      Sound order unread (.sending pending source copied missing)
  | failing {fault : Fault} (cause : order.stream.length < order.count ∨ unread) :
      Sound order unread (.failing fault)
  | failed {fault : Fault} (cause : order.stream.length < order.count ∨ unread) :
      Sound order unread (.ended (some fault))
  | sent (whole : order.count ≤ order.stream.length) : Sound order unread (.ended none)

theorem Sound.mono {order : Order} {first second : Prop} {sender : Sender}
    (sound : sender.Sound order first) (further : first → second) : sender.Sound order second := by
  cases sound with
  | sending total there => exact .sending total there
  | failing cause => exact .failing (cause.imp id further)
  | failed cause => exact .failed (cause.imp id further)
  | sent whole => exact .sent whole

theorem isDone_sending_iff {pending source : List UInt8} {copied missing : Nat} :
    (sending pending source copied missing).IsDone ↔ pending = [] ∧ missing = 0 := by
  cases pending with
  | nil => cases missing <;> simp [IsDone]
  | cons first more => simp [IsDone]

/-- When all content is there, a sender that owes nothing is done. -/
theorem Sound.isDone {order : Order} {sender : Sender} (sound : sender.Sound order False)
    (enough : order.count ≤ order.stream.length) (none : sender.owed = []) : sender.IsDone := by
  cases sound with
  | @sending pending source copied missing total there =>
      obtain ⟨rfl, empty⟩ := List.append_eq_nil_iff.mp none
      rw [empty, List.length_nil] at there
      obtain rfl : missing = 0 := by omega
      trivial
  | failing cause => exact absurd enough (Nat.not_le.mpr (cause.resolve_right id))
  | failed cause => exact absurd enough (Nat.not_le.mpr (cause.resolve_right id))
  | sent whole => trivial

end Sender

namespace Phase

def IsBusy : Phase → Prop
  | accepting _ | handling _ => True
  | _ => False

def IsOver : Phase → Prop
  | leaving | gone => True
  | _ => False

theorem not_isBusy_of_isOver {phase : Phase} (finished : phase.IsOver) : ¬ phase.IsBusy := by
  cases phase with
  | leaving => exact id
  | gone => exact id
  | accepting demand => cases finished
  | handling stage => cases finished
  | answering pending => cases finished
  | parting => cases finished

end Phase

namespace Call

/-- A call ends as its verdict says: a refusal is passed on with its reason, and nothing but an
acceptance makes a success. -/
structure Follows (verdict outcome : Except Fault Unit) : Prop where
  accepted : verdict = .ok () ↔ outcome = .ok ()
  refused : ∀ reason, verdict = .error (.remote reason) → outcome = .error (.remote reason)

theorem follows_of_settle {verdict outcome : Except Fault Unit} {sending : Sending}
    (settled : settle verdict sending = some outcome)
    (sent : verdict = .ok () → ∀ fault, sending ≠ .ended (some fault)) :
    Follows verdict outcome := by
  cases verdict with
  | ok accepted =>
      cases sending with
      | underway => cases settled
      | ended fault =>
          cases fault with
          | none =>
              cases settled
              exact ⟨Iff.rfl, fun _ impossible => by cases impossible⟩
          | some fault => exact absurd rfl (sent rfl fault)
  | error fault =>
      have failed : ∃ other, outcome = .error other := by
        unfold settle at settled
        split at settled
        · cases settled
        · rename_i impossible
          cases impossible
        · rename_i impossible
          cases impossible
        · cases settled
          exact ⟨_, rfl⟩
        · cases settled
          exact ⟨_, rfl⟩
        · cases settled
          exact ⟨_, rfl⟩
      obtain ⟨other, rfl⟩ := failed
      refine ⟨⟨nofun, nofun⟩, ?_⟩
      rintro reason ⟨⟩
      cases sending <;> cases settled <;> rfl

end Call

namespace Transfer

def coming (transfer : Transfer) : List UInt8 :=
  unread (transfer.server, transfer.uplink) ++ transfer.sender.owed

structure Silent (transfer : Transfer) : Prop where
  told : transfer.told = []
  heard : unread (transfer.client, transfer.downlink) = []
  verdict : transfer.verdict = Endpoint.verdict
  waits : transfer.returned = none

def Stored (site : Site) (order : Order) (volume : Volume) : Prop :=
  ∃ safe, SafeName.ofName? order.name = some safe ∧ order.count ≤ order.stream.length ∧
    volume.ReadsAs (targetPlace site safe).bytes order.content

/-- The gateway answers what came of the upload. Some of the answer is still unsaid. -/
structure Answered (site : Site) (order : Order) (result : Except Serving.Failure Unit)
    (unsaid : List UInt8) (transfer : Transfer) : Prop where
  said : transfer.told ++ unsaid = (emission result).bytes
  hears : transfer.verdict.run (unread (transfer.client, transfer.downlink) ++ unsaid) =
    Endpoint.verdict.run (emission result).bytes
  stored : result = .ok () → Stored site order transfer.volume ∧ transfer.sender.IsDone
  concluded : ∀ outcome, transfer.returned = some outcome →
    ∃ verdict, transfer.verdict = .done verdict ∧ Call.Follows verdict outcome

def safeName (order : Order) : String :=
  (SafeName.ofName? order.name).getD ""

def Accords (site : Site) (order : Order) (transfer : Transfer) : Phase → Prop
  | .accepting demand =>
      transfer.Silent ∧ transfer.volume.Recorded ∧ ∃ front, demand.Takes front (.ok .store) ∧
        transfer.coming =
          front ++ ((Parcel.storeRequest order.name order.size ()).headerBytes ++ order.stream)
  | .handling stage =>
      transfer.Silent ∧ transfer.volume.Recorded ∧ Stands site order stage transfer.coming ∧
        ∃ upload, stage.HasPut (IsExact site (safeName order)) order transfer.volume upload
  | .answering pending => ∃ result, transfer.Answered site order result pending
  | .parting | .leaving | .gone =>
      ∃ result unsaid, transfer.Answered site order result unsaid ∧
        (transfer.returned = none → unsaid = [])

/-- A transfer for an order. As long as the call waits, a pipe is closed when its writer has failed
or when one of its sides has gone, and not before. -/
structure Sound (site : Site) (order : Order) (transfer : Transfer) : Prop where
  sendable : (Parcel.storeRequest order.name order.size ()).IsSendable
  limited : order.stream.length ≤ order.count
  upward : 0 < transfer.uplink.capacity
  downward : 0 < transfer.downlink.capacity
  sender : transfer.sender.Sound order (transfer.phase = .gone)
  uplink : transfer.returned = none →
    (transfer.uplink.closed = true ↔ transfer.sender.HasClosed ∨ transfer.phase = .gone)
  downlink : transfer.returned = none →
    (transfer.downlink.closed = true ↔ transfer.phase.IsOver)
  accords : transfer.Accords site order transfer.phase

variable {site : Site} {owner : Option Nat} {order : Order} {transfer next : Transfer}

theorem Sound.accords_at (sound : transfer.Sound site order) {phase : Phase}
    (here : transfer.phase = phase) : transfer.Accords site order phase :=
  here ▸ sound.accords

/-! ## The steps of the client -/

/-- A step of the sender concerns nobody else. -/
theorem Answered.of_sender {result : Except Serving.Failure Unit} {unsaid : List UInt8}
    (answered : transfer.Answered site order result unsaid) {client : Endpoint} {sender : Sender}
    {uplink : Pipe} (ahead : client.ahead = transfer.client.ahead)
    (done : transfer.sender.IsDone → sender.IsDone) :
    Answered site order result unsaid
      { transfer with sender := sender, client := client, uplink := uplink } := by
  refine ⟨answered.said, ?_, fun ok => ?_, answered.concluded⟩
  · dsimp only
    rw [Endpoint.unread_of_ahead ahead]
    exact answered.hears
  · obtain ⟨stored, before⟩ := answered.stored ok
    exact ⟨stored, done before⟩

theorem Accords.of_sender {phase : Phase} (accords : transfer.Accords site order phase)
    {client : Endpoint} {sender : Sender} {uplink : Pipe}
    (ahead : client.ahead = transfer.client.ahead)
    (coming : phase ≠ .gone → unread (transfer.server, uplink) ++ sender.owed = transfer.coming)
    (done : transfer.sender.IsDone → sender.IsDone) :
    Accords site order
      { transfer with sender := sender, client := client, uplink := uplink } phase := by
  have silent (quiet : transfer.Silent) :
      Silent { transfer with sender := sender, client := client, uplink := uplink } :=
    ⟨quiet.told, (Endpoint.unread_of_ahead ahead _).trans quiet.heard, quiet.verdict,
      quiet.waits⟩
  cases phase with
  | accepting demand =>
      obtain ⟨quiet, recorded, front, takes, same⟩ := accords
      exact ⟨silent quiet, recorded, front, takes, (coming nofun).trans same⟩
  | handling stage =>
      obtain ⟨quiet, recorded, stands, put⟩ := accords
      refine ⟨silent quiet, recorded, ?_, put⟩
      have same : Transfer.coming
          { transfer with sender := sender, client := client, uplink := uplink } =
            transfer.coming := coming nofun
      rwa [same]
  | answering pending =>
      obtain ⟨result, answered⟩ := accords
      exact ⟨result, answered.of_sender ahead done⟩
  | parting =>
      obtain ⟨result, unsaid, answered, all⟩ := accords
      exact ⟨result, unsaid, answered.of_sender ahead done, all⟩
  | leaving =>
      obtain ⟨result, unsaid, answered, all⟩ := accords
      exact ⟨result, unsaid, answered.of_sender ahead done, all⟩
  | gone =>
      obtain ⟨result, unsaid, answered, all⟩ := accords
      exact ⟨result, unsaid, answered.of_sender ahead done, all⟩

/-- The sender of a call that waits has done a step. -/
theorem Sound.of_sender (sound : transfer.Sound site order) {client : Endpoint} {sender : Sender}
    {uplink : Pipe} (ahead : client.ahead = transfer.client.ahead)
    (capacity : uplink.capacity = transfer.uplink.capacity)
    (running : sender.Sound order (transfer.phase = .gone))
    (closed : uplink.closed = true ↔ sender.HasClosed ∨ transfer.phase = .gone)
    (coming : transfer.phase ≠ .gone →
      unread (transfer.server, uplink) ++ sender.owed = transfer.coming)
    (done : transfer.sender.IsDone → sender.IsDone) :
    Sound site order { transfer with sender := sender, client := client, uplink := uplink } where
  sendable := sound.sendable
  limited := sound.limited
  upward := by
    dsimp only
    rw [capacity]
    exact sound.upward
  downward := sound.downward
  sender := running
  uplink _ := closed
  downlink := sound.downlink
  accords := sound.accords.of_sender ahead coming done

theorem Sound.loaded (sound : transfer.Sound site order) {pending bytes rest : List UInt8}
    {copied missing : Nat} (waits : transfer.returned = none)
    (sender : transfer.sender = .sending pending (bytes ++ rest) copied (bytes.length + missing))
    (some : bytes ≠ []) :
    Sound site order { transfer with
      sender := .sending (pending ++ bytes) rest (copied + bytes.length) missing } := by
  have running := sound.sender
  have closed := sound.uplink waits
  rw [sender] at running closed
  have taken : (bytes ++ rest).take (bytes.length + missing) = bytes ++ rest.take missing :=
    List.take_length_add_append missing
  refine sound.of_sender rfl rfl ?_ ?_ (fun _ => ?_) (fun done => ?_)
  · cases running with
    | sending total there =>
        rw [taken, List.length_append] at there
        exact .sending (by omega) (by omega)
  · rw [closed]
    exact or_congr_left ⟨nofun, nofun⟩
  · rw [coming, sender, Sender.owed, Sender.owed, taken, List.append_assoc]
  · rw [sender, Sender.isDone_sending_iff] at done
    exact absurd (List.length_eq_zero_iff.mp (Nat.eq_zero_of_add_eq_zero_right done.2)) some

theorem Sound.sent (sound : transfer.Sound site order) {bytes rest source : List UInt8}
    {copied missing : Nat} {client : Endpoint} {uplink : Pipe} (waits : transfer.returned = none)
    (sender : transfer.sender = .sending (bytes ++ rest) source copied missing)
    (passes : Endpoint.Passes (transfer.client, transfer.uplink) bytes (client, uplink)) :
    Sound site order { transfer with
      sender := .sending rest source copied missing, client := client, uplink := uplink } := by
  have running := sound.sender
  have closed := sound.uplink waits
  rw [sender] at running closed
  refine sound.of_sender passes.ahead passes.resembles.capacity ?_ ?_ (fun _ => ?_)
    (fun done => ?_)
  · cases running with
    | sending total there => exact .sending total there
  · have same : uplink.closed = transfer.uplink.closed := passes.resembles.closed
    rw [same, closed]
    exact or_congr_left ⟨nofun, nofun⟩
  · have held : uplink.held = transfer.uplink.held ++ bytes := passes.held
    rw [coming, sender, unread, unread, held, Sender.owed, Sender.owed]
    simp only [List.append_assoc]
  · rw [sender, Sender.isDone_sending_iff] at done
    exact absurd (List.append_eq_nil_iff.mp done.1).1 passes.some

theorem Sound.finished (sound : transfer.Sound site order) {source : List UInt8} {copied : Nat}
    (waits : transfer.returned = none) (sender : transfer.sender = .sending [] source copied 0) :
    Sound site order { transfer with sender := .ended none } := by
  have running := sound.sender
  have closed := sound.uplink waits
  rw [sender] at running closed
  refine sound.of_sender rfl rfl ?_ ?_ (fun _ => ?_) (fun _ => trivial)
  · cases running with
    | sending total there =>
        rw [List.take_zero, List.length_nil] at there
        exact .sent (by omega)
  · rw [closed]
    exact or_congr_left ⟨nofun, nofun⟩
  · rw [coming, sender]
    rfl

theorem Sound.short (sound : transfer.Sound site order) {copied missing : Nat}
    (waits : transfer.returned = none)
    (sender : transfer.sender = .sending [] [] copied (missing + 1)) (fault : Fault) :
    Sound site order { transfer with sender := .failing fault } := by
  have running := sound.sender
  have closed := sound.uplink waits
  rw [sender] at running closed
  refine sound.of_sender rfl rfl ?_ ?_ (fun _ => ?_) (fun done => ?_)
  · cases running with
    | sending total there =>
        rw [List.take_nil, List.length_nil] at there
        exact .failing (.inl (by omega))
  · rw [closed]
    exact or_congr_left ⟨nofun, nofun⟩
  · rw [coming, sender]
    rfl
  · rw [sender] at done
    cases done

theorem Sound.broken (sound : transfer.Sound site order) {first : UInt8} {more source : List UInt8}
    {copied missing : Nat} (waits : transfer.returned = none)
    (sender : transfer.sender = .sending (first :: more) source copied missing)
    (shut : transfer.uplink.closed = true) (fault : Fault) :
    Sound site order { transfer with sender := .failing fault } := by
  have closed := sound.uplink waits
  rw [sender] at closed
  have gone : transfer.phase = .gone := (closed.mp shut).resolve_left nofun
  refine sound.of_sender rfl rfl (.failing (.inr gone)) ?_ (fun still => absurd gone still)
    (fun done => ?_)
  · rw [closed]
    exact or_congr_left ⟨nofun, nofun⟩
  · rw [sender] at done
    cases done

theorem Sound.failed (sound : transfer.Sound site order) {fault : Fault}
    (sender : transfer.sender = .failing fault) :
    Sound site order { transfer with
      sender := .ended (some fault), uplink := transfer.uplink.close } := by
  have running := sound.sender
  rw [sender] at running
  refine sound.of_sender rfl rfl ?_ ?_ (fun _ => ?_) (fun done => ?_)
  · cases running with
    | failing cause => exact .failed cause
  · exact ⟨fun _ => .inl ⟨fault, rfl⟩, fun _ => rfl⟩
  · rw [coming, sender]
    rfl
  · rw [sender] at done
    cases done

/-! ## The verdict -/

/-- Where something has been said or heard, the upload has been answered. -/
theorem Accords.answered {phase : Phase} (accords : transfer.Accords site order phase)
    (loud : phase.IsBusy → ¬ transfer.Silent) :
    ∃ result unsaid, transfer.Answered site order result unsaid ∧
      (phase.IsOver → transfer.returned = none → unsaid = []) ∧
      ∀ later : Transfer, later.Answered site order result unsaid →
        (later.returned = none → transfer.returned = none) → later.Accords site order phase := by
  cases phase with
  | accepting demand => exact absurd accords.1 (loud trivial)
  | handling stage => exact absurd accords.1 (loud trivial)
  | answering pending =>
      obtain ⟨result, answered⟩ := accords
      exact ⟨result, pending, answered, nofun, fun later again _ => ⟨result, again⟩⟩
  | parting =>
      obtain ⟨result, unsaid, answered, all⟩ := accords
      exact ⟨result, unsaid, answered, fun _ => all,
        fun later again still => ⟨result, unsaid, again, fun waits => all (still waits)⟩⟩
  | leaving =>
      obtain ⟨result, unsaid, answered, all⟩ := accords
      exact ⟨result, unsaid, answered, fun _ => all,
        fun later again still => ⟨result, unsaid, again, fun waits => all (still waits)⟩⟩
  | gone =>
      obtain ⟨result, unsaid, answered, all⟩ := accords
      exact ⟨result, unsaid, answered, fun _ => all,
        fun later again still => ⟨result, unsaid, again, fun waits => all (still waits)⟩⟩

/-- The reader of a call that waits has done a step. -/
theorem Sound.of_reader (sound : transfer.Sound site order) (waits : transfer.returned = none)
    {verdict : Demand (Except Fault Unit)} {client : Endpoint} {downlink : Pipe}
    (resembles : transfer.downlink.Resembles downlink)
    (accords : Accords site order
      { transfer with verdict := verdict, client := client, downlink := downlink } transfer.phase) :
    Sound site order { transfer with
      verdict := verdict, client := client, downlink := downlink } where
  sendable := sound.sendable
  limited := sound.limited
  upward := sound.upward
  downward := by
    dsimp only
    rw [resembles.capacity]
    exact sound.downward
  sender := sound.sender
  uplink := sound.uplink
  downlink _ := by
    dsimp only
    rw [resembles.closed]
    exact sound.downlink waits
  accords := accords

theorem Sound.heard (sound : transfer.Sound site order)
    {onByte : UInt8 → Demand (Except Fault Unit)} {onEnd : Demand (Except Fault Unit)}
    {value : UInt8} {client : Endpoint} {downlink : Pipe} (waits : transfer.returned = none)
    (verdict : transfer.verdict = .next onByte onEnd)
    (front : unread (transfer.client, transfer.downlink) = value :: unread (client, downlink))
    (resembles : transfer.downlink.Resembles downlink) :
    Sound site order { transfer with
      verdict := onByte value, client := client, downlink := downlink } := by
  have loud : ¬ transfer.Silent := by
    intro quiet
    rw [quiet.heard] at front
    cases front
  obtain ⟨result, unsaid, answered, -, again⟩ := sound.accords.answered fun _ => loud
  refine sound.of_reader waits resembles (again _ ⟨answered.said, ?_, answered.stored, ?_⟩ id)
  · have hears := answered.hears
    rw [verdict, front] at hears
    exact hears
  · intro outcome returned
    rw [waits] at returned
    cases returned

theorem Sound.unheard (sound : transfer.Sound site order)
    {onByte : UInt8 → Demand (Except Fault Unit)} {onEnd : Demand (Except Fault Unit)}
    {client : Endpoint} {downlink : Pipe} (waits : transfer.returned = none)
    (verdict : transfer.verdict = .next onByte onEnd) (closed : transfer.downlink.closed = true)
    (empty : unread (transfer.client, transfer.downlink) = [])
    (rest : unread (client, downlink) = []) (resembles : transfer.downlink.Resembles downlink) :
    Sound site order { transfer with
      verdict := .done (onEnd.run []).1, client := client, downlink := downlink } := by
  have finished := (sound.downlink waits).mp closed
  obtain ⟨result, unsaid, answered, all, again⟩ :=
    sound.accords.answered fun busy => absurd busy (Phase.not_isBusy_of_isOver finished)
  obtain rfl := all finished waits
  refine sound.of_reader waits resembles (again _ ⟨answered.said, ?_, answered.stored, ?_⟩ id)
  · have hears := answered.hears
    rw [verdict, empty, List.append_nil, Demand.run_next_nil] at hears
    dsimp only
    rw [rest, List.append_nil, Demand.run_done, ← hears]
    exact Prod.ext rfl (Demand.run_nil onEnd).symm
  · intro outcome returned
    rw [waits] at returned
    cases returned

/-- Whatever is answered, a verdict and its answer tell the same. -/
theorem verdict_emission (result : Except Serving.Failure Unit) :
    (Endpoint.verdict.run (emission result).bytes).1 = .ok () ↔ result = .ok () := by
  cases result with
  | ok stored => exact ⟨fun _ => rfl, fun _ => rfl⟩
  | error failure =>
      refine ⟨fun accepted => ?_, nofun⟩
      obtain ⟨rest, opens⟩ := Endpoint.refusal_opens failure.message
      rw [emission, opens, Endpoint.verdict_run_refused] at accepted
      cases read : (Field.readLine.run rest).1 <;> rw [read] at accepted <;> cases accepted

theorem Sound.concluded (sound : transfer.Sound site order) {verdict outcome : Except Fault Unit}
    (known : transfer.verdict = .done verdict)
    (settled : Call.settle verdict transfer.sender.shown = some outcome) :
    Sound site order { transfer with
      returned := some outcome
      uplink := transfer.uplink.close
      downlink := transfer.downlink.close } := by
  have loud : ¬ transfer.Silent := by
    intro quiet
    rw [quiet.verdict] at known
    cases known
  obtain ⟨result, unsaid, answered, -, again⟩ := sound.accords.answered fun _ => loud
  have hears := answered.hears
  rw [known, Demand.run_done] at hears
  refine ⟨sound.sendable, sound.limited, sound.upward, sound.downward, sound.sender, nofun, nofun,
    again _ ⟨answered.said, answered.hears, answered.stored, ?_⟩ nofun⟩
  rintro _ ⟨⟩
  refine ⟨verdict, known, Call.follows_of_settle settled ?_⟩
  rintro rfl fault failed
  have ok : result = .ok () := (verdict_emission result).mp (congrArg Prod.fst hears).symm
  obtain ⟨-, done⟩ := answered.stored ok
  cases sender : transfer.sender with
  | sending pending source copied missing =>
      rw [sender] at failed
      cases failed
  | failing other =>
      rw [sender] at failed
      cases failed
  | ended other =>
      rw [sender] at failed done
      cases failed
      cases done

end Transfer

end DesktopGateway.Client
