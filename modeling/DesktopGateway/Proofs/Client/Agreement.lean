import DesktopGateway.Proofs.Client.Progress
import DesktopGateway.Proofs.Files.StoredUpload

/-!
# What both sides of an upload agree on

A call for an upload comes back. It succeeds just when the gateway has stored the file and said so,
and when the gateway has refused the upload the call fails with the reason of the refusal.
-/

namespace DesktopGateway.Client

open DesktopGateway.Files
open DesktopGateway.Files.Upload (Order emission targetPlace usedSite usedVolume)
open DesktopGateway.Link
open DesktopGateway.Link.Endpoint (unread)
open DesktopGateway.Serving
open DesktopGateway.Wire

/-- What a call for an upload orders: its name and size, and as much of its content as is asked
for. -/
def ordered (name : String) (size : Int64) (content : List UInt8) : Order :=
  ⟨name, size, content.take size.toNatClampNeg⟩

theorem isSendable_of_check {name : String} {size : Int64} {content : List UInt8}
    (checked : (Call.store name size content).check = .ok ()) :
    (Parcel.storeRequest name size content).IsSendable := by
  rw [Call.check, Call.checkText] at checked
  cases line : Field.checkLine name with
  | error fault =>
      rw [line] at checked
      cases checked
  | ok count =>
      rw [line] at checked
      exact ⟨(Parcel.checkSize_eq_ok_iff size ()).mp checked,
        ((Field.checkLine_eq_ok_iff name count).mp line).1⟩

namespace Transfer

variable {site : Site} {owner : Option Nat} {order : Order} {transfer next : Transfer}

/-- The byte that opens a connection is in its pipe. -/
theorem uplink_start (parcel : Parcel (List UInt8)) (volume : Volume) {upward : Nat}
    (roomy : 0 < upward) (downward : Nat) (gateway peer : String) :
    (start parcel volume upward downward gateway peer).uplink =
      ⟨upward, [[Service.store.code]], false⟩ := by
  have fits : [Service.store.code].take (upward - 0) = [Service.store.code] :=
    List.take_of_length_le roomy
  exact congrArg (fun bytes => Pipe.mk upward [bytes] false) fits

/-- A transfer stands as it should when its connection has been opened. -/
theorem sound_start (site : Site) {volume : Volume} (recorded : volume.Recorded) {name : String}
    {size : Int64} {content : List UInt8}
    (sendable : (Parcel.storeRequest name size content).IsSendable) {upward downward : Nat}
    (roomy : 0 < upward ∧ 0 < downward) (gateway peer : String) :
    (start (.storeRequest name size content) volume upward downward gateway peer).Sound site
      (ordered name size content) := by
  have header := (Parcel.header_eq_ok_iff (.storeRequest name size content) _).mpr ⟨sendable, rfl⟩
  have sender : (start (.storeRequest name size content) volume upward downward gateway
      peer).sender =
        .sending (Parcel.storeRequest name size content).headerBytes content 0
          size.toNatClampNeg := by
    rw [start, Sender.start, header]
    rfl
  have uplink := uplink_start (.storeRequest name size content) volume roomy.1 downward gateway peer
  have limited : (content.take size.toNatClampNeg).length ≤ size.toNatClampNeg :=
    List.length_take_le ..
  refine ⟨sendable, limited, ?_, roomy.2, ?_, fun _ => ?_, fun _ => ?_, ?_⟩
  · rw [uplink]
    exact roomy.1
  · rw [sender]
    exact .sending (Nat.zero_add _) (Nat.zero_add _)
  · rw [uplink, sender]
    constructor
    · intro closed
      cases closed
    · rintro (⟨fault, failed⟩ | gone)
      · cases failed
      · cases gone
  · constructor
    · intro closed
      cases closed
    · intro finished
      cases finished
  · refine ⟨⟨rfl, rfl, rfl, rfl⟩, recorded, [Service.store.code], fun rest => rfl, ?_⟩
    rw [coming, uplink, sender]
    rfl

theorem sends_encode (site : Site) (owner : Option Nat) {volume : Volume}
    (recorded : volume.Recorded) {name : String} {size : Int64} {content : List UInt8}
    (sendable : (Parcel.storeRequest name size content).IsSendable) {upward downward : Nat}
    (roomy : 0 < upward ∧ 0 < downward) (gateway peer : String) {turns : List Turn}
    (follows : (start (.storeRequest name size content) volume upward downward gateway peer).follow
      site owner turns = some next) (stays : next.phase ≠ .gone) :
    ∃ written, (Parcel.storeRequest name size content).encode =
      ⟨written ++ next.sender.owed, next.sender.fate⟩ := by
  obtain ⟨-, written, owed, fate⟩ := (sound_start site recorded sendable roomy gateway
    peer).sends_of_follow follows stays
  exact ⟨written, by rw [← Sender.emission_start, ← owed, fate]; rfl⟩

/-- A transfer can do so many steps at most. -/
theorem Sound.length_le (sound : transfer.Sound site order) {turns : List Turn}
    (follows : transfer.follow site owner turns = some next) :
    turns.length + next.effort ≤ transfer.effort := by
  induction turns generalizing transfer with
  | nil =>
      cases follows
      exact Nat.le_of_eq (Nat.zero_add _)
  | cons turn turns ih =>
      obtain ⟨middle, first, rest⟩ := Option.bind_eq_some_iff.mp follows
      have moves := moves_of_turn first
      have nearer := sound.effort_lt moves
      have further := ih (sound.moves moves) rest
      rw [List.length_cons]
      omega

/-- What has been told stays told. -/
theorem told_of_moves (moves : Moves site owner transfer next) :
    ∃ more, next.told = transfer.told ++ more := by
  cases moves with
  | answered => exact ⟨_, rfl⟩
  | _ => exact ⟨[], (List.append_nil _).symm⟩

theorem told_of_follow {turns : List Turn}
    (follows : transfer.follow site owner turns = some next) :
    ∃ more, next.told = transfer.told ++ more := by
  induction turns generalizing transfer with
  | nil =>
      cases follows
      exact ⟨[], (List.append_nil _).symm⟩
  | cons turn turns ih =>
      obtain ⟨middle, first, rest⟩ := Option.bind_eq_some_iff.mp follows
      obtain ⟨front, early⟩ := told_of_moves (moves_of_turn first)
      obtain ⟨back, late⟩ := ih rest
      exact ⟨front ++ back, by rw [late, early, List.append_assoc]⟩

/-- A call that has returned has followed the answer of the gateway. -/
theorem Sound.returned (sound : transfer.Sound site order) {outcome : Except Fault Unit}
    (returned : transfer.returned = some outcome) :
    ∃ result unsaid, transfer.Answered site order result unsaid ∧
      Call.Follows (Endpoint.verdict.run (emission result).bytes).1 outcome := by
  have loud : ¬ transfer.Silent := by
    intro quiet
    rw [quiet.waits] at returned
    cases returned
  obtain ⟨result, unsaid, answered, -⟩ := sound.accords.answered fun _ => loud
  obtain ⟨verdict, known, follows⟩ := answered.concluded outcome returned
  have hears := answered.hears
  rw [known, Demand.run_done] at hears
  refine ⟨result, unsaid, answered, ?_⟩
  rw [← hears]
  exact follows

/-- A call that succeeds has been told all of an acceptance. -/
theorem Sound.succeeded (sound : transfer.Sound site order)
    (returned : transfer.returned = some (.ok ())) :
    transfer.told = [Verdict.accepted.code] ∧ Stored site order transfer.volume := by
  obtain ⟨result, unsaid, answered, follows⟩ := sound.returned returned
  obtain rfl := (verdict_emission result).mp (follows.accepted.mpr rfl)
  obtain ⟨verdict, known, -⟩ := answered.concluded _ returned
  have said := answered.said
  have hears := answered.hears
  rw [known, Demand.run_done] at hears
  have none := congrArg Prod.snd hears
  have rest : unread (transfer.client, transfer.downlink) ++ unsaid = [] := none
  rw [(List.append_eq_nil_iff.mp rest).2, List.append_nil] at said
  exact ⟨said, (answered.stored rfl).1⟩

/-- A call whose gateway has accepted the upload succeeds. -/
theorem Sound.outcome_of_accepted (sound : transfer.Sound site order) {outcome : Except Fault Unit}
    (returned : transfer.returned = some outcome) {more : List UInt8}
    (told : transfer.told = Verdict.accepted.code :: more) : outcome = .ok () := by
  obtain ⟨result, unsaid, answered, follows⟩ := sound.returned returned
  have said := answered.said
  rw [told] at said
  have ok : result = .ok () := Upload.result_of_opens said.symm
  exact follows.accepted.mp ((verdict_emission result).mpr ok)

/-- A call whose gateway has refused the upload fails with the reason of the refusal. -/
theorem Sound.outcome_of_refused (sound : transfer.Sound site order) {outcome : Except Fault Unit}
    (returned : transfer.returned = some outcome) {reason : String} {more : List UInt8}
    (told : transfer.told = Verdict.refused.code :: (Field.lineBytes reason ++ more)) :
    outcome = .error (.remote reason) := by
  obtain ⟨result, unsaid, answered, follows⟩ := sound.returned returned
  have said := answered.said
  rw [told, List.cons_append, List.append_assoc] at said
  refine follows.refused reason ?_
  cases result with
  | ok stored => cases said
  | error failure =>
      have line := Endpoint.isLine_of_refusal said.symm
      rw [← said, Endpoint.verdict_run_line line]

end Transfer

/-- For a call of any content whose name and size pass its checks, over pipes of any capacities,
however they hand over the bytes and whoever does the next step:
* The number of steps is bounded, and until the call has returned somebody can do one.
* As long as the gateway stays, the bytes of the call are sent as they are encoded, and the sending
  ends with the fault of the encoding.
* The call succeeds only if the gateway has stored the announced bytes under the name and has
  written the acceptance.
* From the acceptance on, every call that returns succeeds.
* From a whole refusal on, every call that returns fails with its reason. -/
theorem call_agrees (site : Site) (owner : Option Nat) {volume : Volume}
    (recorded : volume.Recorded) {name : String} {size : Int64} {content : List UInt8}
    (checked : (Call.store name size content).check = .ok ()) {upward downward : Nat}
    (roomy : 0 < upward ∧ 0 < downward) (gateway peer : String) :
    let first :=
      Transfer.start (.storeRequest name size content) volume upward downward gateway peer
    let count := size.toNatClampNeg
    ∀ turns transfer, first.follow site owner turns = some transfer →
      turns.length ≤ first.effort ∧
      (transfer.returned = none → ∃ turn, (transfer.turn site owner turn).isSome) ∧
      (transfer.phase ≠ .gone → ∃ written, (Parcel.storeRequest name size content).encode =
        ⟨written ++ transfer.sender.owed, transfer.sender.fate⟩) ∧
      (transfer.returned = some (.ok ()) →
        transfer.told = [Verdict.accepted.code] ∧ count ≤ content.length ∧
        ∃ safe, SafeName.ofName? name = some safe ∧
          transfer.volume.ReadsAs (targetPlace site safe).bytes (content.take count)) ∧
      ∀ more last outcome, transfer.follow site owner more = some last →
        last.returned = some outcome →
          (transfer.told = [Verdict.accepted.code] → outcome = .ok ()) ∧
          ∀ reason, transfer.told = Verdict.refused.code :: Field.lineBytes reason →
            outcome = .error (.remote reason) := by
  intro first count turns transfer follows
  have start : first.Sound site (ordered name size content) :=
    Transfer.sound_start site recorded (isSendable_of_check checked) roomy gateway peer
  have sound := start.follow follows
  refine ⟨?_, sound.canGo, fun stays => ?_, fun returned => ?_,
    fun more last outcome later returned => ?_⟩
  · have bound := start.length_le follows
    omega
  · exact Transfer.sends_encode site owner recorded (isSendable_of_check checked) roomy gateway peer
      follows stays
  · obtain ⟨told, safe, usable, enough, reads⟩ := sound.succeeded returned
    refine ⟨told, ?_, safe, usable, ?_⟩
    · have taken : count ≤ (content.take count).length := enough
      rw [List.length_take] at taken
      omega
    · have whole : (ordered name size content).content = content.take count := by
        rw [Order.content, ordered, List.take_take]
        exact congrArg (content.take ·) (Nat.min_self _)
      rwa [whole] at reads
  · have ended := sound.follow later
    obtain ⟨behind, told⟩ := Transfer.told_of_follow later
    refine ⟨fun accepted => ?_, fun reason refused => ?_⟩
    · rw [accepted] at told
      exact ended.outcome_of_accepted returned told
    · rw [refused] at told
      exact ended.outcome_of_refused returned told

/-! ## Two calls through a narrow pipe -/

/-- The steps up to the header of a request for two bytes, through a pipe of one byte. -/
def openingTurns (name : UInt8) : List Turn :=
  .serve [[Service.store.code]] :: .work ::
    [name, 10, 2, 0, 0, 0, 0, 0, 0, 0].flatMap fun byte => [.send 1, .serve [[byte]]]

def storingTurns : List Turn :=
  openingTurns 97 ++ .load 2 :: List.replicate 5 .work ++
    [.send 1, .serve [[104]], .send 1, .serve [[105]]] ++ List.replicate 4 .work ++
    [.answer 1, .hear [[Verdict.accepted.code]], .stop, .conclude]

/-- The name is refused while the content waits for room in the pipe. -/
def refusingTurns : List Turn :=
  openingTurns 47 ++ [.load 2, .send 1] ++ List.replicate 3 .work ++ [.answer 28]

theorem call_agrees_narrow :
    let first := Transfer.start (.storeRequest "a" 2 [104, 105, 122]) usedVolume 1 1 "g" "p"
    let second := Transfer.start (.storeRequest "/" 2 [104, 105]) usedVolume 1 28 "g" "p"
    (∃ last, first.follow usedSite none storingTurns = some last ∧
      last.returned = some (.ok ()) ∧ last.told = [Verdict.accepted.code] ∧
      ∃ safe, SafeName.ofName? "a" = some safe ∧
        last.volume.ReadsAs (targetPlace usedSite safe).bytes [104, 105]) ∧
    ∃ refused, second.follow usedSite none refusingTurns = some refused ∧
      ∀ more last outcome, refused.follow usedSite none more = some last →
        last.returned = some outcome →
          outcome = .error (.remote "Ungueltiger Dateiname: \"/\"") := by
  have recorded : usedVolume.Recorded := .of_entries (by decide)
  constructor
  · obtain ⟨-, -, -, stored, -⟩ :=
      @call_agrees usedSite none _ recorded "a" 2 [104, 105, 122] rfl 1 1
      ⟨Nat.one_pos, Nat.one_pos⟩ "g" "p" storingTurns _ rfl
    obtain ⟨told, -, reads⟩ := stored rfl
    exact ⟨_, rfl, rfl, told, reads⟩
  · have written : ((Transfer.start (.storeRequest "/" 2 [104, 105]) usedVolume 1 28 "g"
        "p").follow usedSite none refusingTurns).map (·.told) =
          some (Verdict.refused.code :: Field.lineBytes "Ungueltiger Dateiname: \"/\"") := by
      decide +kernel
    obtain ⟨refused, follows, told⟩ := Option.map_eq_some_iff.mp written
    obtain ⟨-, -, -, -, agrees⟩ := @call_agrees usedSite none _ recorded "/" 2 [104, 105] rfl 1 28
      ⟨Nat.one_pos, by decide⟩ "g" "p" refusingTurns refused follows
    refine ⟨refused, follows, fun more last outcome later returned => ?_⟩
    exact (agrees more last outcome later returned).2 _ told

end DesktopGateway.Client
