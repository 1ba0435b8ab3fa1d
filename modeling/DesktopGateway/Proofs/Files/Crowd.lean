import DesktopGateway.Proofs.Files.Progress
import DesktopGateway.Proofs.Volume.Kept

/-!
# Uploads at the same time

Runs for one name share one file, which each of them empties when it opens it, fills from its own
offset on, and removes by its path when it fails.
-/

namespace DesktopGateway.Files.Upload

open DesktopGateway.Link
open DesktopGateway.Serving
open DesktopGateway.Wire
open Volume (Handle)

/-! ## One step of a run -/

theorem wish?_roomy {stage : Stage} {wish : Wish} (wished : stage.wish? = some wish) :
    0 < wish.room := by
  unfold Stage.wish? at wished
  split at wished
  · cases wished
    exact Nat.zero_lt_one
  · cases wished
    exact portion_pos _
  · cases wished

theorem sent_deliver (exchange : Exchange) (wish : Wish) :
    (exchange.deliver wish).2.sent = exchange.sent := by
  cases wish with
  | byte =>
      unfold Exchange.deliver
      cases found : exchange.incoming.next? with
      | none => rw [Exchange.pull_of_next?_none found]
      | some taken =>
          rw [Exchange.pull_of_next?_some found]
          rfl
  | portion room => rfl

theorem incoming_emit (exchange : Exchange) (emission : Parcel.Emission) :
    (exchange.emit emission).2.incoming = exchange.incoming := by
  cases reachable : exchange.reachable with
  | true => rw [Exchange.emit_of_reachable reachable]; rfl
  | false => rw [Exchange.emit_of_unreachable reachable]

/-- What opens with the acceptance is the answer to an upload that is stored. -/
theorem result_of_opens {result : Except Failure Unit} {rest : List UInt8}
    (opens : (emission result).bytes = Verdict.accepted.code :: rest) : result = .ok () := by
  cases result with
  | ok stored => rfl
  | error failure =>
      obtain ⟨reason, refused⟩ := Endpoint.refusal_opens failure.message
      rw [emission, refused] at opens
      cases opens

/-- Only a run that has stored its upload sends the acceptance. -/
theorem result_of_accepted {result : Except Failure Unit} {exchange : Exchange}
    (silent : exchange.sent = [])
    (accepted : (exchange.emit (emission result)).2.sent = [Verdict.accepted.code]) :
    result = .ok () := by
  cases reachable : exchange.reachable with
  | true =>
      rw [Exchange.emit_of_reachable reachable, Exchange.append, silent] at accepted
      exact result_of_opens accepted
  | false =>
      rw [Exchange.emit_of_unreachable reachable, silent] at accepted
      cases accepted

namespace Run

variable {site : Site} {owner : Option Nat} {volume : Volume} {run : Run}

/-- A run answers when it has settled, goes on with what its client gives, or goes on alone. -/
theorem step_cases (site : Site) (owner : Option Nat) (volume : Volume) (run : Run) :
    (∃ result, run.stage = .settled result ∧ run.answer = none ∧
        run.step site owner volume =
          (⟨run.stage, (run.exchange.emit (emission result)).2,
            some (run.exchange.emit (emission result)).1⟩, volume)) ∨
      (∃ wish, run.stage.wish? = some wish ∧
        run.step site owner volume =
          (⟨(run.stage.feed volume (run.exchange.deliver wish).1).1,
            (run.exchange.deliver wish).2, run.answer⟩,
            (run.stage.feed volume (run.exchange.deliver wish).1).2)) ∨
      run.stage.wish? = none ∧
        run.step site owner volume =
          (⟨(run.stage.work site owner volume).1, run.exchange, run.answer⟩,
            (run.stage.work site owner volume).2) := by
  obtain ⟨stage, exchange, answer⟩ := run
  unfold step
  split
  · rename_i result settled unanswered
    exact .inl ⟨result, settled, unanswered, rfl⟩
  · right
    cases wished : stage.wish? with
    | some wish => exact .inl ⟨wish, rfl, rfl⟩
    | none => exact .inr ⟨rfl, rfl⟩

/-- A run for an order, whose client has been sent nothing but the answer. -/
structure Sound (site : Site) (order : Order) (run : Run) : Prop where
  stands : Stands site order run.stage run.exchange.incoming.flatten
  silent : run.answer = none → run.exchange.sent = []
  accepted : run.exchange.sent = [Verdict.accepted.code] → run.stage = .settled (.ok ())

theorem Sound.step {order : Order} (sound : Sound site order run) (owner : Option Nat)
    (volume : Volume) : Sound site order (run.step site owner volume).1 := by
  rcases step_cases site owner volume run with
    ⟨result, settled, unanswered, same⟩ | ⟨wish, wished, same⟩ | ⟨alone, same⟩
  · rw [same]
    have kept := incoming_emit run.exchange (emission result)
    refine ⟨?_, fun impossible => (by cases impossible), fun accepted => ?_⟩
    · dsimp only
      rw [kept]
      exact sound.stands
    · rw [settled, result_of_accepted (sound.silent unanswered) accepted]
  · rw [same]
    have delivers := run.exchange.deliver_delivers (wish?_roomy wished)
    have sent := sent_deliver run.exchange wish
    refine ⟨sound.stands.feed wished delivers volume, fun unanswered => ?_, fun accepted => ?_⟩
    · exact sent.trans (sound.silent unanswered)
    · rw [sound.accepted (sent.symm.trans accepted)] at wished
      cases wished
  · rw [same]
    refine ⟨sound.stands.work owner volume, sound.silent, fun accepted => ?_⟩
    rw [sound.accepted accepted]
    rfl

end Run

/-! ## What a step does to the volume -/

inductive Effect (site : Site) (owner : Option Nat) (order : Order) :
    Stage → Volume → Volume → Prop where
  | calm {stage : Stage} {volume later : Volume} (keeps : Volume.Keeps volume later)
      (still : volume.Recorded → later.Recorded) : Effect site owner order stage volume later
  | opened {directory : Place} {safe : String} {size : Nat} {volume opened : Volume}
      {handle : Handle} (usable : SafeName.ofName? order.name = some safe)
      (created : volume.createFile site.credentials (targetPlace site safe).bytes =
        .ok (handle, opened)) :
      Effect site owner order (.opening directory safe size) volume opened
  | written {upload : Upload} {missing offset : Nat} {volume : Volume} {bytes rest : List UInt8}
      (portion : order.stream.drop offset = bytes ++ rest)
      (within : offset + bytes.length ≤ order.count) :
      Effect site owner order (.writing upload (missing + 1) offset) volume
        (volume.write upload.handle offset bytes)
  | discarded {upload : Upload} {failure : Host.Failure} {volume : Volume} :
      Effect site owner order (.discarding upload failure) volume (upload.discard volume)

theorem Effect.quiet {site : Site} {owner : Option Nat} {order : Order} (stage : Stage)
    (volume : Volume) : Effect site owner order stage volume volume :=
  .calm (.refl volume) id

theorem effect_feed {site : Site} {owner : Option Nat} {order : Order} {stage : Stage} {wish : Wish}
    {rest later : List UInt8} {delivery : Delivery} (stands : Stands site order stage rest)
    (wished : stage.wish? = some wish) (delivers : Delivers wish rest delivery later)
    (volume : Volume) :
    Effect site owner order stage volume (stage.feed volume delivery).2 := by
  cases stands.fed wished delivers with
  | asked takes => exact .quiet ..
  | written usable target total reached short ahead =>
      refine .written ahead ?_
      rw [List.length_cons]
      omega
  | ended usable target lacking => exact .quiet ..

theorem keeps_of_give {site : Site} {owner : Option Nat} {volume given : Volume} {place : Place}
    (done : give site owner volume place = .ok given) : Volume.Keeps volume given := by
  rcases give_eq_ok done with rfl | ⟨user, changed⟩
  · exact .refl given
  · exact Volume.keeps_of_giveTo changed

theorem effect_work {site : Site} {order : Order} {stage : Stage} {rest : List UInt8}
    (stands : Stands site order stage rest) (owner : Option Nat) (volume : Volume) :
    Effect site owner order stage volume (stage.work site owner volume).2 := by
  have works := stage.works site owner volume
  generalize stage.work site owner volume = worked at works ⊢
  cases works with
  | asked => exact .quiet ..
  | resolved usable found => exact .quiet ..
  | made ensured =>
      exact .calm (Volume.keeps_of_ensureDirectory ensured) (·.ensureDirectory ensured)
  | claimed gives => exact .calm (keeps_of_give gives) (recorded_give · gives)
  | opened starts =>
      cases stands with
      | opening usable =>
          obtain ⟨target, created⟩ := start_eq_ok starts
          rw [target] at created
          exact .opened usable created
  | copied => exact .quiet ..
  | unsynced failure => exact .quiet ..
  | synced file => exact .quiet ..
  | granted gives => exact .calm (keeps_of_give gives) (recorded_give · gives)
  | discarded => exact .discarded
  | refused failure => exact .quiet ..
  | idle rests => exact .quiet ..

theorem Run.effect_step {site : Site} {order : Order} {run : Run} (sound : run.Sound site order)
    (owner : Option Nat) (volume : Volume) :
    Effect site owner order run.stage volume (run.step site owner volume).2 := by
  rcases step_cases site owner volume run with
    ⟨result, settled, unanswered, same⟩ | ⟨wish, wished, same⟩ | ⟨alone, same⟩
  · rw [same]
    exact .quiet ..
  · rw [same]
    have delivers := run.exchange.deliver_delivers (wish?_roomy wished)
    exact effect_feed sound.stands wished delivers volume
  · rw [same]
    exact effect_work sound.stands owner volume

theorem Effect.recorded {site : Site} {owner : Option Nat} {order : Order} {stage : Stage}
    {volume later : Volume} (effect : Effect site owner order stage volume later)
    (recorded : volume.Recorded) : later.Recorded := by
  cases effect with
  | calm keeps still => exact still recorded
  | opened usable created => exact recorded.createFile created
  | written portion within => exact recorded.write ..
  | discarded => exact recorded_discard recorded _

/-! ## What lasts of a run -/

/-- A fact about a file and the bytes that a run has put into it, which opening the file brings
about, writing the next portion preserves, and what a stage of another kind does leaves alone. -/
structure Lasting (site : Site) (owner : Option Nat) (safe : String) (orders : List Order)
    (kind : Handle → Stage → Prop) (fact : Volume → Nat → List UInt8 → Prop) : Prop where
  opened : ∀ (volume opened : Volume) (number : Nat), volume.Recorded →
    volume.createFile site.credentials (targetPlace site safe).bytes = .ok (.file number, opened) →
      fact opened number []
  written : ∀ order ∈ orders, ∀ (volume : Volume) (number offset : Nat) (bytes rest : List UInt8),
    order.stream.drop offset = bytes ++ rest → offset + bytes.length ≤ order.count →
      offset ≤ order.stream.length → fact volume number (order.stream.take offset) →
        fact (volume.write (.file number) offset bytes) number
          (order.stream.take (offset + bytes.length))
  calm : ∀ (volume later : Volume) (number : Nat) (bytes : List UInt8), volume.Keeps later →
    fact volume number bytes → fact later number bytes
  spared : ∀ order ∈ orders, ∀ (stage : Stage) (volume later : Volume) (number : Nat)
    (bytes : List UInt8), volume.Recorded → Effect site owner order stage volume later →
      ¬ kind (.file number) stage → fact volume number bytes → fact later number bytes

/-- How far the run that opened a file has come, and what holds of the file. -/
def Stage.HasPut (fact : Volume → Nat → List UInt8 → Prop) (order : Order) (volume : Volume)
    (upload : Upload) : Stage → Prop
  | .writing own _ offset =>
      own = upload ∧ ∀ number, upload.handle = .file number →
        fact volume number (order.stream.take offset)
  | .syncing own | .granting own =>
      own = upload ∧ ∀ number, upload.handle = .file number → fact volume number order.content
  | .settled (.ok ()) => ∃ number, upload.handle = .file number ∧ fact volume number order.content
  | _ => True

section Lasting

variable {site : Site} {owner : Option Nat} {safe : String} {orders : List Order}
  {kind : Handle → Stage → Prop} {fact : Volume → Nat → List UInt8 → Prop}
  (lasting : Lasting site owner safe orders kind fact) {order : Order} {volume : Volume}
  {upload : Upload}

include lasting

/-- The steps of others that are not of the kind leave alone what a run has put. -/
theorem Lasting.other {own other : Stage} {another : Order} {later : Volume}
    (member : another ∈ orders) (recorded : volume.Recorded)
    (effect : Effect site owner another other volume later) (apart : ¬ kind upload.handle other)
    (put : own.HasPut fact order volume upload) : own.HasPut fact order later upload := by
  have goes {number : Nat} {bytes : List UInt8} (file : upload.handle = .file number)
      (holds : fact volume number bytes) : fact later number bytes :=
    lasting.spared another member _ _ _ _ _ recorded effect (by rwa [← file]) holds
  unfold Stage.HasPut at put ⊢
  split
  · exact ⟨put.1, fun number file => goes file (put.2 number file)⟩
  · exact ⟨put.1, fun number file => goes file (put.2 number file)⟩
  · exact ⟨put.1, fun number file => goes file (put.2 number file)⟩
  · obtain ⟨number, file, holds⟩ := put
    exact ⟨number, file, goes file holds⟩
  · trivial

/-- A run goes on putting what its client sends. -/
theorem Lasting.feed {stage : Stage} {wish : Wish} {rest later : List UInt8} {delivery : Delivery}
    (member : order ∈ orders) (stands : Stands site order stage rest)
    (wished : stage.wish? = some wish) (delivers : Delivers wish rest delivery later)
    (put : stage.HasPut fact order volume upload) :
    (stage.feed volume delivery).1.HasPut fact order (stage.feed volume delivery).2 upload := by
  cases stands.fed wished delivers with
  | asked takes => trivial
  | @written _ own missing offset first more later usable target total reached short ahead =>
      obtain ⟨rfl, holds⟩ := put
      refine ⟨rfl, fun number file => ?_⟩
      have within : offset + (first :: more).length ≤ order.count := by
        rw [List.length_cons]
        omega
      have written := lasting.written order member volume number offset _ _ ahead within reached
        (holds number file)
      rw [← file] at written
      exact written
  | ended usable target lacking => trivial

theorem Lasting.work {stage : Stage} {rest : List UInt8} (stands : Stands site order stage rest)
    (past : ∀ directory safe size, stage ≠ .opening directory safe size)
    (put : stage.HasPut fact order volume upload) :
    (stage.work site owner volume).1.HasPut fact order (stage.work site owner volume).2 upload := by
  have works := stage.works site owner volume
  generalize stage.work site owner volume = worked at works ⊢
  cases works with
  | asked =>
      cases stands with
      | asking asks =>
          obtain ⟨rfl, rfl⟩ := asks.of_done
          trivial
  | resolved usable found => trivial
  | made ensured => trivial
  | claimed gives => trivial
  | opened starts => exact absurd rfl (past _ _ _)
  | copied =>
      cases stands with
      | writing usable target total reached =>
          rw [Nat.add_zero] at total
          subst total
          exact put
  | unsynced failure => trivial
  | synced file => exact put
  | granted gives =>
      cases stands with
      | granting usable target enough file =>
          obtain ⟨rfl, holds⟩ := put
          exact ⟨_, file, lasting.calm _ _ _ _ (keeps_of_give gives) (holds _ file)⟩
  | discarded => trivial
  | refused failure => trivial
  | idle rests => exact put

/-- A run that opens its file has put nothing into it. -/
theorem Lasting.opens {directory : Place} {word : String} {size : Nat} {rest : List UInt8}
    (stands : Stands site order (.opening directory word size) rest)
    (named : ∀ other, SafeName.ofName? order.name = some other → other = safe)
    (recorded : volume.Recorded) :
    let worked := (Stage.opening directory word size).work site owner volume
    (∃ failure, worked.1 = .settled (.error failure)) ∨
      ∃ upload, worked.1 = .writing upload order.count 0 ∧
        worked.1.HasPut fact order worked.2 upload := by
  have works := (Stage.opening directory word size).works site owner volume
  generalize (Stage.opening directory word size).work site owner volume = worked at works ⊢
  cases works with
  | refused failure => exact .inl ⟨failure, rfl⟩
  | @opened _ _ _ upload opened starts =>
      cases stands with
      | opening usable =>
          obtain rfl := named word usable
          obtain ⟨target, created⟩ := start_eq_ok starts
          rw [target] at created
          refine .inr ⟨upload, rfl, rfl, fun number file => ?_⟩
          rw [file] at created
          exact lasting.opened _ _ number recorded created
  | idle rests =>
      obtain ⟨result, impossible⟩ := rests rfl
      cases impossible

/-- Whatever a run does alone, it has put what it has put into the file that it has by then. -/
theorem Lasting.work_any {stage : Stage} {rest : List UInt8} (stands : Stands site order stage rest)
    (named : ∀ other, SafeName.ofName? order.name = some other → other = safe)
    (recorded : volume.Recorded) (put : ∃ upload, stage.HasPut fact order volume upload) :
    ∃ upload, (stage.work site owner volume).1.HasPut fact order
      (stage.work site owner volume).2 upload := by
  by_cases opening : ∃ directory word size, stage = .opening directory word size
  · obtain ⟨directory, word, size, rfl⟩ := opening
    rcases lasting.opens stands named recorded with ⟨failure, failed⟩ | ⟨upload, -, has⟩
    · obtain ⟨upload, -⟩ := put
      exact ⟨upload, by rw [failed]; trivial⟩
    · exact ⟨upload, has⟩
  · obtain ⟨upload, has⟩ := put
    refine ⟨upload, lasting.work stands ?_ has⟩
    rintro directory word size rfl
    exact opening ⟨directory, word, size, rfl⟩

/-- A run that has opened its file goes on with it. -/
theorem Lasting.step {run : Run} (member : order ∈ orders) (sound : run.Sound site order)
    (past : ∀ directory safe size, run.stage ≠ .opening directory safe size)
    (put : run.stage.HasPut fact order volume upload) :
    (run.step site owner volume).1.stage.HasPut fact order
      (run.step site owner volume).2 upload := by
  rcases run.step_cases site owner volume with
    ⟨result, settled, unanswered, same⟩ | ⟨wish, wished, same⟩ | ⟨alone, same⟩
  · rw [same]
    exact put
  · rw [same]
    exact lasting.feed member sound.stands wished
      (run.exchange.deliver_delivers (wish?_roomy wished)) put
  · rw [same]
    exact lasting.work sound.stands past put

end Lasting

/-! ## All runs -/

namespace Crowd

variable {site : Site} {owner : Option Nat} {safe : String} {orders : List Order}

/-- Every run is the run for its order, and all orders are for the same name. -/
structure Sound (site : Site) (safe : String) (orders : List Order) (crowd : Crowd) : Prop where
  usable : ∀ order ∈ orders, SafeName.ofName? order.name = some safe
  recorded : crowd.volume.Recorded
  runs : ∀ (index : Nat) (run : Run), crowd.runs[index]? = some run →
    ∃ order, orders[index]? = some order ∧ run.Sound site order

theorem step_eq {crowd : Crowd} {index : Nat} {run : Run}
    (present : crowd.runs[index]? = some run) :
    crowd.step site owner index =
      ⟨(run.step site owner crowd.volume).2,
        crowd.runs.set index (run.step site owner crowd.volume).1⟩ := by
  rw [step, present]

theorem step_of_none {crowd : Crowd} {index : Nat} (absent : crowd.runs[index]? = none) :
    crowd.step site owner index = crowd := by
  rw [step, absent]

/-- What became of the run that did its step. -/
theorem run_step {crowd : Crowd} {index : Nat} {run : Run}
    (present : crowd.runs[index]? = some run) :
    (crowd.step site owner index).runs[index]? = some (run.step site owner crowd.volume).1 := by
  obtain ⟨inside, -⟩ := List.getElem?_eq_some_iff.mp present
  rw [step_eq present, List.getElem?_set_self inside]

theorem run_step_other (crowd : Crowd) {index other : Nat} (different : other ≠ index) :
    (crowd.step site owner index).runs[other]? = crowd.runs[other]? := by
  cases present : crowd.runs[index]? with
  | none => rw [step_of_none present]
  | some run => rw [step_eq present, List.getElem?_set_ne different.symm]

theorem Sound.step {crowd : Crowd} (sound : crowd.Sound site safe orders) (owner : Option Nat)
    (index : Nat) : (crowd.step site owner index).Sound site safe orders := by
  cases present : crowd.runs[index]? with
  | none => rwa [step_of_none present]
  | some run =>
      obtain ⟨order, ordered, running⟩ := sound.runs index run present
      refine ⟨sound.usable, ?_, fun other later found => ?_⟩
      · rw [step_eq present]
        exact (Run.effect_step running owner crowd.volume).recorded sound.recorded
      · by_cases same : other = index
        · subst same
          rw [run_step present] at found
          cases found
          exact ⟨order, ordered, running.step owner crowd.volume⟩
        · rw [run_step_other crowd same] at found
          exact sound.runs other later found

theorem Sound.follow {crowd : Crowd} (sound : crowd.Sound site safe orders) (owner : Option Nat)
    (schedule : List Nat) : (crowd.follow site owner schedule).Sound site safe orders := by
  induction schedule generalizing crowd with
  | nil => exact sound
  | cons index schedule ih => exact ih (sound.step owner index)

/-- No other run does a step of a kind. -/
def Spares (site : Site) (owner : Option Nat) (kind : Stage → Prop) (own : Nat) :
    Crowd → List Nat → Prop
  | _, [] => True
  | crowd, index :: schedule =>
      (index ≠ own → ∀ run, crowd.runs[index]? = some run → ¬ kind run.stage) ∧
        Spares site owner kind own (crowd.step site owner index) schedule

structure Opens (site : Site) (owner : Option Nat) (crowd : Crowd) (own : Nat) (order : Order)
    (upload : Upload) : Prop where
  before : ∃ directory safe, crowd.runs[own]?.map Run.stage =
    some (.opening directory safe order.count)
  after : (crowd.step site owner own).runs[own]?.map Run.stage =
    some (.writing upload order.count 0)

end Crowd

def Stage.IsOpen : Stage → Prop
  | .writing .. | .syncing _ | .granting _ | .settled (.ok ()) => True
  | _ => False

def Stage.IsPast : Stage → Prop
  | .writing .. | .syncing _ | .granting _ | .discarding .. | .settled _ => True
  | _ => False

theorem isPast_feed {stage : Stage} (past : stage.IsPast) (volume : Volume) (delivery : Delivery) :
    (stage.feed volume delivery).1.IsPast := by
  cases stage with
  | writing upload missing offset =>
      cases missing with
      | zero => exact past
      | succ missing =>
          cases delivery with
          | bytes bytes => cases bytes <;> trivial
          | ended => trivial
          | waiting => trivial
  | syncing upload => exact past
  | granting upload => exact past
  | discarding upload failure => exact past
  | settled result => exact past
  | asking demand => cases past
  | resolving name size => cases past
  | making directory safe size => cases past
  | claiming directory safe size => cases past
  | opening directory safe size => cases past

theorem isPast_work {stage : Stage} (past : stage.IsPast) (site : Site) (owner : Option Nat)
    (volume : Volume) : (stage.work site owner volume).1.IsPast := by
  have works := stage.works site owner volume
  generalize stage.work site owner volume = worked at works ⊢
  cases works with
  | asked => cases past
  | resolved => cases past
  | made => cases past
  | claimed => cases past
  | idle rests => exact past
  | _ => trivial

theorem isPast_step {run : Run} (past : run.stage.IsPast) (site : Site) (owner : Option Nat)
    (volume : Volume) : (run.step site owner volume).1.stage.IsPast := by
  rcases run.step_cases site owner volume with
    ⟨result, settled, unanswered, same⟩ | ⟨wish, wished, same⟩ | ⟨alone, same⟩
  · rw [same]
    exact past
  · rw [same]
    exact isPast_feed past ..
  · rw [same]
    exact isPast_work past ..

theorem isOpen_of_feed {site : Site} {order : Order} {stage : Stage} {rest : List UInt8}
    (stands : Stands site order stage rest) {volume : Volume} {delivery : Delivery}
    (now : (stage.feed volume delivery).1.IsOpen) : stage.IsOpen := by
  cases stands with
  | @asking demand _ asks =>
      cases demand with
      | done request => exact now
      | next onByte onEnd =>
          cases delivery with
          | bytes bytes => cases bytes <;> exact now
          | ended => exact now
          | waiting => exact now
  | writing => trivial
  | syncing => trivial
  | granting => trivial
  | stored => trivial
  | resolving => exact now
  | making => exact now
  | claiming => exact now
  | opening => exact now
  | discarding => exact now
  | failed => exact now

theorem isOpen_of_work {site : Site} {owner : Option Nat} {order : Order} {stage : Stage}
    {rest : List UInt8} (stands : Stands site order stage rest) {volume : Volume}
    (now : (stage.work site owner volume).1.IsOpen) :
    stage.IsOpen ∨ ∃ directory safe upload, stage = .opening directory safe order.count ∧
      (stage.work site owner volume).1 = .writing upload order.count 0 := by
  have works := stage.works site owner volume
  generalize stage.work site owner volume = worked at works now ⊢
  cases works with
  | asked =>
      cases stands with
      | asking asks =>
          obtain ⟨rfl, rfl⟩ := asks.of_done
          cases now
  | opened starts =>
      cases stands with
      | opening usable => exact .inr ⟨_, _, _, rfl, rfl⟩
  | resolved => cases now
  | made => cases now
  | claimed => cases now
  | discarded => cases now
  | refused => cases now
  | idle rests => exact .inl now
  | _ => exact .inl trivial

/-- A run has its file because it has opened it. -/
theorem opening_of_isOpen {site : Site} {order : Order} {run : Run} (sound : run.Sound site order)
    (closed : ¬ run.stage.IsOpen) {owner : Option Nat} {volume : Volume}
    (now : (run.step site owner volume).1.stage.IsOpen) :
    ∃ directory safe upload, run.stage = .opening directory safe order.count ∧
      (run.step site owner volume).1.stage = .writing upload order.count 0 := by
  rcases run.step_cases site owner volume with
    ⟨result, settled, unanswered, same⟩ | ⟨wish, wished, same⟩ | ⟨alone, same⟩
  · rw [same] at now
    exact absurd now closed
  · rw [same] at now
    exact absurd (isOpen_of_feed sound.stands now) closed
  · rw [same] at now ⊢
    exact (isOpen_of_work sound.stands now).resolve_left closed

namespace Crowd

variable {site : Site} {owner : Option Nat} {safe : String} {orders : List Order}

theorem follow_append (crowd : Crowd) (front back : List Nat) :
    crowd.follow site owner (front ++ back) =
      (crowd.follow site owner front).follow site owner back :=
  List.foldl_append

/-- Somewhere in the schedule a run has opened the file that it has. -/
theorem opens_of_isOpen {crowd : Crowd} (sound : crowd.Sound site safe orders) {own : Nat}
    {order : Order} (ordered : orders[own]? = some order)
    (closed : ∀ run, crowd.runs[own]? = some run → ¬ run.stage.IsOpen) {schedule : List Nat}
    {run : Run} (present : (crowd.follow site owner schedule).runs[own]? = some run)
    (now : run.stage.IsOpen) :
    ∃ before after upload, schedule = before ++ own :: after ∧
      (crowd.follow site owner before).Opens site owner own order upload := by
  induction schedule generalizing crowd with
  | nil => exact absurd now (closed run present)
  | cons index schedule ih =>
      have later := sound.step owner index
      by_cases open_now : ∀ run, (crowd.step site owner index).runs[own]? = some run →
          ¬ run.stage.IsOpen
      · obtain ⟨before, after, upload, same, opens⟩ := ih later open_now present
        exact ⟨index :: before, after, upload, by rw [same]; rfl, opens⟩
      · push Not at open_now
        obtain ⟨stepped, there, opened⟩ := open_now
        obtain rfl : index = own := by
          by_contra different
          rw [run_step_other crowd (Ne.symm different)] at there
          exact closed stepped there opened
        cases first : crowd.runs[index]? with
        | none =>
            rw [step_of_none first, first] at there
            cases there
        | some start =>
            obtain ⟨other, same, running⟩ := sound.runs index start first
            rw [ordered] at same
            cases same
            rw [run_step first] at there
            cases there
            obtain ⟨directory, word, upload, before, after⟩ :=
              opening_of_isOpen running (closed start first) opened
            refine ⟨[], schedule, upload, rfl, ⟨directory, word, ?_⟩, ?_⟩
            · change crowd.runs[index]?.map Run.stage = _
              rw [first, Option.map_some, before]
            · change (crowd.step site owner index).runs[index]?.map Run.stage = _
              rw [run_step first, Option.map_some, after]

/-- What a run has put lasts while the others are spared of a kind of step. -/
theorem follow_hasPut {kind : Handle → Stage → Prop} {fact : Volume → Nat → List UInt8 → Prop}
    (lasting : Lasting site owner safe orders kind fact) {crowd : Crowd}
    (sound : crowd.Sound site safe orders) {own : Nat} {order : Order} {upload : Upload}
    (ordered : orders[own]? = some order) {run : Run} (present : crowd.runs[own]? = some run)
    (past : run.stage.IsPast) (put : run.stage.HasPut fact order crowd.volume upload)
    {schedule : List Nat} (spares : Spares site owner (kind upload.handle) own crowd schedule) :
    ∃ later, (crowd.follow site owner schedule).runs[own]? = some later ∧
      later.stage.HasPut fact order (crowd.follow site owner schedule).volume upload := by
  induction schedule generalizing crowd run with
  | nil => exact ⟨run, present, put⟩
  | cons index schedule ih =>
      obtain ⟨apart, further⟩ := spares
      have member := List.mem_of_getElem? ordered
      obtain ⟨other, same, running⟩ := sound.runs own run present
      rw [ordered] at same
      cases same
      by_cases turn : index = own
      · subst turn
        refine ih (sound.step owner index) (run_step present) (isPast_step past site owner _) ?_
          further
        rw [step_eq present]
        refine lasting.step member running ?_ put
        intro directory word size opening
        rw [opening] at past
        cases past
      · refine ih (sound.step owner index)
          ((run_step_other crowd (Ne.symm turn)).trans present) past ?_ further
        cases first : crowd.runs[index]? with
        | none => rwa [step_of_none first]
        | some moving =>
            obtain ⟨another, asked, moved⟩ := sound.runs index moving first
            rw [step_eq first]
            exact lasting.other (List.mem_of_getElem? asked) sound.recorded
              (Run.effect_step moved owner crowd.volume) (apart turn moving first) put

end Crowd

end DesktopGateway.Files.Upload
