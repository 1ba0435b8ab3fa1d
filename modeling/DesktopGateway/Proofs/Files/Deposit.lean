import DesktopGateway.Files.Deposit
import DesktopGateway.Proofs.Files.Crowd
import Mathlib.Data.List.Induction

/-!
# What a failed upload leaves behind

Until its file is opened, a run changes nothing but that it may make the directory of uploads. From
then on it writes to the file behind its handle only, and removes what its path names when it gives
up. Nothing of an old file under the name is brought back, and when the host refuses the removal,
what was written stays.
-/

namespace DesktopGateway.Files.Upload

open DesktopGateway.Serving
open DesktopGateway.Wire
open Volume (Location)

/-! ## One step -/

namespace Run

variable {site : Site} {owner : Option Nat} {state : Run × Volume}

theorem follow_append (front later : List Chance) :
    follow site owner state (front ++ later) =
      follow site owner (follow site owner state front) later :=
  List.foldl_append ..

theorem follow_snoc (front : List Chance) (last : Chance) :
    follow site owner state (front ++ [last]) =
      meet site owner (follow site owner state front) last :=
  follow_append ..

/-- A step is done, or the host refuses what it asks. -/
theorem meet_cases (site : Site) (owner : Option Nat) (state : Run × Volume) (chance : Chance) :
    (chance = .granted ∨ state.1.stage.asksHost owner = false) ∧
        meet site owner state chance = state.1.step site owner state.2 ∨
      ∃ failure taken, chance = .refused failure taken ∧ state.1.stage.asksHost owner = true ∧
        meet site owner state chance = state.1.fail state.2 failure taken := by
  cases chance with
  | granted => exact .inl ⟨.inl rfl, rfl⟩
  | refused failure taken =>
      cases asks : state.1.stage.asksHost owner with
      | false => exact .inl ⟨.inr rfl, by simp only [meet, asks, Bool.false_eq_true, if_false]⟩
      | true => exact .inr ⟨failure, taken, rfl, rfl, by simp only [meet, asks, if_true]⟩

theorem fail_stage (volume : Volume) (run : Run) (failure : Host.Failure) (taken : Nat) :
    (run.fail volume failure taken).1.stage = run.stage.failed failure := by
  unfold fail
  split
  · rfl
  · rename_i result settled _
    rw [settled]
    rfl
  · rfl

/-- A refused step changes nothing, or a part of what was to be written is written. -/
theorem fail_volume (volume : Volume) (run : Run) (failure : Host.Failure) (taken : Nat) :
    (run.fail volume failure taken).2 = volume ∨
      ∃ upload missing offset bytes, run.stage = .writing upload (missing + 1) offset ∧
        (run.fail volume failure taken).2 = volume.write upload.handle offset bytes := by
  unfold fail
  split
  · rename_i upload missing offset writing
    dsimp only
    split
    · exact .inr ⟨upload, missing, offset, _, writing, rfl⟩
    · exact .inl rfl
    · exact .inl rfl
  · exact .inl rfl
  · exact .inl rfl

end Run

/-! ## Until the file is opened -/

/-- Nothing is stored otherwise than before, but that the directory of uploads may be new. -/
def OnlyPrepared (site : Site) (volume now : Volume) : Prop :=
  ∀ location, now.stored? location = volume.stored? location ∨
    IsNewDirectory site volume now location

namespace OnlyPrepared

variable {site : Site} {owner : Option Nat} {volume now : Volume}

theorem refl (site : Site) (volume : Volume) : OnlyPrepared site volume volume :=
  fun _ => .inl rfl

theorem of_ensureDirectory {directory : Place}
    (resolved : site.resolve volume directoryName = .ok directory)
    (ensured : volume.ensureDirectory site.credentials directory.bytes = .ok now) :
    OnlyPrepared site volume now := by
  intro location
  rcases Volume.stored?_of_ensureDirectory ensured location with same | ⟨found, free, new⟩
  · exact .inl same
  · exact .inr ⟨directory, resolved, found, free, new⟩

theorem give (prepared : OnlyPrepared site volume now) {given : Volume} {place : Place}
    (done : Upload.give site owner now place = .ok given) : OnlyPrepared site volume given := by
  intro location
  have same := stored?_of_give done location
  rcases prepared location with kept | ⟨directory, resolved, found, free, new⟩
  · exact .inl (same.trans kept)
  · exact .inr ⟨directory, resolved, found, free, same.trans new⟩

end OnlyPrepared

/-- A run that has not opened its file, or has settled without it. -/
inductive Early (site : Site) (volume : Volume) : Stage → Volume → Prop where
  | asking (demand : Demand (Except Fault (Parcel Unit))) :
      Early site volume (.asking demand) volume
  | resolving (name : String) (size : Nat) : Early site volume (.resolving name size) volume
  | making {directory : Place} (resolved : site.resolve volume directoryName = .ok directory)
      (safe : String) (size : Nat) : Early site volume (.making directory safe size) volume
  | claiming {now : Volume} (prepared : OnlyPrepared site volume now) (directory : Place)
      (safe : String) (size : Nat) : Early site volume (.claiming directory safe size) now
  | opening {now : Volume} (prepared : OnlyPrepared site volume now) (directory : Place)
      (safe : String) (size : Nat) : Early site volume (.opening directory safe size) now
  | settled {now : Volume} (prepared : OnlyPrepared site volume now)
      (result : Except Failure Unit) : Early site volume (.settled result) now

namespace Early

variable {site : Site} {owner : Option Nat} {volume now : Volume} {stage : Stage} {run : Run}

theorem onlyPrepared (early : Early site volume stage now) : OnlyPrepared site volume now := by
  cases early with
  | asking | resolving | making => exact .refl site volume
  | claiming prepared | opening prepared | settled prepared => exact prepared

theorem asked (request : Except Fault (Parcel Unit)) :
    Early site volume (.asked request) volume := by
  unfold Stage.asked
  split
  · exact .settled (.refl site volume) _
  · exact .resolving ..
  · exact .settled (.refl site volume) _

/-- What the client gives is no more than the next byte of its request. -/
theorem feed (early : Early site volume stage now) {wish : Wish} (wished : stage.wish? = some wish)
    (delivery : Link.Delivery) :
    Early site volume (stage.feed now delivery).1 (stage.feed now delivery).2 := by
  cases early with
  | asking demand =>
      cases demand with
      | done request => cases wished
      | next onByte onEnd =>
          cases delivery with
          | bytes values => cases values <;> exact .asking _
          | ended => exact .asking _
          | waiting => exact .asking _
  | resolving | making | claiming | opening | settled => cases wished

/-- A run opens its file, or stays without it. -/
theorem step (early : Early site volume run.stage now) (owner : Option Nat) :
    Early site volume (run.step site owner now).1.stage (run.step site owner now).2 ∨
      ∃ directory safe size upload opened, run.stage = .opening directory safe size ∧
        start site now directory safe = .ok (upload, opened) ∧
        run.step site owner now = (⟨.writing upload size 0, run.exchange, run.answer⟩, opened) := by
  rcases Run.step_cases site owner now run with
    ⟨result, settled, unanswered, same⟩ | ⟨wish, wished, same⟩ | ⟨alone, same⟩
  · rw [same]
    exact .inl early
  · rw [same]
    exact .inl (early.feed wished _)
  · rw [same]
    have works := run.stage.works site owner now
    generalize run.stage.work site owner now = worked at works ⊢
    generalize run.stage = stage at early works ⊢
    cases works with
    | asked =>
        cases early
        exact .inl (.asked _)
    | resolved usable found =>
        cases early
        exact .inl (.making found ..)
    | made ensured =>
        cases early with
        | making resolved => exact .inl (.claiming (.of_ensureDirectory resolved ensured) ..)
    | claimed gives => exact .inl (.opening (early.onlyPrepared.give gives) ..)
    | opened starts => exact .inr ⟨_, _, _, _, _, rfl, starts, rfl⟩
    | granted gives => cases early
    | copied => cases early
    | unsynced failure => cases early
    | synced file => cases early
    | discarded => cases early
    | refused failure => exact .inl (.settled early.onlyPrepared _)
    | idle rests => exact .inl early

/-- What the host refuses before the file is opened settles the run. -/
theorem failed (early : Early site volume stage now) (failure : Host.Failure) :
    Early site volume (stage.failed failure) now := by
  cases early with
  | asking demand =>
      cases demand with
      | done request => exact .asking _
      | next onByte onEnd => exact .settled (.refl site volume) _
  | resolving name size => exact .settled (.refl site volume) _
  | making resolved => exact .settled (.refl site volume) _
  | claiming prepared => exact .settled prepared _
  | opening prepared => exact .settled prepared _
  | settled prepared => exact .settled prepared _

theorem fail (early : Early site volume run.stage now) (failure : Host.Failure) (taken : Nat) :
    Early site volume (run.fail now failure taken).1.stage (run.fail now failure taken).2 := by
  rw [Run.fail_stage]
  rcases run.fail_volume now failure taken with same | ⟨upload, missing, offset, _, writing, _⟩
  · rw [same]
    exact early.failed failure
  · rw [writing] at early
    cases early

end Early

/-! ## Once the file is open -/

/-- A run that has opened its file, or has settled with it. It fails because of its content if that
is too short. -/
inductive Late (opening : Opening) : Stage → List UInt8 → Volume → Prop where
  | writing {missing offset : Nat} {rest : List UInt8} {now : Volume}
      (only : Volume.OnlyFile opening.upload.handle opening.opened now)
      (left : opening.behind.incoming.flatten.length + missing = rest.length + opening.size) :
      Late opening (.writing opening.upload missing offset) rest now
  | syncing {rest : List UInt8} {now : Volume}
      (only : Volume.OnlyFile opening.upload.handle opening.opened now)
      (enough : opening.size ≤ opening.behind.incoming.flatten.length) :
      Late opening (.syncing opening.upload) rest now
  | granting {rest : List UInt8} {now : Volume}
      (only : Volume.OnlyFile opening.upload.handle opening.opened now)
      (enough : opening.size ≤ opening.behind.incoming.flatten.length) :
      Late opening (.granting opening.upload) rest now
  | discarding {rest : List UInt8} {now : Volume}
      (only : Volume.OnlyFile opening.upload.handle opening.opened now) (cause : Host.Failure) :
      Late opening (.discarding opening.upload cause) rest now
  | settled {result : Except Failure Unit} {rest : List UInt8} {now : Volume}
      (kept : ∀ location, ¬ opening.prepared.Concerns opening.upload.target.bytes location →
        now.stored? location = opening.prepared.stored? location)
      (short : ∀ failure, result = .error failure →
        opening.behind.incoming.flatten.length < opening.size → ∃ cause, failure = .stream cause) :
      Late opening (.settled result) rest now

namespace Late

variable {site : Site} {owner : Option Nat} {opening : Opening} {now : Volume} {stage : Stage}
  {rest : List UInt8} {run : Run}

theorem begun (opening : Opening) :
    Late opening (.writing opening.upload opening.size 0) opening.behind.incoming.flatten
      opening.opened :=
  .writing (.refl ..) rfl

theorem feed (late : Late opening stage rest now) {wish : Wish} {delivery : Link.Delivery}
    {later : List UInt8} (wished : stage.wish? = some wish)
    (delivers : Delivers wish rest delivery later) :
    Late opening (stage.feed now delivery).1 later (stage.feed now delivery).2 := by
  cases late with
  | @writing missing offset _ _ only left =>
      cases missing with
      | zero => cases wished
      | succ missing =>
          cases wished
          cases delivers with
          | bytes first more rest fits =>
              have short : more.length < missing + 1 :=
                Nat.lt_of_lt_of_le fits (Nat.min_le_right ..)
              refine .writing (only.trans (Volume.onlyFile_write ..)) ?_
              rw [List.length_append, List.length_cons] at left
              omega
          | ended => exact .discarding only _
  | syncing | granting | discarding | settled => cases wished

section Kept

variable (creates : opening.prepared.Creates opening.upload.target.bytes opening.upload.handle
  opening.opened)

include creates

theorem kept (late : Late opening stage rest now) {location : Location}
    (apart : ¬ opening.prepared.Concerns opening.upload.target.bytes location) :
    now.stored? location = opening.prepared.stored? location := by
  cases late with
  | writing only | syncing only | granting only | discarding only =>
      exact Opening.stored?_filled only creates apart
  | settled kept => exact kept location apart

theorem work (late : Late opening stage rest now) (alone : stage.wish? = none) (site : Site)
    (owner : Option Nat) :
    Late opening (stage.work site owner now).1 rest (stage.work site owner now).2 := by
  cases late with
  | @writing missing offset _ _ only left =>
      cases missing with
      | zero => exact .syncing only (by omega)
      | succ missing => cases alone
  | syncing only enough =>
      unfold Stage.work
      dsimp only
      split
      · exact .discarding only _
      · exact .granting only enough
  | granting only enough =>
      unfold Stage.work
      dsimp only
      split
      · exact .settled (fun _ => Opening.stored?_filled only creates) fun _ _ short => by omega
      · rename_i given gives
        refine .settled (fun location apart => ?_) nofun
        rw [stored?_of_give gives, Opening.stored?_filled only creates apart]
  | discarding only cause =>
      refine .settled (fun location apart => Opening.stored?_discarded only creates apart) ?_
      rintro _ ⟨⟩ -
      exact ⟨cause, rfl⟩
  | settled kept short => exact .settled kept short

theorem step (late : Late opening run.stage run.exchange.incoming.flatten now) (site : Site)
    (owner : Option Nat) :
    let after := run.step site owner now
    Late opening after.1.stage after.1.exchange.incoming.flatten after.2 := by
  intro after
  rcases Run.step_cases site owner now run with
    ⟨result, settled, unanswered, same⟩ | ⟨wish, wished, same⟩ | ⟨alone, same⟩
  · rw [show after = _ from same]
    dsimp only
    rw [incoming_emit]
    exact late
  · rw [show after = _ from same]
    exact late.feed wished (run.exchange.deliver_delivers (wish?_roomy wished))
  · rw [show after = _ from same]
    exact late.work creates alone site owner

/-- What the host refuses once the file is open is given up, or it settles the run. -/
theorem failed (late : Late opening stage rest now) (failure : Host.Failure)
    (behind : List UInt8) : Late opening (stage.failed failure) behind now := by
  cases late with
  | writing only left => exact .discarding only failure
  | syncing only enough => exact .discarding only failure
  | granting only enough =>
      exact .settled (fun _ => Opening.stored?_filled only creates) fun _ _ short => by omega
  | discarding only cause =>
      refine .settled (fun _ => Opening.stored?_filled only creates) ?_
      rintro _ ⟨⟩ -
      exact ⟨cause, rfl⟩
  | settled kept short => exact .settled kept short

theorem fail (late : Late opening run.stage rest now) (failure : Host.Failure) (taken : Nat)
    (behind : List UInt8) :
    Late opening (run.fail now failure taken).1.stage behind (run.fail now failure taken).2 := by
  rw [Run.fail_stage]
  rcases run.fail_volume now failure taken with
    same | ⟨upload, missing, offset, bytes, writing, written⟩
  · rw [same]
    exact late.failed creates failure behind
  · rw [written]
    rw [writing] at late ⊢
    cases late with
    | writing only left => exact .discarding (only.trans (Volume.onlyFile_write ..)) failure

theorem meet {state : Run × Volume}
    (late : Late opening state.1.stage state.1.exchange.incoming.flatten state.2) (site : Site)
    (owner : Option Nat) (chance : Chance) :
    let after := Run.meet site owner state chance
    Late opening after.1.stage after.1.exchange.incoming.flatten after.2 := by
  intro after
  rcases Run.meet_cases site owner state chance with
    ⟨_, same⟩ | ⟨failure, taken, _, _, same⟩
  · rw [show after = _ from same]
    exact late.step creates site owner
  · rw [show after = _ from same]
    exact late.fail creates failure taken _

theorem follow (state : Run × Volume)
    (late : Late opening state.1.stage state.1.exchange.incoming.flatten state.2) (site : Site)
    (owner : Option Nat) (chances : List Chance) :
    let after := Run.follow site owner state chances
    Late opening after.1.stage after.1.exchange.incoming.flatten after.2 := by
  induction chances generalizing state with
  | nil => exact late
  | cons chance chances ih => exact ih _ (late.meet creates site owner chance)

end Kept

/-- A run that settles because of its content was about to give up its file. -/
theorem settling_work (late : Late opening stage rest now) (alone : stage.wish? = none)
    (running : ∀ result, stage ≠ .settled result) {cause : Host.Failure}
    (settled : (stage.work site owner now).1 = .settled (.error (.stream cause))) :
    stage = .discarding opening.upload cause := by
  cases late with
  | @writing missing offset _ _ only left =>
      cases missing with
      | zero => cases settled
      | succ missing => cases alone
  | syncing only enough =>
      unfold Stage.work at settled
      dsimp only at settled
      split at settled
      · cases settled
      · cases settled
  | granting only enough =>
      unfold Stage.work at settled
      dsimp only at settled
      split at settled
      · rename_i failed
        cases settled
        exact absurd rfl (give_ne_stream failed cause)
      · cases settled
  | discarding only other =>
      cases settled
      rfl
  | settled => exact absurd rfl (running _)

theorem settling_feed (late : Late opening stage rest now) {wish : Wish}
    (wished : stage.wish? = some wish) (delivery : Link.Delivery)
    (result : Except Failure Unit) : (stage.feed now delivery).1 ≠ .settled result := by
  intro settled
  cases late with
  | @writing missing offset _ _ only left =>
      cases missing with
      | zero => cases wished
      | succ missing =>
          cases delivery with
          | bytes values => cases values <;> cases settled
          | ended => cases settled
          | waiting => cases settled
  | syncing | granting | discarding | settled => cases wished

theorem settling_failed (late : Late opening stage rest now)
    (running : ∀ result, stage ≠ .settled result) {failure cause : Host.Failure}
    (settled : stage.failed failure = .settled (.error (.stream cause))) :
    stage = .discarding opening.upload cause := by
  cases late with
  | writing | syncing | granting => cases settled
  | discarding only other =>
      cases settled
      rfl
  | settled => exact absurd rfl (running _)

/-- If the host refuses to remove the file, the volume stays as it is. -/
theorem settling {state : Run × Volume} {chance : Chance} {cause : Host.Failure}
    (late : Late opening state.1.stage rest state.2)
    (running : ∀ result, state.1.stage ≠ .settled result)
    (settled : (Run.meet site owner state chance).1.stage = .settled (.error (.stream cause))) :
    state.1.stage = .discarding opening.upload cause ∧
      (Run.meet site owner state chance).2 =
        if chance = .granted then opening.upload.discard state.2 else state.2 := by
  rcases Run.meet_cases site owner state chance with
    ⟨reason, same⟩ | ⟨failure, taken, refused, _, same⟩
  · rw [same] at settled ⊢
    rcases Run.step_cases site owner state.2 state.1 with
      ⟨result, before, _, _⟩ | ⟨wish, wished, stepped⟩ | ⟨alone, stepped⟩
    · exact absurd before (running result)
    · rw [stepped] at settled
      exact absurd settled (late.settling_feed wished _ _)
    · rw [stepped] at settled ⊢
      have before := late.settling_work alone running settled
      have granted : chance = .granted := by
        rcases reason with granted | idle
        · exact granted
        · rw [before] at idle
          cases idle
      rw [if_pos granted, before]
      exact ⟨rfl, rfl⟩
  · rw [same] at settled ⊢
    rw [Run.fail_stage] at settled
    have before := late.settling_failed running settled
    refine ⟨before, ?_⟩
    rw [if_neg (by rw [refused]; nofun)]
    rcases state.1.fail_volume state.2 failure taken with kept | ⟨_, _, _, _, writing, -⟩
    · exact kept
    · rw [before] at writing
      cases writing

end Late

namespace Run

variable {site : Site} {owner : Option Nat} {state : Run × Volume} {chances : List Chance}
  {opening : Opening}

def Opens (site : Site) (owner : Option Nat) (state : Run × Volume) (chances : List Chance)
    (opening : Opening) : Prop :=
  ∃ front later run directory safe, chances = front ++ .granted :: later ∧
    follow site owner state front = (run, opening.prepared) ∧
    run.stage = .opening directory safe opening.size ∧ run.exchange = opening.behind ∧
    start site opening.prepared directory safe = .ok (opening.upload, opening.opened)

def begun (opening : Opening) (answer : Option (Except Failure Unit)) : Run × Volume :=
  (⟨.writing opening.upload opening.size 0, opening.behind, answer⟩, opening.opened)

theorem Opens.creates (opens : Opens site owner state chances opening) :
    opening.prepared.Creates opening.upload.target.bytes opening.upload.handle
      opening.opened := by
  obtain ⟨_, _, _, _, _, _, _, _, _, started⟩ := opens
  exact Volume.creates_of_createFile (start_eq_ok started).2

theorem Opens.split (opens : Opens site owner state chances opening) :
    ∃ front later answer, chances = front ++ later ∧
      follow site owner state front = begun opening answer := by
  obtain ⟨front, later, run, directory, safe, rfl, before, stage, behind, started⟩ := opens
  refine ⟨front ++ [.granted], later, run.answer, by simp, ?_⟩
  rw [follow_snoc, before]
  obtain ⟨_, exchange, answer⟩ := run
  cases stage
  cases behind
  simp only [meet, step, Stage.wish?, Stage.work, started, begun]

theorem Opens.late (opens : Opens site owner state chances opening) :
    let ended := follow site owner state chances
    Late opening ended.1.stage ended.1.exchange.incoming.flatten ended.2 := by
  intro ended
  obtain ⟨front, later, answer, rfl, before⟩ := opens.split
  rw [show ended = _ from follow_append front later, before]
  exact Late.follow opens.creates (begun opening answer) (.begun opening) site owner later

theorem Opens.snoc (opens : Opens site owner state chances opening) (last : Chance) :
    Opens site owner state (chances ++ [last]) opening := by
  obtain ⟨front, later, run, directory, safe, rfl, rest⟩ := opens
  exact ⟨front, later ++ [last], run, directory, safe, by simp, rest⟩

/-- Whatever the host refuses, a run has opened its file, or nothing has changed but what prepares
that. -/
theorem early_or_opens {volume : Volume} (state : Run × Volume)
    (early : Early site volume state.1.stage state.2) (owner : Option Nat) (chances : List Chance) :
    Early site volume (follow site owner state chances).1.stage
        (follow site owner state chances).2 ∨
      ∃ opening, Opens site owner state chances opening := by
  induction chances using List.reverseRecOn with
  | nil => exact .inl early
  | append_singleton chances last ih =>
      rcases ih with before | ⟨opening, opens⟩
      · rw [follow_snoc]
        rcases meet_cases site owner (follow site owner state chances) last with
          ⟨reason, same⟩ | ⟨failure, taken, _, _, same⟩
        · rcases before.step owner with after | ⟨directory, safe, size, upload, opened, stage, rest⟩
          · rw [same]
            exact .inl after
          · have granted : last = .granted := by
              rcases reason with granted | idle
              · exact granted
              · rw [stage] at idle
                cases idle
            refine .inr ⟨⟨size, (follow site owner state chances).2, upload, opened,
              (follow site owner state chances).1.exchange⟩, ?_⟩
            exact ⟨chances, [], _, directory, safe, by rw [granted], rfl, stage, rfl, rest.1⟩
        · rw [same]
          exact .inl (before.fail failure taken)
      · exact .inr ⟨opening, opens.snoc last⟩

/-- A settled run does nothing to the volume. -/
theorem meet_settled {result : Except Failure Unit} (settled : state.1.stage = .settled result)
    (chance : Chance) :
    (meet site owner state chance).1.stage = .settled result ∧
      (meet site owner state chance).2 = state.2 := by
  obtain ⟨⟨stage, exchange, answer⟩, volume⟩ := state
  cases settled
  cases chance <;> cases answer <;> exact ⟨rfl, rfl⟩

theorem follow_settled {result : Except Failure Unit} (settled : state.1.stage = .settled result)
    (chances : List Chance) :
    (follow site owner state chances).1.stage = .settled result ∧
      (follow site owner state chances).2 = state.2 := by
  induction chances generalizing state with
  | nil => exact ⟨settled, rfl⟩
  | cons chance chances ih =>
      obtain ⟨stays, same⟩ := @meet_settled site owner state result settled chance
      obtain ⟨ends, kept⟩ := ih stays
      exact ⟨ends, kept.trans same⟩

/-- A run that has settled did so in one of its steps. -/
theorem exists_settling {result : Except Failure Unit}
    (running : ∀ result, state.1.stage ≠ .settled result)
    (settled : (follow site owner state chances).1.stage = .settled result) :
    ∃ front last later, chances = front ++ last :: later ∧
      (∀ result, (follow site owner state front).1.stage ≠ .settled result) ∧
      (meet site owner (follow site owner state front) last).1.stage = .settled result ∧
      (follow site owner state chances).2 =
        (meet site owner (follow site owner state front) last).2 := by
  induction chances generalizing state with
  | nil => exact absurd settled (running result)
  | cons chance chances ih =>
      by_cases now : ∃ result, (meet site owner state chance).1.stage = .settled result
      · obtain ⟨other, now⟩ := now
        obtain ⟨stays, same⟩ := @follow_settled site owner _ other now chances
        obtain rfl : other = result := Stage.settled.inj (stays.symm.trans settled)
        exact ⟨[], chance, chances, rfl, running, now, same⟩
      · obtain ⟨front, last, later, rfl, before, settles, same⟩ :=
          ih (fun result settles => now ⟨result, settles⟩) settled
        exact ⟨chance :: front, last, later, rfl, before, settles, same⟩

/-- A run that fails because of its content was about to give up its file at some step. -/
theorem Opens.settling (opens : Opens site owner state chances opening) {cause : Host.Failure}
    (settled : (follow site owner state chances).1.stage = .settled (.error (.stream cause))) :
    ∃ front last later, chances = front ++ last :: later ∧
      (follow site owner state front).1.stage = .discarding opening.upload cause ∧
      (last = .granted → ∃ slot, opening.prepared.slot? opening.upload.target.bytes = some slot ∧
        (follow site owner state chances).2.stored? slot = none) ∧
      (last ≠ .granted →
        (follow site owner state chances).2 = (follow site owner state front).2) := by
  have creates := opens.creates
  obtain ⟨before, rest, answer, rfl, begins⟩ := opens.split
  rw [follow_append, begins] at settled ⊢
  have running : ∀ result, (begun opening answer).1.stage ≠ .settled result := nofun
  obtain ⟨front, last, later, rfl, unsettled, settles, same⟩ := exists_settling running settled
  have late := Late.follow creates (begun opening answer) (.begun opening) site owner front
  dsimp only at late
  obtain ⟨stage, volume⟩ := late.settling unsettled settles
  refine ⟨before ++ front, last, later, by simp, ?_, fun granted => ?_, fun refused => ?_⟩
  · rw [follow_append, begins, stage]
  · rw [same, volume, if_pos granted]
    rw [stage] at late
    cases late with
    | discarding only => exact Opening.gone_discarded only creates
  · rw [same, volume, if_neg refused, follow_append, begins]

end Run

/-- A run that copies its content into its open file, or puts it on the disk. -/
inductive Stage.Copies (upload : Upload) : Stage → Prop where
  | writing (missing offset : Nat) : Copies upload (.writing upload missing offset)
  | syncing : Copies upload (.syncing upload)

/-- What the host refuses of the content is not tried again: the file is given up. -/
theorem Stage.Copies.failed {upload : Upload} {stage : Stage} (copies : stage.Copies upload)
    (owner : Option Nat) (failure : Host.Failure) :
    stage.asksHost owner = true ∧ stage.failed failure = .discarding upload failure := by
  cases copies <;> exact ⟨rfl, rfl⟩

namespace Run

variable {site : Site} {owner : Option Nat} {state : Run × Volume} {upload : Upload}

theorem meet_discarding {cause : Host.Failure} (before : state.1.stage = .discarding upload cause)
    (chance : Chance) :
    (meet site owner state chance).1.stage = .settled (.error (.stream cause)) := by
  obtain ⟨⟨stage, exchange, answer⟩, volume⟩ := state
  cases before
  cases chance <;> rfl

theorem settled_of_copies {front later : List Chance} {cause : Host.Failure} {taken : Nat}
    (copies : (follow site owner state front).1.stage.Copies upload) (some : later ≠ []) :
    (follow site owner state (front ++ .refused cause taken :: later)).1.stage =
      .settled (.error (.stream cause)) := by
  obtain ⟨next, rest, rfl⟩ := List.exists_cons_of_ne_nil some
  obtain ⟨asks, failed⟩ := copies.failed owner cause
  have refused : (meet site owner (follow site owner state front) (.refused cause taken)).1.stage =
      .discarding upload cause := by
    rw [meet, if_pos asks, fail_stage, failed]
  have given_up := @meet_discarding site owner _ upload cause refused next
  rw [follow_append]
  exact (follow_settled given_up rest).1

end Run

/-! ## Every run ends -/

namespace Run

/-- Whatever the host refuses, the run comes to its answer. -/
inductive Ends (site : Site) (owner : Option Nat) : Run → Volume → Prop where
  | answered {run : Run} {volume : Volume} {result answer : Except Failure Unit}
      (settled : run.stage = .settled result) (answered : run.answer = some answer) :
      Ends site owner run volume
  | later {run : Run} {volume : Volume} (goes : ∀ chance,
      Ends site owner (meet site owner (run, volume) chance).1
        (meet site owner (run, volume) chance).2) : Ends site owner run volume

end Run

def Stage.Ends (site : Site) (owner : Option Nat) (stage : Stage) : Prop :=
  ∀ (run : Run) (volume : Volume), run.stage = stage → Run.Ends site owner run volume

namespace Stage.Ends

variable {site : Site} {owner : Option Nat} {stage : Stage}

theorem settled (result : Except Failure Unit) : Ends site owner (.settled result) := by
  rintro ⟨_, exchange, answer⟩ volume rfl
  cases answer with
  | some answer => exact .answered rfl rfl
  | none => exact .later fun chance => by cases chance <;> exact .answered rfl rfl

/-- A run ends if it does so after its step and after a refusal. -/
theorem of_next (steps : ∀ (run : Run) (volume : Volume), run.stage = stage →
      Ends site owner (run.step site owner volume).1.stage)
    (fails : stage.asksHost owner = true →
      ∀ failure, Ends site owner (stage.failed failure)) : Ends site owner stage := by
  rintro run volume rfl
  refine .later fun chance => ?_
  rcases Run.meet_cases site owner (run, volume) chance with
    ⟨_, same⟩ | ⟨failure, taken, _, asks, same⟩
  · rw [same]
    exact steps run volume rfl _ _ rfl
  · rw [same]
    exact fails asks failure _ _ (Run.fail_stage ..)

theorem of_work (alone : stage.wish? = none)
    (works : ∀ volume, Ends site owner (stage.work site owner volume).1)
    (fails : stage.asksHost owner = true →
      ∀ failure, Ends site owner (stage.failed failure)) : Ends site owner stage := by
  refine .of_next ?_ fails
  rintro run volume rfl
  rcases Run.step_cases site owner volume run with
    ⟨result, before, _, same⟩ | ⟨wish, wished, _⟩ | ⟨_, same⟩
  · rw [same]
    dsimp only
    rw [before]
    exact .settled result
  · rw [alone] at wished
    cases wished
  · rw [same]
    exact works volume

theorem of_feed {wish : Wish} (wished : stage.wish? = some wish)
    (feeds : ∀ volume rest delivery later, Delivers wish rest delivery later →
      Ends site owner (stage.feed volume delivery).1)
    (fails : stage.asksHost owner = true →
      ∀ failure, Ends site owner (stage.failed failure)) : Ends site owner stage := by
  refine .of_next ?_ fails
  rintro run volume rfl
  rcases Run.step_cases site owner volume run with
    ⟨result, before, _, _⟩ | ⟨other, wanted, same⟩ | ⟨alone, _⟩
  · rw [before] at wished
    cases wished
  · rw [wished] at wanted
    cases wanted
    rw [same]
    exact feeds volume _ _ _ (run.exchange.deliver_delivers (wish?_roomy wished))
  · rw [wished] at alone
    cases alone

theorem discarding (upload : Upload) (cause : Host.Failure) :
    Ends site owner (.discarding upload cause) :=
  .of_work rfl (fun _ => .settled _) fun _ _ => .settled _

theorem granting (upload : Upload) : Ends site owner (.granting upload) := by
  refine .of_work rfl (fun volume => ?_) fun _ _ => .settled _
  unfold work
  dsimp only
  split <;> exact .settled _

theorem syncing (upload : Upload) : Ends site owner (.syncing upload) := by
  refine .of_work rfl (fun volume => ?_) fun _ _ => .discarding _ _
  unfold work
  dsimp only
  split
  · exact .discarding _ _
  · exact .granting _

/-- With every portion less is missing. -/
theorem writing (upload : Upload) (missing offset : Nat) :
    Ends site owner (.writing upload missing offset) := by
  induction missing using Nat.strongRecOn generalizing offset with
  | ind missing ih =>
      cases missing with
      | zero => exact .of_work rfl (fun _ => .syncing _) fun _ _ => .discarding _ _
      | succ missing =>
          refine .of_feed rfl (fun volume rest delivery later delivers => ?_)
            fun _ _ => .discarding _ _
          cases delivers with
          | bytes first more => exact ih _ (by omega) _
          | ended => exact .discarding _ _

theorem opening (directory : Place) (safe : String) (size : Nat) :
    Ends site owner (.opening directory safe size) := by
  refine .of_work rfl (fun volume => ?_) fun _ _ => .settled _
  unfold work
  dsimp only
  split
  · exact .settled _
  · exact .writing _ _ _

theorem claiming (directory : Place) (safe : String) (size : Nat) :
    Ends site owner (.claiming directory safe size) := by
  refine .of_work rfl (fun volume => ?_) fun _ _ => .settled _
  unfold work
  dsimp only
  split
  · exact .settled _
  · exact .opening _ _ _

theorem making (directory : Place) (safe : String) (size : Nat) :
    Ends site owner (.making directory safe size) := by
  refine .of_work rfl (fun volume => ?_) fun _ _ => .settled _
  unfold work
  dsimp only
  split
  · exact .settled _
  · exact .claiming _ _ _

theorem resolving (name : String) (size : Nat) : Ends site owner (.resolving name size) := by
  refine .of_work rfl (fun volume => ?_) fun _ _ => .settled _
  unfold work
  dsimp only
  split
  · exact .settled _
  · split
    · exact .settled _
    · exact .making _ _ _

/-- The request is read by a demand, which asks for finitely many bytes. -/
theorem asking (demand : Demand (Except Fault (Parcel Unit))) :
    Ends site owner (.asking demand) := by
  induction demand with
  | done request =>
      refine .of_work rfl (fun volume => ?_) nofun
      unfold work asked
      dsimp only
      split
      · exact .settled _
      · exact .resolving _ _
      · exact .settled _
  | next onByte onEnd ihByte ihEnd =>
      refine .of_feed rfl (fun volume rest delivery later delivers => ?_) fun _ _ => .settled _
      cases delivers with
      | bytes first more => exact ihByte first
      | ended => exact ihEnd

end Stage.Ends

/-! ## The whole run -/

namespace Run

variable {site : Site} {owner : Option Nat} {volume : Volume} {exchange : Exchange}
  {chances : List Chance} {opening : Opening}

theorem early_new (site : Site) (volume : Volume) (exchange : Exchange) :
    Early site volume (new exchange).stage volume := by
  unfold new Stage.start
  dsimp only
  split
  · exact .settled (.refl site volume) _
  · exact .asking _

theorem ends_new (volume : Volume) (exchange : Exchange) :
    Ends site owner (new exchange) volume := by
  refine (?_ : Stage.Ends site owner (.start exchange.service)) _ volume rfl
  unfold Stage.start
  split
  · exact .settled _
  · exact .asking _

/-- A run to which the host grants everything goes as if nothing could be refused. -/
theorem follow_granted (count : Nat) (state : Run × Volume) :
    follow site owner state (List.replicate count .granted) =
      (fun state : Run × Volume => state.1.step site owner state.2)^[count] state := by
  induction count generalizing state with
  | zero => rfl
  | succ count ih => exact ih (state.1.step site owner state.2)

/-- When the file is opened, nothing has happened but what prepares that. -/
theorem Opens.onlyPrepared (opens : Opens site owner (new exchange, volume) chances opening) :
    OnlyPrepared site volume opening.prepared := by
  obtain ⟨front, later, run, directory, safe, rfl, before, stage, behind, started⟩ := opens
  have early := early_or_opens (new exchange, volume) (early_new site volume exchange) owner front
  rw [before] at early
  rcases early with early | ⟨other, opens⟩
  · exact early.onlyPrepared
  · have late := opens.late
    rw [before] at late
    dsimp only at late
    rw [stage] at late
    cases late

theorem stored?_follow (site : Site) (owner : Option Nat) (volume : Volume) (exchange : Exchange)
    (chances : List Chance) (location : Location) :
    let ended := follow site owner (new exchange, volume) chances
    ended.2.stored? location = volume.stored? location ∨
      IsNewDirectory site volume ended.2 location ∨
      ∃ opening, Opens site owner (new exchange, volume) chances opening ∧
        opening.prepared.Concerns opening.upload.target.bytes location := by
  intro ended
  have early := early_or_opens (new exchange, volume) (early_new site volume exchange) owner chances
  rcases early with early | ⟨opening, opens⟩
  · rcases early.onlyPrepared location with same | new
    · exact .inl same
    · exact .inr (.inl new)
  · by_cases apart : opening.prepared.Concerns opening.upload.target.bytes location
    · exact .inr (.inr ⟨opening, opens, apart⟩)
    have kept : ended.2.stored? location = opening.prepared.stored? location :=
      opens.late.kept opens.creates apart
    rcases opens.onlyPrepared location with same | ⟨directory, resolved, found, free, made⟩
    · exact .inl (kept.trans same)
    · exact .inr (.inl ⟨directory, resolved, found, free, kept.trans made⟩)

end Run

/-- An upload on a host that may refuse any of its operations, and of a write the rest of a portion:
* Without a refusal it is the upload that the service serves, and with any refusals it ends.
* At any time the same file with the same content, the same directory or the same link is found
  everywhere as before. The exceptions are the directory of uploads, which may be new, and, once the
  file of the upload was opened, what its path concerns.
* When the host refuses to read, to write or to sync the content, the upload fails because of its
  content, and so it does when it fails with its file open and the content was too short.
* Whenever it has failed because of that, it was about to remove the entry that its path names: then
  the entry is gone, or the host has refused to remove it and everything stays. -/
theorem stored_of_failed (site : Site) (owner : Option Nat) (volume : Volume)
    (exchange : Exchange) :
    let served := serve site owner volume exchange
    let first := (Run.new exchange, volume)
    (∃ count, Run.follow site owner first (List.replicate count .granted) =
        (⟨.settled (attempt site owner volume exchange).1, served.2.1, some served.1⟩,
          served.2.2)) ∧
      Run.Ends site owner first.1 first.2 ∧
      ∀ chances : List Chance,
        let last := Run.follow site owner first chances
        (∀ location, last.2.stored? location = volume.stored? location ∨
          IsNewDirectory site volume last.2 location ∨
          ∃ opening, Run.Opens site owner first chances opening ∧
            opening.prepared.Concerns opening.upload.target.bytes location) ∧
        (∀ front cause taken later upload, chances = front ++ .refused cause taken :: later →
          (Run.follow site owner first front).1.stage.Copies upload → later ≠ [] →
            last.1.stage = .settled (.error (.stream cause))) ∧
        ∀ opening failure, Run.Opens site owner first chances opening →
          last.1.stage = .settled (.error failure) →
          (opening.behind.incoming.flatten.length < opening.size →
            ∃ cause, failure = .stream cause) ∧
          ∀ cause, failure = .stream cause →
            ∃ front chance later, chances = front ++ chance :: later ∧
              (Run.follow site owner first front).1.stage = .discarding opening.upload cause ∧
              (chance = .granted → ∃ slot,
                opening.prepared.slot? opening.upload.target.bytes = some slot ∧
                  last.2.stored? slot = none) ∧
              (chance ≠ .granted → last.2 = (Run.follow site owner first front).2) := by
  intro served first
  refine ⟨?_, Run.ends_new volume exchange, fun chances => ?_⟩
  · obtain ⟨count, leads⟩ := @Run.serve_leads site owner volume exchange
    exact ⟨count, (Run.follow_granted count first).trans leads⟩
  intro last
  refine ⟨Run.stored?_follow site owner volume exchange chances, ?_, ?_⟩
  · rintro front cause taken later upload rfl copies some
    exact Run.settled_of_copies copies some
  intro opening failure opens settled
  constructor
  · have late := opens.late
    dsimp only at late
    rw [settled] at late
    cases late with
    | settled kept short => exact short failure rfl
  · rintro cause rfl
    exact opens.settling settled

/-- The upload fails, and what was stored under its name before is lost. -/
theorem overwritten_content_lost :
    let served := serve usedSite none usedVolume cutExchange
    served.2.1.sent ≠ [Verdict.accepted.code] ∧
      usedVolume.stored? usedTarget = some (.file (.ofBytes [111, 108, 100])) ∧
      served.2.2.stored? usedTarget = none := by
  obtain ⟨cause, failed⟩ := failed_of_short opening?_cut (by decide)
  obtain ⟨slot, named, gone⟩ := gone_of_stream opening?_cut failed
  have same : cutOpening.prepared.slot? cutOpening.upload.target.bytes = some usedTarget := rfl
  rw [same] at named
  cases named
  refine ⟨?_, rfl, ?_⟩
  · obtain ⟨rest, sent⟩ := sent_of_failed rfl failed
    rw [sent]
    intro impossible
    cases impossible
  · rw [serve_of_failed failed]
    exact gone

/-- The run is granted all that it asks for, and when its content ends it gives up its file. -/
theorem opening_cut :
    Run.follow usedSite none (Run.new cutExchange, usedVolume) (List.replicate 14 .granted) =
      (⟨.opening ⟨"/h", ["Uploads"]⟩ "a" 10, cutOpening.behind, none⟩, usedVolume) := rfl

theorem settled_cut :
    (Run.follow usedSite none (Run.new cutExchange, usedVolume)
      (List.replicate 18 .granted)).1.stage = .settled (.error (.stream (Window.ended 6))) := rfl

/-- The entry of an upload with too little content is gone. When the host refuses to remove it,
what has come stays. -/
theorem stored_of_failed_cut :
    (Run.follow usedSite none (Run.new cutExchange, usedVolume)
        (List.replicate 18 .granted)).2.stored? usedTarget = none ∧
      (Run.follow usedSite none (Run.new cutExchange, usedVolume)
        (List.replicate 17 .granted ++ [.refused (.ofKind .permissionDenied) 0])).2.stored?
          usedTarget = some (.file (.ofBytes [99, 117, 116, 33])) := by
  have opens : Run.Opens usedSite none (Run.new cutExchange, usedVolume)
      (List.replicate 18 .granted) cutOpening :=
    ⟨List.replicate 14 .granted, List.replicate 3 .granted, _, _, "a", rfl, opening_cut, rfl, rfl,
      rfl⟩
  obtain ⟨-, -, runs⟩ := stored_of_failed usedSite none usedVolume cutExchange
  obtain ⟨-, failed⟩ := (runs (List.replicate 18 .granted)).2.2 cutOpening _ opens settled_cut
  obtain ⟨front, chance, later, split, -, removed, -⟩ := failed _ rfl
  have granted : chance = .granted := by
    refine List.eq_of_mem_replicate (n := 18) ?_
    rw [split]
    simp
  obtain ⟨slot, named, gone⟩ := removed granted
  have same : cutOpening.prepared.slot? cutOpening.upload.target.bytes = some usedTarget := rfl
  rw [same] at named
  cases named
  exact ⟨gone, rfl⟩

end DesktopGateway.Files.Upload
