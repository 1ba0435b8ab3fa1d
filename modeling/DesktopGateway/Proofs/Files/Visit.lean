import DesktopGateway.Proofs.Files.DownloadRun
import DesktopGateway.Proofs.Volume.Untouched

/-!
# Visits leave no trace

Asking about a file touches nothing. Fetching one touches nothing but the temporary file that a
directory is packed into, and at each step the run either holds that file, which is then there as
the only thing that is new, or there is nothing new at all. It lets go of the file when it fails to
pack or to open it, and otherwise behind the last byte that it sends.
-/

namespace DesktopGateway.Serving.Exchange

open DesktopGateway.Wire

theorem sent_of_write {exchange later : Exchange} {bytes : List UInt8}
    (written : exchange.write bytes = (.ok (), later)) : later.sent = exchange.sent ++ bytes := by
  unfold write at written
  split at written
  · rename_i empty
    cases written
    rw [List.isEmpty_iff.mp empty, List.append_nil]
  · split at written
    · cases written
      rfl
    · cases written

theorem sent_of_emit {exchange later : Exchange} {emission : Parcel.Emission}
    (emitted : exchange.emit emission = (.ok (), later)) :
    later.sent = exchange.sent ++ emission.bytes := by
  unfold emit at emitted
  split at emitted
  · cases emitted
  · rename_i between written
    have same := congrArg Prod.snd emitted
    dsimp only at same
    rw [← same, sent_of_write written]

end DesktopGateway.Serving.Exchange

namespace DesktopGateway.Files

open DesktopGateway.Link
open DesktopGateway.Serving
open DesktopGateway.Wire

/-! ## Steps with their chances -/

section Turns

variable {Stage : Type} {serve : Turn → Visit Stage → Visit Stage}
  {fail : Host.Failure → Visit Stage → Visit Stage} {visit : Visit Stage}

/-- What holds after a step whatever becomes of it. A client that leaves makes a step fail only if
the step writes. -/
theorem Visit.turn_induction (Holds : Visit Stage → Prop)
    (served : ∀ turn, Holds (serve turn visit))
    (failed : ∀ failure, Holds (fail failure visit))
    (left : ∀ next, Holds next → Holds (next.gone next.exchange.sent))
    (cut : ∀ turn failure sent, (serve turn visit).exchange.sent ≠ visit.exchange.sent →
      Holds ((fail failure visit).gone sent))
    (turn : Turn) : Holds (Visit.turn serve fail visit turn) := by
  cases outcome : turn.outcome with
  | served =>
      simp only [Visit.turn, outcome]
      exact served turn
  | failing failure =>
      simp only [Visit.turn, outcome]
      exact failed failure
  | leaving taken failure =>
      simp only [Visit.turn, outcome]
      split
      · rename_i all
        rw [all]
        exact left _ (served turn)
      · rename_i some
        refine cut turn failure _ fun same => some ?_
        rw [same]
        exact List.take_of_length_le (Nat.le_add_right ..)

end Turns

/-! ## Asking about a file -/

namespace Listing

variable {site : Site}

theorem volume_serveStep (site : Site) (turn : Turn) (visit : Visit Stage) :
    (serveStep site turn visit).volume = visit.volume := by
  unfold serveStep
  split
  · split <;> rfl
  · split <;> rfl
  · rfl
  · rfl
  · rfl

theorem volume_follow (site : Site) (visit : Visit Stage) (turns : List Turn) :
    (follow site visit turns).volume = visit.volume := by
  induction turns generalizing visit with
  | nil => rfl
  | cons turn turns ih =>
      have stepped : (Visit.turn (serveStep site) failStep visit turn).volume = visit.volume :=
        Visit.turn_induction (·.volume = visit.volume) (volume_serveStep site · visit)
          (fun _ => rfl) (fun _ same => same) (fun _ _ _ _ => rfl) turn
      exact (ih _).trans stepped

end Listing

/-! ## Who holds the temporary file -/

namespace Download

def Stage.temporary? : Stage → Option (List UInt8)
  | sniffing download .. | announcing download .. | copying download _ => download.temporary
  | refusing _ opened | closing _ opened => opened.bind Download.temporary
  | _ => none

theorem close_eq (download : Download) (volume : Volume) :
    download.close volume =
      match download.temporary with
      | none => volume
      | some path => volume.discard path := rfl

theorem Stage.temporary?_asked (request : Except Fault (Parcel Unit)) :
    (asked request).temporary? = none := by
  unfold asked
  split <;> rfl

/-- A step keeps the volume and what it holds, unless it is the last one. -/
theorem Run.holds_step (site : Site) (volume : Volume) (portion : Nat) (stage : Stage)
    (exchange : Exchange) (unpacked : ∀ path place, stage ≠ .packing path place) :
    let next := step site volume portion ⟨stage, exchange⟩
    (next.2 = volume ∧ next.1.stage.temporary? = stage.temporary?) ∨
      ∃ result download, stage = .closing result (some download) ∧
        next.1.stage = .settled result ∧ next.2 = download.close volume := by
  cases stage with
  | asking demand =>
      left
      cases demand with
      | done request => exact ⟨rfl, Stage.temporary?_asked request⟩
      | next onByte onEnd =>
          simp only [step]
          split <;> exact ⟨rfl, rfl⟩
  | resolving path =>
      left
      simp only [step, Stage.work]
      split <;> exact ⟨rfl, rfl⟩
  | looking path place =>
      left
      simp only [step, Stage.work]
      split
      · exact ⟨rfl, rfl⟩
      · split <;> exact ⟨rfl, rfl⟩
  | packing path place => exact absurd rfl (unpacked path place)
  | opening path place size =>
      left
      simp only [step, Stage.work]
      split <;> exact ⟨rfl, rfl⟩
  | sniffing download reader head =>
      left
      simp only [step, Stage.work]
      split <;> exact ⟨rfl, rfl⟩
  | announcing download reader contentType =>
      left
      simp only [step]
      split
      · exact ⟨rfl, rfl⟩
      · split <;> exact ⟨rfl, rfl⟩
  | copying download reader =>
      left
      simp only [step]
      split
      · exact ⟨rfl, rfl⟩
      · split <;> exact ⟨rfl, rfl⟩
  | refusing failure opened => exact .inl ⟨rfl, rfl⟩
  | closing result opened =>
      cases opened with
      | none => exact .inl ⟨rfl, rfl⟩
      | some download => exact .inr ⟨result, download, rfl, rfl, rfl⟩
  | settled result => exact .inl ⟨rfl, rfl⟩

theorem Stage.temporary?_failed (failure : Host.Failure) (stage : Stage) :
    (stage.failed failure).temporary? = stage.temporary? := by
  cases stage with
  | asking demand => cases demand <;> rfl
  | resolving => rfl
  | looking => rfl
  | packing => rfl
  | opening => rfl
  | sniffing => rfl
  | announcing => rfl
  | copying => rfl
  | refusing => rfl
  | closing => rfl
  | settled => rfl

end Download

/-! ## What has been sent -/

namespace Download

/-- The temporary file of a download is the one that is open, with all its bytes. -/
def Opened (volume : Volume) (download : Download) : Prop :=
  ∀ path, download.temporary = some path → volume.openFile path = .ok download.handle ∧
    ∃ stored, volume.metadata path = .ok stored ∧ stored.length = download.size

def Completes (start sent rest : List UInt8) (volume : Volume) (download : Download) : Prop :=
  ∃ contentType, sent ++ rest = start ++ (download.announcement contentType).bytes ++
    volume.read download.handle download.size

/-- The client was told why it gets nothing, or it was sent everything. -/
def Answered (start sent : List UInt8) (volume : Volume) (download : Download) : Prop :=
  (∃ failure : Failure, sent = start ++ (Endpoint.refusal failure.message).bytes) ∨
    Completes start sent [] volume download

def Progress (start sent : List UInt8) (volume : Volume) : Stage → Prop
  | .sniffing download reader _ =>
      Opened volume download ∧ reader.handle = download.handle ∧ sent = start
  | .announcing download reader _ =>
      Opened volume download ∧ reader = .start download.handle ∧ sent = start
  | .copying download reader =>
      Opened volume download ∧ Completes start sent
        (reader.read volume (download.size - reader.offset)).1 volume download
  | .closing (.ok ()) (some download) =>
      Opened volume download ∧ Answered start sent volume download
  | .closing .. | .settled _ => True
  | .refusing _ opened => (∀ download ∈ opened, Opened volume download) ∧ sent = start
  | .asking _ | .resolving _ | .looking .. | .packing .. | .opening .. => sent = start

variable {site : Site} {volume : Volume} {portion : Nat} {exchange : Exchange}
  {start : List UInt8}

theorem Progress.closing_error {failure : Failure} {opened : Option Download} {sent : List UInt8} :
    Progress start sent volume (.closing (.error failure) opened) := by
  cases opened <;> trivial

/-- What the host refuses ends the answer, or the client is told before there is any. -/
theorem Progress.failed {stage : Stage} {sent : List UInt8}
    (progress : Progress start sent volume stage) (failure : Host.Failure) :
    Progress start sent volume (stage.failed failure) := by
  cases stage with
  | asking demand =>
      cases demand with
      | done request => exact progress
      | next onByte onEnd => exact ⟨by simp, progress⟩
  | resolving path => exact ⟨by simp, progress⟩
  | looking path place => exact ⟨by simp, progress⟩
  | packing path place => exact ⟨by simp, progress⟩
  | opening path place size => exact ⟨by simp, progress⟩
  | sniffing download reader head =>
      exact ⟨fun _ same => Option.some.inj same ▸ progress.1, progress.2.2⟩
  | announcing download reader contentType => exact .closing_error
  | copying download reader => exact .closing_error
  | refusing failure opened => exact .closing_error
  | closing result opened => exact progress
  | settled result => exact progress

theorem progress_asked (request : Except Fault (Parcel Unit)) :
    Progress start start volume (.asked request) := by
  unfold Stage.asked
  split
  · exact ⟨by simp, rfl⟩
  · exact rfl
  · trivial

theorem Run.progress_announcing {download : Download} {reader : Reader}
    {contentType : ContentType} (opened : Opened volume download)
    (rewound : reader = .start download.handle) (silent : exchange.sent = start) :
    let next := step site volume portion ⟨.announcing download reader contentType, exchange⟩
    Progress start next.1.exchange.sent next.2 next.1.stage := by
  simp only [step]
  split
  · exact ⟨fun _ same => Option.some.inj same ▸ opened, silent⟩
  · split
    · exact .closing_error
    · rename_i later emitted
      refine ⟨opened, contentType, ?_⟩
      have rest : (reader.read volume (download.size - reader.offset)).1 =
          volume.read download.handle download.size := by
        rw [rewound]
        exact Reader.read_start ..
      rw [rest, Exchange.sent_of_emit emitted, silent]

theorem Run.progress_copying {download : Download} {reader : Reader}
    (opened : Opened volume download)
    (completes : Completes start exchange.sent
      (reader.read volume (download.size - reader.offset)).1 volume download) :
    let next := step site volume portion ⟨.copying download reader, exchange⟩
    Progress start next.1.exchange.sent next.2 next.1.stage := by
  rcases reader.read_cases volume portion (download.size - reader.offset) with
    ⟨empty, none⟩ | ⟨first, more, front, fits, whole⟩
  · simp only [step, empty]
    rw [none] at completes
    unfold ended
    split
    · exact .closing_error
    · exact ⟨opened, .inr completes⟩
  · simp only [step, front]
    split
    · exact .closing_error
    · rename_i later written
      obtain ⟨contentType, same⟩ := completes
      have left : download.size - (reader.offset + (more.length + 1)) =
          download.size - reader.offset - (more.length + 1) := by omega
      refine ⟨opened, contentType, ?_⟩
      rw [whole] at same
      rw [Exchange.sent_of_write written, left, List.append_assoc]
      exact same

theorem Run.progress_refusing {failure : Failure} {opened : Option Download}
    (whole : ∀ download ∈ opened, Opened volume download) (silent : exchange.sent = start) :
    let next := step site volume portion ⟨.refusing failure opened, exchange⟩
    Progress start next.1.exchange.sent next.2 next.1.stage := by
  simp only [step]
  cases refused : exchange.refuse failure with
  | mk result later =>
      cases result with
      | error other => exact .closing_error
      | ok _ =>
          cases opened with
          | none => trivial
          | some download =>
              refine ⟨whole download rfl, .inl ⟨failure, ?_⟩⟩
              rw [Exchange.sent_of_emit refused, silent]

/-- A step goes on with the answer. -/
theorem Run.progress_step {stage : Stage} (unpacked : ∀ path place, stage ≠ .packing path place)
    (progress : Progress start exchange.sent volume stage) :
    let next := step site volume portion ⟨stage, exchange⟩
    Progress start next.1.exchange.sent next.2 next.1.stage := by
  cases stage with
  | asking demand =>
      have silent : exchange.sent = start := progress
      cases demand with
      | done request => exact silent ▸ progress_asked request
      | next onByte onEnd =>
          rcases exchange.pull_cases with ⟨value, later, pulled, quiet⟩ | pulled
          · simp only [step, pulled]
            exact quiet.trans silent
          · simp only [step, pulled]
            exact silent
  | resolving path =>
      simp only [step, Stage.work]
      split
      · exact ⟨by simp, progress⟩
      · exact progress
  | looking path place =>
      simp only [step, Stage.work]
      split
      · exact ⟨by simp, progress⟩
      · split
        · exact progress
        · exact progress
  | packing path place => exact absurd rfl (unpacked path place)
  | opening path place size =>
      simp only [step, Stage.work]
      split
      · exact ⟨by simp, progress⟩
      · refine ⟨fun path temporary => ?_, rfl, progress⟩
        cases temporary
  | sniffing download reader head =>
      obtain ⟨opened, handle, silent⟩ := progress
      rcases reader.read_cases volume portion (ContentType.window - head.length) with
        ⟨empty, -⟩ | ⟨first, more, front, -, -⟩
      · simp only [step, Stage.work, empty]
        exact ⟨opened, congrArg Reader.start handle, silent⟩
      · simp only [step, Stage.work, front]
        exact ⟨opened, handle, silent⟩
  | announcing download reader contentType =>
      exact progress_announcing progress.1 progress.2.1 progress.2.2
  | copying download reader => exact progress_copying progress.1 progress.2
  | refusing failure opened => exact progress_refusing progress.1 progress.2
  | closing result opened => cases opened <;> trivial
  | settled result => trivial

/-- A step writes only at a stage that answers, and such a step fails for good. -/
theorem Run.answers_of_sent {stage : Stage} (unpacked : ∀ path place, stage ≠ .packing path place)
    (written : (step site volume portion ⟨stage, exchange⟩).1.exchange.sent ≠ exchange.sent)
    (failure : Host.Failure) :
    ∃ fault opened, stage.failed failure = .closing (.error fault) opened := by
  cases stage with
  | asking demand =>
      cases demand with
      | done request => exact absurd rfl written
      | next onByte onEnd =>
          rcases exchange.pull_cases with ⟨value, later, pulled, quiet⟩ | pulled
          · simp only [step, pulled] at written
            exact absurd quiet written
          · simp only [step, pulled] at written
            exact absurd rfl written
  | resolving path => exact absurd rfl written
  | looking path place => exact absurd rfl written
  | packing path place => exact absurd rfl (unpacked path place)
  | opening path place size => exact absurd rfl written
  | sniffing download reader head => exact absurd rfl written
  | announcing download reader contentType => exact ⟨_, _, rfl⟩
  | copying download reader => exact ⟨_, _, rfl⟩
  | refusing failure opened => exact ⟨_, _, rfl⟩
  | closing result opened => exact absurd rfl written
  | settled result => exact absurd rfl written

end Download

/-! ## Fetching a file -/

namespace Fetch

open Download (Opened Answered Progress)

def Stage.archive? : Stage → Option (List UInt8)
  | plain stage => stage.temporary?
  | filling _ archive _ | reopening archive => some archive.path

/-- The volume has what is held as the only thing that is new. -/
def Custody (before after : Volume) : Option (List UInt8) → Prop
  | none => before.Untouched after
  | some path => ∃ place number, before.Adds path place number after

def Goes (start sent : List UInt8) (volume : Volume) : Stage → Prop
  | .plain stage => Progress start sent volume stage
  | .filling _ archive _ => volume.openFile archive.path = .ok archive.handle ∧ sent = start
  | .reopening _ => sent = start

/-- What holds at each moment of a visit. -/
structure Tidy (before : Volume) (start : List UInt8) (visit : Visit Stage) : Prop where
  custody : Custody before visit.volume visit.stage.archive?
  goes : Goes start visit.exchange.sent visit.volume visit.stage

variable {site : Site} {before : Volume} {start : List UInt8} {visit : Visit Stage}

theorem tidy_visit (exchange : Exchange) (volume : Volume) :
    Tidy volume exchange.sent (Fetch.visit exchange volume) := by
  unfold Fetch.visit Download.Stage.start
  split
  · exact ⟨.refl volume, by simp, rfl⟩
  · exact ⟨.refl volume, rfl⟩

theorem Tidy.custody_at (tidy : Tidy before start visit) {stage : Stage}
    (at_stage : visit.stage = stage) : Custody before visit.volume stage.archive? :=
  at_stage ▸ tidy.custody

theorem Tidy.goes_at (tidy : Tidy before start visit) {stage : Stage}
    (at_stage : visit.stage = stage) : Goes start visit.exchange.sent visit.volume stage :=
  at_stage ▸ tidy.goes

theorem Tidy.gone (tidy : Tidy before start visit) :
    Tidy before start (visit.gone visit.exchange.sent) :=
  ⟨tidy.custody, tidy.goes⟩

/-- What is let go of is gone. -/
theorem Custody.discard {after : Volume} {path : List UInt8}
    (custody : Custody before after (some path)) : before.Untouched (after.discard path) := by
  obtain ⟨place, number, adds⟩ := custody
  exact adds.discard

theorem Tidy.unpacked {volume : Volume} {exchange : Exchange} (untouched : before.Untouched volume)
    (silent : exchange.sent = start) (failure : Failure) :
    Tidy before start ⟨.plain (.refusing failure none), exchange, volume⟩ :=
  ⟨untouched, by simp, silent⟩

/-- Making the file under a new name holds it. -/
theorem Tidy.claim {path : String} {place : Place} (tidy : Tidy before start visit)
    (packing : visit.stage = .plain (.packing path place)) (word : String) :
    Tidy before start (claim site word path place visit) := by
  have untouched : before.Untouched visit.volume := tidy.custody_at packing
  have silent : visit.exchange.sent = start := tidy.goes_at packing
  simp only [Fetch.claim]
  split
  · split
    · exact tidy
    · exact .unpacked untouched silent _
  · rename_i handle made created
    obtain ⟨location, number, rfl, adds⟩ := Volume.createNew_eq_ok created
    have held := untouched.adds adds
    split
    · exact .unpacked held.discard silent _
    · exact ⟨⟨location, number, held⟩, held.openFile, silent⟩

/-- Writing the file changes only the file. -/
theorem Tidy.fill {path : String} {archive : Archive} {left : List UInt8}
    (tidy : Tidy before start visit) (filling : visit.stage = .filling path archive left)
    (portion : Nat) : Tidy before start (fill portion path archive left visit) := by
  have custody : Custody before visit.volume (some archive.path) := tidy.custody_at filling
  obtain ⟨opens, silent⟩ := tidy.goes_at filling
  simp only [Fetch.fill]
  split
  · split
    · exact .unpacked custody.discard silent _
    · exact ⟨custody, silent⟩
  · obtain ⟨location, number, adds⟩ := custody
    have handle : archive.handle = .file number := Except.ok.inj (opens.symm.trans adds.openFile)
    have written := adds.write archive.written (left.take (portion + 1))
    rw [← handle] at written
    exact ⟨⟨location, number, written⟩, handle ▸ written.openFile, silent⟩

/-- The file that is opened for sending is the one that is held. -/
theorem Tidy.reopen {archive : Archive} (tidy : Tidy before start visit)
    (reopening : visit.stage = .reopening archive) : Tidy before start (reopen archive visit) := by
  have custody : Custody before visit.volume (some archive.path) := tidy.custody_at reopening
  have silent : visit.exchange.sent = start := tidy.goes_at reopening
  unfold Fetch.reopen
  split
  · rename_i handle stored opens looked
    refine ⟨custody, ?_, rfl, silent⟩
    intro path same
    cases same
    exact ⟨opens, stored, looked, rfl⟩
  · exact .unpacked custody.discard silent _
  · exact .unpacked custody.discard silent _

theorem Tidy.plain {stage : Download.Stage} (tidy : Tidy before start visit)
    (plain : visit.stage = .plain stage) (unpacked : ∀ path place, stage ≠ .packing path place)
    (portion : Nat) :
    let stepped := Download.Run.step site visit.volume portion ⟨stage, visit.exchange⟩
    Tidy before start ⟨.plain stepped.1.stage, stepped.1.exchange, stepped.2⟩ := by
  have custody : Custody before visit.volume stage.temporary? := tidy.custody_at plain
  have progress : Progress start visit.exchange.sent visit.volume stage := tidy.goes_at plain
  refine ⟨?_, Download.Run.progress_step unpacked progress⟩
  rcases Download.Run.holds_step site visit.volume portion stage visit.exchange unpacked with
    ⟨same, held⟩ | ⟨result, download, rfl, settled, closed⟩
  · simp only [Stage.archive?, same, held]
    exact custody
  · simp only [Stage.archive?, settled, closed, Download.close_eq]
    cases temporary : download.temporary with
    | none =>
        have free : Download.Stage.temporary? (.closing result (some download)) = none := temporary
        rwa [free] at custody
    | some path =>
        have held : Download.Stage.temporary? (.closing result (some download)) = some path :=
          temporary
        rw [held] at custody
        exact custody.discard

theorem Tidy.serveStep (tidy : Tidy before start visit) (turn : Turn) :
    Tidy before start (serveStep site turn visit) := by
  unfold Fetch.serveStep
  split
  · rename_i path place packing
    exact tidy.claim packing turn.word
  · rename_i stage unpacked plain
    exact tidy.plain plain unpacked turn.portion
  · rename_i path archive left filling
    exact tidy.fill filling turn.portion
  · rename_i archive reopening
    exact tidy.reopen reopening

theorem Tidy.failStep (tidy : Tidy before start visit) (failure : Host.Failure) :
    Tidy before start (failStep failure visit) := by
  unfold Fetch.failStep
  split
  · rename_i stage plain
    have custody : Custody before visit.volume stage.temporary? := tidy.custody_at plain
    refine ⟨?_, (tidy.goes_at plain).failed failure⟩
    rw [Stage.archive?, Download.Stage.temporary?_failed]
    exact custody
  · rename_i path archive left filling
    have custody : Custody before visit.volume (some archive.path) := tidy.custody_at filling
    exact .unpacked custody.discard (tidy.goes_at filling).2 _
  · rename_i archive reopening
    have custody : Custody before visit.volume (some archive.path) := tidy.custody_at reopening
    exact .unpacked custody.discard (tidy.goes_at reopening) _

theorem sent_claim (word path : String) (place : Place) (visit : Visit Stage) :
    (claim site word path place visit).exchange.sent = visit.exchange.sent := by
  simp only [claim]
  split
  · split <;> rfl
  · split <;> rfl

theorem sent_fill (portion : Nat) (path : String) (archive : Archive) (left : List UInt8)
    (visit : Visit Stage) :
    (fill portion path archive left visit).exchange.sent = visit.exchange.sent := by
  simp only [fill]
  split
  · split <;> rfl
  · rfl

theorem sent_reopen (archive : Archive) (visit : Visit Stage) :
    (reopen archive visit).exchange.sent = visit.exchange.sent := by
  unfold reopen
  split <;> rfl

/-- A step writes only when the run answers, and such a step fails for good. -/
theorem answers_of_sent (turn : Turn)
    (written : (Fetch.serveStep site turn visit).exchange.sent ≠ visit.exchange.sent)
    (failure : Host.Failure) :
    ∃ stage fault opened, visit.stage = .plain stage ∧
      stage.failed failure = .closing (.error fault) opened := by
  unfold Fetch.serveStep at written
  split at written
  · exact absurd (sent_claim ..) written
  · rename_i stage unpacked plain
    obtain ⟨fault, opened, failed⟩ := Download.Run.answers_of_sent unpacked written failure
    exact ⟨stage, fault, opened, plain, failed⟩
  · exact absurd (sent_fill ..) written
  · exact absurd (sent_reopen ..) written

theorem Tidy.turn (tidy : Tidy before start visit) (turn : Turn) :
    Tidy before start (Visit.turn (Fetch.serveStep site) Fetch.failStep visit turn) := by
  apply Visit.turn_induction (Tidy before start) tidy.serveStep tidy.failStep (fun _ => .gone)
  intro turn failure sent written
  obtain ⟨stage, fault, opened, plain, failed⟩ := answers_of_sent turn written failure
  have after := tidy.failStep failure
  refine ⟨after.custody, ?_⟩
  simp only [Visit.gone, Fetch.failStep, plain, failed]
  exact (Progress.closing_error : Progress start sent visit.volume (.closing (.error fault) opened))

theorem Tidy.follow (tidy : Tidy before start visit) (turns : List Turn) :
    Tidy before start (follow site visit turns) := by
  induction turns generalizing visit with
  | nil => exact tidy
  | cons turn turns ih => exact ih (tidy.turn turn)

/-! ## When the file is let go of -/

/-- The file is let go of before anything is sent, or by the last step of a run. If that run
succeeds, all bytes of the file have been sent by then, unless the client was refused. -/
def Released (start : List UInt8) (visit next : Visit Stage) : Prop :=
  (∃ failure, next.stage = .plain (.refusing failure none) ∧ next.exchange.sent = start) ∨
    ∃ result download, visit.stage = .plain (.closing result (some download)) ∧
      next.stage = .plain (.settled result) ∧
        (result = .ok () → Opened visit.volume download ∧
          Answered start visit.exchange.sent visit.volume download)

/-- The file is still held, or it is let go of in time. -/
def Passes (path start : List UInt8) (visit next : Visit Stage) : Prop :=
  next.stage.archive? = some path ∨ Released start visit next

variable {path : List UInt8}

theorem Tidy.passes_serveStep (tidy : Tidy before start visit)
    (held : visit.stage.archive? = some path) (turn : Turn) :
    Passes path start visit (Fetch.serveStep site turn visit) := by
  unfold Fetch.serveStep
  split
  · rename_i packing
    rw [packing] at held
    cases held
  · rename_i stage unpacked plain
    rw [plain] at held
    rcases Download.Run.holds_step site visit.volume turn.portion stage visit.exchange unpacked with
      ⟨-, same⟩ | ⟨result, download, rfl, settled, -⟩
    · exact .inl (same.trans held)
    · refine .inr (.inr ⟨result, download, plain, congrArg Stage.plain settled, ?_⟩)
      rintro rfl
      exact tidy.goes_at plain
  · rename_i request archive left filling
    have silent := (tidy.goes_at filling).2
    rw [filling] at held
    simp only [Fetch.fill]
    split
    · split
      · exact .inr (.inl ⟨_, rfl, silent⟩)
      · exact .inl held
    · exact .inl held
  · rename_i archive reopening
    have silent := tidy.goes_at reopening
    rw [reopening] at held
    unfold Fetch.reopen
    split
    · exact .inl held
    · exact .inr (.inl ⟨_, rfl, silent⟩)
    · exact .inr (.inl ⟨_, rfl, silent⟩)

theorem Tidy.passes_failStep (tidy : Tidy before start visit)
    (held : visit.stage.archive? = some path) (failure : Host.Failure) :
    Passes path start visit (Fetch.failStep failure visit) := by
  unfold Fetch.failStep
  split
  · rename_i stage plain
    rw [plain] at held
    exact .inl ((stage.temporary?_failed failure).trans held)
  · rename_i request archive left filling
    exact .inr (.inl ⟨_, rfl, (tidy.goes_at filling).2⟩)
  · rename_i archive reopening
    exact .inr (.inl ⟨_, rfl, tidy.goes_at reopening⟩)

theorem Tidy.passes_turn (tidy : Tidy before start visit)
    (held : visit.stage.archive? = some path) (turn : Turn) :
    Passes path start visit (Visit.turn (Fetch.serveStep site) Fetch.failStep visit turn) := by
  apply Visit.turn_induction (Passes path start visit) (tidy.passes_serveStep held)
    (tidy.passes_failStep held) (fun _ passes => passes)
  intro turn failure sent written
  obtain ⟨stage, fault, opened, plain, failed⟩ := answers_of_sent turn written failure
  left
  rw [plain] at held
  simp only [Visit.gone, Fetch.failStep, plain]
  exact (stage.temporary?_failed failure).trans held

/-- What a visit leaves on the volume at each of its moments. -/
structure Clean (site : Site) (before : Volume) (start : List UInt8) (visit : Visit Stage) :
    Prop where
  /-- When it has ended, nothing. -/
  ended : ∀ result, visit.stage = .plain (.settled result) → before.Untouched visit.volume
  /-- While it holds no temporary file, nothing. -/
  idle : visit.stage.archive? = none → before.Untouched visit.volume
  /-- While it holds one, that file alone. -/
  held : ∀ path, visit.stage.archive? = some path →
    ∃ place number, before.Adds path place number visit.volume
  /-- It holds the file until it can be let go of. -/
  released : ∀ path turn, visit.stage.archive? = some path →
    Passes path start visit (Visit.turn (Fetch.serveStep site) Fetch.failStep visit turn)

theorem Tidy.clean (tidy : Tidy before start visit) : Clean site before start visit where
  ended result settled := tidy.custody_at settled
  idle none := by
    have custody := tidy.custody
    rwa [none] at custody
  held path some := by
    have custody := tidy.custody
    rwa [some] at custody
  released path turn held := tidy.passes_turn held turn

end Fetch

/-- Whatever a client sends, whatever the host refuses and whenever the client leaves: a visit
leaves the volume as it was before. -/
theorem Visit.leaves_no_trace (site : Site) (exchange : Exchange) (volume : Volume)
    (turns : List Turn) :
    (Listing.follow site (Listing.visit exchange volume) turns).volume = volume ∧
      Fetch.Clean site volume exchange.sent
        (Fetch.follow site (Fetch.visit exchange volume) turns) :=
  ⟨Listing.volume_follow site (Listing.visit exchange volume) turns,
    ((Fetch.tidy_visit exchange volume).follow turns).clean⟩

end DesktopGateway.Files
