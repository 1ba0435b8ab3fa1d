import DesktopGateway.Proofs.Files.Visit
import DesktopGateway.Proofs.Volume.Directory

/-!
# Visits that are served

When the host serves every step and the client stays, a visit is the service as a whole: it answers
the same, sends the same and leaves the same volume behind. A fetching visit goes through the
packing of a directory in single steps, where the download packs at once.
-/

namespace DesktopGateway.Volume

/-- A content that is changed twice is changed once by both. -/
theorem modify_modify (volume : Volume) (number : Nat) (first second : Content → Content) :
    (volume.modify number first).modify number second =
      volume.modify number fun content => second (first content) := by
  cases recorded : volume.record? number with
  | none =>
      have same (change : Content → Content) : volume.modify number change = volume := by
        rw [modify, recorded]
      rw [same, same, same]
  | some record =>
      have changed (change : Content → Content) : volume.modify number change =
          volume.putRecord number { record with content := change record.content } := by
        rw [modify, recorded]
      rw [changed, changed, modify, record?_putRecord, if_pos rfl]
      simp [putRecord, List.filter_filter]

/-- A file that has got these bytes instead of its own. -/
def filled (volume : Volume) (number : Nat) (bytes : List UInt8) : Volume :=
  volume.modify number fun _ => .ofBytes bytes

theorem filled_filled (volume : Volume) (number : Nat) (first second : List UInt8) :
    (volume.filled number first).filled number second = volume.filled number second :=
  modify_modify ..

theorem Holds.filled {volume : Volume} {number : Nat} {front : List UInt8}
    (holds : volume.Holds number front) (bytes : List UInt8) :
    (volume.filled number bytes).Holds number bytes := by
  obtain ⟨record, recorded, -⟩ := Option.map_eq_some_iff.mp holds
  exact holds_modify recorded rfl

theorem Holds.write_eq {volume : Volume} {number : Nat} {front : List UInt8}
    (holds : volume.Holds number front) (bytes : List UInt8) :
    volume.write (.file number) front.length bytes = volume.filled number (front ++ bytes) := by
  obtain ⟨record, recorded, same⟩ := Option.map_eq_some_iff.mp holds
  rw [Volume.write, Volume.filled, modify, modify, recorded]
  simp only [same, Content.writeAt_end]

/-- To put a record where it was put last changes nothing. -/
theorem putRecord_self {volume : Volume} {number : Nat} {record : FileRecord}
    {others : List (Nat × FileRecord)}
    (last : volume.files = (number, record) :: others.filter fun file => file.1 != number) :
    volume.putRecord number record = volume := by
  obtain ⟨entries, files⟩ := volume
  obtain rfl : files = _ := last
  simp [putRecord, List.filter_filter]

/-- A new file is empty already. -/
theorem filled_nil_of_createNew {volume made : Volume} {credentials : Credentials}
    {path : List UInt8} {number : Nat}
    (done : volume.createNew credentials path = .ok (.file number, made)) :
    made.filled number [] = made := by
  unfold createNew at done
  split at done
  · cases done
  · cases done
  · rename_i location free
    cases done
    have last : ((volume.putRecord volume.freshNumber ⟨.empty, credentials.owner⟩).put location
        (.file volume.freshNumber)).files = (volume.freshNumber, ⟨.empty, credentials.owner⟩) ::
          volume.files.filter fun file => file.1 != volume.freshNumber := by
      unfold put
      split <;> rfl
    have recorded : ((volume.putRecord volume.freshNumber ⟨.empty, credentials.owner⟩).put location
        (.file volume.freshNumber)).record? volume.freshNumber =
          some ⟨.empty, credentials.owner⟩ := by
      rw [record?, last, List.lookup_cons_self]
    rw [filled, modify, recorded]
    exact putRecord_self last

end DesktopGateway.Volume

namespace DesktopGateway.Files

open DesktopGateway.Link
open DesktopGateway.Serving
open DesktopGateway.Wire

/-! ## Runs of served steps -/

namespace Visit

variable {Stage : Type} {step : Visit Stage → Visit Stage}

def Leads (step : Visit Stage → Visit Stage) (first second : Visit Stage) : Prop :=
  ∃ count, step^[count] first = second

namespace Leads

variable {first second third : Visit Stage}

theorem refl (visit : Visit Stage) : Leads step visit visit :=
  ⟨0, rfl⟩

theorem one (same : step first = second) : Leads step first second :=
  ⟨1, same⟩

theorem trans (earlier : Leads step first second) (later : Leads step second third) :
    Leads step first third := by
  obtain ⟨front, rfl⟩ := earlier
  obtain ⟨back, rfl⟩ := later
  exact ⟨back + front, Function.iterate_add_apply ..⟩

end Leads

/-- Served turns are the steps of a visit that is served. -/
theorem foldl_served {serve : Turn → Visit Stage → Visit Stage}
    {fail : Host.Failure → Visit Stage → Visit Stage} {turn : Turn}
    (served : turn.outcome = .served) (count : Nat) (visit : Visit Stage) :
    (List.replicate count turn).foldl (Visit.turn serve fail) visit =
      (serve turn)^[count] visit := by
  induction count generalizing visit with
  | zero => rfl
  | succ count ih =>
      have first : Visit.turn serve fail visit turn = serve turn visit := by
        rw [Visit.turn, served]
      rw [List.replicate_succ, List.foldl_cons, first, ih, Function.iterate_succ_apply]

end Visit

/-! ## Asking about a file -/

namespace Listing

variable {site : Site} {turn : Turn}

/-- The steps of a visit that is served. -/
def ServedLeads (site : Site) (turn : Turn) : Visit Stage → Visit Stage → Prop :=
  Visit.Leads (serveStep site turn)

/-- The request is read byte by byte. -/
theorem asking_leads (demand : Demand (Except Fault (Parcel Unit))) (exchange : Exchange)
    (volume : Volume) :
    ServedLeads site turn ⟨.asking demand, exchange, volume⟩
      ⟨.asked (exchange.read demand).1, (exchange.read demand).2, volume⟩ := by
  induction demand generalizing exchange with
  | done request => exact .one rfl
  | next onByte onEnd ihByte ihEnd =>
      rcases exchange.pull_cases with ⟨value, later, pulled, -⟩ | pulled
      · rw [Exchange.read_of_pull_byte pulled]
        exact .trans (.one (by simp only [serveStep, pulled])) (ihByte value later)
      · rw [Exchange.read_of_pull_ended pulled]
        exact .trans (.one (by simp only [serveStep, pulled])) (ihEnd exchange)

/-- The entries are looked at one by one. -/
theorem counting_leads (path : String) (item : Item) (left : List (Volume.Name × Volume.Node))
    (items : List Item) (exchange : Exchange) (volume : Volume) :
    ServedLeads site turn ⟨.counting path item left items, exchange, volume⟩
      ⟨.accepting ⟨item, some (sort (items ++ left.map (Item.ofEntry volume)))⟩, exchange,
        volume⟩ := by
  induction left generalizing items with
  | nil =>
      rw [List.map_nil, List.append_nil]
      exact .one rfl
  | cons entry left ih =>
      have rest := ih (items ++ [.ofEntry volume entry])
      rw [List.append_assoc] at rest
      refine .trans ?_ rest
      cases directory : entry.2.isDirectory with
      | true => exact .one (by simp only [serveStep, Stage.work, directory, if_true])
      | false =>
          have measures : ServedLeads site turn
              ⟨.counting path item (entry :: left) items, exchange, volume⟩ ⟨.measuring path item entry left items, exchange, volume⟩ :=
            .one (by simp only [serveStep, Stage.work, directory, Bool.false_eq_true, if_false])
          exact measures.trans (.one rfl)

/-- A visit refuses what it cannot list, and answers with what it can. -/
def Answers (site : Site) (turn : Turn) (visit : Visit Stage) : Except Failure Listing → Prop
  | .error failure => ServedLeads site turn visit ⟨.refusing failure, visit.exchange, visit.volume⟩
  | .ok listing => ServedLeads site turn visit ⟨.accepting listing, visit.exchange, visit.volume⟩

theorem looking_leads (path : String) (place : Place) (exchange : Exchange) (volume : Volume) :
    Answers site turn ⟨.looking path place, exchange, volume⟩
      ((ofPlace volume place).mapError (.file path)) := by
  unfold ofPlace
  cases looked : volume.metadata place.bytes with
  | error failure => exact .one (by simp only [serveStep, Stage.work, looked])
  | ok metadata =>
      dsimp only
      cases directory : metadata.isDirectory with
      | false =>
          exact .one (by
            simp only [serveStep, Stage.work, looked, directory, Bool.false_eq_true, if_false])
      | true =>
          have enters : ServedLeads site turn ⟨.looking path place, exchange, volume⟩
              ⟨.entering path place ⟨place.shownName, true, metadata.length⟩, exchange, volume⟩ :=
            .one (by simp only [serveStep, Stage.work, looked, directory, if_true])
          rw [if_pos rfl]
          cases listed : volume.listing place.bytes with
          | error failure =>
              exact enters.trans (.one (by simp only [serveStep, Stage.work, listed]))
          | ok entries =>
              refine enters.trans
                (.trans (.one ?_) (counting_leads path _ entries [] exchange volume))
              simp only [serveStep, Stage.work, listed]

theorem resolving_leads (path : String) (exchange : Exchange) (volume : Volume) :
    Answers site turn ⟨.resolving path, exchange, volume⟩ (ofPath site volume path) := by
  unfold ofPath
  cases resolved : site.resolve volume path with
  | error failure => exact .one (by simp only [serveStep, Stage.work, resolved])
  | ok place =>
      have looks : ServedLeads site turn ⟨.resolving path, exchange, volume⟩
          ⟨.looking path place, exchange, volume⟩ :=
        .one (by simp only [serveStep, Stage.work, resolved])
      have answers := @looking_leads site turn path place exchange volume
      dsimp only
      generalize (ofPlace volume place).mapError (Failure.file path) = listed at answers ⊢
      cases listed with
      | error failure => exact looks.trans answers
      | ok listing => exact looks.trans answers

theorem accepting_leads (listing : Listing) (exchange : Exchange) (volume : Volume) :
    let answered : Except Failure Unit × Exchange :=
      match exchange.emit Endpoint.acceptance with
      | (.error failure, exchange) => (.error failure, exchange)
      | (.ok (), exchange) =>
          let written := exchange.write listing.bytes
          (written.1.mapError .stream, written.2)
    ServedLeads site turn ⟨.accepting listing, exchange, volume⟩
      ⟨.settled answered.1, answered.2, volume⟩ := by
  rcases emitted : exchange.emit Endpoint.acceptance with ⟨failure | done, later⟩
  · exact .one (by simp only [serveStep, emitted])
  · have answers : ServedLeads site turn ⟨.accepting listing, exchange, volume⟩
        ⟨.answering listing, later, volume⟩ := .one (by simp only [serveStep, emitted])
    exact answers.trans (.one rfl)

/-- A visit that is served answers as the service does, and leaves the volume alone. -/
theorem serve_leads (site : Site) (turn : Turn) (exchange : Exchange) (volume : Volume) :
    let served := serve site volume exchange
    ServedLeads site turn (visit exchange volume) ⟨.settled served.1, served.2, volume⟩ := by
  unfold visit Stage.start serve Exchange.readRequest
  cases exchange.service.request? with
  | none => exact .one rfl
  | some kind =>
      have asked := @asking_leads site turn (Parcel.decode kind) exchange volume
      dsimp only at asked ⊢
      refine asked.trans ?_
      unfold Stage.asked
      cases requested : (exchange.read (Parcel.decode kind)).1.bind
          (fun parcel => parcel.expect .statRequest) with
      | error fault => exact .one rfl
      | ok parcel =>
          cases parcel with
          | statRequest path =>
              have answers := @resolving_leads site turn path
                (exchange.read (Parcel.decode kind)).2 volume
              dsimp only [Except.mapError]
              cases found : ofPath site volume path with
              | error failure =>
                  rw [found] at answers
                  exact answers.trans (.one rfl)
              | ok listing =>
                  rw [found] at answers
                  exact answers.trans (accepting_leads listing _ volume)
          | fetchRequest path => exact .refl _
          | storeRequest name size content => exact .refl _
          | fetchedFile name contentType size content => exact .refl _

theorem follow_served (site : Site) {turn : Turn} (served : turn.outcome = .served)
    (exchange : Exchange) (volume : Volume) :
    let whole := serve site volume exchange
    ∃ count, follow site (visit exchange volume) (List.replicate count turn) =
      ⟨.settled whole.1, whole.2, volume⟩ := by
  obtain ⟨count, same⟩ := serve_leads site turn exchange volume
  exact ⟨count, (Visit.foldl_served served count _).trans same⟩

end Listing

/-! ## Fetching a file -/

namespace Fetch

open Download (Run temporaryPath)

variable {site : Site} {portion : Nat}

def servedTurn (site : Site) (portion : Nat) : Turn :=
  ⟨portion, site.token, .served⟩

def ServedLeads (site : Site) (portion : Nat) : Visit Stage → Visit Stage → Prop :=
  Visit.Leads (serveStep site (servedTurn site portion))

def ofRun (state : Run × Volume) : Visit Stage :=
  ⟨.plain state.1.stage, state.1.exchange, state.2⟩

theorem fill_filled {volume : Volume} {number : Nat} {front left : List UInt8}
    (holds : volume.Holds number front) (some : left ≠ []) (portion : Nat) (path name : String)
    (temporary : List UInt8) (exchange : Exchange) :
    serveStep site (servedTurn site portion)
        ⟨.filling path ⟨name, temporary, .file number, front.length⟩ left, exchange, volume⟩ =
      ⟨.filling path ⟨name, temporary, .file number, (front ++ left.take (portion + 1)).length⟩
          (left.drop (portion + 1)), exchange,
        volume.filled number (front ++ left.take (portion + 1))⟩ := by
  have more : left.isEmpty = false := by simpa using some
  simp only [serveStep, fill, more, Bool.false_eq_true, if_false, servedTurn, holds.write_eq,
    List.length_append]

/-- The archive is written portion by portion. -/
theorem filling_leads_some {volume : Volume} {number : Nat} {front left : List UInt8}
    (holds : volume.Holds number front) (some : left ≠ []) (path name : String)
    (temporary : List UInt8) (exchange : Exchange) :
    ServedLeads site portion
      ⟨.filling path ⟨name, temporary, .file number, front.length⟩ left, exchange, volume⟩
      ⟨.reopening ⟨name, temporary, .file number, (front ++ left).length⟩, exchange,
        volume.filled number (front ++ left)⟩ := by
  generalize size : left.length = count
  induction count using Nat.strongRecOn generalizing left front volume with
  | ind count ih =>
      refine .trans (.one (fill_filled holds some portion path name temporary exchange)) ?_
      by_cases last : left.drop (portion + 1) = []
      · have whole : left.take (portion + 1) = left :=
          List.take_of_length_le (List.drop_eq_nil_iff.mp last)
        rw [last, whole]
        exact .one rfl
      · have shorter : (left.drop (portion + 1)).length < count := by
          have positive := List.length_pos_iff.mpr some
          rw [List.length_drop]
          omega
        have rest := ih _ shorter (holds.filled (front ++ left.take (portion + 1))) last rfl
        rwa [List.append_assoc, List.take_append_drop, Volume.filled_filled] at rest

theorem filling_leads {volume made : Volume} {path : List UInt8} {number : Nat}
    (created : volume.createNew site.credentials path = .ok (.file number, made))
    (whole : List UInt8) (asked name : String) (temporary : List UInt8) (exchange : Exchange) :
    ServedLeads site portion
      ⟨.filling asked ⟨name, temporary, .file number, 0⟩ whole, exchange, made⟩
      ⟨.reopening ⟨name, temporary, .file number, whole.length⟩, exchange,
        made.filled number whole⟩ := by
  cases whole with
  | nil =>
      rw [Volume.filled_nil_of_createNew created]
      exact .one rfl
  | cons first rest =>
      exact filling_leads_some (Volume.holds_of_createNew created) (List.cons_ne_nil _ _) asked name
        temporary exchange

section Packing

variable {volume : Volume} {place : Place}
  (unused : ∀ location node, volume.find false (temporaryPath site) ≠ .ok (.entry location node))

include unused

/-- No temporary file can be made, and both give up. -/
theorem packing_leads_failed {failure : Host.Failure}
    (created : volume.createNew site.credentials (temporaryPath site) = .error failure)
    (path : String) (exchange : Exchange) :
    ServedLeads site portion (ofRun (⟨.packing path place, exchange⟩, volume))
      (ofRun (Run.step site volume portion ⟨.packing path place, exchange⟩)) := by
  have other : failure ≠ .refused .alreadyThere := by
    rintro rfl
    obtain ⟨location, node, reached⟩ := Volume.createNew_eq_alreadyThere_iff.mp created
    exact unused location node reached
  have packs : Download.pack site volume place.bytes = .error failure := by
    rw [Download.pack, Volume.createFile_eq_createNew unused, created]
  refine .one ?_
  simp only [ofRun, serveStep, claim, servedTurn, created, other, if_false, unpacked, Run.step,
    Download.Stage.work, Download.ofBundle, packs]

/-- A new file gets the archive, and both open it for sending. -/
theorem packing_leads_made {made : Volume} {number : Nat} {bundle : Bundle}
    (created : volume.createNew site.credentials (temporaryPath site) = .ok (.file number, made))
    (bundled : Bundle.gather volume place.bytes = .ok bundle) (path : String)
    (exchange : Exchange) :
    ServedLeads site portion (ofRun (⟨.packing path place, exchange⟩, volume))
      (ofRun (Run.step site volume portion ⟨.packing path place, exchange⟩)) := by
  obtain ⟨whole, archived⟩ : ∃ whole, site.archiver.pack bundle = whole := ⟨_, rfl⟩
  have holds := Volume.holds_of_createNew created
  have opens : (made.write (.file number) 0 whole).openFile (temporaryPath site) =
      .ok (.file number) := by
    obtain ⟨location, _, ⟨rfl⟩, adds⟩ := Volume.createNew_eq_ok created
    exact (adds.write 0 whole).openFile
  obtain ⟨owner, looked⟩ : ∃ owner, (made.write (.file number) 0 whole).metadata
      (temporaryPath site) = .ok ⟨false, whole.length, owner⟩ := (holds.write whole).metadata opens
  have packs : Download.pack site volume place.bytes =
      .ok (bundle, made.write (.file number) 0 whole) := by
    simp only [Download.pack, Volume.createFile_eq_createNew unused, created, bundled, archived]
  have packed : Run.step site volume portion ⟨.packing path place, exchange⟩ =
      (⟨.opened ⟨bundle.name, .file number, whole.length, some (temporaryPath site)⟩, exchange⟩,
        made.write (.file number) 0 whole) := by
    simp only [Run.step, Download.Stage.work, Download.ofBundle, packs, opens, looked]
  have claims : serveStep site (servedTurn site portion)
      (ofRun (⟨.packing path place, exchange⟩, volume)) =
        ⟨.filling path ⟨bundle.name, temporaryPath site, .file number, 0⟩ whole, exchange,
          made⟩ := by
    simp only [ofRun, serveStep, claim, servedTurn, created, bundled, archived]
  have fills := @filling_leads site portion volume made _ number created whole path bundle.name
    (temporaryPath site) exchange
  have wrote := holds.write_eq whole
  rw [List.length_nil, List.nil_append] at wrote
  rw [← wrote] at fills
  refine .trans (.one claims) (fills.trans (.one ?_))
  rw [packed]
  simp only [ofRun, serveStep, reopen, opens, looked]

theorem packing_leads (directory : volume.isDirectory place.bytes = true) (path : String)
    (exchange : Exchange) :
    ServedLeads site portion (ofRun (⟨.packing path place, exchange⟩, volume))
      (ofRun (Run.step site volume portion ⟨.packing path place, exchange⟩)) := by
  cases created : volume.createNew site.credentials (temporaryPath site) with
  | error failure => exact packing_leads_failed unused created path exchange
  | ok fresh =>
      obtain ⟨handle, made⟩ := fresh
      obtain ⟨_, number, rfl, -⟩ := Volume.createNew_eq_ok created
      obtain ⟨inside, found⟩ := Volume.isDirectory_eq_true_iff.mp directory
      obtain ⟨bundle, bundled⟩ : ∃ bundle, Bundle.gather volume place.bytes = .ok bundle := by
        unfold Bundle.gather
        rw [found]
        exact ⟨_, rfl⟩
      exact packing_leads_made unused created bundled path exchange

end Packing

/-! ## The whole visit -/

/-- Until the download has opened something, it has not touched the volume. It packs only what is a
directory. -/
def Early (before after : Volume) : Download.Stage → Prop
  | .asking _ | .resolving _ | .looking .. => after = before
  | .packing _ place => after = before ∧ before.isDirectory place.bytes = true
  | _ => True

theorem early_asked (request : Except Fault (Parcel Unit)) (volume : Volume) :
    Early volume volume (.asked request) := by
  unfold Download.Stage.asked
  split <;> trivial

theorem early_step {before after : Volume} {run : Run} (early : Early before after run.stage) :
    Early before (run.step site after portion).2 (run.step site after portion).1.stage := by
  obtain ⟨stage, exchange⟩ := run
  cases stage with
  | asking demand =>
      cases early
      cases demand with
      | done request => exact early_asked request before
      | next onByte onEnd =>
          simp only [Run.step]
          split <;> rfl
  | resolving path =>
      cases early
      simp only [Run.step, Download.Stage.work]
      split <;> trivial
  | looking path place =>
      cases early
      simp only [Run.step, Download.Stage.work]
      split
      · trivial
      · rename_i metadata looked
        split
        · rename_i directory
          refine ⟨rfl, ?_⟩
          rw [Volume.isDirectory, looked]
          exact directory
        · trivial
  | packing path place =>
      simp only [Run.step, Download.Stage.work]
      split <;> trivial
  | opening path place size =>
      simp only [Run.step, Download.Stage.work]
      split <;> trivial
  | sniffing download reader head =>
      simp only [Run.step, Download.Stage.work]
      split <;> trivial
  | announcing download reader contentType =>
      simp only [Run.step]
      split
      · trivial
      · split <;> trivial
  | copying download reader =>
      simp only [Run.step]
      split
      · trivial
      · split <;> trivial
  | refusing failure opened => trivial
  | closing result opened => cases opened <;> trivial
  | settled result => trivial

/-- Each step of the download is one step of the visit, or the packing in single steps. -/
theorem step_leads {before after : Volume} {run : Run}
    (unused : ∀ location node, before.find false (temporaryPath site) ≠ .ok (.entry location node))
    (early : Early before after run.stage) :
    ServedLeads site portion (ofRun (run, after)) (ofRun (run.step site after portion)) := by
  obtain ⟨stage, exchange⟩ := run
  cases stage with
  | packing path place =>
      obtain ⟨rfl, directory⟩ := early
      exact packing_leads unused directory path exchange
  | _ => exact .one rfl

/-- A visit goes through whatever the download goes through. -/
theorem run_leads {before : Volume}
    (unused : ∀ location node, before.find false (temporaryPath site) ≠ .ok (.entry location node))
    {state later : Run × Volume} (early : Early before state.2 state.1.stage)
    (leads : Run.Leads site portion state later) :
    ServedLeads site portion (ofRun state) (ofRun later) := by
  obtain ⟨count, rfl⟩ := leads
  induction count generalizing state with
  | zero => exact .refl _
  | succ count ih =>
      rw [Function.iterate_succ_apply]
      exact (step_leads unused early).trans (ih (early_step early))

/-- A visit that is served answers, sends and leaves behind what the download as a whole does, when
nothing has the name of its temporary file. -/
theorem serve_leads {site : Site} {volume : Volume}
    (unused : ∀ location node, volume.find false (temporaryPath site) ≠ .ok (.entry location node))
    (portion : Nat) (exchange : Exchange) :
    let served := Download.serve site volume exchange
    ServedLeads site portion (visit exchange volume)
      ⟨.plain (.settled served.1), served.2.1, served.2.2⟩ := by
  have early : Early volume volume (Download.Stage.start exchange.service) := by
    unfold Download.Stage.start
    split
    · trivial
    · rfl
  exact run_leads unused early (Run.serve_leads site portion volume exchange)

theorem follow_served {site : Site} {volume : Volume}
    (unused : ∀ location node, volume.find false (temporaryPath site) ≠ .ok (.entry location node))
    (portion : Nat) (exchange : Exchange) :
    let whole := Download.serve site volume exchange
    ∃ count, follow site (visit exchange volume) (List.replicate count (servedTurn site portion)) =
      ⟨.plain (.settled whole.1), whole.2.1, whole.2.2⟩ := by
  obtain ⟨count, same⟩ := serve_leads unused portion exchange
  exact ⟨count, (Visit.foldl_served rfl count _).trans same⟩

end Fetch

end DesktopGateway.Files
