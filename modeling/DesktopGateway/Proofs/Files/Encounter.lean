import DesktopGateway.Client.Call
import DesktopGateway.Proofs.Files.Acknowledged
import DesktopGateway.Proofs.Files.DownloadRun
import DesktopGateway.Proofs.Files.Replacing
import DesktopGateway.Proofs.Link.Reply

/-!
# Downloads during an upload

A download takes the size of its file, opens it and reads it in portions; an upload of the same file
may do any of its steps in between. No lock, temporary name or renaming keeps the two apart.
-/

namespace DesktopGateway.Files

open DesktopGateway.Client
open DesktopGateway.Link
open DesktopGateway.Serving
open DesktopGateway.Wire

namespace Download

/-! ## What the client is told -/

/-- The answer brings a file, and the client can read its content to the end. -/
def Fetched (path : String) (answer body : List UInt8) : Prop :=
  ∃ name contentType size, ∃ content : Parcel.Content,
    (Call.fetch path).conclude answer = .ok (.file (.fetchedFile name contentType size content)) ∧
      content.failure? = none ∧ content.bytes = body

theorem Fetched.opens {path : String} {answer body : List UInt8}
    (fetched : Fetched path answer body) :
    ∃ rest, answer = Verdict.accepted.code :: rest ∧
      ∃ name contentType size, ∃ content : Parcel.Content,
        (Parcel.read .fetchedFile rest).1 = .ok (.fetchedFile name contentType size content) ∧
          content.failure? = none ∧ content.bytes = body := by
  obtain ⟨name, contentType, size, content, concluded, whole, bytes⟩ := fetched
  have parts : (Call.fetch path).conclude answer =
      (Endpoint.verdict.run answer).1.bind fun _ =>
        (Parcel.read .fetchedFile (Endpoint.verdict.run answer).2).1.map .file := rfl
  rw [parts] at concluded
  have accepted : (Endpoint.verdict.run answer).1 = .ok () := by
    cases verdict : (Endpoint.verdict.run answer).1 with
    | ok settled => rfl
    | error fault =>
        rw [verdict] at concluded
        cases concluded
  obtain ⟨rest, rfl⟩ := (Endpoint.verdict_run_ok_iff answer).mp accepted
  refine ⟨rest, rfl, name, contentType, size, content, ?_, whole, bytes⟩
  change (Parcel.read .fetchedFile rest).1.map Reply.file = _ at concluded
  cases read : (Parcel.read .fetchedFile rest).1 with
  | error fault =>
      rw [read] at concluded
      cases concluded
  | ok parcel =>
      rw [read] at concluded
      cases concluded
      rfl

/-- What the client of a run can have been sent that met a version and those before it. -/
inductive Told (content : List UInt8) (version : Version) : List UInt8 → Prop where
  | silent : Told content version []
  | refused (failure : Failure) :
      Told content version (Endpoint.refusal failure.message).bytes
  | bare : Told content version [Verdict.accepted.code]
  | file {name contentType : String} {size : Nat} {bytes : List UInt8}
      (sendable : (Parcel.fetchedFile name contentType (Int64.ofNat size) ()).IsSendable)
      (small : size ≤ largest) (within : bytes.length ≤ size)
      (story : version.Story content size bytes) :
      Told content version (Verdict.accepted.code ::
        ((Parcel.fetchedFile name contentType (Int64.ofNat size) ()).headerBytes ++ bytes))

/-- Of an answer with a file, the whole content was read. -/
theorem Told.story {content answer body : List UInt8} {version : Version} {path : String}
    (told : Told content version answer) (fetched : Fetched path answer body) :
    version.Story content body.length body := by
  obtain ⟨rest, opens, name, contentType, size, received, read, whole, rfl⟩ := fetched.opens
  cases told with
  | silent => cases opens
  | refused failure =>
      obtain ⟨reason, refused⟩ := Endpoint.refusal_opens failure.message
      rw [refused] at opens
      cases opens
  | bare =>
      cases opens
      obtain ⟨head, behind, decoded, -⟩ :=
        (Parcel.read_eq_ok_iff .fetchedFile [] _ _).mp (Prod.ext read rfl)
      have header := ((Parcel.decode_run_iff ..).mp decoded).2.2
      exact absurd (List.append_eq_nil_iff.mp header.symm).1 head.headerBytes_ne_nil
  | @file own type announced bytes sendable small within story =>
      cases opens
      have decoded := (Parcel.decode_run_iff .fetchedFile _ bytes
        (.fetchedFile own type (Int64.ofNat announced) ())).mpr ⟨rfl, sendable, rfl⟩
      have bound : announced < 0x8000000000000000 := by
        unfold largest at small
        omega
      have count : (Parcel.fetchedFile own type (Int64.ofNat announced) ()).contentSize =
          announced := Int64.toNatClampNeg_ofNat_of_lt bound
      rw [Parcel.read_of_decode decoded, count] at read
      cases read
      have enough := (Parcel.failure?_take_eq_none_iff announced bytes).mp whole
      have length : bytes.length = announced := by omega
      subst length
      simp only [Parcel.Content.take, List.take_length]
      exact story

/-! ## The run -/

/-- A run has opened the file of a version, and before that taken its size. -/
structure Source (content : List UInt8) (version : Version) (download : Download) : Prop where
  file : ∃ number, version.number? = some number ∧ download.handle = .file number
  direct : download.temporary = none
  story : version.Story content download.size []

/-- The run for a path, which has met a version of its file and those before it. -/
inductive Meets (content : List UInt8) (path : String) (place : Place) (version : Version) :
    Stage → Exchange → Prop where
  | asking {demand : Demand (Except Fault (Parcel Unit))} {exchange : Exchange}
      (asks : (exchange.read demand).1.bind (fun parcel => parcel.expect .fetchRequest) =
        .ok (.fetchRequest path))
      (silent : exchange.sent = []) : Meets content path place version (.asking demand) exchange
  | resolving {exchange : Exchange} (silent : exchange.sent = []) :
      Meets content path place version (.resolving path) exchange
  | looking {exchange : Exchange} (silent : exchange.sent = []) :
      Meets content path place version (.looking path place) exchange
  | opening {size : Nat} {exchange : Exchange} (story : version.Story content size [])
      (silent : exchange.sent = []) :
      Meets content path place version (.opening path place size) exchange
  | sniffing {download : Download} {reader : Reader} {head : List UInt8} {exchange : Exchange}
      (source : Source content version download) (own : reader.handle = download.handle)
      (silent : exchange.sent = []) :
      Meets content path place version (.sniffing download reader head) exchange
  | announcing {download : Download} {contentType : ContentType} {exchange : Exchange}
      (source : Source content version download) (silent : exchange.sent = []) :
      Meets content path place version
        (.announcing download (.start download.handle) contentType) exchange
  | copying {download : Download} {contentType : String} {bytes : List UInt8} {exchange : Exchange}
      (source : Source content version download)
      (sendable : (Parcel.fetchedFile download.name contentType (Int64.ofNat download.size)
        ()).IsSendable)
      (small : download.size ≤ largest) (within : bytes.length ≤ download.size)
      (story : version.Story content download.size bytes)
      (told : exchange.sent = Verdict.accepted.code ::
        ((Parcel.fetchedFile download.name contentType (Int64.ofNat download.size)
          ()).headerBytes ++ bytes)) :
      Meets content path place version (.copying download ⟨download.handle, bytes.length⟩) exchange
  | refusing {failure : Failure} {opened : Option Download} {exchange : Exchange}
      (direct : ∀ download ∈ opened, download.temporary = none) (silent : exchange.sent = []) :
      Meets content path place version (.refusing failure opened) exchange
  | closing {result : Except Failure Unit} {opened : Option Download} {exchange : Exchange}
      (direct : ∀ download ∈ opened, download.temporary = none)
      (told : Told content version exchange.sent) :
      Meets content path place version (.closing result opened) exchange
  | settled {result : Except Failure Unit} {exchange : Exchange}
      (told : Told content version exchange.sent) :
      Meets content path place version (.settled result) exchange

section Meets

variable {content : List UInt8} {path : String} {place : Place} {version next : Version}
  {stage : Stage} {exchange : Exchange}

theorem Told.grows {answer : List UInt8} (told : Told content version answer)
    (grows : version.Grows next) : Told content next answer := by
  cases told with
  | silent => exact .silent
  | refused failure => exact .refused failure
  | bare => exact .bare
  | file sendable small within story => exact .file sendable small within (story.grows grows)

theorem Source.grows {download : Download} (source : Source content version download)
    (grows : version.Grows next) : Source content next download := by
  obtain ⟨number, numbered, handle⟩ := source.file
  exact ⟨⟨number, grows.number? numbered, handle⟩, source.direct, source.story.grows grows⟩

/-- What was met before a step of the upload has been met after it. -/
theorem Meets.grows (meets : Meets content path place version stage exchange)
    (grows : version.Grows next) : Meets content path place next stage exchange := by
  cases meets with
  | asking asks silent => exact .asking asks silent
  | resolving silent => exact .resolving silent
  | looking silent => exact .looking silent
  | opening story silent => exact .opening (story.grows grows) silent
  | sniffing source own silent => exact .sniffing (source.grows grows) own silent
  | announcing source silent => exact .announcing (source.grows grows) silent
  | copying source sendable small within story told =>
      exact .copying (source.grows grows) sendable small within (story.grows grows) told
  | refusing direct silent => exact .refusing direct silent
  | closing direct told => exact .closing direct (told.grows grows)
  | settled told => exact .settled (told.grows grows)

theorem Meets.told (meets : Meets content path place version stage exchange) :
    Told content version exchange.sent := by
  have quiet (silent : exchange.sent = []) : Told content version exchange.sent := by
    rw [silent]
    exact .silent
  cases meets with
  | asking asks silent => exact quiet silent
  | resolving silent => exact quiet silent
  | looking silent => exact quiet silent
  | opening story silent => exact quiet silent
  | sniffing source own silent => exact quiet silent
  | announcing source silent => exact quiet silent
  | copying source sendable small within story told =>
      rw [told]
      exact .file sendable small within story
  | refusing direct silent => exact quiet silent
  | closing direct told => exact told
  | settled told => exact told

variable {site : Site} {safe : String} {volume : Volume} {portion : Nat}

def Keeps (content : List UInt8) (path : String) (place : Place) (version : Version)
    (volume : Volume) (stepped : Run × Volume) : Prop :=
  Meets content path place version stepped.1.stage stepped.1.exchange ∧ stepped.2 = volume

theorem asking_step {demand : Demand (Except Fault (Parcel Unit))}
    (asks : (exchange.read demand).1.bind (fun parcel => parcel.expect .fetchRequest) =
      .ok (.fetchRequest path))
    (silent : exchange.sent = []) :
    Keeps content path place version volume
      (Run.step site volume portion ⟨.asking demand, exchange⟩) := by
  cases demand with
  | done request =>
      refine ⟨?_, rfl⟩
      change request.bind (fun parcel => parcel.expect .fetchRequest) = _ at asks
      change Meets content path place version (Stage.asked request) exchange
      rw [Stage.asked, asks]
      exact .resolving silent
  | next onByte onEnd =>
      rcases exchange.pull_cases with ⟨value, later, pulled, sent⟩ | pulled
      · rw [Exchange.read_of_pull_byte pulled] at asks
        rw [Run.step, pulled]
        exact ⟨.asking asks (sent.trans silent), rfl⟩
      · rw [Exchange.read_of_pull_ended pulled] at asks
        rw [Run.step, pulled]
        exact ⟨.asking asks silent, rfl⟩

theorem Keeps.of_eq {run later : Run} (same : run.step site volume portion = (later, volume))
    (meets : Meets content path place version later.stage later.exchange) :
    Keeps content path place version volume (run.step site volume portion) := by
  rw [same]
  exact ⟨meets, rfl⟩

theorem resolving_step (resolves : ∀ other, site.resolve volume path = .ok other → other = place)
    (silent : exchange.sent = []) :
    Keeps content path place version volume
      (Run.step site volume portion ⟨.resolving path, exchange⟩) := by
  cases resolved : site.resolve volume path with
  | error failure =>
      have same : Run.step site volume portion ⟨.resolving path, exchange⟩ =
          (⟨.refusing (.confinement failure) none, exchange⟩, volume) := by
        simp only [Run.step, Stage.work, resolved]
      exact .of_eq same (.refusing (by simp) silent)
  | ok other =>
      obtain rfl := resolves other resolved
      have same : Run.step site volume portion ⟨.resolving path, exchange⟩ =
          (⟨.looking path other, exchange⟩, volume) := by
        simp only [Run.step, Stage.work, resolved]
      exact .of_eq same (.looking silent)

variable (shown : Version.Shown site safe content place.bytes volume version)

include shown

theorem looking_step (silent : exchange.sent = []) :
    Keeps content path place version volume
      (Run.step site volume portion ⟨.looking path place, exchange⟩) := by
  cases looked : volume.metadata place.bytes with
  | error failure =>
      have same : Run.step site volume portion ⟨.looking path place, exchange⟩ =
          (⟨.refusing (.file path failure) none, exchange⟩, volume) := by
        simp only [Run.step, Stage.work, looked]
      exact .of_eq same (.refusing (by simp) silent)
  | ok metadata =>
      obtain ⟨plain, story⟩ := shown.metadata looked
      have same : Run.step site volume portion ⟨.looking path place, exchange⟩ =
          (⟨.opening path place metadata.length, exchange⟩, volume) := by
        simp only [Run.step, Stage.work, looked, plain, Bool.false_eq_true, if_false]
      exact .of_eq same (.opening story silent)

theorem opening_step {size : Nat} (story : version.Story content size [])
    (silent : exchange.sent = []) :
    Keeps content path place version volume
      (Run.step site volume portion ⟨.opening path place size, exchange⟩) := by
  cases opened : volume.openFile place.bytes with
  | error failure =>
      have same : Run.step site volume portion ⟨.opening path place size, exchange⟩ =
          (⟨.refusing (.file path failure) none, exchange⟩, volume) := by
        simp only [Run.step, Stage.work, opened]
      exact .of_eq same (.refusing (by simp) silent)
  | ok handle =>
      have same : Run.step site volume portion ⟨.opening path place size, exchange⟩ =
          (⟨.opened ⟨place.shownName, handle, size, none⟩, exchange⟩, volume) := by
        simp only [Run.step, Stage.work, opened]
      exact .of_eq same (.sniffing ⟨shown.openFile opened, rfl, story⟩ rfl silent)

omit shown

theorem sniffing_step {download : Download} {reader : Reader} {head : List UInt8}
    (source : Source content version download) (own : reader.handle = download.handle)
    (silent : exchange.sent = []) :
    Keeps content path place version volume
      (Run.step site volume portion ⟨.sniffing download reader head, exchange⟩) := by
  rcases reader.read_cases volume portion (ContentType.window - head.length) with
    ⟨empty, -⟩ | ⟨first, more, front, -, -⟩
  · have same : Run.step site volume portion ⟨.sniffing download reader head, exchange⟩ =
        (⟨.announcing download reader.rewind (.of head), exchange⟩, volume) := by
      simp only [Run.step, Stage.work, empty]
    refine .of_eq same ?_
    have again : reader.rewind = .start download.handle := by
      rw [← own]
      rfl
    rw [again]
    exact .announcing source silent
  · have same : Run.step site volume portion ⟨.sniffing download reader head, exchange⟩ =
        (⟨.sniffing download ⟨reader.handle, reader.offset + (more.length + 1)⟩
          (head ++ first :: more), exchange⟩, volume) := by
      simp only [Run.step, Stage.work, front]
    exact .of_eq same (.sniffing source own silent)

/-- An announcement is the verdict with an acceptable header, or the verdict alone. -/
theorem announcement_cases (download : Download) (contentType : ContentType) :
    (∃ fault, download.announcement contentType = ⟨[Verdict.accepted.code], some fault⟩) ∨
      (Parcel.fetchedFile download.name contentType.name (Int64.ofNat download.size)
          ()).IsSendable ∧
        download.announcement contentType = ⟨Verdict.accepted.code ::
          (Parcel.fetchedFile download.name contentType.name (Int64.ofNat download.size)
            ()).headerBytes, none⟩ := by
  unfold announcement
  dsimp only
  split
  · rename_i fault refused
    exact .inl ⟨fault, rfl⟩
  · rename_i header made
    obtain ⟨sendable, rfl⟩ := (Parcel.header_eq_ok_iff _ _).mp made
    exact .inr ⟨sendable, rfl⟩

theorem announcing_step {download : Download} {contentType : ContentType}
    (source : Source content version download) (silent : exchange.sent = []) :
    Keeps content path place version volume
      (Run.step site volume portion
        ⟨.announcing download (.start download.handle) contentType, exchange⟩) := by
  have direct : ∀ opened ∈ some download, opened.temporary = none := by
    rintro opened ⟨⟩
    exact source.direct
  by_cases large : largest < download.size
  · have same : Run.step site volume portion
        ⟨.announcing download (.start download.handle) contentType, exchange⟩ =
          (⟨.refusing (.tooLarge download.size) (some download), exchange⟩, volume) := by
      simp only [Run.step, large, if_true]
    exact .of_eq same (.refusing direct silent)
  · -- how far the announcement came, and what the client has of it
    have failed (failure : Failure) (later : Exchange)
        (emitted : exchange.emit (download.announcement contentType) = (.error failure, later))
        (told : Told content version later.sent) :
        Keeps content path place version volume (Run.step site volume portion
          ⟨.announcing download (.start download.handle) contentType, exchange⟩) := by
      have same : Run.step site volume portion
          ⟨.announcing download (.start download.handle) contentType, exchange⟩ =
            (⟨.closing (.error failure) (some download), later⟩, volume) := by
        simp only [Run.step, large, if_false, emitted]
      exact .of_eq same (.closing direct told)
    cases reachable : exchange.reachable with
    | false =>
        refine failed _ _ (Exchange.emit_eq_lost reachable ?_) (silent ▸ .silent)
        rcases announcement_cases download contentType with ⟨fault, same⟩ | ⟨-, same⟩ <;>
          simp [same]
    | true =>
        rcases announcement_cases download contentType with ⟨fault, same⟩ | ⟨sendable, same⟩
        · refine failed (.dialogue fault) (exchange.append [Verdict.accepted.code]) ?_ ?_
          · rw [Exchange.emit_eq_append reachable, same]
          · rw [Exchange.append, silent]
            exact .bare
        · have emitted := Exchange.emit_eq_append reachable (download.announcement contentType)
          rw [same] at emitted
          have next : Run.step site volume portion
              ⟨.announcing download (.start download.handle) contentType, exchange⟩ =
                (⟨.copying download (.start download.handle), exchange.append
                  (Verdict.accepted.code :: (Parcel.fetchedFile download.name contentType.name
                    (Int64.ofNat download.size) ()).headerBytes)⟩, volume) := by
            simp only [Run.step, large, if_false, same, emitted]
          refine .of_eq next (@Meets.copying _ _ _ _ download contentType.name [] _ source sendable
            (Nat.not_lt.mp large) (Nat.zero_le _) source.story ?_)
          simp [Exchange.append, silent]

/-- A portion that is read goes on with the story of the version that is there. -/
theorem copying_step (shown : Version.Shown site safe content place.bytes volume version)
    {download : Download} {contentType : String} {bytes : List UInt8}
    (source : Source content version download)
    (sendable : (Parcel.fetchedFile download.name contentType (Int64.ofNat download.size)
      ()).IsSendable)
    (small : download.size ≤ largest) (within : bytes.length ≤ download.size)
    (story : version.Story content download.size bytes)
    (told : exchange.sent = Verdict.accepted.code ::
      ((Parcel.fetchedFile download.name contentType (Int64.ofNat download.size)
        ()).headerBytes ++ bytes)) :
    Keeps content path place version volume
      (Run.step site volume portion
        ⟨.copying download ⟨download.handle, bytes.length⟩, exchange⟩) := by
  have direct : ∀ opened ∈ some download, opened.temporary = none := by
    rintro opened ⟨⟩
    exact source.direct
  have answered : Told content version exchange.sent := told ▸ .file sendable small within story
  rcases Reader.read_cases volume ⟨download.handle, bytes.length⟩ portion
    (download.size - bytes.length) with ⟨empty, -⟩ | ⟨first, more, front, fits, -⟩
  · have same : Run.step site volume portion
        ⟨.copying download ⟨download.handle, bytes.length⟩, exchange⟩ =
          (⟨.closing (download.ended bytes.length) (some download), exchange⟩, volume) := by
      simp only [Run.step, empty]
    exact .of_eq same (.closing direct answered)
  · cases reachable : exchange.reachable with
    | false =>
        have lost : exchange.write (first :: more) =
            (.error (Host.Failure.ofKind .brokenPipe), exchange) := by
          simp [Exchange.write, reachable]
        have same : Run.step site volume portion
            ⟨.copying download ⟨download.handle, bytes.length⟩, exchange⟩ =
              (⟨.closing (.error (.dialogue (.stream (Host.Failure.ofKind .brokenPipe))))
                (some download), exchange⟩, volume) := by
          simp only [Run.step, front, lost]
        exact .of_eq same (.closing direct answered)
    | true =>
        have length : bytes.length + (more.length + 1) = (bytes ++ first :: more).length := by
          rw [List.length_append, List.length_cons]
        have same : Run.step site volume portion
            ⟨.copying download ⟨download.handle, bytes.length⟩, exchange⟩ =
              (⟨.copying download ⟨download.handle, (bytes ++ first :: more).length⟩,
                exchange.append (first :: more)⟩, volume) := by
          simp only [Run.step, front, Exchange.write_of_reachable reachable, length]
        have further : first :: more <+: (version.bytes content).drop bytes.length := by
          obtain ⟨number, numbered, handle⟩ := source.file
          have read := congrArg Prod.fst front
          simp only [Reader.read, handle, shown.read numbered] at read
          rw [← read, List.drop_take]
          exact List.take_prefix ..
        refine .of_eq same (.copying source sendable small ?_ (story.read further) ?_)
        · rw [← length]
          omega
        · simp [Exchange.append, told]

theorem refusing_step {failure : Failure} {opened : Option Download}
    (direct : ∀ download ∈ opened, download.temporary = none) (silent : exchange.sent = []) :
    Keeps content path place version volume
      (Run.step site volume portion ⟨.refusing failure opened, exchange⟩) := by
  refine ⟨.closing direct ?_, rfl⟩
  change Told content version (exchange.emit (Endpoint.refusal failure.message)).2.sent
  cases reachable : exchange.reachable with
  | true =>
      rw [Exchange.emit_of_reachable reachable, Exchange.append, silent]
      exact .refused failure
  | false =>
      rw [Exchange.emit_of_unreachable reachable, silent]
      exact .silent

theorem closing_step {result : Except Failure Unit} {opened : Option Download}
    (direct : ∀ download ∈ opened, download.temporary = none)
    (told : Told content version exchange.sent) :
    Keeps content path place version volume
      (Run.step site volume portion ⟨.closing result opened, exchange⟩) := by
  cases opened with
  | none => exact ⟨.settled told, rfl⟩
  | some download =>
      refine ⟨.settled told, ?_⟩
      change download.close volume = volume
      rw [close, direct download rfl]

/-- A step of the download meets the version that is there, and changes nothing. -/
theorem Meets.step {run : Run} (meets : Meets content path place version run.stage run.exchange)
    (shown : Version.Shown site safe content place.bytes volume version)
    (resolves : ∀ other, site.resolve volume path = .ok other → other = place) (portion : Nat) :
    Keeps content path place version volume (run.step site volume portion) := by
  obtain ⟨stage, exchange⟩ := run
  cases meets with
  | asking asks silent => exact asking_step asks silent
  | resolving silent => exact resolving_step resolves silent
  | looking silent => exact looking_step shown silent
  | opening story silent => exact opening_step shown story silent
  | sniffing source own silent => exact sniffing_step source own silent
  | announcing source silent => exact announcing_step source silent
  | copying source sendable small within story told =>
      exact copying_step shown source sendable small within story told
  | refusing direct silent => exact refusing_step direct silent
  | closing direct told => exact closing_step direct told
  | settled told => exact ⟨.settled told, rfl⟩

end Meets

end Download

def Download.Stage.IsAhead : Stage → Prop
  | .asking _ | .resolving _ | .looking .. => True
  | _ => False

def Upload.Stage.IsWritten : Stage → Prop
  | .syncing _ | .granting _ | .settled (.ok ()) => True
  | _ => False

theorem Upload.Stage.IsWritten.not_isEarly {stage : Upload.Stage} (written : stage.IsWritten) :
    ¬ stage.IsEarly := by
  cases stage with
  | syncing upload => exact id
  | granting upload => exact id
  | settled result =>
      cases result with
      | ok stored => exact id
      | error failure => cases written
  | _ => cases written

theorem Upload.Stage.IsWritten.fills {stage : Upload.Stage} (written : stage.IsWritten)
    {content : List UInt8} {number count : Nat} (fills : stage.Fills content number count) :
    count = content.length := by
  cases stage with
  | syncing upload => exact fills
  | granting upload => exact fills
  | settled result =>
      cases result with
      | ok stored => exact fills
      | error failure => cases written
  | _ => cases written

namespace Encounter

/-- The places of a download and an upload lead to one file, or are the same and lead nowhere. -/
inductive SameFile (site : Site) (safe : String) (volume : Volume) (place : Place) : Prop where
  | file {number : Nat} (opens : volume.openFile place.bytes = .ok (.file number))
      (shared : volume.openFile (Upload.targetPlace site safe).bytes = .ok (.file number)) :
      SameFile site safe volume place
  | missing (same : place.bytes = (Upload.targetPlace site safe).bytes)
      (free : ∀ entry, volume.findEntry true place.bytes ≠ .ok entry) :
      SameFile site safe volume place

/-- The two runs have come as far as a version of their file says. -/
structure Sound (site : Site) (safe : String) (order : Upload.Order) (path : String) (place : Place)
    (version : Version) (encounter : Encounter) : Prop where
  recorded : encounter.volume.Recorded
  upload : encounter.upload.Sound site order
  shown : version.Shown site safe order.content place.bytes encounter.volume
  suits : version.Suits order.content encounter.upload.stage
  download : Download.Meets order.content path place version encounter.download.stage
    encounter.download.exchange

section Runs

variable {site : Site} {owner : Option Nat} {safe : String} {order : Upload.Order} {path : String}
  {place : Place} {version : Version} {encounter : Encounter}
  (usable : SafeName.ofName? order.name = some safe)
  (resolves : ∀ volume other, site.resolve volume path = .ok other → other = place)

include usable resolves

/-- A turn leads to the same version or to the next one, which begins with the writing of a run. -/
theorem Sound.step (sound : encounter.Sound site safe order path place version) (turn : Turn) :
    ∃ next, version.Grows next ∧
      (encounter.step site owner turn).Sound site safe order path place next ∧
      (next = version ∨ (encounter.step site owner turn).upload.stage.IsWriting) := by
  cases turn with
  | download portion =>
      obtain ⟨met, same⟩ := sound.download.step sound.shown (resolves _) portion
      have stepped : encounter.step site owner (.download portion) =
          { encounter with
            download := (encounter.download.step site encounter.volume portion).1 } := by
        simp only [Encounter.step, same]
      rw [stepped]
      exact ⟨version, .same version,
        ⟨sound.recorded, sound.upload, sound.shown, sound.suits, met⟩, .inl rfl⟩
  | upload =>
      obtain ⟨next, grows, shown, suits, began⟩ :=
        @Version.Shown.upload_step site owner _ _ _ _ _ _ sound.shown sound.suits sound.upload
          usable sound.recorded
      have recorded := (Upload.Run.effect_step sound.upload owner encounter.volume).recorded
        sound.recorded
      exact ⟨next, grows, ⟨recorded, sound.upload.step owner _, shown, suits,
        sound.download.grows grows⟩, began⟩

/-- Through any turns the versions follow each other, and without any writing it stays the same. -/
theorem Sound.follow (sound : encounter.Sound site safe order path place version)
    (turns : List Turn) :
    ∃ next, Relation.ReflTransGen Version.Grows version next ∧
      (encounter.follow site owner turns).Sound site safe order path place next ∧
      (next = version ∨
        ∃ count, (encounter.follow site owner (turns.take count)).upload.stage.IsWriting) := by
  induction turns generalizing encounter version with
  | nil => exact ⟨version, .refl, sound, .inl rfl⟩
  | cons turn turns ih =>
      obtain ⟨second, grows, stepped, began⟩ :=
        @Sound.step _ owner _ _ _ _ _ _ usable resolves sound turn
      obtain ⟨last, steps, followed, wrote⟩ := ih stepped
      refine ⟨last, .head grows steps, followed, ?_⟩
      rcases began with rfl | writing
      · rcases wrote with same | ⟨count, writing⟩
        · exact .inl same
        · exact .inr ⟨count + 1, writing⟩
      · exact .inr ⟨1, writing⟩

end Runs

/-- Before the first turn the file is as it was. -/
theorem sound_start {site : Site} {safe : String} {volume : Volume} {order : Upload.Order}
    {get put : Exchange} {path : String} {place : Place} (recorded : volume.Recorded)
    (rooted : volume.Rooted) (asked : order.Asked safe put)
    (asks : (get.readRequest .fetchRequest).1 = .ok (.fetchRequest path)) (silent : get.sent = [])
    (resolved : site.resolve volume path = .ok place) (same : SameFile site safe volume place) :
    ∃ version, (start volume get put).Sound site safe order path place version ∧
      version.IsEarly ∧
        ∀ before, version.origin? = some before → volume.ReadsAs place.bytes before := by
  have upload : (Upload.Run.new put).Sound site order := Upload.Run.sound_new asked
  have early : (Upload.Run.new put).stage.IsEarly := by
    rw [Upload.Run.new, Upload.Stage.start, asked.requests.asked]
    trivial
  have download (version : Version) : Download.Meets order.content path place version
      (Download.Run.new get).stage (Download.Run.new get).exchange := by
    rw [Exchange.readRequest] at asks
    rw [Download.Run.new, Download.Stage.start]
    cases requested : get.service.request? with
    | none =>
        rw [requested] at asks
        cases asks
    | some kind =>
        rw [requested] at asks
        exact .asking ((mapError_eq_ok_iff ..).mp asks) silent
  cases same with
  | @file number opens shared =>
      have reads (count : Nat) : volume.read (.file number) count =
          (volume.contentOf number).toList.take count := Volume.Content.take_eq ..
      refine ⟨.former number (volume.contentOf number).toList,
        ⟨recorded, upload, .former opens shared reads, early, download _⟩, trivial, ?_⟩
      rintro before ⟨⟩
      exact ⟨number, opens, reads⟩
  | missing own free =>
      have home := home_of_resolve resolved
      refine ⟨.missing, ⟨recorded, upload, .missing own ⟨rooted, home, ?_⟩, early, download _⟩,
        trivial, fun before impossible => ?_⟩
      · rwa [← own]
      · cases impossible

/-- Resolving a path in another volume gives the same place, if it gives any. -/
theorem resolve_unique {site : Site} {first second : Volume} {path : String} {place other : Place}
    (resolved : site.resolve first path = .ok place)
    (again : site.resolve second path = .ok other) : other = place := by
  obtain ⟨home, names⟩ := Confinement.resolve_eq_ok resolved
  obtain ⟨same, others⟩ := Confinement.resolve_eq_ok again
  obtain ⟨root, below⟩ := other
  obtain ⟨_, _⟩ := place
  rw [names] at others
  cases home
  cases same
  cases others
  rfl

/-- When the upload has written everything and the download has not looked yet, what there was
before the upload does not matter any more. -/
theorem Sound.afresh {site : Site} {safe : String} {order : Upload.Order} {path : String}
    {place : Place} {version : Version} {encounter : Encounter}
    (sound : encounter.Sound site safe order path place version)
    (written : encounter.upload.stage.IsWritten) (ahead : encounter.download.stage.IsAhead) :
    ∃ number, encounter.Sound site safe order path place
      (.new number none order.content.length order.content.length) := by
  have whole : ∃ number origin least, version = .new number origin least order.content.length := by
    cases version with
    | missing => exact absurd sound.suits written.not_isEarly
    | former number before => exact absurd sound.suits written.not_isEarly
    | new number origin least count =>
        obtain rfl := written.fills sound.suits
        exact ⟨number, origin, least, rfl⟩
  obtain ⟨number, origin, least, rfl⟩ := whole
  obtain ⟨recorded, upload, shown, suits, download⟩ := sound
  refine ⟨number, recorded, upload, ?_, suits, ?_⟩
  · cases shown with
    | new leads shared holds late within => exact .new leads shared holds (Nat.le_refl _) within
  · generalize encounter.download.stage = stage at download ahead
    cases download with
    | asking asks silent => exact .asking asks silent
    | resolving silent => exact .resolving silent
    | looking silent => exact .looking silent
    | _ => cases ahead

/-- For a download and an upload of one file whose runs take turns in any order: when the client of
the download has got a file and read its content to the end, then
* the content is as long as what was there before the upload, and begins with a front of that and
  goes on with what the upload has at those places; or it is a front of what is uploaded.
* As long as the upload has never been writing, it is what was there before.
* If the upload had written everything before the download took the size of the file, it is what is
  uploaded. -/
theorem fetched_during_upload (site : Site) (owner : Option Nat) {safe : String} {volume : Volume}
    (recorded : volume.Recorded) (rooted : volume.Rooted) {order : Upload.Order}
    {get put : Exchange} (asked : order.Asked safe put) {path : String}
    (asks : (get.readRequest .fetchRequest).1 = .ok (.fetchRequest path)) (silent : get.sent = [])
    {place : Place} (resolved : site.resolve volume path = .ok place)
    (same : SameFile site safe volume place) (turns : List Turn) :
    let first := Encounter.start volume get put
    ∀ body, Download.Fetched path (first.follow site owner turns).download.exchange.sent body →
      ((∃ before, volume.ReadsAs place.bytes before ∧ body.length = before.length ∧
          Mixes before order.content body) ∨ body <+: order.content) ∧
      ((∀ count, ¬ (first.follow site owner (turns.take count)).upload.stage.IsWriting) →
        volume.ReadsAs place.bytes body) ∧
      ∀ front back, turns = front ++ back →
        (first.follow site owner front).upload.stage.IsWritten →
        (first.follow site owner front).download.stage.IsAhead → body = order.content := by
  intro first body fetched
  have resolves (other : Volume) (found : Place) (there : site.resolve other path = .ok found) :
      found = place := resolve_unique resolved there
  obtain ⟨version, sound, early, before⟩ :=
    sound_start recorded rooted asked asks silent resolved same
  obtain ⟨last, steps, reached, wrote⟩ :=
    @Sound.follow _ owner _ _ _ _ _ _ asked.usable resolves sound turns
  have story := reached.download.told.story fetched
  refine ⟨?_, fun never => ?_, ?_⟩
  · rcases story.whole with ⟨old, origin, length, mixes⟩ | front
    · rw [Version.origin?_of_steps steps] at origin
      exact .inl ⟨old, before old origin, length, mixes⟩
    · exact .inr front
  · rcases wrote with rfl | ⟨count, writing⟩
    · exact before body (story.whole_of_early early)
    · exact absurd writing (never count)
  · rintro front back rfl written ahead
    obtain ⟨second, -, halfway, -⟩ :=
      @Sound.follow _ owner _ _ _ _ _ _ asked.usable resolves sound front
    obtain ⟨number, afresh⟩ := halfway.afresh written ahead
    obtain ⟨final, further, ended, -⟩ :=
      @Sound.follow _ owner _ _ _ _ _ _ asked.usable resolves afresh back
    obtain ⟨count, rfl⟩ := Version.new_of_steps further
    have split : first.follow site owner (front ++ back) =
        (first.follow site owner front).follow site owner back := List.foldl_append
    rw [split] at fetched
    exact (ended.download.told.story fetched).whole_of_late

/-! ## A download of an upload that is there already -/

section Used

open Upload (usedSite usedVolume usedPath wholeExchange)

def usedGet : Exchange :=
  Exchange.new .fetch [[85, 112, 108, 111, 97, 100, 115, 47, 97, 10]] true

def slowExchange : Exchange :=
  Exchange.new .store [[97, 10, 3, 0, 0, 0, 0, 0, 0, 0], [110], [101, 117]] true

/-- The upload comes between the first and the second byte of the download. -/
def mixedTurns : List Turn :=
  List.replicate 20 (.download 0) ++ List.replicate 20 .upload ++ List.replicate 5 (.download 0)

/-- The download comes between the first and the second byte of the upload. -/
def cutTurns : List Turn :=
  List.replicate 16 .upload ++ List.replicate 22 (.download 0) ++ List.replicate 6 .upload

/-- The upload comes before the download. -/
def lateTurns : List Turn :=
  List.replicate 20 .upload ++ List.replicate 25 (.download 0)

theorem fetched_mixed : Download.Fetched "Uploads/a"
    ((start usedVolume usedGet wholeExchange).follow usedSite none
      mixedTurns).download.exchange.sent [111, 101, 117] :=
  ⟨_, _, _, _, rfl, rfl, rfl⟩

theorem fetched_cut : Download.Fetched "Uploads/a"
    ((start usedVolume usedGet slowExchange).follow usedSite none
      cutTurns).download.exchange.sent [110] :=
  ⟨_, _, _, _, rfl, rfl, rfl⟩

/-- What is read around the upload is a mixture, and what is read behind it is what was uploaded. -/
theorem fetched_during_upload_used :
    (Download.Fetched "Uploads/a" ((start usedVolume usedGet wholeExchange).follow usedSite none
        mixedTurns).download.exchange.sent [111, 101, 117] ∧
      ∃ before, usedVolume.ReadsAs usedPath before ∧ [111, 101, 117].length = before.length ∧
        Mixes before [110, 101, 117] [111, 101, 117]) ∧
      ∀ body, Download.Fetched "Uploads/a" ((start usedVolume usedGet wholeExchange).follow usedSite
        none lateTurns).download.exchange.sent body → body = [110, 101, 117] := by
  have recorded : usedVolume.Recorded := .of_entries (by decide)
  have rooted : usedVolume.Rooted := .of_entries (by decide)
  have asked : (⟨"a", 3, [110, 101, 117]⟩ : Upload.Order).Asked "a" wholeExchange :=
    ⟨⟨rfl, ⟨by decide, by unfold Field.IsLine; decide⟩, by decide⟩, by decide, rfl⟩
  have asks : (usedGet.readRequest .fetchRequest).1 = .ok (.fetchRequest "Uploads/a") := rfl
  have resolved : usedSite.resolve usedVolume "Uploads/a" =
      .ok (Upload.targetPlace usedSite "a") := rfl
  have same : SameFile usedSite "a" usedVolume (Upload.targetPlace usedSite "a") := .file rfl rfl
  have always := fetched_during_upload usedSite none recorded rooted asked asks rfl resolved same
  refine ⟨⟨fetched_mixed, ?_⟩, fun body found => ?_⟩
  · rcases (always mixedTurns [111, 101, 117] fetched_mixed).1 with around | front
    · exact around
    · exact absurd front (by decide)
  · exact (always lateTurns body found).2.2 (List.replicate 20 .upload)
      (List.replicate 25 (.download 0)) rfl trivial trivial

/-- A download can bring the front of the old file with the rest of the new one, although the upload
is accepted; and it can bring the front of the new file alone. -/
theorem fetched_no_version :
    let mixed := (start usedVolume usedGet wholeExchange).follow usedSite none mixedTurns
    let cut := (start usedVolume usedGet slowExchange).follow usedSite none cutTurns
    (Download.Fetched "Uploads/a" mixed.download.exchange.sent [111, 101, 117] ∧
      mixed.upload.exchange.sent = [Verdict.accepted.code] ∧
      ¬ usedVolume.ReadsAs usedPath [111, 101, 117] ∧
      [111, 101, 117] ≠ (⟨"a", 3, [110, 101, 117]⟩ : Upload.Order).content) ∧
    Download.Fetched "Uploads/a" cut.download.exchange.sent [110] ∧
      cut.upload.exchange.sent = [Verdict.accepted.code] ∧
      ¬ usedVolume.ReadsAs usedPath [110] ∧
      [110] ≠ (⟨"a", 3, [110, 101, 117]⟩ : Upload.Order).content := by
  intro mixed cut
  have opened : usedVolume.openFile usedPath = .ok (.file 0) := rfl
  have content : usedVolume.read (.file 0) 3 = [111, 108, 100] := rfl
  have differs (bytes : List UInt8) (other : bytes.take 3 ≠ [111, 108, 100]) :
      ¬ usedVolume.ReadsAs usedPath bytes := by
    rintro ⟨number, opens, reads⟩
    rw [opened] at opens
    cases opens
    exact other ((reads 3).symm.trans content)
  exact ⟨⟨fetched_mixed, rfl, differs _ (by decide), by decide⟩,
    fetched_cut, rfl, differs _ (by decide), by decide⟩

end Used

end Encounter

end DesktopGateway.Files
