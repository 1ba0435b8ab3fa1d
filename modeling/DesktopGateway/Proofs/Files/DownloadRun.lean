import DesktopGateway.Files.Encounter
import DesktopGateway.Proofs.Files.Reader
import DesktopGateway.Proofs.Serving.Exchange
import Mathlib.Logic.Function.Iterate

/-!
# A download on its own

When no upload comes between, the stages of a download make up the download, however much the host
gives at once: the run ends with the result, the stream and the volume that the download as a whole
leaves behind.
-/

namespace DesktopGateway.Serving.Exchange

open DesktopGateway.Link
open DesktopGateway.Wire

/-- What a reading does that is given a byte is done from there on. -/
theorem read_of_pull_byte {α : Type} {exchange later : Exchange} {value : UInt8}
    {onByte : UInt8 → Demand (Except Fault α)} {onEnd : Demand (Except Fault α)}
    (pulled : exchange.pull = (.byte value, later)) :
    exchange.read (.next onByte onEnd) = later.read (onByte value) := by
  rw [read, Demand.drive, pulled, read]

theorem read_of_pull_ended {α : Type} {exchange later : Exchange}
    {onByte : UInt8 → Demand (Except Fault α)} {onEnd : Demand (Except Fault α)}
    (pulled : exchange.pull = (.ended, later)) :
    exchange.read (.next onByte onEnd) = later.read onEnd := by
  rw [read, Demand.drive, pulled, read]

/-- A client gives a byte or has ended, and has been sent nothing by that. -/
theorem pull_cases (exchange : Exchange) :
    (∃ value later, exchange.pull = (.byte value, later) ∧ later.sent = exchange.sent) ∨
      exchange.pull = (.ended, exchange) := by
  cases found : exchange.incoming.next? with
  | none => exact .inr (pull_of_next?_none found)
  | some taken => exact .inl ⟨taken.1, _, pull_of_next?_some found, rfl⟩

/-- What is written to a client that is there ends with the emission's own fault. -/
theorem emit_eq_append {exchange : Exchange} (reachable : exchange.reachable = true)
    (emission : Parcel.Emission) :
    exchange.emit emission =
      (match emission.fault with
        | some fault => .error (.dialogue fault)
        | none => .ok (), exchange.append emission.bytes) := by
  cases fault : emission.fault <;> simp only [emit, write_of_reachable reachable, fault]

theorem emit_eq_lost {exchange : Exchange} (gone : exchange.reachable = false)
    {emission : Parcel.Emission} (filled : emission.bytes ≠ []) :
    exchange.emit emission =
      (.error (.dialogue (.stream (Host.Failure.ofKind .brokenPipe))), exchange) := by
  have some : emission.bytes.isEmpty = false := by simpa using filled
  rw [emit, write, some, gone]
  rfl

end DesktopGateway.Serving.Exchange

namespace DesktopGateway.Files

open DesktopGateway.Link
open DesktopGateway.Serving
open DesktopGateway.Wire

/-- A file that gives nothing has ended. -/
theorem Reader.read_eq_nil {volume : Volume} {reader : Reader} {portion : Nat} (some : 0 < portion)
    (empty : (reader.read volume portion).1 = []) (room : Nat) :
    (reader.read volume room).1 = [] := by
  obtain ⟨handle, offset⟩ := reader
  cases handle with
  | file number =>
      simp only [read, Volume.read, Volume.Content.take_eq, List.drop_take,
        Nat.add_sub_cancel_left] at empty ⊢
      rcases List.take_eq_nil_iff.mp empty with none | ended
      · omega
      · rw [ended, List.take_nil]
  | device device =>
      cases device with
      | null => simp [read, Volume.read]
      | zero =>
          simp only [read, Volume.read, List.drop_replicate, Nat.add_sub_cancel_left,
            List.replicate_eq_nil_iff] at empty
          omega

/-- A reading of some room begins with a portion, or the portion is empty and so is the whole. -/
theorem Reader.read_cases (volume : Volume) (reader : Reader) (portion room : Nat) :
    (reader.read volume (min (portion + 1) room) = ([], reader) ∧
        (reader.read volume room).1 = []) ∨
      ∃ first more,
        reader.read volume (min (portion + 1) room) =
            (first :: more, ⟨reader.handle, reader.offset + (more.length + 1)⟩) ∧
          more.length + 1 ≤ room ∧
          (reader.read volume room).1 = first :: more ++
            (Reader.read volume (room - (more.length + 1))
              ⟨reader.handle, reader.offset + (more.length + 1)⟩).1 := by
  have split := read_split volume reader (Nat.min_le_right (portion + 1) room)
  have behind : (reader.read volume (min (portion + 1) room)).2 = ⟨reader.handle,
      reader.offset + (reader.read volume (min (portion + 1) room)).1.length⟩ := rfl
  cases bytes : (reader.read volume (min (portion + 1) room)).1 with
  | nil =>
      rw [bytes] at behind
      refine .inl ⟨Prod.ext bytes behind, ?_⟩
      by_cases none : room = 0
      · have same : min (portion + 1) room = room := by omega
        rw [← same]
        exact bytes
      · exact read_eq_nil (by omega) bytes room
  | cons first more =>
      rw [behind, bytes, List.length_cons] at split
      rw [bytes, List.length_cons] at behind
      exact .inr ⟨first, more, Prod.ext bytes behind, split.2, split.1⟩

namespace Download

theorem length_read_le (volume : Volume) (handle : Volume.Handle) (count : Nat) :
    (volume.read handle count).length ≤ count := by
  cases handle with
  | file number =>
      rw [Volume.read, Volume.Content.take_eq]
      exact List.length_take_le ..
  | device device =>
      cases device with
      | null => exact Nat.zero_le _
      | zero => exact Nat.le_of_eq List.length_replicate

namespace Run

variable {site : Site} {portion : Nat}

def Leads (site : Site) (portion : Nat) (first second : Run × Volume) : Prop :=
  ∃ count, (fun state : Run × Volume => state.1.step site state.2 portion)^[count] first = second

namespace Leads

theorem one {run : Run} {volume : Volume} {later : Run × Volume}
    (same : run.step site volume portion = later) : Leads site portion (run, volume) later :=
  ⟨1, same⟩

theorem trans {first second third : Run × Volume} (earlier : Leads site portion first second)
    (later : Leads site portion second third) : Leads site portion first third := by
  obtain ⟨front, rfl⟩ := earlier
  obtain ⟨back, rfl⟩ := later
  exact ⟨back + front, Function.iterate_add_apply ..⟩

end Leads

/-- The request is read byte by byte. -/
theorem asking_leads (demand : Demand (Except Fault (Parcel Unit))) (volume : Volume)
    (exchange : Exchange) :
    Leads site portion (⟨.asking demand, exchange⟩, volume)
      (⟨.asked (exchange.read demand).1, (exchange.read demand).2⟩, volume) := by
  induction demand generalizing exchange with
  | done request => exact .one rfl
  | next onByte onEnd ihByte ihEnd =>
      rcases exchange.pull_cases with ⟨value, later, pulled, -⟩ | pulled
      · rw [Exchange.read_of_pull_byte pulled]
        exact .trans (.one (by simp only [step, pulled])) (ihByte value later)
      · rw [Exchange.read_of_pull_ended pulled]
        exact .trans (.one (by simp only [step, pulled])) (ihEnd exchange)

/-- The beginning of the file is read portion by portion. -/
theorem sniffing_leads (download : Download) (reader : Reader) (head : List UInt8) (volume : Volume)
    (exchange : Exchange) :
    let rest := (reader.read volume (ContentType.window - head.length)).1
    Leads site portion (⟨.sniffing download reader head, exchange⟩, volume)
      (⟨.announcing download reader.rewind (.of (head ++ rest)), exchange⟩, volume) := by
  dsimp only
  generalize left : ContentType.window - head.length = room
  induction room using Nat.strongRecOn generalizing reader head with
  | ind room ih =>
      rcases reader.read_cases volume portion room with
        ⟨empty, none⟩ | ⟨first, more, front, fits, whole⟩
      · rw [none, List.append_nil]
        exact .one (by simp only [step, Stage.work, left, empty])
      · have next : step site volume portion ⟨.sniffing download reader head, exchange⟩ =
            (⟨.sniffing download ⟨reader.handle, reader.offset + (more.length + 1)⟩
              (head ++ first :: more), exchange⟩, volume) := by
          simp only [step, Stage.work, left, front]
        rw [whole, ← List.append_assoc]
        refine .trans (.one next) (ih (room - (more.length + 1)) (by omega) _ _ ?_)
        rw [List.length_append, List.length_cons]
        omega

/-- The content is copied portion by portion, and the count of what was copied decides how the
download ends. -/
theorem copying_leads (download : Download) (reader : Reader) (volume : Volume)
    {exchange : Exchange} (reachable : exchange.reachable = true) :
    let rest := (reader.read volume (download.size - reader.offset)).1
    Leads site portion (⟨.copying download reader, exchange⟩, volume)
      (⟨.closing (download.ended (reader.offset + rest.length)) (some download),
        exchange.append rest⟩, volume) := by
  dsimp only
  generalize left : download.size - reader.offset = room
  induction room using Nat.strongRecOn generalizing reader exchange with
  | ind room ih =>
      rcases reader.read_cases volume portion room with
        ⟨empty, none⟩ | ⟨first, more, front, fits, whole⟩
      · rw [none, Exchange.append, List.append_nil]
        exact .one (by simp only [step, left, empty, List.length_nil, Nat.add_zero])
      · have sent := Exchange.write_of_reachable reachable (first :: more)
        have next : step site volume portion ⟨.copying download reader, exchange⟩ =
            (⟨.copying download ⟨reader.handle, reader.offset + (more.length + 1)⟩,
              exchange.append (first :: more)⟩, volume) := by
          simp only [step, left, front, sent]
        refine .trans (.one next) ?_
        have rest := @ih (room - (more.length + 1)) (by omega)
          ⟨reader.handle, reader.offset + (more.length + 1)⟩ (exchange.append (first :: more))
          reachable (by dsimp only; omega)
        rw [whole]
        simp only [Exchange.append, List.length_append, List.length_cons, List.append_assoc,
          Nat.add_assoc] at rest ⊢
        exact rest

/-- From its beginning on the whole file is copied. -/
theorem copying_leads_start (download : Download) (volume : Volume) {exchange : Exchange}
    (reachable : exchange.reachable = true) :
    let bytes := volume.read download.handle download.size
    Leads site portion (⟨.copying download (.start download.handle), exchange⟩, volume)
      (⟨.closing (download.ended bytes.length) (some download), exchange.append bytes⟩,
        volume) := by
  have copied := @copying_leads site portion download (.start download.handle) volume _ reachable
  have offset : (Reader.start download.handle).offset = 0 := rfl
  simp only [offset, Nat.sub_zero, Nat.zero_add, Reader.read_start] at copied
  exact copied

theorem refusing_leads (failure : Failure) (exchange : Exchange) (volume : Volume) :
    Leads site portion (⟨.refusing failure none, exchange⟩, volume)
      (⟨.settled (exchange.refuse failure).1, (exchange.refuse failure).2⟩, volume) :=
  .trans (.one rfl) (.one rfl)

theorem refusing_leads_opened (failure : Failure) (download : Download) (exchange : Exchange)
    (volume : Volume) :
    Leads site portion (⟨.refusing failure (some download), exchange⟩, volume)
      (⟨.settled (exchange.refuse failure).1, (exchange.refuse failure).2⟩,
        download.close volume) :=
  .trans (.one rfl) (.one rfl)

theorem closing_leads (result : Except Failure Unit) (download : Download) (exchange : Exchange)
    (volume : Volume) :
    Leads site portion (⟨.closing result (some download), exchange⟩, volume)
      (⟨.settled result, exchange⟩, download.close volume) :=
  .one rfl

end Run

/-! ## What is sent -/

/-- What is sent of a file whose header is acceptable. -/
theorem encode_parcel {download : Download} {volume : Volume} (small : download.size ≤ largest)
    {header : List UInt8} (made : (download.parcel volume).header = .ok header) :
    (download.parcel volume).encode = ⟨header ++ volume.read download.handle download.size,
      if (volume.read download.handle download.size).length < download.size then
        some (.shortContent download.size (volume.read download.handle download.size).length)
      else none⟩ := by
  have bound : download.size < 0x8000000000000000 := by
    unfold largest at small
    omega
  have announced : (download.parcel volume).contentSize = download.size :=
    Int64.toNatClampNeg_ofNat_of_lt bound
  have content : (download.parcel volume).content?.getD [] =
      volume.read download.handle download.size := rfl
  rw [Parcel.encode, made]
  dsimp only
  rw [announced, content, List.take_of_length_le (length_read_le ..)]

/-- A file that is sent as one message ends as one that is copied does. -/
theorem emit_reply {download : Download} {volume : Volume} {exchange : Exchange}
    (reachable : exchange.reachable = true) (small : download.size ≤ largest) {header : List UInt8}
    (made : (download.parcel volume).header = .ok header) :
    exchange.emit (Endpoint.reply (download.parcel volume)) =
      (download.ended (volume.read download.handle download.size).length,
        (exchange.append (Verdict.accepted.code :: header)).append
          (volume.read download.handle download.size)) := by
  rw [Exchange.emit_eq_append reachable, Endpoint.reply, encode_parcel small made, ended]
  refine Prod.ext ?_ ?_
  · by_cases short : (volume.read download.handle download.size).length < download.size
    · simp only [short, if_true]
    · simp only [short, if_false]
  · simp [Exchange.append]

namespace Run

variable {site : Site} {portion : Nat}

/-- What cannot be announced is not sent. -/
theorem announcing_leads_failed {download : Download} {volume : Volume} {reader : Reader}
    {contentType : ContentType} {exchange later : Exchange} {failure : Failure}
    (small : ¬ largest < download.size)
    (emitted : exchange.emit (download.announcement contentType) = (.error failure, later)) :
    Leads site portion (⟨.announcing download reader contentType, exchange⟩, volume)
      (⟨.settled (.error failure), later⟩, download.close volume) := by
  refine .trans (.one ?_) (closing_leads ..)
  simp only [step, small, if_false, emitted]

/-- What is announced and copied is what the download sends as one message. -/
theorem announcing_leads (download : Download) (volume : Volume) (exchange : Exchange) :
    let sent := download.send volume exchange
    Leads site portion
      (⟨.announcing download (.start download.handle) (download.contentType volume), exchange⟩,
        volume)
      (⟨.settled sent.1, sent.2⟩, download.close volume) := by
  unfold send
  split
  · rename_i large
    refine .trans (.one ?_) (refusing_leads_opened ..)
    simp only [step, large, if_true]
  · rename_i fits
    have same : (Parcel.fetchedFile download.name (download.contentType volume).name
        (Int64.ofNat download.size) () : Parcel Unit).header =
          (download.parcel volume).header := rfl
    have opens : (Endpoint.reply (download.parcel volume)).bytes ≠ [] := List.cons_ne_nil _ _
    cases made : (download.parcel volume).header with
    | error fault =>
        -- Nothing follows the verdict, in parts or as a whole.
        have announced : download.announcement (download.contentType volume) =
            Endpoint.reply (download.parcel volume) := by
          simp only [announcement, Endpoint.reply, Parcel.encode, same, made]
        have faulty : (Endpoint.reply (download.parcel volume)).fault = some fault := by
          simp only [Endpoint.reply, Parcel.encode, made]
        rw [← announced] at opens faulty ⊢
        cases reachable : exchange.reachable with
        | true =>
            have emitted := Exchange.emit_eq_append reachable
              (download.announcement (download.contentType volume))
            rw [faulty] at emitted
            rw [emitted]
            exact announcing_leads_failed fits emitted
        | false =>
            have emitted := Exchange.emit_eq_lost reachable opens
            rw [emitted]
            exact announcing_leads_failed fits emitted
    | ok header =>
        have announced : download.announcement (download.contentType volume) =
            ⟨Verdict.accepted.code :: header, none⟩ := by
          simp only [announcement, same, made]
        cases reachable : exchange.reachable with
        | true =>
            have emitted := Exchange.emit_eq_append reachable
              (download.announcement (download.contentType volume))
            rw [announced] at emitted
            have still : (exchange.append (Verdict.accepted.code :: header)).reachable = true :=
              reachable
            rw [emit_reply reachable (Nat.not_lt.mp fits) made]
            refine .trans (.one ?_) ((copying_leads_start download volume still).trans
              (closing_leads ..))
            simp only [step, fits, if_false, announced, emitted]
        | false =>
            rw [Exchange.emit_eq_lost reachable opens]
            refine announcing_leads_failed fits (Exchange.emit_eq_lost reachable ?_)
            rw [announced]
            exact List.cons_ne_nil _ _

theorem opened_leads (download : Download) (volume : Volume) (exchange : Exchange) :
    let sent := download.send volume exchange
    Leads site portion (⟨.opened download, exchange⟩, volume)
      (⟨.settled sent.1, sent.2⟩, download.close volume) := by
  have sniffed := @sniffing_leads site portion download (.start download.handle) [] volume exchange
  simp only [List.length_nil, Nat.sub_zero, Reader.read_start, List.nil_append] at sniffed
  exact sniffed.trans (announcing_leads download volume exchange)

/-! ## The whole run -/

/-- A run refuses what it cannot open, and sends what it can. -/
def Answers (site : Site) (portion : Nat) (state : Run × Volume) (exchange : Exchange)
    (volume : Volume) : Except Failure (Download × Volume) → Prop
  | .error failure =>
      Leads site portion state
        (⟨.settled (exchange.refuse failure).1, (exchange.refuse failure).2⟩, volume)
  | .ok (download, opened) =>
      Leads site portion state
        (⟨.settled (download.send opened exchange).1, (download.send opened exchange).2⟩,
          download.close opened)

theorem Answers.after {first second : Run × Volume} {exchange : Exchange} {volume : Volume}
    {opening : Except Failure (Download × Volume)} (leads : Leads site portion first second)
    (answers : Answers site portion second exchange volume opening) :
    Answers site portion first exchange volume opening := by
  cases opening with
  | error failure => exact leads.trans answers
  | ok opened => exact leads.trans answers

theorem packing_leads (path : String) (place : Place) (volume : Volume) (exchange : Exchange) :
    Answers site portion (⟨.packing path place, exchange⟩, volume) exchange volume
      (ofBundle site volume path place) := by
  cases packed : ofBundle site volume path place with
  | error failure =>
      refine .trans (.one ?_) (refusing_leads failure exchange volume)
      simp only [step, Stage.work, packed]
  | ok opened =>
      refine .trans (.one ?_) (opened_leads opened.1 opened.2 exchange)
      simp only [step, Stage.work, packed]

theorem opening_leads (path : String) (place : Place) (size : Nat) (volume : Volume)
    (exchange : Exchange) :
    Answers site portion (⟨.opening path place size, exchange⟩, volume) exchange volume
      (match volume.openFile place.bytes with
        | .error failure => .error (.file path failure)
        | .ok handle => .ok (⟨place.shownName, handle, size, none⟩, volume)) := by
  cases opened : volume.openFile place.bytes with
  | error failure =>
      refine .trans (.one ?_) (refusing_leads (.file path failure) exchange volume)
      simp only [step, Stage.work, opened]
  | ok handle =>
      refine .trans (.one ?_) (opened_leads ⟨place.shownName, handle, size, none⟩ volume exchange)
      simp only [step, Stage.work, opened]

/-- A directory is packed, and anything else opened. -/
theorem ofPlace_eq (volume : Volume) (path : String) (place : Place) {metadata : Volume.Metadata}
    (looked : volume.metadata place.bytes = .ok metadata) :
    ofPlace site volume path place =
      if metadata.isDirectory then ofBundle site volume path place
      else
        match volume.openFile place.bytes with
        | .error failure => .error (.file path failure)
        | .ok handle => .ok (⟨place.shownName, handle, metadata.length, none⟩, volume) := by
  rw [ofPlace, looked]
  rfl

theorem looking_leads (path : String) (place : Place) (volume : Volume) (exchange : Exchange) :
    Answers site portion (⟨.looking path place, exchange⟩, volume) exchange volume
      (ofPlace site volume path place) := by
  cases looked : volume.metadata place.bytes with
  | error failure =>
      rw [ofPlace, looked]
      refine .trans (.one ?_) (refusing_leads (.file path failure) exchange volume)
      simp only [step, Stage.work, looked]
  | ok metadata =>
      rw [ofPlace_eq volume path place looked]
      cases directory : metadata.isDirectory with
      | true =>
          refine .after (.one ?_) (packing_leads path place volume exchange)
          simp only [step, Stage.work, looked, directory, if_true]
      | false =>
          refine .after (.one ?_) (opening_leads path place metadata.length volume exchange)
          simp only [step, Stage.work, looked, directory, Bool.false_eq_true, if_false]

theorem resolving_leads (path : String) (volume : Volume) (exchange : Exchange) :
    Answers site portion (⟨.resolving path, exchange⟩, volume) exchange volume
      (ofPath site volume path) := by
  unfold ofPath
  cases resolved : site.resolve volume path with
  | error failure =>
      refine .trans (.one ?_) (refusing_leads (.confinement failure) exchange volume)
      simp only [step, Stage.work, resolved]
  | ok place =>
      refine .after (.one ?_) (looking_leads path place volume exchange)
      simp only [step, Stage.work, resolved]

/-- A run that nothing comes between answers, sends and leaves behind what the download as a whole
does. -/
theorem serve_leads (site : Site) (portion : Nat) (volume : Volume) (exchange : Exchange) :
    let served := serve site volume exchange
    Leads site portion (.new exchange, volume) (⟨.settled served.1, served.2.1⟩, served.2.2) := by
  unfold new Stage.start serve Exchange.readRequest
  cases exchange.service.request? with
  | none => exact refusing_leads ..
  | some kind =>
      have asked := @asking_leads site portion (Parcel.decode kind) volume exchange
      dsimp only at asked ⊢
      refine asked.trans ?_
      unfold Stage.asked
      cases requested : (exchange.read (Parcel.decode kind)).1.bind
          (fun parcel => parcel.expect .fetchRequest) with
      | error fault => exact refusing_leads ..
      | ok parcel =>
          cases parcel with
          | fetchRequest path =>
              have answers := @resolving_leads site portion path volume
                (exchange.read (Parcel.decode kind)).2
              dsimp only [Except.mapError]
              cases found : ofPath site volume path with
              | error failure =>
                  rw [found] at answers
                  exact answers
              | ok opened =>
                  rw [found] at answers
                  exact answers
          | statRequest path => exact .one rfl
          | storeRequest name size content => exact .one rfl
          | fetchedFile name contentType size content => exact .one rfl

end Run

end Download

end DesktopGateway.Files
