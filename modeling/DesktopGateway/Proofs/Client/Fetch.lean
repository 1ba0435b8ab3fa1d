import DesktopGateway.Client.Call
import DesktopGateway.Files.Reader
import DesktopGateway.Proofs.Files.Reader
import DesktopGateway.Proofs.Files.Opening
import DesktopGateway.Proofs.Files.SharedHome
import DesktopGateway.Proofs.Link.Draining
import DesktopGateway.Serving.Reception

/-!
# A fetched file is the file

A client asks for a path that leads to a file, and reads the answer to its end. What it gets is the
name of the file, its length, the type that its first bytes tell and all its bytes, and then the end
of the stream, however the streams are cut into pieces and the file into portions.
-/

namespace DesktopGateway.Link.Endpoint

open DesktopGateway.Wire

/-- A reading of a stream that ends leaves a stream that ends. -/
theorem OnlyTakes.closed {α : Type} {read : Endpoint × Pipe → Option α × Endpoint × Pipe}
    (takes : OnlyTakes read) {source : Endpoint × Pipe} (closed : source.2.closed = true) :
    (read source).2.2.closed = true := by
  obtain ⟨taken, handed⟩ := takes source
  exact handed.closed.trans closed

/-- A complete reply is read as an acceptance and as its message, and then the stream ends. -/
theorem reads_reply {parcel : Parcel (List UInt8)} (whole : parcel.encode.fault = none)
    {source : Endpoint × Pipe} (closed : source.2.closed = true)
    (coming : unread source = (reply parcel).bytes) :
    ∃ first second, read verdict source = (some (.ok ()), first) ∧
      readParcel parcel.kind first = (some (.ok
        (parcel.map fun _ => ⟨parcel.contentSize, parcel.sentContent, 0⟩)), second) ∧
      (readToEnd second).1 = some [] := by
  have accepted : verdict.run (unread source) = (.ok (), parcel.encode.bytes) := by
    rw [coming]
    exact Demand.run_done (.ok () : Except Fault Unit) parcel.encode.bytes
  have message := Parcel.read_encode_append parcel [] whole
  rw [List.append_nil] at message
  obtain ⟨told, behind⟩ := read_computes verdict source closed
  have still := (read_reads verdict).onlyTakes.closed closed
  rw [accepted] at told behind
  obtain ⟨received, rest⟩ := readParcel_computes parcel.kind (read verdict source).2 still
  have ended := (readParcel_reads parcel.kind).onlyTakes.closed still
  dsimp only at behind
  rw [behind, message] at received rest
  have last := (readToEnd_computes (readParcel parcel.kind (read verdict source).2).2 ended).1
  rw [rest] at last
  exact ⟨_, _, Prod.ext told rfl, Prod.ext received rfl, last⟩

end DesktopGateway.Link.Endpoint

namespace DesktopGateway.Files

open DesktopGateway.Link
open DesktopGateway.Serving
open DesktopGateway.Wire

def fileParcel (name : String) (content : List UInt8) : Parcel (List UInt8) :=
  .fetchedFile name (ContentType.of (content.take ContentType.window)).name
    (Int64.ofNat content.length) content

/-- What the receiver makes of the message: the size that was announced is the length, and nothing
is missing. -/
theorem received_fileParcel (name : String) {content : List UInt8}
    (small : content.length ≤ Download.largest) :
    (fileParcel name content).map (fun _ =>
      (⟨(fileParcel name content).contentSize, (fileParcel name content).sentContent, 0⟩ :
        Parcel.Content)) =
      .fetchedFile name (ContentType.of (content.take 512)).name (Int64.ofNat content.length)
        ⟨content.length, content, 0⟩ := by
  have bound : content.length < 0x8000000000000000 := by
    unfold Download.largest at small
    omega
  have announced : (fileParcel name content).contentSize = content.length :=
    Int64.toNatClampNeg_ofNat_of_lt bound
  have carried : (fileParcel name content).sentContent = content := by
    rw [Parcel.sentContent, announced]
    exact List.take_length
  rw [announced, carried]
  rfl

section File

variable {site : Site} {volume : Volume} {path : String} {place : Place} {content : List UInt8}
  (resolved : site.resolve volume path = .ok place)
  (reads : volume.ReadsAs place.bytes content)

include resolved reads

theorem exists_download : ∃ download : Download,
    Download.ofPath site volume path = .ok (download, volume) ∧
      download.parcel volume = fileParcel place.shownName content ∧
      download.size = content.length ∧ download.temporary = none := by
  obtain ⟨number, all, opened⟩ := ofPath_of_file resolved reads
  refine ⟨_, opened, ?_, rfl, rfl⟩
  rw [Download.parcel, Download.contentType]
  dsimp only
  rw [all, all, List.take_length]
  rfl

theorem fileParcel_whole (line : Field.IsLine path) (small : content.length ≤ Download.largest) :
    (fileParcel place.shownName content).encode.fault = none := by
  obtain ⟨download, opened, parcel, size, -⟩ := exists_download resolved reads
  have complete := Download.isComplete_of_ofPath opened
  rw [← parcel, Download.encode_parcel_fault_iff complete (size ▸ small)]
  obtain ⟨number, -, named⟩ := ofPath_of_file resolved reads
  rw [opened] at named
  cases named
  exact newline_not_mem_shownName resolved reads line

/-- The message of a download of this file, in whatever portions the host gives it. -/
theorem streamed_of_file {download : Download} {after : Volume}
    (opened : Download.ofPath site volume path = .ok (download, after))
    (sniffed copied : List Nat) :
    download.streamed after sniffed copied = fileParcel place.shownName content := by
  obtain ⟨same, known, parcel, -⟩ := exists_download resolved reads
  rw [opened] at known
  cases known
  rw [Download.streamed_eq_parcel, parcel]

/-- The gateway answers a request for a file with the file, or says that it is too large. -/
theorem serve_of_file {exchange : Exchange} (own : exchange.service = .fetch)
    (reachable : exchange.reachable = true) (line : Field.IsLine path)
    (asked : exchange.incoming.flatten = Field.lineBytes path) :
    ∃ result after, Download.serve site volume exchange = (result, after, volume) ∧
      (Download.largest < content.length → after.sent = exchange.sent ++
        (Endpoint.refusal (Failure.tooLarge content.length).message).bytes) ∧
      (content.length ≤ Download.largest → result = .ok () ∧
        after.sent = exchange.sent ++
          (Endpoint.reply (fileParcel place.shownName content)).bytes) := by
  obtain ⟨download, opened, parcel, size, plain⟩ := exists_download resolved reads
  have wanted : exchange.service.request? = some .fetchRequest := by
    rw [own]
    rfl
  obtain ⟨behind, request, -⟩ := @Exchange.readRequest_of_sent exchange
    (.fetchRequest path) [] wanted line (by rw [asked]; exact (List.append_nil _).symm)
  have advances := exchange.readRequest_advances .fetchRequest
  change exchange.readRequest .fetchRequest = _ at request
  rw [request] at advances
  have served : Download.serve site volume exchange =
      ((download.send volume behind).1, (download.send volume behind).2, volume) := by
    rw [Download.serve, request]
    dsimp only
    rw [opened]
    dsimp only
    rw [Download.close, plain]
  refine ⟨_, _, served, fun large => ?_, fun small => ?_⟩
  · rw [Download.send, size, if_pos large, Exchange.refuse,
      Exchange.emit_of_reachable (advances.reachable_eq.trans reachable), ← advances.sent_eq]
    rfl
  · have whole : (Endpoint.reply (fileParcel place.shownName content)).fault = none :=
      fileParcel_whole resolved reads line small
    rw [Download.send, size, if_neg (Nat.not_lt.mpr small), parcel,
      Exchange.emit_eq_ok (advances.reachable_eq.trans reachable) whole, ← advances.sent_eq]
    exact ⟨rfl, rfl⟩

end File

end DesktopGateway.Files

namespace DesktopGateway.Serving.Reception

open DesktopGateway.Link
open DesktopGateway.Wire

/-- A client that names its service is given to the server of this service, with what it sent
behind the name. -/
theorem receive_of_named {σ : Type} (roster : Roster (Server σ)) {exchange : Exchange}
    {service : Service} {rest : List UInt8}
    (asked : exchange.incoming.flatten = service.code :: rest) (state : σ) :
    ∃ incoming received, incoming.flatten = rest ∧
      receive roster exchange state =
        attend roster service (exchange.advance incoming received) state := by
  have opened : Endpoint.opening.run (service.code :: rest) = (.ok service, rest) := by
    simp [Endpoint.opening, Demand.andThen, Demand.run_bind, Field.readByte, Service.ofCode?_code]
  obtain ⟨incoming, received, read, behind⟩ := exchange.read_eq Endpoint.opening
  rw [asked, opened] at read behind
  refine ⟨incoming, received, behind, ?_⟩
  rw [receive, read]

end DesktopGateway.Serving.Reception

namespace DesktopGateway.Client

open DesktopGateway.Files
open DesktopGateway.Link
open DesktopGateway.Serving
open DesktopGateway.Wire

theorem isLine_of_check {path : String} (checked : (Call.fetch path).check = .ok ()) :
    Field.IsLine path := by
  rw [Call.check, Call.checkText] at checked
  cases line : Field.checkLine path with
  | error fault =>
      rw [line] at checked
      cases checked
  | ok count => exact ((Field.checkLine_eq_ok_iff path count).mp line).1

/-- The client sends the byte of the service and its path. -/
theorem request_of_line {path : String} (line : Field.IsLine path) :
    (Call.fetch path).request = ⟨Service.fetch.code :: Field.lineBytes path, none⟩ := by
  have header := ((Parcel.fetchRequest path : Parcel (List UInt8)).header_eq_ok_iff _).mpr
    ⟨line, rfl⟩
  rw [Call.request, Call.parcel?]
  dsimp only
  rw [Parcel.encode, header]
  simp [Parcel.headerBytes, Parcel.contentSize, Call.service]

theorem conclude_reply {path : String} {parcel : Parcel (List UInt8)}
    (sort : parcel.kind = .fetchedFile) (whole : parcel.encode.fault = none) :
    (Call.fetch path).conclude (Endpoint.reply parcel).bytes =
      .ok (.file (parcel.map fun _ => ⟨parcel.contentSize, parcel.sentContent, 0⟩)) := by
  have accepted : Endpoint.verdict.run (Endpoint.reply parcel).bytes =
      (.ok (), parcel.encode.bytes) := Demand.run_done (.ok () : Except Fault Unit) _
  have message := Parcel.read_encode_append parcel [] whole
  rw [List.append_nil, sort] at message
  rw [Call.conclude, accepted]
  dsimp only
  rw [message]
  rfl

/-- A request for a file is received and answered: the volume stays as it is, and the answer is the
file or a refusal of its size. -/
theorem receive_of_file {site : Site} {volume : Volume} {path : String} {place : Place}
    {content : List UInt8} (resolved : site.resolve volume path = .ok place)
    (reads : volume.ReadsAs place.bytes content) (line : Field.IsLine path)
    {roster : Roster (Server Volume)}
    (serves : roster.find? .fetch = some fun exchange volume => Download.serve site volume exchange)
    (service : Service) {request : Pieces}
    (asked : request.flatten = Service.fetch.code :: Field.lineBytes path) :
    ∃ result after, Reception.receive roster (.new service request true) volume =
        ⟨.served .fetch result, after, true, volume⟩ ∧
      (Download.largest < content.length →
        after.sent = (Endpoint.refusal (Failure.tooLarge content.length).message).bytes) ∧
      (content.length ≤ Download.largest → result = .ok () ∧
        after.sent = (Endpoint.reply (fileParcel place.shownName content)).bytes) := by
  obtain ⟨incoming, received, behind, attended⟩ :=
    @Reception.receive_of_named _ roster (.new service request true) _ _ asked volume
  obtain ⟨result, after, served, large, small⟩ := @serve_of_file site volume path place content
    resolved reads { (Exchange.new service request true).advance incoming received with
      service := .fetch } rfl rfl line behind
  refine ⟨result, after, ?_, large, small⟩
  rw [attended, Reception.attend, serves]
  dsimp only
  rw [served]

/-- A path that leads to a file is answered with this file: with its name, the type of its first
bytes, its length and its bytes, behind which the stream ends. It is the same in whatever pieces
the request and the answer come and in whatever portions the host gives the file for its type and
for its content. Only a file whose length is no signed number of 64 bits is refused. -/
theorem fetch_of_file (site : Site) {volume : Volume} {path : String}
    (checked : (Call.fetch path).check = .ok ()) {place : Place}
    (resolved : site.resolve volume path = .ok place) {content : List UInt8}
    (reads : volume.ReadsAs place.bytes content) {roster : Roster (Server Volume)}
    (serves : roster.find? .fetch = some fun exchange volume => Download.serve site volume exchange)
    (service : Service) {request : Pieces}
    (asked : request.flatten = (Call.fetch path).request.bytes) :
    let reception := Reception.receive roster (.new service request true) volume
    let answer := reception.exchange.sent
    reception.state = volume ∧ reception.finished = true ∧
    (Download.largest < content.length →
      answer = (Endpoint.refusal (Failure.tooLarge content.length).message).bytes) ∧
    (content.length ≤ Download.largest →
      ∃ above name size contentType, place.below = above ++ [name] ∧
        Int64.toInt size = content.length ∧
        contentType = (ContentType.of (content.take 512)).name ∧
        reception.visit = .served .fetch (.ok ()) ∧
        (∀ download opened, Download.ofPath site volume path = .ok (download, opened) →
          ∀ sniffed copied,
            answer = (Endpoint.reply (download.streamed opened sniffed copied)).bytes) ∧
        (Call.fetch path).conclude answer =
          .ok (.file (.fetchedFile name contentType size ⟨content.length, content, 0⟩)) ∧
        ∀ (client : Endpoint) (pipe : Pipe), client.ahead = [] → pipe.closed = true →
          pipe.held = answer →
            ∃ first second,
              Endpoint.read Endpoint.verdict (client, pipe) = (some (.ok ()), first) ∧
              Endpoint.readParcel .fetchedFile first =
                (some (.ok (.fetchedFile name contentType size ⟨content.length, content, 0⟩)),
                  second) ∧
              (Endpoint.readToEnd second).1 = some []) := by
  intro reception answer
  have line := isLine_of_check checked
  rw [request_of_line line] at asked
  obtain ⟨result, after, visited, large, small⟩ :=
    receive_of_file resolved reads line serves service asked
  have visited : reception = ⟨.served .fetch result, after, true, volume⟩ := visited
  have told : answer = after.sent := congrArg (·.exchange.sent) visited
  refine ⟨by rw [visited], by rw [visited], fun above => told.trans (large above), ?_⟩
  intro fits
  obtain ⟨rfl, sent⟩ := small fits
  have written : answer = (Endpoint.reply (fileParcel place.shownName content)).bytes :=
    told.trans sent
  have whole := fileParcel_whole resolved reads line fits
  have message := received_fileParcel place.shownName fits
  obtain ⟨above, split⟩ := named_of_file resolved reads
  have size : Int64.toInt (Int64.ofNat content.length) = content.length := by
    apply Int64.toInt_ofNat_of_lt
    unfold Download.largest at fits
    omega
  refine ⟨above, place.shownName, _, _, split, size, rfl, by rw [visited], ?_, ?_, ?_⟩
  · intro download opened found sniffed copied
    rw [streamed_of_file resolved reads found, written]
  · rw [written, conclude_reply rfl whole, message]
  · intro client pipe fresh closed held
    have coming : Endpoint.unread (client, pipe) =
        (Endpoint.reply (fileParcel place.shownName content)).bytes := by
      rw [Endpoint.unread, fresh, held, ← written]
      rfl
    obtain ⟨first, second, accepted, read, ended⟩ := Endpoint.reads_reply whole closed coming
    rw [message] at read
    exact ⟨first, second, accepted, read, ended⟩

/-- The link `k` leads to a file of three bytes, and its answer comes byte by byte. -/
theorem fetch_of_file_linked :
    let roster : Roster (Server Volume) := ⟨fun wanted =>
      if wanted = .fetch then some fun exchange volume => Download.serve linkedSite volume exchange
      else none⟩
    let reception :=
      Reception.receive roster (.new .display [[4, 107], [], [10]] true) (linkedVolume [])
    let pieces := reception.exchange.sent.map fun byte => [byte]
    reception.state = linkedVolume [] ∧
      ∃ first second size,
        Endpoint.read Endpoint.verdict (.new .fetch "gateway", ⟨1, pieces, true⟩) =
          (some (.ok ()), first) ∧
        Endpoint.readParcel .fetchedFile first =
          (some (.ok (.fetchedFile "k" "text/plain; charset=utf-8" size
            ⟨3, [111, 108, 100], 0⟩)), second) ∧
        (Endpoint.readToEnd second).1 = some [] := by
  intro roster reception pieces
  have reads : (linkedVolume []).ReadsAs (Place.mk "/h" ["k"]).bytes [111, 108, 100] :=
    ⟨0, rfl, fun count => Volume.Content.take_ofBytes [111, 108, 100] count⟩
  obtain ⟨state, -, -, fetched⟩ := @fetch_of_file linkedSite (linkedVolume []) "k" rfl
    ⟨"/h", ["k"]⟩ rfl [111, 108, 100] reads roster rfl .display [[4, 107], [], [10]] (by decide)
  obtain ⟨above, name, size, contentType, split, -, rfl, -, -, -, arrives⟩ := fetched (by decide)
  have called := congrArg List.getLast? split
  rw [List.getLast?_concat] at called
  cases called
  have held : (Pipe.mk 1 pieces true).held = reception.exchange.sent := by
    simp [Pipe.held, pieces, ← List.flatMap_def]
  obtain ⟨first, second, accepted, read, ended⟩ :=
    arrives (.new .fetch "gateway") ⟨1, pieces, true⟩ rfl rfl held
  exact ⟨state, first, second, size, accepted, read, ended⟩

end DesktopGateway.Client
