import DesktopGateway.Files.Services
import DesktopGateway.Proofs.Files.Download
import DesktopGateway.Proofs.Files.Upload
import DesktopGateway.Proofs.Link.Reply

/-!
# One response to a request

A file service first finds out what it has to answer and then writes its verdict and what belongs to
it. The response is complete whatever the client sent and whatever the volume holds, except that the
verdict of a refusal stands alone when its reason is too long for a line, and that of a download
when its name has a newline.
-/

namespace DesktopGateway.Files

open DesktopGateway.Link
open DesktopGateway.Serving
open DesktopGateway.Wire
open Endpoint (FitsLine)
open DesktopGateway.Wire.Field (IsLine lineBytes)

/-- The bytes of a complete response: an acceptance with all that the service promises behind it, or
a refusal with its reason. -/
inductive Response : FileService → List UInt8 → Prop where
  | listing (listing : Listing) :
      Response .listing (Verdict.accepted.code :: listing.bytes)
  | download (parcel : Parcel (List UInt8)) (sort : parcel.kind = .fetchedFile)
      (whole : parcel.encode.fault = none) :
      Response .download (Verdict.accepted.code :: parcel.encode.bytes)
  | upload (owner : Option Nat) : Response (.upload owner) [Verdict.accepted.code]
  | refusal (service : FileService) (reason : String) (line : IsLine reason) :
      Response service (Verdict.refused.code :: lineBytes reason)

/-- What a service answers to a request that it serves. -/
inductive Answer where
  | listing (found : Listing)
  | file (opened : Download) (volume : Volume)
  | stored

namespace Answer

/-- What is written for an answer or for the reason why there is none. -/
def emission : Except Failure Answer → Parcel.Emission
  | .error failure => Endpoint.refusal failure.message
  | .ok (.listing found) => ⟨Verdict.accepted.code :: found.bytes, none⟩
  | .ok (.file opened volume) => Endpoint.reply (opened.parcel volume)
  | .ok .stored => Endpoint.acceptance

/-- What can be written to its end: a reason that fits into a line, a name without a newline. -/
def Fits : Except Failure Answer → Prop
  | .error failure => FitsLine failure.message
  | .ok (.file opened _) => '\n' ∉ opened.name.toList
  | .ok (.listing _) | .ok .stored => True

def verdict : Except Failure Answer → Verdict
  | .error _ => .refused
  | .ok _ => .accepted

end Answer

def askedPath (bytes : List UInt8) : Except Failure String :=
  (Field.readLine.run bytes).1.mapError .dialogue

def Listing.answer (site : Site) (volume : Volume) (exchange : Exchange) :
    Except Failure Answer := do
  let path ← askedPath exchange.incoming.flatten
  let found ← Listing.ofPath site volume path
  return .listing found

def Download.answer (site : Site) (volume : Volume) (exchange : Exchange) :
    Except Failure Answer := do
  let path ← askedPath exchange.incoming.flatten
  let opened ← Download.ofPath site volume path
  if Download.largest < opened.1.size then .error (.tooLarge opened.1.size)
  else .ok (.file opened.1 opened.2)

def Upload.answer (site : Site) (owner : Option Nat) (volume : Volume) (exchange : Exchange) :
    Except Failure Answer := do
  (Upload.attempt site owner volume exchange).1
  return .stored

def FileService.answer (service : FileService) (site : Site) (volume : Volume)
    (exchange : Exchange) : Except Failure Answer :=
  match service with
  | listing => Listing.answer site volume exchange
  | download => Download.answer site volume exchange
  | upload owner => Upload.answer site owner volume exchange

theorem isLine_of_askedPath {bytes : List UInt8} {path : String}
    (asked : askedPath bytes = .ok path) : IsLine path := by
  unfold askedPath at asked
  cases read : Field.readLine.run bytes with
  | mk outcome rest =>
      cases outcome with
      | error fault =>
          rw [read] at asked
          cases asked
      | ok line =>
          rw [read] at asked
          cases asked
          exact ((Field.readLine_run_iff bytes rest path).mp read).1

/-! ## What is written -/

theorem decode_statRequest (bytes : List UInt8) :
    ((Parcel.decode .statRequest).run bytes).1 =
      (Field.readLine.run bytes).1.map Parcel.statRequest := by
  rw [Parcel.decode, Demand.andThen, Demand.run_bind]
  cases (Field.readLine.run bytes).1 <;> rw [Demand.run_done] <;> rfl

theorem decode_fetchRequest (bytes : List UInt8) :
    ((Parcel.decode .fetchRequest).run bytes).1 =
      (Field.readLine.run bytes).1.map Parcel.fetchRequest := by
  rw [Parcel.decode, Demand.andThen, Demand.run_bind]
  cases (Field.readLine.run bytes).1 <;> rw [Demand.run_done] <;> rfl

theorem sent_refuse {exchange : Exchange} (reachable : exchange.reachable = true)
    (failure : Failure) :
    (exchange.refuse failure).2.sent =
      exchange.sent ++ (Answer.emission (.error failure)).bytes := by
  rw [Exchange.refuse, Exchange.emit_of_reachable reachable]
  rfl

theorem sent_listing (site : Site) (volume : Volume) {exchange : Exchange}
    (own : exchange.service = .stat) (reachable : exchange.reachable = true) :
    (Listing.serve site volume exchange).2.sent =
      exchange.sent ++
        (Answer.emission (Listing.answer site volume exchange)).bytes := by
  have asked : exchange.service.request? = some .statRequest := by rw [own]; rfl
  obtain ⟨incoming, received, request, _⟩ := Exchange.readRequest_eq asked
  have still : (exchange.advance incoming received).reachable = true := reachable
  rw [decode_statRequest] at request
  unfold Listing.serve Listing.answer askedPath
  rw [request]
  cases (Field.readLine.run exchange.incoming.flatten).1 with
  | error fault => exact sent_refuse still _
  | ok path =>
      simp only [Except.map, mapError_ok, bind, Except.bind]
      cases Listing.ofPath site volume path with
      | error failure => exact sent_refuse still failure
      | ok found =>
          have accepted (bytes : List UInt8) :
              ((exchange.advance incoming received).append bytes).reachable = true := reachable
          simp only [Exchange.emit_eq_ok still, Endpoint.acceptance,
            Exchange.write_of_reachable (accepted _)]
          exact List.append_assoc ..

theorem sent_download (site : Site) (volume : Volume) {exchange : Exchange}
    (own : exchange.service = .fetch) (reachable : exchange.reachable = true) :
    (Download.serve site volume exchange).2.1.sent =
      exchange.sent ++
        (Answer.emission (Download.answer site volume exchange)).bytes := by
  have asked : exchange.service.request? = some .fetchRequest := by rw [own]; rfl
  obtain ⟨incoming, received, request, _⟩ := Exchange.readRequest_eq asked
  have still : (exchange.advance incoming received).reachable = true := reachable
  rw [decode_fetchRequest] at request
  unfold Download.serve Download.answer askedPath
  rw [request]
  cases (Field.readLine.run exchange.incoming.flatten).1 with
  | error fault => exact sent_refuse still _
  | ok path =>
      simp only [Except.map, mapError_ok, bind, Except.bind]
      cases Download.ofPath site volume path with
      | error failure => exact sent_refuse still failure
      | ok found =>
          obtain ⟨opened, packed⟩ := found
          simp only [Download.send]
          split
          · exact sent_refuse still _
          · rw [Exchange.emit_of_reachable still]
            rfl

theorem sent_upload (site : Site) (owner : Option Nat) (volume : Volume) {exchange : Exchange}
    (reachable : exchange.reachable = true) :
    (Upload.serve site owner volume exchange).2.1.sent =
      exchange.sent ++
        (Answer.emission (Upload.answer site owner volume exchange)).bytes := by
  have advances := Upload.attempt_advances site owner volume exchange
  unfold Upload.serve Upload.answer
  cases attempted : Upload.attempt site owner volume exchange with
  | mk outcome rest =>
      rw [attempted] at advances
      have still := advances.reachable_eq.trans reachable
      rw [← advances.sent_eq]
      cases outcome with
      | error failure => exact sent_refuse still failure
      | ok stored =>
          simp only [Exchange.emit_of_reachable still]
          rfl

/-- A service writes exactly what belongs to its answer. -/
theorem sent_serve (service : FileService) (site : Site) (volume : Volume) {exchange : Exchange}
    (own : exchange.service = service.service) (reachable : exchange.reachable = true) :
    (service.serve site volume exchange).2.1.sent =
      exchange.sent ++ (Answer.emission (service.answer site volume exchange)).bytes := by
  cases service with
  | listing => exact sent_listing site volume own reachable
  | download => exact sent_download site volume own reachable
  | upload owner => exact sent_upload site owner volume reachable

/-! ## Which responses are complete -/

/-- A file is only announced when it is complete and its size can be announced. -/
theorem file_of_answer {service : FileService} {site : Site} {volume packed : Volume}
    {exchange : Exchange} {opened : Download}
    (answered : service.answer site volume exchange = .ok (.file opened packed)) :
    service = .download ∧ opened.size ≤ Download.largest ∧
      ∃ path, askedPath exchange.incoming.flatten = .ok path ∧
        Download.ofPath site volume path = .ok (opened, packed) := by
  cases service with
  | listing =>
      obtain ⟨path, _, further⟩ := (bind_eq_ok_iff _ _ _).mp answered
      obtain ⟨found, _, same⟩ := (bind_eq_ok_iff _ _ _).mp further
      cases same
  | download =>
      obtain ⟨path, asked, further⟩ := (bind_eq_ok_iff _ _ _).mp answered
      obtain ⟨made, found, announced⟩ := (bind_eq_ok_iff _ _ _).mp further
      split at announced
      · cases announced
      · cases announced
        exact ⟨rfl, Nat.not_lt.mp ‹_›, path, asked, found⟩
  | upload owner =>
      obtain ⟨_, _, same⟩ := (bind_eq_ok_iff _ _ _).mp answered
      cases same

/-- An answer that fits is a complete response of its service. -/
theorem response_of_answer {service : FileService} {site : Site} {volume : Volume}
    {exchange : Exchange} {answer : Answer}
    (answered : service.answer site volume exchange = .ok answer)
    (fits : Answer.Fits (.ok answer)) :
    Response service (Answer.emission (.ok answer)).bytes := by
  cases service with
  | listing =>
      obtain ⟨path, _, further⟩ := (bind_eq_ok_iff _ _ _).mp answered
      obtain ⟨found, _, same⟩ := (bind_eq_ok_iff _ _ _).mp further
      cases same
      exact .listing found
  | download =>
      cases answer with
      | file opened packed =>
          obtain ⟨_, small, path, _, found⟩ := file_of_answer answered
          have complete := Download.isComplete_of_ofPath found
          exact .download _ rfl ((Download.encode_parcel_fault_iff complete small).mpr fits)
      | listing found =>
          obtain ⟨path, _, further⟩ := (bind_eq_ok_iff _ _ _).mp answered
          obtain ⟨made, _, announced⟩ := (bind_eq_ok_iff _ _ _).mp further
          split at announced <;> cases announced
      | stored =>
          obtain ⟨path, _, further⟩ := (bind_eq_ok_iff _ _ _).mp answered
          obtain ⟨made, _, announced⟩ := (bind_eq_ok_iff _ _ _).mp further
          split at announced <;> cases announced
  | upload owner =>
      obtain ⟨_, _, same⟩ := (bind_eq_ok_iff _ _ _).mp answered
      cases same
      exact .upload owner

/-- An emission begins with the verdict of its answer. -/
theorem emission_opens (answer : Except Failure Answer) :
    ∃ rest, (Answer.emission answer).bytes = (Answer.verdict answer).code :: rest := by
  cases answer with
  | error failure => exact Endpoint.refusal_opens failure.message
  | ok answer =>
      cases answer with
      | listing found => exact ⟨_, rfl⟩
      | file opened volume => exact ⟨_, rfl⟩
      | stored => exact ⟨_, rfl⟩

/-- Answers with different verdicts are told apart by what is written. -/
theorem sent_ne_of_verdict (service : FileService) (site : Site) {first second : Volume}
    {exchange : Exchange} (own : exchange.service = service.service)
    (reachable : exchange.reachable = true)
    (different : Answer.verdict (service.answer site first exchange) ≠
      Answer.verdict (service.answer site second exchange)) :
    (service.serve site first exchange).2.1.sent ≠
      (service.serve site second exchange).2.1.sent := by
  intro same
  rw [sent_serve service site first own reachable, sent_serve service site second own reachable]
    at same
  obtain ⟨_, here⟩ := emission_opens (service.answer site first exchange)
  obtain ⟨_, there⟩ := emission_opens (service.answer site second exchange)
  rw [List.append_cancel_left_eq, here, there, List.cons.injEq] at same
  have code := congrArg Verdict.ofCode? same.1
  rw [Verdict.ofCode?_code, Verdict.ofCode?_code] at code
  exact different (Option.some.inj code)

theorem not_response_refused (service : FileService) :
    ¬ Response service [Verdict.refused.code] := by
  generalize written : [Verdict.refused.code] = bytes
  intro response
  cases response with
  | listing found => cases written
  | download parcel sort whole => cases written
  | upload owner => cases written
  | refusal service reason line =>
      have empty := (List.cons.inj written).2
      simp [lineBytes] at empty

theorem not_response_accepted : ¬ Response .download [Verdict.accepted.code] := by
  generalize written : [Verdict.accepted.code] = bytes
  intro response
  cases response with
  | download parcel sort whole =>
      have empty := (List.cons.inj written).2
      have sendable := ((Parcel.encode_fault_eq_none_iff parcel).mp whole).1
      rw [Parcel.encode_bytes parcel sendable, eq_comm, List.append_eq_nil_iff] at empty
      exact parcel.headerBytes_ne_nil empty.1
  | refusal service reason line => cases written

/-- An answer that does not fit leaves its verdict alone, which is no complete response. -/
theorem bare_of_answer {service : FileService} {site : Site} {volume : Volume}
    {exchange : Exchange}
    (unfit : ¬ Answer.Fits (service.answer site volume exchange)) :
    (Answer.emission (service.answer site volume exchange)).bytes =
        [(Answer.verdict (service.answer site volume exchange)).code] ∧
      ¬ Response service [(Answer.verdict (service.answer site volume exchange)).code] := by
  cases answered : service.answer site volume exchange with
  | error failure =>
      rw [answered] at unfit
      refine ⟨?_, not_response_refused service⟩
      rw [Answer.emission, Endpoint.refusal_of_long unfit]
      rfl
  | ok answer =>
      rw [answered] at unfit
      cases answer with
      | listing found => exact absurd trivial unfit
      | stored => exact absurd trivial unfit
      | file opened packed =>
          obtain ⟨rfl, small, path, _, found⟩ := file_of_answer answered
          have complete := Download.isComplete_of_ofPath found
          have refused : ¬ (opened.parcel packed).IsSendable := fun sendable => by
            have plain := (Field.isLine_iff _).mp sendable.2.1
            exact unfit plain.1
          refine ⟨?_, not_response_accepted⟩
          rw [Answer.emission, Endpoint.reply, Parcel.encode_bytes_of_refused _ refused]
          rfl

/-- What is served fits if the path of the home has no newline. -/
theorem fits_of_answer {service : FileService} {site : Site} {volume : Volume}
    {exchange : Exchange} {found : Answer}
    (answered : service.answer site volume exchange = .ok found)
    (plain : '\n' ∉ site.home.toList) : Answer.Fits (.ok found) := by
  cases found with
  | listing found => trivial
  | stored => trivial
  | file opened packed =>
      obtain ⟨_, _, path, asked, made⟩ := file_of_answer answered
      intro broken
      rcases Download.newline_mem_of_ofPath made broken with above | inside
      · exact plain above
      · exact ((Field.isLine_iff path).mp (isLine_of_askedPath asked)).1 inside

/-- To a client that keeps reading, a service writes what belongs to its answer and nothing else.
This is a complete response if and only if the answer fits, and otherwise a verdict alone. With a
home whose path has no newline, only a refusal can fail to fit. -/
theorem response_iff_fits (service : FileService) (site : Site) (volume : Volume)
    (incoming : Pieces) :
    let exchange := Exchange.new service.service incoming true
    let answer := service.answer site volume exchange
    let sent := (service.serve site volume exchange).2.1.sent
    sent = (Answer.emission answer).bytes ∧
      (Response service sent ↔ Answer.Fits answer) ∧
      (¬ Answer.Fits answer → sent = [(Answer.verdict answer).code]) ∧
      ('\n' ∉ site.home.toList → ∀ found, answer = .ok found → Answer.Fits answer) := by
  intro exchange answer sent
  have written : sent = (Answer.emission answer).bytes :=
    @sent_serve service site volume exchange rfl rfl
  refine ⟨written, ⟨?_, ?_⟩, ?_, ?_⟩
  · intro response
    by_cases fits : Answer.Fits answer
    · exact fits
    · obtain ⟨bare, incomplete⟩ := bare_of_answer fits
      rw [written, bare] at response
      exact absurd response incomplete
  · intro fits
    rw [written]
    cases answered : answer with
    | error failure =>
        rw [answered] at fits
        rw [Answer.emission, Endpoint.refusal_of_fits fits]
        exact .refusal service _ ((Endpoint.isLine_reasonLine_iff _).mpr fits)
    | ok found =>
        rw [answered] at fits
        exact response_of_answer answered fits
  · intro unfit
    rw [written]
    exact (bare_of_answer unfit).1
  · intro plain found answered
    rw [answered]
    exact fits_of_answer answered plain

/-! ## Refusals that do not fit -/

/-- A path that leads out of the home is refused with its whole text. -/
theorem answer_of_outside {site : Site} {volume : Volume} {exchange : Exchange} {path : String}
    (home : volume.isDirectory (Text.Utf8.encode site.home) = true)
    (asked : askedPath exchange.incoming.flatten = .ok path)
    (leaves : Confinement.names? path = none) :
    Listing.answer site volume exchange = .error (.confinement (.outside path)) := by
  have refused : Listing.ofPath site volume path = .error (.confinement (.outside path)) := by
    simp only [Listing.ofPath, Site.resolve, Confinement.resolve, home, leaves, if_true]
  simp only [Listing.answer, asked, refused, bind, Except.bind]

theorem not_fitsLine_outside {path : String}
    (long : longestLine < (Text.Utf8.encode path).length + 41) :
    ¬ FitsLine (Failure.confinement (.outside path)).message := by
  have message : (Failure.confinement (.outside path)).message =
      path ++ " liegt ausserhalb des Home-Verzeichnisses" := rfl
  have words : (Text.Utf8.encode " liegt ausserhalb des Home-Verzeichnisses").length = 41 := by
    decide
  intro fits
  rw [FitsLine, message, Text.Utf8.encode_append, List.length_append, words] at fits
  omega

def outsidePath (count : Nat) : String :=
  "../" ++ String.ofList (List.replicate count 'a')

theorem toList_outsidePath (count : Nat) :
    (outsidePath count).toList = ['.', '.'] ++ '/' :: List.replicate count 'a' := by
  have front : "../".toList = ['.', '.', '/'] := rfl
  rw [outsidePath, String.toList_append, front, String.toList_ofList]
  rfl

theorem names?_outsidePath (count : Nat) : Confinement.names? (outsidePath count) = none := by
  have behind : Text.Parts.cut '/' ('/' :: List.replicate count 'a') =
      ([], Text.Parts.of '/' (List.replicate count 'a')) := by
    simp [Text.Parts.cut, Text.Parts.of]
  unfold Confinement.names?
  rw [toList_outsidePath, Text.Parts.of_plain_append (by decide), behind, List.append_nil,
    List.foldlM_cons]
  rfl

theorem length_encode_outsidePath (count : Nat) :
    (Text.Utf8.encode (outsidePath count)).length = 3 + count := by
  have front : (Text.Utf8.encode "../").length = 3 := by decide
  have letter : (String.utf8EncodeChar 'a').length = 1 := rfl
  rw [outsidePath, Text.Utf8.encode_append, List.length_append, front, Text.Utf8.encode_ofList,
    List.length_flatMap, List.map_replicate, List.sum_replicate_nat, letter, Nat.mul_one]

theorem isLine_outsidePath {count : Nat} (short : 3 + count ≤ longestLine) :
    IsLine (outsidePath count) := by
  rw [Field.isLine_iff, length_encode_outsidePath, toList_outsidePath]
  refine ⟨?_, short⟩
  intro found
  rcases List.mem_append.mp found with front | behind
  · exact absurd front (by decide)
  · rcases List.mem_cons.mp behind with slash | letter
    · exact absurd slash (by decide)
    · exact absurd (List.eq_of_mem_replicate letter) (by decide)

/-- A request for a path out of the home whose refusal is no line any more. -/
theorem sent_outside {site : Site} {volume : Volume} {count : Nat}
    (home : volume.isDirectory (Text.Utf8.encode site.home) = true)
    (short : 3 + count ≤ longestLine) (long : longestLine < 3 + count + 41) :
    (Listing.serve site volume
      (Exchange.new .stat [lineBytes (outsidePath count)] true)).2.sent =
        [Verdict.refused.code] := by
  have read := (Field.readLine_run_iff _ [] (outsidePath count)).mpr
    ⟨isLine_outsidePath short, rfl⟩
  have asked : askedPath [lineBytes (outsidePath count)].flatten = .ok (outsidePath count) := by
    rw [List.append_nil] at read
    rw [List.flatten_singleton, askedPath, read]
    rfl
  have unfit : ¬ FitsLine (Failure.confinement (.outside (outsidePath count))).message := by
    apply not_fitsLine_outside
    rwa [length_encode_outsidePath]
  have answered := @answer_of_outside site volume
    (Exchange.new .stat [lineBytes (outsidePath count)] true) _ home asked
    (names?_outsidePath count)
  rw [sent_listing site volume rfl rfl, answered, Answer.emission,
    Endpoint.refusal_of_long unfit]
  rfl

/-- A path may be so long that a refusal which repeats it is no line: whatever is stored in the
home, there is a request that is answered with a verdict alone. -/
theorem exists_bare_refusal (site : Site) (volume : Volume)
    (home : volume.isDirectory (Text.Utf8.encode site.home) = true) :
    ∃ incoming : Pieces,
      (Listing.serve site volume (Exchange.new .stat incoming true)).2.sent =
        [Verdict.refused.code] := by
  have short : 3 + (longestLine - 3) ≤ longestLine := by unfold longestLine; omega
  exact ⟨_, sent_outside home short (by omega)⟩

end DesktopGateway.Files
