import DesktopGateway.Proofs.Files.Confinement
import DesktopGateway.Proofs.Files.FailedUpload
import DesktopGateway.Proofs.Volume.Contents
import DesktopGateway.Proofs.Wire.Window

/-!
# What an accepted upload has stored

However the client's bytes are cut into pieces, the copy takes exactly the announced bytes and
appends each portion to what it has written. An upload is accepted if and only if all announced
bytes have come and no operation on the volume has failed. The target then reads as these bytes, it
did so before the acceptance was written, and the bytes behind them are still to be read.
-/

namespace DesktopGateway.Files.Upload

open DesktopGateway.Serving
open DesktopGateway.Wire
open Volume (Location Handle)

/-! ## The copy -/

theorem portion_pos (missing : Nat) : 0 < min portion (missing + 1) := by
  unfold portion
  omega

/-- A portion is not longer than what is missing. -/
theorem length_of_readContent {exchange later : Exchange} {missing : Nat} {left : Window}
    {bytes : List UInt8}
    (taken : exchange.readContent ⟨missing + 1⟩ portion = (.ok bytes, left, later)) :
    bytes.length ≤ missing + 1 := by
  have bound := Pieces.length_read_le (min portion (missing + 1)) exchange.incoming
  unfold Exchange.readContent Window.read at taken
  dsimp only at taken
  split at taken
  · cases taken
  · cases taken
    omega

/-- Only the end of the stream makes a reading fail. -/
theorem flatten_of_readContent_error {exchange later : Exchange} {missing : Nat} {left : Window}
    {failure : Host.Failure}
    (taken : exchange.readContent ⟨missing + 1⟩ portion = (.error failure, left, later)) :
    exchange.incoming.flatten = [] := by
  unfold Exchange.readContent Window.read at taken
  dsimp only at taken
  split at taken
  · rename_i nothing
    rw [Bool.and_eq_true, Bool.and_eq_true, List.isEmpty_iff] at nothing
    exact Pieces.flatten_of_read_nil (portion_pos missing) nothing.1.1
  · cases taken

/-- When all that is missing has come, the copy takes it and nothing behind it. -/
theorem copy_of_enough (upload : Upload) (missing offset : Nat) (volume : Volume)
    (exchange : Exchange) (enough : missing ≤ exchange.incoming.flatten.length) :
    (upload.copy missing offset volume exchange).1 = .ok () ∧
      (upload.copy missing offset volume exchange).2.2.incoming.flatten =
        exchange.incoming.flatten.drop missing := by
  fun_induction copy upload missing offset volume exchange with
  | case1 offset volume exchange => exact ⟨rfl, rfl⟩
  | case2 missing offset volume exchange failure left later taken =>
      rw [flatten_of_readContent_error taken] at enough
      exact absurd enough (Nat.not_succ_le_zero missing)
  | case3 missing offset volume exchange left later taken =>
      exact absurd rfl (readContent_eq_ok taken).1
  | case4 missing offset volume exchange first more left later taken ih =>
      have whole := (readContent_eq_ok taken).2
      have short := length_of_readContent taken
      rw [List.length_cons] at short
      rw [← whole, List.length_append, List.length_cons] at enough
      obtain ⟨done, rest⟩ := ih (by omega)
      refine ⟨done, ?_⟩
      have passed : (first :: more).drop (missing + 1) = [] :=
        List.drop_of_length_le (by rwa [List.length_cons])
      rw [rest, ← whole, List.drop_append, passed, List.nil_append, List.length_cons,
        Nat.succ_sub_succ]

/-- The copy appends to the open file what has come of that which is missing. -/
theorem holds_copy {upload : Upload} {number : Nat} (opened : upload.handle = .file number)
    (missing offset : Nat) (volume : Volume) (exchange : Exchange) {front : List UInt8}
    (reached : front.length = offset) (holds : volume.Holds number front) :
    (upload.copy missing offset volume exchange).2.1.Holds number
      (front ++ exchange.incoming.flatten.take missing) := by
  fun_induction copy upload missing offset volume exchange generalizing front with
  | case1 offset volume exchange =>
      rw [List.take_zero, List.append_nil]
      exact holds
  | case2 missing offset volume exchange failure left later taken =>
      rw [flatten_of_readContent_error taken, List.take_nil, List.append_nil]
      exact holds
  | case3 missing offset volume exchange left later taken =>
      exact absurd rfl (readContent_eq_ok taken).1
  | case4 missing offset volume exchange first more left later taken ih =>
      have short := length_of_readContent taken
      rw [List.length_cons] at short
      have written := holds.write (first :: more)
      rw [reached, ← opened] at written
      have further := ih (by rw [List.length_append, List.length_cons, reached]; rfl) written
      have whole : exchange.incoming.flatten.take (missing + 1) =
          first :: more ++ later.incoming.flatten.take (missing - more.length) := by
        have all : (first :: more).take (missing + 1) = first :: more :=
          List.take_of_length_le (by rwa [List.length_cons])
        rw [← (readContent_eq_ok taken).2, List.take_append, all, List.length_cons,
          Nat.succ_sub_succ]
      rw [whole, ← List.append_assoc]
      exact further

/-! ## The opening -/

def targetPlace (site : Site) (safe : String) : Place :=
  ⟨site.home, [directoryName, safe]⟩

theorem place_of_resolve {site : Site} {volume : Volume} {directory : Place}
    (resolved : site.resolve volume directoryName = .ok directory) :
    directory = ⟨site.home, [directoryName]⟩ := by
  obtain ⟨home, names⟩ := Confinement.resolve_eq_ok resolved
  have single : Confinement.names? directoryName = some [directoryName] := by decide
  rw [single] at names
  cases directory
  cases home
  cases names
  rfl

theorem place_of_prepare {site : Site} {owner : Option Nat} {volume prepared : Volume}
    {directory : Place} (made : prepare site owner volume = (.ok directory, prepared)) :
    directory = ⟨site.home, [directoryName]⟩ := by
  unfold prepare at made
  split at made
  · cases made
  · rename_i resolved
    have place := place_of_resolve resolved
    split at made
    · cases made
    · split at made
      · cases made
      · cases made
        exact place

/-! ## Recorded volumes -/

section Recorded

variable {site : Site} {owner : Option Nat} {volume : Volume} (recorded : volume.Recorded)

include recorded

theorem recorded_give {given : Volume} {place : Place}
    (done : give site owner volume place = .ok given) : given.Recorded := by
  rcases give_eq_ok done with rfl | ⟨user, changed⟩
  · exact recorded
  · exact recorded.giveTo changed

theorem recorded_prepare : (prepare site owner volume).2.Recorded := by
  rcases prepare_cases site owner volume with same | ⟨directory, made, _, ensured, same | given⟩
  · rwa [same]
  · rw [same]
    exact recorded.ensureDirectory ensured
  · exact recorded_give (recorded.ensureDirectory ensured) given

theorem recorded_discard (upload : Upload) : (upload.discard volume).Recorded := by
  unfold discard
  split
  · exact recorded.removeFile ‹_›
  · exact recorded

end Recorded

namespace Opening

/-- Every operation on the volume succeeds: the directory of uploads is there or is made, it is
given to its owner, the file is opened, and once it is filled it is synced and given away too. -/
structure Succeeds (opening : Opening) (site : Site) (owner : Option Nat) (safe : String)
    (volume : Volume) : Prop where
  prepared : prepare site owner volume = (.ok ⟨site.home, [directoryName]⟩, opening.prepared)
  opened : start site opening.prepared ⟨site.home, [directoryName]⟩ safe =
    .ok (opening.upload, opening.opened)
  synced : Volume.sync opening.upload.handle = .ok ()
  given : ∃ after, give site owner opening.copied opening.upload.target = .ok after

end Opening

section Named

variable {site : Site} {owner : Option Nat} {name safe : String} {size : Nat} {volume : Volume}
  {behind : Exchange}

theorem named?_of_usable_iff {opening : Opening} (usable : SafeName.ofName? name = some safe) :
    named? site owner name size volume behind = some opening ↔
      opening.size = size ∧ opening.behind = behind ∧
        prepare site owner volume = (.ok ⟨site.home, [directoryName]⟩, opening.prepared) ∧
        start site opening.prepared ⟨site.home, [directoryName]⟩ safe =
          .ok (opening.upload, opening.opened) := by
  rw [named?_eq_some_iff]
  constructor
  · rintro ⟨other, directory, named, made, started, announced, same⟩
    rw [usable] at named
    cases named
    obtain rfl := place_of_prepare made
    exact ⟨announced, same, made, started⟩
  · rintro ⟨announced, same, made, started⟩
    exact ⟨safe, _, usable, made, started, announced, same⟩

end Named

theorem handle_of_sync {handle : Handle} (synced : Volume.sync handle = .ok ()) :
    ∃ number, handle = .file number := by
  cases handle with
  | file number => exact ⟨number, rfl⟩
  | device device => cases synced

theorem readsAs_of_give {site : Site} {owner : Option Nat} {volume given : Volume} {place : Place}
    {bytes : List UInt8} (reads : volume.ReadsAs place.bytes bytes)
    (done : give site owner volume place = .ok given) : given.ReadsAs place.bytes bytes := by
  rcases give_eq_ok done with rfl | ⟨user, changed⟩
  · exact reads
  · exact reads.giveTo changed

/-! ## The end of an upload -/

namespace Opening

variable {opening : Opening} {site : Site} {owner : Option Nat}

/-- Once its file is open, an upload is stored if and only if all announced bytes have come and the
file can be synced and given to its owner. -/
theorem finish_eq_ok_iff :
    (opening.finish site owner).1 = .ok () ↔
      opening.size ≤ opening.behind.incoming.flatten.length ∧
        Volume.sync opening.upload.handle = .ok () ∧
        ∃ after, give site owner opening.copied opening.upload.target = .ok after := by
  by_cases enough : opening.size ≤ opening.behind.incoming.flatten.length
  · have copied := (copy_of_enough opening.upload opening.size 0 opening.opened opening.behind
      enough).1
    unfold finish fill Opening.copied
    cases outcome : opening.upload.copy opening.size 0 opening.opened opening.behind with
    | mk result rest =>
        rw [outcome] at copied
        cases copied
        simp only [enough, true_and]
        cases Volume.sync opening.upload.handle with
        | error failure => simp
        | ok synced =>
            simp only [true_and]
            cases give site owner rest.1 opening.upload.target with
            | error failure => simp
            | ok after => simp
  · obtain ⟨cause, failed⟩ := opening.finish_of_short site owner (Nat.not_le.mp enough)
    rw [failed]
    constructor
    · intro impossible
      cases impossible
    · rintro ⟨arrived, _⟩
      exact absurd arrived enough

/-- What is left of the client's bytes when an upload is stored. -/
theorem finish_of_ok (stored : (opening.finish site owner).1 = .ok ()) :
    give site owner opening.copied opening.upload.target = .ok (opening.finish site owner).2.1 ∧
      (opening.finish site owner).2.2.incoming.flatten =
        opening.behind.incoming.flatten.drop opening.size := by
  obtain ⟨enough, synced, after, given⟩ := finish_eq_ok_iff.mp stored
  obtain ⟨copied, rest⟩ := copy_of_enough opening.upload opening.size 0 opening.opened
    opening.behind enough
  unfold Opening.copied at given ⊢
  unfold finish fill
  cases outcome : opening.upload.copy opening.size 0 opening.opened opening.behind with
  | mk result later =>
      rw [outcome] at copied rest given
      cases copied
      simp only [synced, given]
      exact ⟨trivial, rest⟩

end Opening

/-! ## The acceptance -/

section Whole

variable {site : Site} {owner : Option Nat} {volume : Volume} {exchange : Exchange}

/-- An upload that is stored is answered with the acceptance, which changes nothing else. -/
theorem serve_of_stored (stored : (attempt site owner volume exchange).1 = .ok ()) :
    serve site owner volume exchange =
      (((attempt site owner volume exchange).2.2.emit Link.Endpoint.acceptance).1,
        ((attempt site owner volume exchange).2.2.emit Link.Endpoint.acceptance).2,
        (attempt site owner volume exchange).2.1) := by
  unfold serve
  cases attempted : attempt site owner volume exchange with
  | mk outcome rest =>
      rw [attempted] at stored
      cases stored
      rfl

theorem sent_of_unreachable (gone : exchange.reachable = false) :
    (serve site owner volume exchange).2.1.sent = exchange.sent := by
  have advances := attempt_advances site owner volume exchange
  have still := advances.reachable_eq.trans gone
  rw [← advances.sent_eq]
  cases attempted : (attempt site owner volume exchange).1 with
  | error failure =>
      rw [serve_of_failed attempted]
      exact congrArg Exchange.sent (Exchange.emit_of_unreachable still _)
  | ok stored =>
      rw [serve_of_stored attempted]
      exact congrArg Exchange.sent (Exchange.emit_of_unreachable still _)

/-- The acceptance is written to a client that is there when the upload has been stored, and on no
other condition. -/
theorem sent_accepted_iff :
    (serve site owner volume exchange).2.1.sent = exchange.sent ++ [Verdict.accepted.code] ↔
      exchange.reachable = true ∧ (attempt site owner volume exchange).1 = .ok () := by
  have advances := attempt_advances site owner volume exchange
  constructor
  · intro accepted
    cases reachable : exchange.reachable with
    | false =>
        rw [sent_of_unreachable reachable] at accepted
        cases List.self_eq_append_right.mp accepted
    | true =>
        refine ⟨rfl, ?_⟩
        cases attempted : (attempt site owner volume exchange).1 with
        | ok stored => rfl
        | error failure =>
            obtain ⟨rest, refused⟩ := sent_of_failed reachable attempted
            rw [refused] at accepted
            cases List.append_cancel_left accepted
  · rintro ⟨reachable, stored⟩
    rw [serve_of_stored stored, ← advances.sent_eq,
      Exchange.emit_of_reachable (advances.reachable_eq.trans reachable)]
    rfl

/-- The client of the upload service has asked for so many bytes to be stored under a name, and a
stream of bytes follows. -/
structure Requests (exchange : Exchange) (name : String) (size : Int64) (stream : List UInt8) :
    Prop where
  asked : exchange.service.request? = some .storeRequest
  sendable : (Parcel.storeRequest name size ()).IsSendable
  sent : exchange.incoming.flatten = (Parcel.storeRequest name size ()).headerBytes ++ stream

variable {name safe : String} {size : Int64} {stream : List UInt8}

theorem Requests.read (requests : Requests exchange name size stream) :
    ∃ behind, exchange.readRequest .storeRequest = (.ok (.storeRequest name size ()), behind) ∧
      behind.incoming.flatten = stream := by
  have asked : exchange.service.request? = some (Parcel.storeRequest name size ()).kind :=
    requests.asked
  exact Exchange.readRequest_of_sent asked requests.sendable requests.sent

/-- Once its request has been read, an upload is stored if and only if all announced bytes have come
and no operation on the volume fails. -/
theorem attempt_eq_ok_iff (requests : Requests exchange name size stream)
    (usable : SafeName.ofName? name = some safe) :
    (attempt site owner volume exchange).1 = .ok () ↔
      size.toNatClampNeg ≤ stream.length ∧ ∃ opening : Opening,
        opening.size = size.toNatClampNeg ∧
        opening.behind = (exchange.readRequest .storeRequest).2 ∧
        opening.Succeeds site owner safe volume := by
  obtain ⟨behind, read, rfl⟩ := requests.read
  have reading : attempt site owner volume exchange =
      store site owner name size.toNatClampNeg volume behind := by
    rw [attempt, read]
  rw [reading, read]
  constructor
  · intro stored
    cases named : named? site owner name size.toNatClampNeg volume behind with
    | none =>
        obtain ⟨failure, _, failed, _⟩ := store_of_unnamed named
        rw [failed] at stored
        cases stored
    | some opening =>
        rw [store_of_named named] at stored
        obtain ⟨enough, synced, given⟩ := Opening.finish_eq_ok_iff.mp stored
        obtain ⟨announced, same, prepared, opened⟩ := (named?_of_usable_iff usable).mp named
        rw [announced, same] at enough
        exact ⟨enough, opening, announced, same, prepared, opened, synced, given⟩
  · rintro ⟨enough, opening, announced, same, prepared, opened, synced, given⟩
    rw [store_of_named ((named?_of_usable_iff usable).mpr ⟨announced, same, prepared, opened⟩),
      Opening.finish_eq_ok_iff, announced, same]
    exact ⟨enough, synced, given⟩

/-- When an upload is stored, its target reads as the announced bytes, and the bytes behind them
have not been read from the client. -/
theorem readsAs_of_attempt (recorded : volume.Recorded)
    (requests : Requests exchange name size stream)
    (usable : SafeName.ofName? name = some safe)
    (stored : (attempt site owner volume exchange).1 = .ok ()) :
    (attempt site owner volume exchange).2.1.ReadsAs (targetPlace site safe).bytes
        (stream.take size.toNatClampNeg) ∧
      (attempt site owner volume exchange).2.2.incoming.flatten =
        stream.drop size.toNatClampNeg := by
  obtain ⟨enough, opening, announced, same, succeeds⟩ :=
    (attempt_eq_ok_iff requests usable).mp stored
  obtain ⟨behind, read, rfl⟩ := requests.read
  rw [read] at same
  have named : named? site owner name size.toNatClampNeg volume behind = some opening :=
    (named?_of_usable_iff usable).mpr ⟨announced, same, succeeds.prepared, succeeds.opened⟩
  have reading : attempt site owner volume exchange = opening.finish site owner := by
    rw [attempt, read]
    exact store_of_named named
  rw [reading] at stored ⊢
  obtain ⟨given, rest⟩ := Opening.finish_of_ok stored
  obtain ⟨below, created⟩ := start_eq_ok succeeds.opened
  have target : opening.upload.target = targetPlace site safe := below
  obtain ⟨number, handle⟩ := handle_of_sync succeeds.synced
  have prepared := @recorded_prepare site owner volume recorded
  rw [succeeds.prepared] at prepared
  rw [handle] at created
  have empty := Volume.holds_of_createFile prepared created
  have opens := Volume.openFile_of_createFile created
  have filled := holds_copy handle opening.size 0 opening.opened opening.behind rfl empty
  have there := Volume.openFile_of_entries (opening.onlyFile_copied).entries opens
  have reads := readsAs_of_give (filled.readsAs there) given
  rw [same, announced] at rest
  rw [target, same, announced] at reads
  exact ⟨reads, rest⟩

/-- For a request to store `size` bytes under a usable name, however what is sent is cut into
pieces:
* The upload is accepted if and only if the client is there, all announced bytes have come and no
  operation on the volume fails.
* When it is accepted, the target reads as exactly the announced bytes, and the bytes behind them
  are still to be read. All this was so before the first byte was written to the client. -/
theorem accepted_iff_stored (recorded : volume.Recorded)
    (requests : Requests exchange name size stream)
    (usable : SafeName.ofName? name = some safe) :
    let served := serve site owner volume exchange
    let count := size.toNatClampNeg
    (served.2.1.sent = exchange.sent ++ [Verdict.accepted.code] ↔
      exchange.reachable = true ∧ count ≤ stream.length ∧ ∃ opening : Opening,
        opening.size = count ∧ opening.behind = (exchange.readRequest .storeRequest).2 ∧
        opening.Succeeds site owner safe volume) ∧
    (served.2.1.sent = exchange.sent ++ [Verdict.accepted.code] →
      ∃ stored before, attempt site owner volume exchange = (.ok (), stored, before) ∧
        before.sent = exchange.sent ∧
        stored.ReadsAs (targetPlace site safe).bytes (stream.take count) ∧
        before.incoming.flatten = stream.drop count ∧
        served.2.2 = stored ∧ served.2.1 = before.append [Verdict.accepted.code]) := by
  intro served count
  constructor
  · rw [sent_accepted_iff, attempt_eq_ok_iff requests usable]
  · intro accepted
    obtain ⟨reachable, stored⟩ := sent_accepted_iff.mp accepted
    obtain ⟨reads, rest⟩ := readsAs_of_attempt recorded requests usable stored
    have advances := attempt_advances site owner volume exchange
    have result : served = _ := serve_of_stored stored
    refine ⟨_, _, Prod.ext stored rfl, advances.sent_eq, reads, rest, ?_, ?_⟩
    · rw [result]
    · rw [result]
      exact Exchange.emit_of_reachable (advances.reachable_eq.trans reachable) _

end Whole

/-- Two bytes are announced for the name `a`, over an old file of three, and a third one follows. -/
def shorterExchange : Exchange :=
  Exchange.new .store [[97], [10, 2, 0, 0], [], [0, 0, 0, 0, 0, 104], [105, 122]] true

def shorterOpening : Opening :=
  ⟨2, usedVolume, ⟨⟨"/h", ["Uploads", "a"]⟩, .file 0⟩, usedVolume.modify 0 fun _ => .empty,
    (shorterExchange.readRequest .storeRequest).2⟩

/-- The upload is accepted and the old content is gone, as is the third byte. -/
theorem accepted_iff_stored_shorter :
    let served := serve usedSite none usedVolume shorterExchange
    served.2.1.sent = [Verdict.accepted.code] ∧
      served.2.2.ReadsAs (targetPlace usedSite "a").bytes [104, 105] ∧
      served.2.1.incoming.flatten = [122] := by
  have recorded : usedVolume.Recorded := .of_entries (by decide)
  have requests : Requests shorterExchange "a" 2 [104, 105, 122] :=
    ⟨rfl, ⟨by decide, by unfold Field.IsLine; decide⟩, by decide⟩
  have usable : SafeName.ofName? "a" = some "a" := by decide
  have succeeds : shorterOpening.Succeeds usedSite none "a" usedVolume :=
    ⟨rfl, rfl, rfl, _, rfl⟩
  obtain ⟨condition, result⟩ :=
    @accepted_iff_stored usedSite none _ _ _ _ _ _ recorded requests usable
  have accepted := condition.mpr ⟨rfl, by decide, shorterOpening, rfl, rfl, succeeds⟩
  obtain ⟨stored, before, _, _, reads, rest, same, answered⟩ := result accepted
  refine ⟨accepted, ?_, ?_⟩
  · rw [same]
    exact reads
  · rw [answered]
    exact rest

end DesktopGateway.Files.Upload
