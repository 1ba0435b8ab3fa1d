import DesktopGateway.Proofs.Files.Stage
import DesktopGateway.Proofs.Files.StoredUpload

/-!
# Where a run stands

A client of the upload service sends its request and a stream of bytes behind it. Each stage of the
run fits the bytes that are still to come, whatever other runs and the volume do: the request is
read as it was sent, and each portion is written where it stands in the stream.
What a stage does alone and what it can be given is said once here, for all that is shown of runs.
-/

namespace DesktopGateway.Serving

open DesktopGateway.Link
open DesktopGateway.Wire

def Wish.room : Wish → Nat
  | byte => 1
  | portion room => room

/-- A wish is met by the first of the bytes that are still to come, or by their end. -/
inductive Delivers (wish : Wish) : List UInt8 → Delivery → List UInt8 → Prop where
  | bytes (first : UInt8) (more rest : List UInt8) (fits : more.length < wish.room) :
      Delivers wish (first :: more ++ rest) (.bytes (first :: more)) rest
  | ended : Delivers wish [] .ended []

/-- The client of an exchange meets every wish with its own bytes. -/
theorem Exchange.deliver_delivers (exchange : Exchange) {wish : Wish} (roomy : 0 < wish.room) :
    Delivers wish exchange.incoming.flatten (exchange.deliver wish).1
      (exchange.deliver wish).2.incoming.flatten := by
  cases wish with
  | byte =>
      unfold deliver
      cases found : exchange.incoming.next? with
      | none =>
          rw [pull_of_next?_none found]
          dsimp only
          rw [Pieces.flatten_of_next?_none found]
          exact .ended
      | some taken =>
          obtain ⟨value, rest⟩ := taken
          rw [pull_of_next?_some found, Pieces.flatten_of_next?_some found]
          exact .bytes value [] rest.flatten Nat.zero_lt_one
  | portion room =>
      have whole := Pieces.read_flatten room exchange.incoming
      have short := Pieces.length_read_le room exchange.incoming
      unfold deliver
      dsimp only
      cases taken : (exchange.incoming.read room).1 with
      | nil =>
          have none := Pieces.flatten_of_read_nil roomy taken
          rw [taken, none] at whole
          rw [none, show (exchange.incoming.read room).2.flatten = [] from whole]
          exact .ended
      | cons first more =>
          rw [taken] at whole short
          rw [← whole]
          exact .bytes first more _ short

end DesktopGateway.Serving

namespace DesktopGateway.Files.Upload

open DesktopGateway.Link
open DesktopGateway.Serving
open DesktopGateway.Wire
open Volume (Handle)

namespace Stage

inductive Works (site : Site) (owner : Option Nat) (volume : Volume) :
    Stage → Stage × Volume → Prop where
  | asked {request : Except Fault (Parcel Unit)} :
      Works site owner volume (.asking (.done request)) (asked request, volume)
  | resolved {name safe : String} {size : Nat} {directory : Place}
      (usable : SafeName.ofName? name = some safe)
      (found : site.resolve volume directoryName = .ok directory) :
      Works site owner volume (.resolving name size) (.making directory safe size, volume)
  | made {directory : Place} {safe : String} {size : Nat} {made : Volume}
      (ensured : volume.ensureDirectory site.credentials directory.bytes = .ok made) :
      Works site owner volume (.making directory safe size) (.claiming directory safe size, made)
  | claimed {directory : Place} {safe : String} {size : Nat} {given : Volume}
      (gives : give site owner volume directory = .ok given) :
      Works site owner volume (.claiming directory safe size) (.opening directory safe size, given)
  | opened {directory : Place} {safe : String} {size : Nat} {upload : Upload} {opened : Volume}
      (starts : Upload.start site volume directory safe = .ok (upload, opened)) :
      Works site owner volume (.opening directory safe size) (.writing upload size 0, opened)
  | copied {upload : Upload} {offset : Nat} :
      Works site owner volume (.writing upload 0 offset) (.syncing upload, volume)
  | unsynced {upload : Upload} (failure : Host.Failure) :
      Works site owner volume (.syncing upload) (.discarding upload failure, volume)
  | synced {upload : Upload} {number : Nat} (file : upload.handle = .file number) :
      Works site owner volume (.syncing upload) (.granting upload, volume)
  | granted {upload : Upload} {given : Volume}
      (gives : give site owner volume upload.target = .ok given) :
      Works site owner volume (.granting upload) (.settled (.ok ()), given)
  | discarded {upload : Upload} {failure : Host.Failure} :
      Works site owner volume (.discarding upload failure)
        (.settled (.error (.stream failure)), upload.discard volume)
  | refused {stage : Stage} (failure : Failure) :
      Works site owner volume stage (.settled (.error failure), volume)
  | idle {stage : Stage} (rests : stage.wish? = none → ∃ result, stage = .settled result) :
      Works site owner volume stage (stage, volume)

theorem works (site : Site) (owner : Option Nat) (volume : Volume) (stage : Stage) :
    Works site owner volume stage (stage.work site owner volume) := by
  cases stage with
  | asking demand =>
      cases demand with
      | done request => exact .asked
      | next onByte onEnd => exact .idle nofun
  | resolving name size =>
      unfold work
      dsimp only
      split
      · exact .refused _
      · rename_i usable
        split
        · exact .refused _
        · exact .resolved usable (by assumption)
  | making directory safe size =>
      unfold work
      dsimp only
      split
      · exact .refused _
      · exact .made (by assumption)
  | claiming directory safe size =>
      unfold work
      dsimp only
      split
      · exact .refused _
      · exact .claimed (by assumption)
  | opening directory safe size =>
      unfold work
      dsimp only
      split
      · exact .refused _
      · exact .opened (by assumption)
  | writing upload missing offset =>
      cases missing with
      | zero => exact .copied
      | succ missing => exact .idle nofun
  | syncing upload =>
      unfold work
      dsimp only
      split
      · exact .unsynced _
      · rename_i synced
        obtain ⟨number, file⟩ := handle_of_sync synced
        exact .synced file
  | granting upload =>
      unfold work
      dsimp only
      split
      · exact .refused _
      · exact .granted (by assumption)
  | discarding upload failure => exact .discarded
  | settled result => exact .idle fun _ => ⟨result, rfl⟩

end Stage

/-- What a client asks for, and all that it sends behind its request. -/
structure Order where
  name : String
  size : Int64
  stream : List UInt8

namespace Order

def count (order : Order) : Nat :=
  order.size.toNatClampNeg

def content (order : Order) : List UInt8 :=
  order.stream.take order.count

end Order

/-- A stage of the run for an order, and the bytes that are still to come. -/
inductive Stands (site : Site) (order : Order) : Stage → List UInt8 → Prop where
  | asking {demand : Demand (Except Fault (Parcel Unit))} {front : List UInt8}
      (asks : demand.Takes front (.ok (.storeRequest order.name order.size ()))) :
      Stands site order (.asking demand) (front ++ order.stream)
  | resolving : Stands site order (.resolving order.name order.count) order.stream
  | making {safe : String} (usable : SafeName.ofName? order.name = some safe) :
      Stands site order (.making ⟨site.home, [directoryName]⟩ safe order.count) order.stream
  | claiming {safe : String} (usable : SafeName.ofName? order.name = some safe) :
      Stands site order (.claiming ⟨site.home, [directoryName]⟩ safe order.count) order.stream
  | opening {safe : String} (usable : SafeName.ofName? order.name = some safe) :
      Stands site order (.opening ⟨site.home, [directoryName]⟩ safe order.count) order.stream
  | writing {safe : String} {upload : Upload} {missing offset : Nat}
      (usable : SafeName.ofName? order.name = some safe)
      (target : upload.target = targetPlace site safe)
      (total : offset + missing = order.count) (reached : offset ≤ order.stream.length) :
      Stands site order (.writing upload missing offset) (order.stream.drop offset)
  | syncing {safe : String} {upload : Upload} (usable : SafeName.ofName? order.name = some safe)
      (target : upload.target = targetPlace site safe)
      (enough : order.count ≤ order.stream.length) :
      Stands site order (.syncing upload) (order.stream.drop order.count)
  | granting {safe : String} {upload : Upload} {number : Nat}
      (usable : SafeName.ofName? order.name = some safe)
      (target : upload.target = targetPlace site safe)
      (enough : order.count ≤ order.stream.length) (file : upload.handle = .file number) :
      Stands site order (.granting upload) (order.stream.drop order.count)
  | discarding {safe : String} {upload : Upload} {failure : Host.Failure} {rest : List UInt8}
      (usable : SafeName.ofName? order.name = some safe)
      (target : upload.target = targetPlace site safe) :
      Stands site order (.discarding upload failure) rest
  | stored {safe : String} (usable : SafeName.ofName? order.name = some safe)
      (enough : order.count ≤ order.stream.length) :
      Stands site order (.settled (.ok ())) (order.stream.drop order.count)
  | failed (failure : Failure) (rest : List UInt8) :
      Stands site order (.settled (.error failure)) rest

namespace Stands

variable {site : Site} {order : Order}

/-- What stands behind the first bytes of a tail. -/
theorem drop_of_drop_eq {stream front back : List UInt8} {offset : Nat}
    (ahead : stream.drop offset = front ++ back) (filled : front ≠ []) :
    offset + front.length ≤ stream.length ∧ stream.drop (offset + front.length) = back := by
  constructor
  · have lengths := congrArg List.length ahead
    have more := List.length_pos_iff.mpr filled
    rw [List.length_drop, List.length_append] at lengths
    omega
  · rw [← List.drop_drop, ahead, List.drop_left]

/-- A run begins in front of its request. -/
theorem start {service : Service} (asked : service.request? = some .storeRequest)
    (sendable : (Parcel.storeRequest order.name order.size ()).IsSendable) :
    Stands site order (.start service)
      ((Parcel.storeRequest order.name order.size ()).headerBytes ++ order.stream) := by
  rw [Stage.start, asked]
  exact .asking fun rest => (Parcel.decode_run_iff ..).mpr ⟨rfl, sendable, rfl⟩

/-- What a run that stands as it should can be given: the next byte of its request, the next portion
of its content, or the end of a content that is too short. -/
inductive Fed (site : Site) (order : Order) : Stage → Delivery → List UInt8 → Prop where
  | asked {onByte : UInt8 → Demand (Except Fault (Parcel Unit))}
      {onEnd : Demand (Except Fault (Parcel Unit))} {value : UInt8} {front : List UInt8}
      (takes : (onByte value).Takes front (.ok (.storeRequest order.name order.size ()))) :
      Fed site order (.asking (.next onByte onEnd)) (.bytes [value]) (front ++ order.stream)
  | written {safe : String} {upload : Upload} {missing offset : Nat} {first : UInt8}
      {more later : List UInt8} (usable : SafeName.ofName? order.name = some safe)
      (target : upload.target = targetPlace site safe)
      (total : offset + (missing + 1) = order.count) (reached : offset ≤ order.stream.length)
      (short : more.length ≤ missing)
      (ahead : order.stream.drop offset = first :: more ++ later) :
      Fed site order (.writing upload (missing + 1) offset) (.bytes (first :: more)) later
  | ended {safe : String} {upload : Upload} {missing offset : Nat}
      (usable : SafeName.ofName? order.name = some safe)
      (target : upload.target = targetPlace site safe)
      (lacking : order.stream.length < order.count) :
      Fed site order (.writing upload (missing + 1) offset) .ended []

theorem fed {stage : Stage} {wish : Wish} {rest later : List UInt8} {delivery : Delivery}
    (stands : Stands site order stage rest) (wished : stage.wish? = some wish)
    (delivers : Delivers wish rest delivery later) : Fed site order stage delivery later := by
  cases stands with
  | @asking demand _ asks =>
      cases demand with
      | done request => cases wished
      | next onByte onEnd =>
          cases wished
          obtain ⟨value, front, rfl, takes⟩ := asks.of_next
          generalize ahead : value :: front ++ order.stream = rest at delivers
          cases delivers with
          | bytes first more rest fits =>
              obtain rfl := List.length_eq_zero_iff.mp (Nat.lt_one_iff.mp fits)
              cases ahead
              exact .asked takes
          | ended => cases ahead
  | @writing safe upload missing offset usable target total reached =>
      cases missing with
      | zero => cases wished
      | succ missing =>
          cases wished
          generalize ahead : order.stream.drop offset = rest at delivers
          cases delivers with
          | bytes first more rest fits =>
              have short : more.length < missing + 1 :=
                Nat.lt_of_lt_of_le fits (Nat.min_le_right ..)
              exact .written usable target total reached (Nat.lt_succ_iff.mp short) ahead
          | ended =>
              have lacking := List.drop_eq_nil_iff.mp ahead
              exact .ended usable target (by omega)
  | resolving => cases wished
  | making => cases wished
  | claiming => cases wished
  | opening => cases wished
  | syncing => cases wished
  | granting => cases wished
  | discarding => cases wished
  | stored => cases wished
  | failed => cases wished

theorem feed {stage : Stage} {wish : Wish} {rest later : List UInt8} {delivery : Delivery}
    (stands : Stands site order stage rest) (wished : stage.wish? = some wish)
    (delivers : Delivers wish rest delivery later) (volume : Volume) :
    Stands site order (stage.feed volume delivery).1 later := by
  cases stands.fed wished delivers with
  | asked takes => exact .asking takes
  | written usable target total reached short ahead =>
      obtain ⟨within, behind⟩ := drop_of_drop_eq ahead (List.cons_ne_nil _ _)
      rw [List.length_cons, ← Nat.add_assoc] at within behind
      rw [← behind]
      exact .writing usable target (by omega) within
  | ended usable target lacking => exact .discarding usable target

theorem work {stage : Stage} {rest : List UInt8} (stands : Stands site order stage rest)
    (owner : Option Nat) (volume : Volume) :
    Stands site order (stage.work site owner volume).1 rest := by
  have works := stage.works site owner volume
  generalize stage.work site owner volume = worked at works ⊢
  cases works with
  | asked =>
      cases stands with
      | asking asks =>
          obtain ⟨rfl, rfl⟩ := asks.of_done
          exact .resolving
  | resolved usable found =>
      cases stands with
      | resolving =>
          obtain rfl := place_of_resolve found
          exact .making usable
  | made ensured =>
      cases stands with
      | making usable => exact .claiming usable
  | claimed gives =>
      cases stands with
      | claiming usable => exact .opening usable
  | opened starts =>
      cases stands with
      | opening usable =>
          exact .writing usable (start_eq_ok starts).1 (Nat.zero_add _) (Nat.zero_le _)
  | copied =>
      cases stands with
      | writing usable target total reached =>
          rw [Nat.add_zero] at total
          subst total
          exact .syncing usable target reached
  | unsynced failure =>
      cases stands with
      | syncing usable target enough => exact .discarding usable target
  | synced file =>
      cases stands with
      | syncing usable target enough => exact .granting usable target enough file
  | granted gives =>
      cases stands with
      | granting usable target enough file => exact .stored usable enough
  | discarded => exact .failed ..
  | refused failure => exact .failed ..
  | idle rests => exact stands

end Stands

end DesktopGateway.Files.Upload
