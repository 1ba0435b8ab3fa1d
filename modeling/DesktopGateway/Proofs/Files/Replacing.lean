import DesktopGateway.Proofs.Files.Crowd
import DesktopGateway.Proofs.Files.UploadReach
import DesktopGateway.Proofs.Files.Version

/-!
# An upload that replaces a file

What each step of an upload makes of the version that its path shows. The run prepares the
directory, which shows nothing new; it opens the file, which begins a new version; and it fills the
file or removes it, in the volume as the download finds it.
-/

namespace DesktopGateway.Files

open DesktopGateway.Serving
open DesktopGateway.Text
open DesktopGateway.Wire
open Volume (AgreeAt Location)

/-! ## The run -/

namespace Upload

def directoryPlace (site : Site) : Place :=
  ⟨site.home, [directoryName]⟩

/-- A run that has not opened its file and does not have to remove one. -/
def Stage.IsEarly : Stage → Prop
  | .asking _ | .resolving .. | .making .. | .claiming .. | .opening .. => True
  | .settled (.error _) => True
  | _ => False

/-- A run that has opened a file and put so many bytes of its content into it. -/
def Stage.Fills (content : List UInt8) (number written : Nat) : Stage → Prop
  | .writing upload _ offset => upload.handle = .file number ∧ offset = written
  | .syncing _ | .granting _ | .settled (.ok ()) => written = content.length
  | .discarding .. | .settled (.error _) => True
  | _ => False

def Stage.IsWriting : Stage → Prop
  | .writing .. => True
  | _ => False

inductive Prepares (site : Site) (owner : Option Nat) (volume : Volume) : Volume → Prop where
  | same : Prepares site owner volume volume
  | made {made : Volume}
      (ensured : volume.ensureDirectory site.credentials (directoryPlace site).bytes = .ok made) :
      Prepares site owner volume made
  | given {given : Volume} (gives : give site owner volume (directoryPlace site) = .ok given) :
      Prepares site owner volume given

section Steps

variable {site : Site} {owner : Option Nat} {order : Order} {safe : String} {volume : Volume}
  {run : Run}

theorem early_feed {stage : Stage} {wish : Wish} {rest later : List UInt8}
    {delivery : Link.Delivery} (stands : Stands site order stage rest) (early : stage.IsEarly)
    (wished : stage.wish? = some wish) (delivers : Delivers wish rest delivery later) :
    (stage.feed volume delivery).1.IsEarly ∧ (stage.feed volume delivery).2 = volume := by
  cases stands.fed wished delivers with
  | asked takes => exact ⟨trivial, rfl⟩
  | written => cases early
  | ended => cases early

theorem early_work {stage : Stage} {rest : List UInt8} (stands : Stands site order stage rest)
    (usable : SafeName.ofName? order.name = some safe) (early : stage.IsEarly) :
    let worked := stage.work site owner volume
    (worked.1.IsEarly ∧ Prepares site owner volume worked.2) ∨
      ∃ upload missing, worked.1 = .writing upload missing 0 ∧
        volume.createFile site.credentials (targetPlace site safe).bytes =
          .ok (upload.handle, worked.2) := by
  have works := stage.works site owner volume
  generalize stage.work site owner volume = worked at works ⊢
  cases works with
  | asked =>
      cases stands with
      | asking asks =>
          obtain ⟨rfl, rfl⟩ := asks.of_done
          exact .inl ⟨trivial, .same⟩
  | resolved => exact .inl ⟨trivial, .same⟩
  | made ensured =>
      cases stands with
      | making => exact .inl ⟨trivial, .made ensured⟩
  | claimed gives =>
      cases stands with
      | claiming => exact .inl ⟨trivial, .given gives⟩
  | opened starts =>
      cases stands with
      | opening own =>
          cases own.symm.trans usable
          obtain ⟨target, created⟩ := start_eq_ok starts
          rw [target] at created
          exact .inr ⟨_, _, rfl, created⟩
  | refused failure => exact .inl ⟨trivial, .same⟩
  | idle rests => exact .inl ⟨early, .same⟩
  | copied => cases early
  | unsynced failure => cases early
  | synced file => cases early
  | granted gives => cases early
  | discarded => cases early

/-- Until it opens its file, a run only prepares the directory for it. -/
theorem early_step (sound : run.Sound site order)
    (usable : SafeName.ofName? order.name = some safe) (early : run.stage.IsEarly) :
    let stepped := run.step site owner volume
    (stepped.1.stage.IsEarly ∧ Prepares site owner volume stepped.2) ∨
      ∃ upload missing, stepped.1.stage = .writing upload missing 0 ∧
        volume.createFile site.credentials (targetPlace site safe).bytes =
          .ok (upload.handle, stepped.2) := by
  rcases run.step_cases site owner volume with
    ⟨result, settled, unanswered, same⟩ | ⟨wish, wished, same⟩ | ⟨alone, same⟩
  · rw [same]
    exact .inl ⟨early, .same⟩
  · rw [same]
    have delivers := run.exchange.deliver_delivers (wish?_roomy wished)
    obtain ⟨still, quiet⟩ :=
      @early_feed site order volume _ _ _ _ _ sound.stands early wished delivers
    dsimp only
    rw [quiet]
    exact .inl ⟨still, .same⟩
  · rw [same]
    exact early_work sound.stands usable early

end Steps

end Upload

/-! ## The versions that an upload goes through -/

namespace Version

open Upload

section Prepared

variable {site : Site} {owner : Option Nat} {safe : String} {volume prepared : Volume}

/-- In a new directory of uploads there is nothing yet. -/
theorem IsFree.put {root : Location} {volume : Volume} (named : IsName safe)
    (home : volume.directory (Utf8.encode site.home) = .ok root) {user : Volume.Owner} {mode : Nat}
    (there : volume.node? (root ++ [Utf8.encode directoryName]) = some (.directory user mode))
    (empty : volume.node? (root ++ [Utf8.encode directoryName] ++ [Utf8.encode safe]) = none)
    (entry : Location × Volume.Node) :
    volume.findEntry true (targetPlace site safe).bytes ≠ .ok entry := by
  intro found
  have plain : ∀ name ∈ (targetPlace site safe).below, IsName name := by
    simp [targetPlace, isName_directoryName, named]
  have unlinked : volume.Unlinked root (targetPlace site safe).names := by
    refine Volume.unlinked_cons_iff.mpr ⟨fun target linked => ?_, ?_⟩
    · rw [there] at linked
      cases linked
    · refine Volume.unlinked_cons_iff.mpr ⟨fun target linked => ?_, Volume.unlinked_nil⟩
      rw [empty] at linked
      cases linked
  have ended := Volume.findEntry_eq_ok_iff.mp found
  have place : entry.1 = root ++ (targetPlace site safe).names :=
    Place.location_of_find (List.cons_ne_nil _ _) plain home unlinked ended
  have present : volume.node? entry.1 = some entry.2 := Volume.find_holds ended
  have same : root ++ (targetPlace site safe).names =
      root ++ [Utf8.encode directoryName] ++ [Utf8.encode safe] := by
    rw [List.append_assoc]
    rfl
  rw [place, same, empty] at present
  cases present

theorem IsFree.ensureDirectory (free : IsFree site safe volume) (named : IsName safe)
    (ensured : volume.ensureDirectory site.credentials (directoryPlace site).bytes = .ok prepared) :
    IsFree site safe prepared := by
  obtain ⟨root, home⟩ := free.home
  rcases Volume.ensureDirectory_eq_ok ensured with ⟨place, absent, rfl⟩ | ⟨rfl, -⟩
  · obtain ⟨-, -, rfl⟩ := Place.find_child_absent home isName_directoryName absent
    obtain ⟨user, mode, ended⟩ := Volume.directory_eq_ok_iff.mp home
    have kept := Volume.directory_kept (Volume.keeps_of_ensureDirectory ensured).agree home
    have inner : root ++ [Utf8.encode directoryName] ≠ [] := by simp
    refine ⟨free.rooted.put (Volume.find_holds ended), ⟨root, kept⟩, ?_⟩
    refine IsFree.put named kept (Volume.node?_put_self volume inner _) ?_
    rw [Volume.node?_put_other volume (by simp)]
    exact free.rooted.free (Volume.find_holds absent).2 _
  · exact free

theorem IsFree.of_agree {later : Volume} (free : IsFree site safe volume)
    (agree : ∀ location, AgreeAt volume later location) : IsFree site safe later := by
  obtain ⟨root, home⟩ := free.home
  refine ⟨free.rooted.of_agree agree,
    ⟨root, Volume.directory_kept (fun other _ => agree other) home⟩, fun entry found => ?_⟩
  have ended := Volume.findEntry_eq_ok_iff.mp found
  have back := Volume.find_kept (fun other _ => (agree other).symm) ended
  obtain ⟨node, there, -⟩ := AgreeAt.node (agree entry.1).symm (Volume.find_holds ended)
  rw [Volume.Found.at, there] at back
  exact free.free _ (Volume.findEntry_eq_ok_iff.mpr back)

theorem IsFree.prepares (free : IsFree site safe volume) (named : IsName safe)
    (prepares : Prepares site owner volume prepared) : IsFree site safe prepared := by
  cases prepares with
  | same => exact free
  | made ensured => exact free.ensureDirectory named ensured
  | given gives =>
      rcases give_eq_ok gives with rfl | ⟨user, given⟩
      · exact free
      · exact free.of_agree (Volume.agreeAt_giveTo given)

end Prepared

/-! ### Opening the file -/

section Created

variable {site : Site} {safe : String} {content path : List UInt8} {volume opened : Volume}
  {handle : Volume.Handle}

/-- Where the path leads nowhere, a new file is made. -/
theorem IsFree.createFile (free : IsFree site safe volume)
    (created : volume.createFile site.credentials (targetPlace site safe).bytes =
      .ok (handle, opened)) : ∃ number, handle = .file number := by
  rcases Volume.createFile_eq_ok created with
    ⟨place, absent, same, -⟩ | ⟨place, number, found, -⟩ | ⟨place, device, found, -⟩
  · exact ⟨_, same⟩
  · exact absurd (Volume.findEntry_eq_ok_iff.mpr found) (free.free _)
  · exact absurd (Volume.findEntry_eq_ok_iff.mpr found) (free.free _)

/-- Opening the file that is there changes no entry. -/
theorem entries_of_createFile {credentials : Volume.Credentials} {path : List UInt8} {number : Nat}
    (opens : volume.openFile path = .ok (.file number))
    (created : volume.createFile credentials path = .ok (handle, opened)) :
    opened.entries = volume.entries := by
  obtain ⟨place, found⟩ := Volume.openFile_eq_file_iff.mp opens
  rcases Volume.createFile_eq_ok created with
    ⟨other, absent, -⟩ | ⟨other, own, -, -, rfl⟩ | ⟨other, device, there, -⟩
  · rw [found] at absent
    cases absent
  · exact Volume.entries_modify volume own _
  · rw [found] at there
    cases there

/-- When the run opens its file, a new version begins. -/
theorem Shown.createFile {version : Version} (shown : Shown site safe content path volume version)
    (early : version.IsEarly)
    (recorded : volume.Recorded)
    (created : volume.createFile site.credentials (targetPlace site safe).bytes =
      .ok (handle, opened)) :
    ∃ number, handle = .file number ∧ version.Grows (.new number version.origin? 0 0) ∧
      Shown site safe content path opened (.new number version.origin? 0 0) := by
  cases shown with
  | missing same free =>
      obtain ⟨number, rfl⟩ := free.createFile created
      have leads := Volume.leadsTo_of_openFile (Volume.openFile_of_createFile created)
      have empty := Volume.holds_of_createFile recorded created
      exact ⟨number, rfl, .made number,
        .new (same ▸ leads) leads empty (Nat.le_refl 0) (Nat.zero_le _)⟩
  | @former number before opens shared reads =>
      obtain rfl := Volume.createFile_of_openFile shared created
      have tree := entries_of_createFile shared created
      have empty := Volume.holds_of_createFile recorded created
      refine ⟨number, rfl, .emptied number before, .new ?_ ?_ empty (Nat.le_refl 0) (Nat.zero_le _)⟩
      · exact Volume.leadsTo_of_openFile (Volume.openFile_of_entries tree opens)
      · exact Volume.leadsTo_of_openFile (Volume.openFile_of_createFile created)
  | new => cases early

theorem Shown.prepares {owner : Option Nat} {prepared : Volume} {version : Version}
    (shown : Shown site safe content path volume version)
    (early : version.IsEarly)
    (named : IsName safe) (prepares : Prepares site owner volume prepared) :
    Shown site safe content path prepared version := by
  cases shown with
  | missing same free => exact .missing same (free.prepares named prepares)
  | former opens shared reads =>
      have keeps : volume.Keeps prepared := by
        cases prepares with
        | same => exact .refl volume
        | made ensured => exact Volume.keeps_of_ensureDirectory ensured
        | given gives => exact keeps_of_give gives
      refine .former (keeps.openFile opens) (keeps.openFile shared) fun count => ?_
      rw [← reads count, Volume.read, Volume.read, keeps.contentOf]
  | new => cases early

end Created

/-! ### Filling the file -/

section Filled

variable {site : Site} {owner : Option Nat} {order : Order} {safe : String} {volume : Volume}
  {number written : Nat}

/-- A portion of what a client sends is a portion of what is to be stored. -/
theorem content_ahead {offset : Nat} {portion rest : List UInt8}
    (ahead : order.stream.drop offset = portion ++ rest)
    (within : offset + portion.length ≤ order.count) :
    ∃ behind, order.content.drop offset = portion ++ behind := by
  refine ⟨rest.take (order.count - offset - portion.length), ?_⟩
  rw [Order.content, List.drop_take, ahead, List.take_append,
    List.take_of_length_le (by omega)]

structure Filled (site : Site) (safe : String) (content : List UInt8) (number written : Nat)
    (volume later : Volume) (stage : Stage) : Prop where
  filled : ∃ more, stage.Fills content number (written + more) ∧
    later.Holds number (content.take (written + more)) ∧ written + more ≤ content.length ∧
    (more = 0 ∨ stage.IsWriting)
  leads : ∀ path, volume.LeadsTo path number → later.LeadsTo path number

theorem Filled.still {later : Volume} {stage : Stage} {content : List UInt8}
    (fills : stage.Fills content number written) (holds : later.Holds number (content.take written))
    (within : written ≤ content.length)
    (leads : ∀ path, volume.LeadsTo path number → later.LeadsTo path number) :
    Filled site safe content number written volume later stage :=
  ⟨⟨0, fills, holds, within, .inl rfl⟩, leads⟩

variable (holds : volume.Holds number (order.content.take written))
  (within : written ≤ order.content.length)

include holds within

theorem fills_feed {stage : Stage} {wish : Wish} {rest later : List UInt8}
    {delivery : Link.Delivery} (stands : Stands site order stage rest)
    (fills : stage.Fills order.content number written) (wished : stage.wish? = some wish)
    (delivers : Delivers wish rest delivery later) :
    Filled site safe order.content number written volume (stage.feed volume delivery).2
      (stage.feed volume delivery).1 := by
  cases stands.fed wished delivers with
  | asked takes => cases fills
  | @written _ upload missing offset first more later usable target total reached short ahead =>
      obtain ⟨file, rfl⟩ := fills
      have enough : offset + (first :: more).length ≤ order.count := by
        rw [List.length_cons]
        omega
      obtain ⟨behind, front⟩ := content_ahead ahead enough
      have taken : order.content.take (offset + (first :: more).length) =
          order.content.take offset ++ first :: more := by
        rw [List.take_add, front, List.take_left]
      have length := congrArg List.length front
      rw [List.length_drop, List.length_append] at length
      have put := holds.write (first :: more)
      rw [List.length_take_of_le within, ← taken] at put
      have same : (Stage.feed volume (.bytes (first :: more))
          (.writing upload (missing + 1) offset)).2 =
            volume.write (.file number) offset (first :: more) := by rw [← file]; rfl
      refine ⟨⟨(first :: more).length, ⟨file, rfl⟩, ?_, by omega, .inr trivial⟩, ?_⟩
      · rw [same]
        exact put
      · intro path leads
        rw [same]
        exact leads.of_entries (Volume.entries_write ..)
  | ended usable target lacking => exact .still trivial holds within fun _ leads => leads

theorem fills_work {stage : Stage} {rest : List UInt8} (stands : Stands site order stage rest)
    (usable : SafeName.ofName? order.name = some safe)
    (shared : volume.LeadsTo (targetPlace site safe).bytes number)
    (fills : stage.Fills order.content number written) :
    Filled site safe order.content number written volume (stage.work site owner volume).2
      (stage.work site owner volume).1 := by
  have works := stage.works site owner volume
  generalize stage.work site owner volume = worked at works ⊢
  cases works with
  | copied =>
      cases stands with
      | writing own target total reached =>
          obtain ⟨file, rfl⟩ := fills
          refine .still ?_ holds within fun _ leads => leads
          change _ = (order.stream.take order.count).length
          rw [List.length_take]
          omega
  | unsynced failure => exact .still trivial holds within fun _ leads => leads
  | synced file => exact .still fills holds within fun _ leads => leads
  | granted gives =>
      cases stands with
      | granting own target enough file =>
          cases own.symm.trans usable
          refine .still fills ((keeps_of_give gives).holds holds) within fun path leads => ?_
          rcases give_eq_ok gives with rfl | ⟨user, given⟩
          · exact leads
          · rw [target] at given
            exact leads.of_entries (shared.entries_giveTo given)
  | @discarded upload failure =>
      unfold Upload.discard
      split
      · rename_i removed
        obtain ⟨location, rfl⟩ := Volume.remove_of_removeFile removed
        exact .still trivial holds within fun _ leads => leads.remove location
      · exact .still trivial holds within fun _ leads => leads
  | refused failure => exact .still trivial holds within fun _ leads => leads
  | idle rests => exact .still fills holds within fun _ leads => leads
  | asked => cases fills
  | resolved => cases fills
  | made => cases fills
  | claimed => cases fills
  | opened => cases fills

/-- A run that has opened its file goes on filling it, or has come to its end. -/
theorem fills_step {run : Run} (sound : run.Sound site order)
    (usable : SafeName.ofName? order.name = some safe)
    (shared : volume.LeadsTo (targetPlace site safe).bytes number)
    (fills : run.stage.Fills order.content number written) :
    Filled site safe order.content number written volume (run.step site owner volume).2
      (run.step site owner volume).1.stage := by
  rcases run.step_cases site owner volume with
    ⟨result, settled, unanswered, same⟩ | ⟨wish, wished, same⟩ | ⟨alone, same⟩
  · rw [same]
    exact .still fills holds within fun _ leads => leads
  · rw [same]
    have delivers := run.exchange.deliver_delivers (wish?_roomy wished)
    exact fills_feed holds within sound.stands fills wished delivers
  · rw [same]
    exact fills_work holds within sound.stands usable shared fills

end Filled

/-! ### One step -/

/-- The run of the upload has come as far as the version says. -/
def Suits (content : List UInt8) : Version → Stage → Prop
  | missing, stage | former _ _, stage => stage.IsEarly
  | new number _ _ written, stage => stage.Fills content number written

section Step

variable {site : Site} {owner : Option Nat} {order : Order} {safe : String} {path : List UInt8}
  {volume : Volume} {run : Run} {version : Version}

theorem suits_iff (early : version.IsEarly) (content : List UInt8) (stage : Stage) :
    version.Suits content stage ↔ stage.IsEarly := by
  cases version with
  | missing => rfl
  | former number before => rfl
  | new => cases early

theorem Shown.early_step (shown : Shown site safe order.content path volume version)
    (early : version.IsEarly) (suits : version.Suits order.content run.stage)
    (sound : run.Sound site order)
    (usable : SafeName.ofName? order.name = some safe) (recorded : volume.Recorded) :
    let stepped := run.step site owner volume
    ∃ next, version.Grows next ∧ Shown site safe order.content path stepped.2 next ∧
      next.Suits order.content stepped.1.stage ∧ (next = version ∨ stepped.1.stage.IsWriting) := by
  intro stepped
  rcases Upload.early_step sound usable ((suits_iff early ..).mp suits) with
    ⟨still, prepares⟩ | ⟨upload, missing, opened, created⟩
  · have kept := shown.prepares early (SafeName.isName_of_ofName? usable) prepares
    exact ⟨version, .same version, kept, (suits_iff early ..).mpr still, .inl rfl⟩
  · obtain ⟨number, file, grows, there⟩ := shown.createFile early recorded created
    refine ⟨_, grows, there, ?_, .inr ?_⟩
    · rw [opened]
      exact ⟨file, rfl⟩
    · rw [opened]
      trivial

/-- A step of the upload leads to the same version or to the next one, and only a run that is
writing then has begun a new one. -/
theorem Shown.upload_step (shown : Shown site safe order.content path volume version)
    (suits : version.Suits order.content run.stage) (sound : run.Sound site order)
    (usable : SafeName.ofName? order.name = some safe) (recorded : volume.Recorded) :
    let stepped := run.step site owner volume
    ∃ next, version.Grows next ∧ Shown site safe order.content path stepped.2 next ∧
      next.Suits order.content stepped.1.stage ∧ (next = version ∨ stepped.1.stage.IsWriting) := by
  cases version with
  | missing => exact shown.early_step trivial suits sound usable recorded
  | former number before => exact shown.early_step trivial suits sound usable recorded
  | new number origin least written =>
      cases shown with
      | new leads shared holds late within =>
          obtain ⟨⟨more, fills, held, inside, wrote⟩, kept⟩ :=
            fills_step holds within sound usable shared suits
          refine ⟨_, .written number origin least written more,
            .new (kept _ leads) (kept _ shared) held (by omega) inside, fills, ?_⟩
          rcases wrote with rfl | writing
          · exact .inl rfl
          · exact .inr writing

end Step

end Version

end DesktopGateway.Files
