import DesktopGateway.Proofs.Files.Placement
import DesktopGateway.Proofs.Files.SafeName
import DesktopGateway.Proofs.Files.StoredUpload
import DesktopGateway.Proofs.Volume.Frame
import DesktopGateway.Proofs.Volume.Region

/-!
# How far an upload reaches

An upload can change two things: the directory that the path of uploads leads to, and what the path
of its target concerns. When neither of the two paths passes a link below the home, these are the
directory of uploads and the entry of the upload in it, with the other names of that file. A link at
either place makes the upload reach whatever the link leads to, inside the home or outside.
-/

namespace DesktopGateway.Files.Upload

open DesktopGateway.Serving
open DesktopGateway.Text
open DesktopGateway.Wire
open Volume (Location Handle SameAt OnlyFile)

theorem isName_directoryName : IsName directoryName :=
  ⟨by decide, by decide, by decide, by decide⟩

/-! ## The directory -/

/-- Where the directory of uploads is: what its path leads to, or the free location it names. -/
def IsUploads (site : Site) (volume : Volume) (location : Location) : Prop :=
  ∃ directory, site.resolve volume directoryName = .ok directory ∧
    (volume.directory directory.bytes = .ok location ∨
      volume.find false directory.bytes = .ok (.absent location))

section Prepared

variable {site : Site} {owner : Option Nat} {volume : Volume}

theorem sameAt_give {given : Volume} {place : Place} {found location : Location}
    (there : volume.directory place.bytes = .ok found)
    (done : give site owner volume place = .ok given) (different : location ≠ found) :
    SameAt volume given location := by
  rcases give_eq_ok done with rfl | ⟨user, changed⟩
  · exact .refl ..
  · exact Volume.sameAt_of_giveTo there changed different

/-- Once the directory of uploads is there, its path leads to it, and nothing else has changed. -/
theorem uploads_of_ensureDirectory {made : Volume} {directory : Place}
    (resolved : site.resolve volume directoryName = .ok directory)
    (ensured : volume.ensureDirectory site.credentials directory.bytes = .ok made) :
    ∃ uploads, IsUploads site volume uploads ∧ made.directory directory.bytes = .ok uploads ∧
      ∀ location, location ≠ uploads → SameAt volume made location := by
  rcases Volume.ensureDirectory_eq_ok ensured with ⟨uploads, free, rfl⟩ | ⟨rfl, uploads, there⟩
  · refine ⟨uploads, ⟨directory, resolved, .inr free⟩, ?_, fun location different =>
      Volume.sameAt_put volume different _⟩
    obtain ⟨root, home⟩ := home_of_resolve resolved
    obtain ⟨inner, absent⟩ := Volume.find_holds free
    rw [place_of_resolve resolved] at free ⊢
    obtain ⟨usable, fits, rfl⟩ := Place.find_child_absent home isName_directoryName free
    refine Place.directory_child (Volume.directory_kept ?_ home) isName_directoryName usable fits
      (Volume.node?_put_self volume inner _)
    rintro other occupied
    refine (Volume.sameAt_put volume ?_ _).agreeAt
    rintro rfl
    exact occupied absent
  · exact ⟨uploads, ⟨directory, resolved, .inl there⟩, there, fun _ _ => .refl ..⟩

/-- Preparing an upload changes nothing but the directory of uploads. -/
theorem sameAt_prepare (location : Location) :
    SameAt volume (prepare site owner volume).2 location ∨ IsUploads site volume location := by
  rcases prepare_cases site owner volume with same | ⟨directory, made, resolved, ensured, result⟩
  · rw [same]
    exact Or.inl (.refl ..)
  obtain ⟨uploads, named, there, others⟩ := uploads_of_ensureDirectory resolved ensured
  by_cases here : location = uploads
  · exact Or.inr (here ▸ named)
  · left
    rcases result with same | given
    · rw [same]
      exact others location here
    · exact (others location here).trans (sameAt_give there given here)

/-- To a walk, everything that was there is as before. -/
theorem agreeAt_prepare {location : Location} (occupied : volume.node? location ≠ none) :
    Volume.AgreeAt volume (prepare site owner volume).2 location := by
  rcases stored?_of_prepare site owner volume location with same | ⟨_, _, _, free, _⟩
  · unfold Volume.AgreeAt
    rw [Volume.sight?_eq_stored?, Volume.sight?_eq_stored?, same]
  · exact absurd (Option.map_eq_none_iff.mp free) occupied

/-- What is no directory in the prepared volume was there before. -/
theorem node?_of_prepared {location : Location} {node : Volume.Node}
    (there : (prepare site owner volume).2.node? location = some node)
    (plain : node.isDirectory = false) : volume.node? location = some node := by
  have other : (prepare site owner volume).2.shown node ≠ .directory := by
    intro same
    rw [← Volume.isDirectory_shown (prepare site owner volume).2, same] at plain
    cases plain
  have stored : (prepare site owner volume).2.stored? location =
      some ((prepare site owner volume).2.shown node) := by
    rw [Volume.stored?, there]
    rfl
  rcases @sameAt_prepare site owner volume location with same | ⟨directory, _, named⟩
  · rw [← same.node, there]
  exfalso
  rcases stored?_of_prepare site owner volume location with same | ⟨_, _, _, _, made⟩
  · rw [stored, Volume.stored?] at same
    rcases named with found | free
    · obtain ⟨_, _, ended⟩ := Volume.directory_eq_ok_iff.mp found
      rw [show volume.node? location = some _ from Volume.find_holds ended] at same
      exact other (Option.some.inj same)
    · rw [(Volume.find_holds free).2] at same
      cases same
  · rw [stored] at made
    exact other (Option.some.inj made)

end Prepared

/-! ## The file -/

section Opened

variable {site : Site} {owner : Option Nat} {opening : Opening} {location : Location}
  {credentials : Volume.Credentials}
  (created : opening.prepared.createFile credentials opening.upload.target.bytes =
    .ok (opening.upload.handle, opening.opened))
  (apart : ¬ opening.prepared.Concerns opening.upload.target.bytes location)

include created apart

/-- Opening and copying change only what the path of the target concerns, and nothing else is
behind the handle. -/
theorem sameAt_copied :
    SameAt opening.prepared opening.copied location ∧
      ∀ number, opening.copied.node? location = some (.file number) →
        opening.upload.handle ≠ .file number := by
  obtain ⟨opened, other⟩ := Volume.sameAt_of_createFile created apart
  have written := @Opening.onlyFile_copied opening
  refine ⟨opened.trans (written.sameAt other), ?_⟩
  intro number present
  rw [written.node?] at present
  exact other number present

theorem sameAt_discarded :
    SameAt opening.prepared (opening.upload.discard opening.copied) location := by
  obtain ⟨slot, named, _, removed⟩ :=
    Opening.discard_filled Opening.onlyFile_copied (Volume.creates_of_createFile created)
  have different : location ≠ slot := by
    rintro rfl
    exact apart (.slot named)
  rw [removed]
  exact (sameAt_copied created apart).1.trans (Volume.sameAt_remove _ different)

/-- The file that is given to its owner is the one behind the handle. -/
theorem sameAt_given {given : Volume} (synced : Volume.sync opening.upload.handle = .ok ())
    (done : give site owner opening.copied opening.upload.target = .ok given) :
    SameAt opening.prepared given location := by
  obtain ⟨copied, other⟩ := sameAt_copied created apart
  obtain ⟨number, handle⟩ := handle_of_sync synced
  have written := @Opening.onlyFile_copied opening
  rw [handle] at created other
  have opens := Volume.openFile_of_entries written.entries (Volume.openFile_of_createFile created)
  rcases give_eq_ok done with rfl | ⟨user, changed⟩
  · exact copied
  · exact copied.trans ((Volume.onlyFile_giveTo opens changed).sameAt other)

/-- From its opening to its end, an upload changes only what the path of its target concerns. -/
theorem sameAt_finish : SameAt opening.prepared (opening.finish site owner).2.1 location := by
  cases ended : (opening.finish site owner).1 with
  | error failure =>
      rcases Opening.finish_failed ended with ⟨_, discarded⟩ | ⟨_, kept⟩
      · rw [discarded]
        exact sameAt_discarded created apart
      · rw [kept]
        exact (sameAt_copied created apart).1
  | ok stored =>
      obtain ⟨_, synced, _⟩ := Opening.finish_eq_ok_iff.mp ended
      exact sameAt_given created apart synced (Opening.finish_of_ok ended).1

end Opened

/-! ## The target -/

structure Opens (site : Site) (owner : Option Nat) (volume : Volume) (exchange : Exchange)
    (safe : String) (opening : Opening) : Prop where
  found : opening? site owner volume exchange = some opening
  prepared : opening.prepared = (prepare site owner volume).2
  asked : ∃ name size behind,
    exchange.readRequest .storeRequest = (.ok (.storeRequest name size ()), behind) ∧
      SafeName.ofName? name = some safe
  target : opening.upload.target = targetPlace site safe

section Opens

variable {site : Site} {owner : Option Nat} {volume : Volume} {exchange : Exchange} {safe : String}
  {opening : Opening}

theorem Opens.isName (opens : Opens site owner volume exchange safe opening) : IsName safe := by
  obtain ⟨_, _, _, _, usable⟩ := opens.asked
  exact SafeName.isName_of_ofName? usable

/-- Every opening has its safe name. -/
theorem opens_of_opening (found : opening? site owner volume exchange = some opening) :
    opening.prepared.createFile site.credentials opening.upload.target.bytes =
        .ok (opening.upload.handle, opening.opened) ∧
      ∃ safe, Opens site owner volume exchange safe opening := by
  obtain ⟨name, size, behind, read, named⟩ := opening?_eq_some_iff.mp found
  obtain ⟨safe, directory, usable, made, started, _, _⟩ := named?_eq_some_iff.mp named
  rw [place_of_prepare made] at started
  obtain ⟨target, created⟩ := start_eq_ok started
  exact ⟨created, safe, found, congrArg Prod.snd made.symm, ⟨name, size, behind, read, usable⟩,
    target⟩

end Opens

/-! ## The whole upload -/

section Whole

variable {site : Site} {owner : Option Nat} {volume : Volume} {exchange : Exchange}

theorem volume_of_serve :
    (serve site owner volume exchange).2.2 = (attempt site owner volume exchange).2.1 := by
  cases ended : (attempt site owner volume exchange).1 with
  | error failure => rw [serve_of_failed ended]
  | ok stored => rw [serve_of_stored ended]

/-- An upload changes nothing but the directory of uploads and, once its file is opened, what the
path of its target concerns. -/
theorem sameAt_serve (location : Location) :
    SameAt volume (serve site owner volume exchange).2.2 location ∨
      IsUploads site volume location ∨
      ∃ safe opening, Opens site owner volume exchange safe opening ∧
        opening.prepared.Concerns (targetPlace site safe).bytes location := by
  have prepared := @sameAt_prepare site owner volume location
  rw [volume_of_serve]
  cases found : opening? site owner volume exchange with
  | none =>
      rcases volume_of_unopened found with same | same
      · rw [same]
        exact Or.inl (.refl ..)
      · rw [same]
        exact prepared.imp_right .inl
  | some opening =>
      obtain ⟨created, safe, opens⟩ := opens_of_opening found
      by_cases apart : opening.prepared.Concerns opening.upload.target.bytes location
      · rw [opens.target] at apart
        exact Or.inr (Or.inr ⟨safe, opening, opens, apart⟩)
      rw [attempt_of_opening found]
      rw [← opens.prepared] at prepared
      exact prepared.imp (fun before => before.trans (sameAt_finish created apart)) .inl

/-! ## Without links -/

section Plain

variable {root location : Location} (home : volume.directory (Utf8.encode site.home) = .ok root)

include home

/-- Without a link at its place, the directory of uploads is where its name says. -/
theorem location_of_isUploads
    (plain : ∀ target, volume.node? (root ++ [Utf8.encode directoryName]) ≠ some (.link target))
    (uploads : IsUploads site volume location) :
    location = root ++ [Utf8.encode directoryName] := by
  obtain ⟨directory, resolved, named⟩ := uploads
  rw [place_of_resolve resolved] at named
  have inner : (Place.mk site.home [directoryName]).below ≠ [] := List.cons_ne_nil _ _
  have names : ∀ name ∈ (Place.mk site.home [directoryName]).below, IsName name := by
    simpa using isName_directoryName
  have unlinked : volume.Unlinked root (Place.mk site.home [directoryName]).names :=
    Volume.unlinked_cons_iff.mpr ⟨plain, Volume.unlinked_nil⟩
  rcases named with found | free
  · obtain ⟨owner, mode, ended⟩ := Volume.directory_eq_ok_iff.mp found
    exact Place.location_of_find inner names home unlinked ended
  · exact Place.location_of_find inner names home unlinked free

/-- Without links on its way, the path of a target concerns the entry that it names and the other
names of its file. -/
theorem location_of_concerns {safe : String} (named : IsName safe)
    (unlinked : volume.Unlinked root (targetPlace site safe).names)
    (concerned : volume.Concerns (targetPlace site safe).bytes location) :
    location = root ++ (targetPlace site safe).names ∨
      volume.SharesFile location (root ++ (targetPlace site safe).names) := by
  have inner : (targetPlace site safe).below ≠ [] := List.cons_ne_nil _ _
  have names : ∀ name ∈ (targetPlace site safe).below, IsName name := by
    simpa [targetPlace] using And.intro isName_directoryName named
  have ends := @Place.location_of_find _ inner names _ _ home unlinked
  cases concerned with
  | slot reached =>
      obtain ⟨found, ended, rfl⟩ := Volume.slot?_eq_some_iff.mp reached
      exact Or.inl (ends ended)
  | free found => exact Or.inl (ends found)
  | file place number found same =>
      have there : volume.node? place = some (.file number) := Volume.find_holds found
      have there : volume.node? (root ++ (targetPlace site safe).names) = some (.file number) := by
        rw [← ends found]
        exact there
      exact Or.inr ⟨number, same, there⟩

/-- Without links at the two places, the target of an upload concerns the entry that it names and
the other names of its file. -/
theorem location_of_opens {safe : String} {opening : Opening}
    (opens : Opens site owner volume exchange safe opening)
    (plain : ∀ target, volume.node? (root ++ [Utf8.encode directoryName]) ≠ some (.link target))
    (direct : ∀ target, volume.node? (root ++ [Utf8.encode directoryName] ++ [Utf8.encode safe]) ≠
      some (.link target))
    (concerned : opening.prepared.Concerns (targetPlace site safe).bytes location) :
    location = root ++ [Utf8.encode directoryName] ++ [Utf8.encode safe] ∨
      volume.SharesFile location
        (root ++ [Utf8.encode directoryName] ++ [Utf8.encode safe]) := by
  have unlinked : (prepare site owner volume).2.Unlinked root (targetPlace site safe).names := by
    apply Volume.unlinked_cons_iff.mpr
    constructor
    · exact fun target linked => plain target (node?_of_prepared linked rfl)
    · apply Volume.unlinked_cons_iff.mpr
      constructor
      · exact fun target linked => direct target (node?_of_prepared linked rfl)
      · exact Volume.unlinked_nil
  have kept : (prepare site owner volume).2.directory (Utf8.encode site.home) = .ok root :=
    Volume.directory_kept (fun _ => agreeAt_prepare) home
  rw [opens.prepared] at concerned
  rw [List.append_assoc]
  rcases location_of_concerns kept opens.isName unlinked concerned with same | ⟨number, here, there⟩
  · exact Or.inl same
  · exact Or.inr ⟨number, node?_of_prepared here rfl, node?_of_prepared there rfl⟩

end Plain

/-- What an upload can change:
* Every location is as it was, with its node and the content and the owner of its file, except for
  what the path of the directory of uploads leads to and, once the file is opened, what the path of
  the target concerns.
* When no link stands at either place, these are the directory of uploads, the entry under the safe
  name in it, and the other names of the file there. -/
theorem changed_within_reach (site : Site) (owner : Option Nat) (volume : Volume)
    (exchange : Exchange) :
    let served := (serve site owner volume exchange).2.2
    (∀ location, SameAt volume served location ∨ IsUploads site volume location ∨
      ∃ safe opening, Opens site owner volume exchange safe opening ∧
        opening.prepared.Concerns (targetPlace site safe).bytes location) ∧
    ∀ root, volume.directory (Utf8.encode site.home) = .ok root →
      let uploads := root ++ [Utf8.encode directoryName]
      (∀ target, volume.node? uploads ≠ some (.link target)) →
      (∀ safe opening, Opens site owner volume exchange safe opening →
        ∀ target, volume.node? (uploads ++ [Utf8.encode safe]) ≠ some (.link target)) →
      ∀ location, SameAt volume served location ∨ location = uploads ∨
        ∃ safe opening, Opens site owner volume exchange safe opening ∧
          (location = uploads ++ [Utf8.encode safe] ∨
            volume.SharesFile location (uploads ++ [Utf8.encode safe])) := by
  intro served
  refine ⟨sameAt_serve, ?_⟩
  intro root home uploads plain direct location
  rcases @sameAt_serve site owner volume exchange location with
    same | named | ⟨safe, opening, opens, concerned⟩
  · exact Or.inl same
  · exact Or.inr (Or.inl (location_of_isUploads home plain named))
  · have reached := location_of_opens home opens plain (direct safe opening opens) concerned
    exact Or.inr (Or.inr ⟨safe, opening, opens, reached⟩)

end Whole

def emptyExchange : Exchange :=
  Exchange.new .store [[97, 10, 0, 0, 0, 0, 0, 0, 0, 0]] true

/-- In a home without links, the home itself is as it was after an upload. -/
theorem changed_within_reach_plain :
    usedVolume.directory (Utf8.encode usedSite.home) = .ok (usedTarget.take 1) ∧
      SameAt usedVolume (serve usedSite (some 5) usedVolume emptyExchange).2.2
        (usedTarget.take 1) := by
  have home : usedVolume.directory (Utf8.encode usedSite.home) = .ok (usedTarget.take 1) := rfl
  refine ⟨home, ?_⟩
  have reach := (changed_within_reach usedSite (some 5) usedVolume emptyExchange).2 _ home
    (by rintro target linked; cases linked) ?_ (usedTarget.take 1)
  · rcases reach with same | uploads | ⟨safe, opening, _, entry | ⟨number, directory, _⟩⟩
    · exact same
    · exact absurd uploads (by decide)
    · cases entry
    · cases directory
  · rintro safe opening opens target linked
    obtain ⟨name, size, behind, asked, usable⟩ := opens.asked
    cases asked
    cases usable
    cases linked

/-! ## A target that is a link -/

/-- What is stored under the name `a` is a link to the file `/x`. -/
def leadingVolume : Volume :=
  ⟨[(usedTarget.take 1, .directory Volume.superuser Volume.openMode),
      (usedTarget.take 2, .directory Volume.superuser Volume.openMode),
      (usedTarget, .link [47, 120]), ([[120]], .file 0)],
    [(0, ⟨.ofBytes [111, 108, 100], Volume.superuser⟩)]⟩

def leadingOpening : Opening :=
  let prepared := (prepare usedSite (some 5) leadingVolume).2
  ⟨0, prepared, ⟨⟨"/h", ["Uploads", "a"]⟩, .file 0⟩, prepared.modify 0 fun _ => .empty,
    (emptyExchange.readRequest .storeRequest).2⟩

/-- The file outside the home is emptied and given away. -/
theorem file_outside_changed :
    let served := (serve usedSite (some 5) leadingVolume emptyExchange).2.2
    leadingVolume.directory (Utf8.encode usedSite.home) = .ok [[104]] ∧
      ¬ ([[104]] : Location) <+: [[120]] ∧
      leadingVolume.node? [[120]] = some (.file 0) ∧ served.node? [[120]] = some (.file 0) ∧
      leadingVolume.record? 0 = some ⟨.ofBytes [111, 108, 100], Volume.superuser⟩ ∧
      served.record? 0 = some ⟨.empty, ⟨5, 5⟩⟩ := by
  intro served
  have found : opening? usedSite (some 5) leadingVolume emptyExchange = some leadingOpening := rfl
  have nothing : leadingOpening.upload.copy leadingOpening.size 0 leadingOpening.opened
      leadingOpening.behind = (.ok (), leadingOpening.opened, leadingOpening.behind) := by
    rw [show leadingOpening.size = 0 from rfl, copy]
  have volume : served = (leadingOpening.finish usedSite (some 5)).2.1 := by
    unfold served
    rw [volume_of_serve, attempt_of_opening found]
  rw [volume, Opening.finish, fill, nothing]
  exact ⟨rfl, by decide, rfl, rfl, rfl, rfl⟩

end DesktopGateway.Files.Upload
