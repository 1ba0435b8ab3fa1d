import DesktopGateway.Proofs.Files.Listing
import DesktopGateway.Proofs.Files.Opening
import DesktopGateway.Proofs.Files.SafeName

/-!
# An entry in a listing and on its own

A client may be told about an entry with its directory or by asking for the entry itself. Both times
it is told the same, unless the entry is a link: the listing shows the link, and the answer about
the entry what the link leads to.
-/

namespace DesktopGateway.Files

open DesktopGateway.Serving
open DesktopGateway.Text
open DesktopGateway.Volume (Location)

theorem IsName.of_isEntryName {name : String} (named : Volume.IsEntryName (Utf8.encode name)) :
    IsName name where
  filled := by
    rintro rfl
    exact named.filled rfl
  inner := by
    rintro rfl
    exact named.inner rfl
  lower := by
    rintro rfl
    exact named.lower rfl
  whole found := named.whole ((@Utf8.mem_encode_iff '/' (by decide) name).mpr found)

namespace Confinement

theorem step_isName {name : String} (named : IsName name) (names : List String) :
    step names name.toList = some (name :: names) := by
  have other {text : String} (different : name ≠ text) : name.toList ≠ text.toList :=
    fun same => different (String.toList_inj.mp same)
  have stepped := step_name names (other named.filled) (other named.inner) (other named.lower)
  rwa [String.ofList_toList] at stepped

/-- One name more behind a path is one name more below the home. -/
theorem names?_child {path name : String} {names : List String} (named : IsName name)
    (walked : names? path = some names) :
    names? (path ++ "/" ++ name) = some (names ++ [name]) := by
  have parts : Parts.of '/' (path ++ "/" ++ name).toList =
      Parts.of '/' path.toList ++ [name.toList] := by
    rw [String.toList_append, String.toList_append, List.append_assoc]
    exact (Parts.of_append_separator ..).trans (congrArg _ named.parts)
  obtain ⟨reached, steps, rfl⟩ := Option.map_eq_some_iff.mp walked
  simp only [names?, parts, List.foldlM_append, steps, List.foldlM_cons, List.foldlM_nil,
    step_isName named, Option.bind_eq_bind, Option.bind_some, Option.pure_def, Option.map_some,
    List.reverse_cons]

end Confinement

section Child

variable {site : Site} {volume : Volume} {path name : String} {place : Place} {location : Location}
  {node : Volume.Node} (named : IsName name) (resolved : site.resolve volume path = .ok place)

include named resolved

theorem resolve_child : site.resolve volume (path ++ "/" ++ name) = .ok (place.child name) := by
  obtain ⟨home, names⟩ := Confinement.resolve_eq_ok resolved
  unfold Site.resolve Confinement.resolve at resolved ⊢
  split at resolved
  · rename_i inner
    rw [if_pos inner, Confinement.names?_child named names, ← home]
    rfl
  · cases resolved

theorem shownName_child : (place.child name).shownName = name := by
  have plain : ∀ other ∈ (place.child name).below, IsName other := by
    intro other listed
    rcases List.mem_append.mp listed with above | own
    · exact plain_of_resolve resolved other above
    · rwa [List.mem_singleton.mp own]
  exact Place.shownName_eq (by simp [Place.child]) plain rfl

variable (inner : volume.directory place.bytes = .ok location)
  (entry : volume.node? (location ++ [Utf8.encode name]) = some node)

include inner entry

/-- A path to an entry of a directory that is no link leads to this entry. -/
theorem find_child {found : Volume.Found} (plain : ∀ target, node = .link target → False)
    (ended : volume.find true (place.child name).bytes = .ok found) :
    found = .entry (location ++ [Utf8.encode name]) node := by
  have home : volume.directory (Utf8.encode (Place.mk place.path [name]).home) = .ok location :=
    inner
  have names : ∀ other ∈ (Place.mk place.path [name]).below, IsName other := by simpa using named
  obtain ⟨left, only⟩ := Place.find_bytes (List.cons_ne_nil _ _) names home
  rw [Place.bytes, Place.path_child (plain_of_resolve resolved), ← Place.bytes, only] at ended
  have walked : volume.walk true left location [.name (Utf8.encode name)] = .ok found := ended.2
  obtain ⟨owner, mode, parent⟩ := Volume.directory_eq_ok_iff.mp inner
  have present : volume.node? location = some (.directory owner mode) := Volume.find_holds parent
  have stop : volume.descend true location [.name (Utf8.encode name)] =
      if Volume.longestName < (Utf8.encode name).length then .refused .nameTooLong
      else .found (.entry (location ++ [Utf8.encode name]) node) := by
    split
    · exact Volume.descend_long present ‹_›
    · rw [Volume.descend_into present ‹_› entry plain, Volume.descend, entry]
  split at stop
  · rcases Volume.walk_eq_ok_iff.mp walked with other | ⟨_, _, _, _, _, other, _⟩ <;>
      (rw [stop] at other; cases other)
  · rw [Volume.walk_eq_ok_iff.mpr (.inl stop)] at walked
    exact (Except.ok.inj walked).symm

end Child

namespace Listing

/-- A client that is told about an entry itself has found where its path leads. -/
theorem findEntry_of_tells {site : Site} {volume : Volume} {exchange : Exchange} {path : String}
    {place : Place} {told : Listing} (asked : Asked exchange path)
    (resolved : site.resolve volume path = .ok place) (tells : Tells site volume exchange told) :
    ∃ location node, volume.findEntry true place.bytes = .ok (location, node) ∧
      told.item = .ofNode volume place.shownName node := by
  have found := (tells_iff asked told).mp tells
  rw [ofPath, resolved] at found
  dsimp only at found
  cases entry : volume.findEntry true place.bytes with
  | error failure =>
      rw [ofPlace, Volume.metadata, entry] at found
      cases found
  | ok reached =>
      obtain ⟨location, node⟩ := reached
      rw [ofPlace_of_findEntry entry] at found
      cases found
      exact ⟨location, node, rfl, rfl⟩

/-- A client that asks about a directory and about one of its entries is told the same about the
entry both times, if that is no link. A link is listed as what it is, which is no directory, and
asked for it is shown as what it leads to. -/
theorem told_entry {site : Site} {volume : Volume} {listing direct : Exchange} {path name : String}
    {place : Place} {location : Location} {node : Volume.Node} {own : Listing}
    (proper : volume.Proper) (askedListing : Asked listing path)
    (askedDirect : Asked direct (path ++ "/" ++ name))
    (resolved : site.resolve volume path = .ok place)
    (inner : volume.directory place.bytes = .ok location)
    (entry : volume.node? (location ++ [Utf8.encode name]) = some node)
    (told : Tells site volume direct own) :
    ∃ about items item, Tells site volume listing ⟨about, some items⟩ ∧ item ∈ items ∧
      item.name = name ∧
      ((∀ target, node ≠ .link target) → own.item = item ∧ item = .ofNode volume name node) ∧
      (∀ target, node = .link target → item.isDirectory = false ∧
        ∃ final reached, volume.findEntry true (place.child name).bytes = .ok (final, reached) ∧
          own.item = .ofNode volume name reached) := by
  have named : IsName name := .of_isEntryName (proper.isEntryName entry (by simp))
  have listed : .ofNode volume name node ∈ sort (itemsOf volume (volume.children location)) := by
    rw [(perm_sort _).mem_iff]
    refine List.mem_map.mpr ⟨(Utf8.encode name, node), ?_, by rw [Utf8.lossy_encode]⟩
    exact ((proper.distinct.lists_children location).mem_iff _ node).mpr entry
  obtain ⟨final, reached, found, same⟩ :=
    findEntry_of_tells askedDirect (resolve_child named resolved) told
  rw [shownName_child named resolved] at same
  refine ⟨_, _, _, tells_of_directory askedListing resolved inner, listed, ?_, ?_, ?_⟩
  · rw [Item.ofNode_eq]
  · intro plain
    have ended := find_child named resolved inner entry (fun target linked => plain target linked)
      (Volume.findEntry_eq_ok_iff.mp found)
    cases ended
    exact ⟨same, rfl⟩
  · rintro target rfl
    exact ⟨rfl, final, reached, found, same⟩

theorem proper_mixed : mixedVolume.Proper :=
  ⟨distinct_mixed, by decide⟩

theorem asked_mixed : Asked (Exchange.new .stat [[100, 10]] true) "d" :=
  ⟨rfl, rfl, rfl⟩

theorem directory_mixed :
    mixedVolume.directory (Place.mk "/h" ["d"]).bytes = .ok [[104], [100]] := by
  decide

/-- The file `z` is told alike both times. -/
theorem told_entry_mixed :
    let listing := Exchange.new .stat [[100, 10]] true
    let direct := Exchange.new .stat [[100, 47, 122, 10]] true
    mixedVolume.Proper ∧ Asked listing "d" ∧ Asked direct ("d" ++ "/" ++ "z") ∧
      linkedSite.resolve mixedVolume "d" = .ok ⟨"/h", ["d"]⟩ ∧
      mixedVolume.directory (Place.mk "/h" ["d"]).bytes = .ok [[104], [100]] ∧
      mixedVolume.node? [[104], [100], Utf8.encode "z"] = some (.file 0) ∧
      ∃ own, Tells linkedSite mixedVolume direct own ∧ own.item = ⟨"z", false, 3⟩ ∧
        ∃ about items, Tells linkedSite mixedVolume listing ⟨about, some items⟩ ∧
          own.item ∈ items := by
  intro listing direct
  have askedDirect : Asked direct ("d" ++ "/" ++ "z") := ⟨rfl, rfl, by decide⟩
  have entry : mixedVolume.node? [[104], [100], Utf8.encode "z"] = some (.file 0) := by decide
  have found : mixedVolume.findEntry true (Place.mk "/h" ["d", "z"]).bytes =
      .ok ([[104], [100], [122]], .file 0) := by decide
  have shown : (Place.mk "/h" ["d", "z"]).shownName = "z" := by decide
  have resolved : linkedSite.resolve mixedVolume ("d" ++ "/" ++ "z") = .ok ⟨"/h", ["d", "z"]⟩ := by
    decide
  have told := tells_of_findEntry askedDirect resolved found
  obtain ⟨about, items, item, tells, listed, -, plain, -⟩ :=
    told_entry proper_mixed asked_mixed askedDirect rfl directory_mixed entry told
  obtain ⟨same, -⟩ := plain fun target => by simp
  refine ⟨proper_mixed, asked_mixed, askedDirect, rfl, directory_mixed, entry, _, told, ?_,
    about, items, tells, same ▸ listed⟩
  rw [shown]
  rfl

/-- The link `l` to a directory is listed as no directory, and is one when asked for. -/
theorem link_told_differently :
    let listing := Exchange.new .stat [[100, 10]] true
    let direct := Exchange.new .stat [[100, 47, 108, 10]] true
    ∃ about items own, Tells linkedSite mixedVolume listing ⟨about, some items⟩ ∧
      Tells linkedSite mixedVolume direct own ∧ (∃ item ∈ items, item.name = "l") ∧
      ∀ item ∈ items, item.name = "l" → item.isDirectory ≠ own.item.isDirectory := by
  intro listing direct
  have askedDirect : Asked direct "d/l" := ⟨rfl, rfl, by decide⟩
  have found : mixedVolume.findEntry true (Place.mk "/h" ["d", "l"]).bytes =
      .ok ([[104], [101]], openDirectory) := by decide
  refine ⟨_, _, _, tells_of_directory asked_mixed rfl directory_mixed,
    tells_of_findEntry askedDirect (by decide) found, ?_⟩
  simp only [(perm_sort _).mem_iff]
  decide

end Listing

end DesktopGateway.Files
