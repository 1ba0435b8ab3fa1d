import DesktopGateway.Files.ListingReader
import DesktopGateway.Proofs.Files.Placement
import DesktopGateway.Proofs.Files.Response
import DesktopGateway.Proofs.Files.SharedHome
import DesktopGateway.Proofs.Text.Document
import DesktopGateway.Proofs.Volume.Entries

/-!
# What a listing tells

A client reads back what it is told, so that the bytes of an answer and the listing in it stand for
each other. The listing of a directory has each of its entries once, in the order of their names,
as they are without going through links; the listing of anything else has none.
-/

namespace DesktopGateway.Files

open DesktopGateway.Serving
open DesktopGateway.Text
open DesktopGateway.Volume (Location)
open DesktopGateway.Wire

/-! ## Listings read back -/

theorem Item.ofFields?_fields (item : Item) (others : List (String × Document)) :
    Item.ofFields? (item.fields ++ others) = some item :=
  rfl

/-- The fields of an item hold no lists and no records. -/
theorem Item.within_of_mem_fields {item : Item} {field : String × Document}
    (member : field ∈ item.fields) (nesting : Nat) : Document.Within nesting field.2 := by
  simp only [Item.fields, List.mem_cons, List.not_mem_nil, or_false] at member
  rcases member with rfl | rfl | rfl <;> cases nesting <;> trivial

namespace Listing

theorem lookup_contents (item : Item) (others : List (String × Document)) :
    (item.fields ++ others).lookup "contents" = others.lookup "contents" :=
  rfl

theorem mapM_ofDocument? (items : List Item) :
    (items.map fun item => Document.record item.fields).mapM Item.ofDocument? = some items := by
  induction items with
  | nil => rfl
  | cons item items ih =>
      have own : Item.ofDocument? (.record item.fields) = some item := by
        have read := item.ofFields?_fields []
        rwa [List.append_nil] at read
      rw [List.map_cons, List.mapM_cons, own, ih]
      rfl

theorem ofDocument?_document (listing : Listing) : ofDocument? listing.document = some listing := by
  obtain ⟨item, contents⟩ := listing
  cases contents with
  | none =>
      change ofFields? (item.fields ++ []) = _
      rw [ofFields?, Item.ofFields?_fields, lookup_contents]
      rfl
  | some items =>
      change ofFields? (item.fields ++
        [("contents", .list (items.map fun item => .record item.fields))]) = _
      rw [ofFields?, Item.ofFields?_fields, lookup_contents]
      change Option.map _ (List.mapM Item.ofDocument? _) = _
      rw [mapM_ofDocument?]
      rfl

theorem within_document (listing : Listing) :
    Document.Within Document.mostNested listing.document := by
  obtain ⟨item, contents⟩ := listing
  intro outer stat
  rw [List.mem_singleton.mp stat]
  intro field member
  rcases List.mem_append.mp member with own | listed
  · exact Item.within_of_mem_fields own _
  · cases contents with
    | none => cases listed
    | some items =>
        rw [List.mem_singleton.mp listed]
        intro document entry
        obtain ⟨inner, _, rfl⟩ := List.mem_map.mp entry
        exact fun field member => Item.within_of_mem_fields member _

/-- A client reads the listing that it is told. -/
theorem ofBytes?_bytes (listing : Listing) : ofBytes? listing.bytes = some listing := by
  rw [ofBytes?, bytes, Utf8.decode_encode]
  dsimp only
  rw [Document.ofText?_indented listing.within_document, Option.bind_some, ofDocument?_document]

/-! ## What a client is told -/

structure Asked (exchange : Exchange) (path : String) : Prop where
  own : exchange.service = .stat
  reachable : exchange.reachable = true
  path : askedPath exchange.incoming.flatten = .ok path

/-- The client is sent an acceptance and a document, in which it reads the listing. -/
def Tells (site : Site) (volume : Volume) (exchange : Exchange) (told : Listing) : Prop :=
  ∃ body, (serve site volume exchange).2.sent =
      exchange.sent ++ Verdict.accepted.code :: body ∧ ofBytes? body = some told

theorem sent_of_asked (site : Site) (volume : Volume) {exchange : Exchange} {path : String}
    (asked : Asked exchange path) :
    (serve site volume exchange).2.sent =
      exchange.sent ++ (Answer.emission ((ofPath site volume path).map .listing)).bytes := by
  rw [sent_listing site volume asked.own asked.reachable, answer, asked.path]
  rfl

/-- A client is told the listing of the path that it asks about. -/
theorem tells_iff {site : Site} {volume : Volume} {exchange : Exchange} {path : String}
    (asked : Asked exchange path) (told : Listing) :
    Tells site volume exchange told ↔ ofPath site volume path = .ok told := by
  unfold Tells
  rw [sent_of_asked site volume asked]
  constructor
  · rintro ⟨body, same, read⟩
    have answer := List.append_cancel_left same
    cases outcome : ofPath site volume path with
    | error failure =>
        obtain ⟨_, opens⟩ := emission_opens ((ofPath site volume path).map .listing)
        rw [opens, outcome] at answer
        cases (List.cons.inj answer).1
    | ok found =>
        rw [outcome] at answer
        cases answer
        rw [ofBytes?_bytes] at read
        rw [Option.some.inj read]
  · intro found
    rw [found]
    exact ⟨told.bytes, rfl, told.ofBytes?_bytes⟩

theorem sent_of_tells {site : Site} {volume : Volume} {exchange : Exchange} {path : String}
    (asked : Asked exchange path) {told : Listing} (tells : Tells site volume exchange told) :
    (serve site volume exchange).2.sent = exchange.sent ++ Verdict.accepted.code :: told.bytes := by
  rw [sent_of_asked site volume asked, (tells_iff asked told).mp tells]
  rfl

/-! ## The order of the items -/

theorem perm_sort (items : List Item) : (sort items).Perm items :=
  List.mergeSort_perm ..

abbrev comes (first second : Item) : Bool :=
  !decide (second.name < first.name)

theorem comes_iff {first second : Item} : comes first second = true ↔ first.name ≤ second.name := by
  rw [comes, Bool.not_eq_true', decide_eq_false_iff_not, String.not_lt]

theorem comes_trans (first second third : Item) (earlier : comes first second = true)
    (later : comes second third = true) : comes first third = true := by
  rw [comes_iff] at *
  exact String.le_trans earlier later

theorem comes_total (first second : Item) : (comes first second || comes second first) = true := by
  rw [Bool.or_eq_true, comes_iff, comes_iff]
  exact String.le_total ..

theorem pairwise_sort (items : List Item) : (sort items).Pairwise (·.name ≤ ·.name) :=
  (List.pairwise_mergeSort comes_trans comes_total items).imp comes_iff.mp

end Listing

/-! ## Listings of directories -/

def Item.ofNode (volume : Volume) (name : String) : Volume.Node → Item
  | .file number => ⟨name, false, (volume.contentOf number).length⟩
  | .directory .. => ⟨name, true, 0⟩
  | .link target => ⟨name, false, target.length⟩
  | .device _ => ⟨name, false, 0⟩

theorem Item.ofNode_eq (volume : Volume) (name : String) (node : Volume.Node) :
    Item.ofNode volume name node = ⟨name, node.isDirectory, volume.nodeLength node⟩ := by
  cases node with
  | file number => rw [Volume.nodeLength_file]; rfl
  | directory owner mode => rfl
  | link target => rfl
  | device device => rfl

namespace Listing

def itemsOf (volume : Volume) (entries : List (Volume.Name × Volume.Node)) : List Item :=
  entries.map fun entry => .ofNode volume (Utf8.lossy entry.1) entry.2

/-- To sort the items of some entries is to sort the entries. -/
theorem sort_itemsOf (volume : Volume) (entries : List (Volume.Name × Volume.Node)) :
    ∃ others : List (Volume.Name × Volume.Node), others.Perm entries ∧
      sort (itemsOf volume entries) = itemsOf volume others := by
  refine ⟨entries.mergeSort fun first second =>
    !decide (Utf8.lossy second.1 < Utf8.lossy first.1), List.mergeSort_perm .., ?_⟩
  refine (List.map_mergeSort ?_).symm
  intro first _ second _
  rw [Item.ofNode_eq, Item.ofNode_eq]

/-- The listing of the entry that a place leads to. -/
theorem ofPlace_of_findEntry {volume : Volume} {place : Place} {location : Location}
    {node : Volume.Node} (found : volume.findEntry true place.bytes = .ok (location, node)) :
    ofPlace volume place = .ok ⟨.ofNode volume place.shownName node,
      if node.isDirectory then some (sort (itemsOf volume (volume.children location)))
      else none⟩ := by
  have items : (volume.children location).map (Item.ofEntry volume) =
      itemsOf volume (volume.children location) := by
    unfold itemsOf
    congr 1
    funext entry
    rw [Item.ofNode_eq]
    rfl
  have looked : volume.metadata place.bytes =
      .ok ⟨node.isDirectory, volume.nodeLength node, volume.nodeOwner node⟩ := by
    rw [Volume.metadata, found]
    rfl
  rw [ofPlace, looked, Item.ofNode_eq]
  dsimp only
  cases node with
  | directory owner mode =>
      have listed : volume.listing place.bytes = .ok (volume.children location) := by
        rw [Volume.listing, Volume.directory, found]
        rfl
      have inner : (Volume.Node.directory owner mode).isDirectory = true := rfl
      simp only [inner, if_true, listed, Except.map, items]
  | file number => rfl
  | link target => rfl
  | device device => rfl

section Told

variable {site : Site} {volume : Volume} {exchange : Exchange} {path : String} {place : Place}
  {location : Location} {node : Volume.Node} (asked : Asked exchange path)
  (resolved : site.resolve volume path = .ok place)

include asked resolved

/-- What a client is told about a path that leads somewhere. -/
theorem tells_of_findEntry (found : volume.findEntry true place.bytes = .ok (location, node)) :
    Tells site volume exchange ⟨.ofNode volume place.shownName node,
      if node.isDirectory then some (sort (itemsOf volume (volume.children location)))
      else none⟩ := by
  rw [tells_iff asked, ofPath, resolved]
  dsimp only
  rw [ofPlace_of_findEntry found]
  rfl

/-- What a client is told about a directory. -/
theorem tells_of_directory (inner : volume.directory place.bytes = .ok location) :
    Tells site volume exchange ⟨⟨place.shownName, true, 0⟩,
      some (sort (itemsOf volume (volume.children location)))⟩ := by
  obtain ⟨owner, mode, found⟩ := Volume.directory_eq_ok_iff.mp inner
  exact tells_of_findEntry asked resolved (Volume.findEntry_eq_ok_iff.mpr found)

/-- A client that asks about a path which leads somewhere is told what stands there. About a
directory it is told the size 0 and all its entries, each once and nothing else, in the order in
which their names are shown: files with the length of their content, directories and devices with 0,
and links, which are not gone through, with the length of their targets. About anything else it is
told no entries. -/
theorem told_entries (distinct : volume.Distinct)
    (found : volume.findEntry true place.bytes = .ok (location, node)) :
    ∃ told, Tells site volume exchange told ∧
      told.item = .ofNode volume place.shownName node ∧
      (told.contents.isSome = true ↔ ∃ owner mode, node = .directory owner mode) ∧
      ∀ items, told.contents = some items →
        (∃ entries, volume.Lists location entries ∧ items = itemsOf volume entries) ∧
          items.Pairwise (·.name ≤ ·.name) := by
  refine ⟨_, tells_of_findEntry asked resolved found, rfl, ?_, ?_⟩
  · cases node <;> simp [Volume.Node.isDirectory]
  · intro items contents
    dsimp only at contents
    split at contents
    · obtain rfl := Option.some.inj contents
      obtain ⟨entries, same, sorted⟩ := sort_itemsOf volume (volume.children location)
      exact ⟨⟨entries, (distinct.lists_children location).perm same, sorted⟩, pairwise_sort _⟩
    · cases contents

end Told

/-- The directory `/h/d` has a file `z`, a link `l` to `../e`, a device, a directory `s` and an
entry whose name is no text; the home `/h` also has a directory `e`. -/
def mixedVolume : Volume :=
  ⟨[([[104]], openDirectory), ([[104], [100]], openDirectory), ([[104], [101]], openDirectory),
      ([[104], [100], [122]], .file 0), ([[104], [100], [108]], .link [46, 46, 47, 101]),
      ([[104], [100], [110]], .device .null), ([[104], [100], [115]], openDirectory),
      ([[104], [100], [255]], .file 0)],
    [(0, ⟨.ofBytes [1, 2, 3], Volume.superuser⟩)]⟩

theorem distinct_mixed : mixedVolume.Distinct := by
  unfold Volume.Distinct
  decide

theorem findEntry_mixed : mixedVolume.findEntry true (Place.mk "/h" ["d"]).bytes =
    .ok ([[104], [100]], openDirectory) := by
  decide

theorem told_entries_mixed :
    let exchange := Exchange.new .stat [[100, 10]] true
    let place : Place := ⟨"/h", ["d"]⟩
    mixedVolume.Distinct ∧ Asked exchange "d" ∧
      linkedSite.resolve mixedVolume "d" = .ok place ∧
      mixedVolume.findEntry true place.bytes = .ok ([[104], [100]], openDirectory) ∧
      ∃ told, Tells linkedSite mixedVolume exchange told ∧ told.item = ⟨"d", true, 0⟩ ∧
        ∀ items, told.contents = some items →
          (∃ entries, mixedVolume.Lists [[104], [100]] entries ∧
              items = itemsOf mixedVolume entries) ∧
            items.Pairwise (·.name ≤ ·.name) := by
  intro exchange place
  have asked : Asked exchange "d" := ⟨rfl, rfl, rfl⟩
  have resolved : linkedSite.resolve mixedVolume "d" = .ok place := rfl
  have shown : (Place.mk "/h" ["d"]).shownName = "d" := by decide
  obtain ⟨told, tells, item, _, contents⟩ :=
    told_entries asked resolved distinct_mixed findEntry_mixed
  refine ⟨distinct_mixed, asked, resolved, findEntry_mixed, told, tells, ?_, contents⟩
  rw [item, shown]
  rfl

end Listing

end DesktopGateway.Files
