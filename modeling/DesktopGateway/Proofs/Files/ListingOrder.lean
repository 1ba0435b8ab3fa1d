import DesktopGateway.Proofs.Files.Listing

/-!
# The order of a listing

Items are sorted by the names that are shown, and items of one name stay in the order in which the
directory gives its entries. So that order shows in an answer only among entries whose names are
shown alike.
-/

namespace DesktopGateway.Files

open DesktopGateway.Serving
open DesktopGateway.Text
open DesktopGateway.Volume (Location Reordered)
open DesktopGateway.Wire

namespace Listing

def named (name : String) (items : List Item) : List Item :=
  items.filter fun item => item.name = name

theorem mem_named {name : String} {items : List Item} {item : Item} :
    item ∈ named name items ↔ item ∈ items ∧ item.name = name := by
  simp [named]

theorem named_cons_self (item : Item) (items : List Item) :
    named item.name (item :: items) = item :: named item.name items := by
  simp [named]

theorem named_cons_other {name : String} {item : Item} (other : item.name ≠ name)
    (items : List Item) : named name (item :: items) = named name items := by
  simp [named, other]

theorem named_perm {items others : List Item} (same : items.Perm others) (name : String) :
    (named name items).Perm (named name others) :=
  same.filter _

/-- Sorting keeps the order of the items of one name. -/
theorem named_sort (name : String) (items : List Item) :
    named name (sort items) = named name items := by
  have alike : (named name items).Pairwise fun first second => comes first second = true := by
    rw [List.pairwise_iff_forall_sublist]
    intro first second both
    have left := (mem_named.mp (both.subset (List.mem_cons_self ..))).2
    have right := (mem_named.mp (both.subset (List.mem_cons_of_mem _ (List.mem_cons_self ..)))).2
    simpa only [comes_iff, left, right] using String.le_refl name
  have inside : (named name items).Sublist (sort items) :=
    List.sublist_mergeSort comes_trans comes_total alike List.filter_sublist
  have kept : (named name items).Sublist (named name (sort items)) := by
    have filtered := inside.filter fun item => item.name = name
    simpa only [named, List.filter_filter, Bool.and_self] using filtered
  exact (kept.eq_of_length (named_perm (perm_sort items) name).length_eq.symm).symm

theorem mem_of_named {items others : List Item}
    (same : ∀ name, named name items = named name others) {item : Item} (member : item ∈ items) :
    item ∈ others := by
  have own : item ∈ named item.name items := mem_named.mpr ⟨member, rfl⟩
  rw [same] at own
  exact (mem_named.mp own).1

theorem name_le_of_mem {item other : Item} {items : List Item}
    (sorted : (item :: items).Pairwise (·.name ≤ ·.name)) (member : other ∈ item :: items) :
    item.name ≤ other.name := by
  rcases List.mem_cons.mp member with rfl | later
  · exact String.le_refl _
  · exact List.rel_of_pairwise_cons sorted later

/-- Items in the order of their names are the same when the items of every name are. -/
theorem eq_of_named {items others : List Item} (sorted : items.Pairwise (·.name ≤ ·.name))
    (ordered : others.Pairwise (·.name ≤ ·.name))
    (same : ∀ name, named name items = named name others) : items = others := by
  induction items generalizing others with
  | nil =>
      cases others with
      | nil => rfl
      | cons other others =>
          cases mem_of_named (fun name => (same name).symm) (List.mem_cons_self ..)
  | cons item items ih =>
      have listed : item ∈ others := mem_of_named same (List.mem_cons_self ..)
      cases others with
      | nil => cases listed
      | cons other others =>
          have found : other ∈ item :: items :=
            mem_of_named (fun name => (same name).symm) (List.mem_cons_self ..)
          have name : item.name = other.name :=
            String.le_antisymm (name_le_of_mem sorted found) (name_le_of_mem ordered listed)
          have head := same item.name
          rw [named_cons_self, name, named_cons_self] at head
          obtain rfl := (List.cons.inj head).1
          congr 1
          refine ih sorted.of_cons ordered.of_cons fun other => ?_
          have whole := same other
          by_cases own : item.name = other
          · subst own
            rw [named_cons_self, named_cons_self] at whole
            exact (List.cons.inj whole).2
          · rwa [named_cons_other own, named_cons_other own] at whole

theorem sort_eq_sort_iff {items others : List Item} :
    sort items = sort others ↔ ∀ name, named name items = named name others := by
  constructor
  · intro same name
    rw [← named_sort, same, named_sort]
  · intro same
    refine eq_of_named (pairwise_sort items) (pairwise_sort others) fun name => ?_
    rw [named_sort, named_sort, same]

theorem map_name_sort {items others : List Item} (same : items.Perm others) :
    (sort items).map (·.name) = (sort others).map (·.name) := by
  have sorted (items : List Item) : ((sort items).map (·.name)).Pairwise (· ≤ ·) :=
    List.pairwise_map.mpr (pairwise_sort items)
  refine List.Perm.eq_of_pairwise (fun _ _ _ _ => String.le_antisymm) (sorted items)
    (sorted others) (List.Perm.map _ ?_)
  exact (perm_sort items).trans (same.trans (perm_sort others).symm)

/-- Where items of one name are the same item, their order does not matter. -/
theorem named_eq_of_alike {items others : List Item} (same : items.Perm others)
    (alike : ∀ item ∈ items, ∀ other ∈ items, item.name = other.name → item = other)
    (name : String) : named name items = named name others := by
  have moved := named_perm same name
  cases first : named name items with
  | nil =>
      rw [first] at moved
      exact moved.nil_eq
  | cons item rest =>
      have own : item ∈ named name items := by rw [first]; exact List.mem_cons_self ..
      have copies : named name items = List.replicate (named name items).length item := by
        apply List.eq_replicate_of_mem
        intro other member
        have listed := mem_named.mp member
        exact alike other listed.1 item (mem_named.mp own).1
          (listed.2.trans (mem_named.mp own).2.symm)
      rw [copies] at moved
      rw [← first, copies, List.perm_replicate.mp moved.symm]

/-- Entries whose names are texts are shown alike only if they are the same entry. -/
theorem items_alike_of_texts {volume : Volume} (distinct : volume.Distinct) {location : Location}
    (texts : ∀ entry ∈ volume.children location, ∃ text, Utf8.decode entry.1 = .ok text)
    {item other : Item} (listed : item ∈ itemsOf volume (volume.children location))
    (also : other ∈ itemsOf volume (volume.children location)) (same : item.name = other.name) :
    item = other := by
  obtain ⟨entry, inner, rfl⟩ := List.mem_map.mp listed
  obtain ⟨second, within, rfl⟩ := List.mem_map.mp also
  obtain ⟨text, first⟩ := texts entry inner
  obtain ⟨another, further⟩ := texts second within
  rw [Item.ofNode_eq, Item.ofNode_eq] at same
  dsimp only at same
  rw [← Utf8.encode_of_decode first, ← Utf8.encode_of_decode further, Utf8.lossy_encode,
    Utf8.lossy_encode] at same
  have name : entry.1 = second.1 := by
    rw [← Utf8.encode_of_decode first, ← Utf8.encode_of_decode further, same]
  rw [List.inj_on_of_nodup_map (distinct.lists_children location).once inner within name]

section Reordered

variable {site : Site} {first second : Volume} {exchange : Exchange} {path : String} {place : Place}
  {location : Location} (reordered : Reordered first second)

include reordered

theorem itemsOf_reordered (entries : List (Volume.Name × Volume.Node)) :
    itemsOf second entries = itemsOf first entries := by
  unfold itemsOf
  congr 1
  funext entry
  rw [Item.ofNode_eq, Item.ofNode_eq, reordered.nodeLength]

theorem perm_itemsOf_children (location : Location) :
    (itemsOf first (first.children location)).Perm
      (itemsOf first (second.children location)) :=
  (reordered.children location).map _

variable (distinct : first.Distinct)

include distinct

theorem resolve_reordered (path : String) :
    site.resolve second path = site.resolve first path := by
  unfold Site.resolve Confinement.resolve
  rw [reordered.isDirectory distinct]

variable (asked : Asked exchange path) (resolved : site.resolve first path = .ok place)
  (inner : first.directory place.bytes = .ok location)

include asked resolved inner

theorem tells_reordered : Tells site second exchange ⟨⟨place.shownName, true, 0⟩,
    some (sort (itemsOf first (second.children location)))⟩ := by
  have there : second.directory place.bytes = .ok location := by
    rw [Volume.directory, reordered.findEntry distinct, ← Volume.directory, inner]
  rw [← itemsOf_reordered reordered]
  exact tells_of_directory asked ((resolve_reordered reordered distinct path).trans resolved) there

/-- The bytes are the same exactly if the items of every name come in the same order. -/
theorem sent_reordered_iff :
    (serve site second exchange).2.sent = (serve site first exchange).2.sent ↔
      ∀ name, named name (itemsOf first (first.children location)) =
        named name (itemsOf first (second.children location)) := by
  rw [sent_of_tells asked (tells_of_directory asked resolved inner),
    sent_of_tells asked (tells_reordered reordered distinct asked resolved inner),
    ← sort_eq_sort_iff, List.append_cancel_left_eq, List.cons.injEq, and_iff_right rfl]
  constructor
  · intro same
    have read := congrArg ofBytes? same
    rw [ofBytes?_bytes, ofBytes?_bytes] at read
    exact (Option.some.inj (congrArg contents (Option.some.inj read))).symm
  · intro same
    rw [same]

/-- A client that asks about a directory is told the same in whatever order the directory gives its
entries, except that items of one name come in that order:
* It is told the same about the directory, and the same items under the same names.
* It is sent the same bytes exactly if the items of every name come in the same order.
* So it is where entries whose names are shown alike do not differ in what is told about them, and
  where all names are texts. -/
theorem told_reordered :
    (∃ item items others, Tells site first exchange ⟨item, some items⟩ ∧
        Tells site second exchange ⟨item, some others⟩ ∧ items.Perm others ∧
        items.map (·.name) = others.map (·.name)) ∧
      ((serve site second exchange).2.sent = (serve site first exchange).2.sent ↔
        ∀ name, named name (itemsOf first (first.children location)) =
          named name (itemsOf first (second.children location))) ∧
      ((∀ item ∈ itemsOf first (first.children location),
          ∀ other ∈ itemsOf first (first.children location),
            item.name = other.name → item = other) →
        (serve site second exchange).2.sent = (serve site first exchange).2.sent) ∧
      ((∀ entry ∈ first.children location, ∃ text, Utf8.decode entry.1 = .ok text) →
        (serve site second exchange).2.sent = (serve site first exchange).2.sent) := by
  have sent := sent_reordered_iff reordered distinct asked resolved inner
  have moved := perm_itemsOf_children reordered location
  refine ⟨⟨_, _, _, tells_of_directory asked resolved inner,
    tells_reordered reordered distinct asked resolved inner, ?_, map_name_sort moved⟩, sent, ?_, ?_⟩
  · exact (perm_sort _).trans (moved.trans (perm_sort _).symm)
  · intro alike
    exact sent.mpr (named_eq_of_alike moved alike)
  · intro texts
    refine sent.mpr (named_eq_of_alike moved fun item listed other also same => ?_)
    exact items_alike_of_texts distinct texts listed also same

end Reordered

/-! ## Two names that are shown alike -/

/-- The home `/h` has a file of one byte, a file of two bytes and some entries that lead to them. -/
def tiedVolume (entries : List (Volume.Name × Volume.Node)) : Volume :=
  ⟨([[104]], openDirectory) :: entries.map fun entry => ([[104], entry.1], entry.2),
    [(0, ⟨.ofBytes [49], Volume.superuser⟩), (1, ⟨.ofBytes [50, 50], Volume.superuser⟩)]⟩

def crossed : List (Volume.Name × Volume.Node) :=
  [([97, 255], .file 0), ([97, 254], .file 1), ([98], .file 0)]

def straight : List (Volume.Name × Volume.Node) :=
  [([97, 254], .file 1), ([97, 255], .file 0), ([98], .file 0)]

theorem reordered_tied : Reordered (tiedVolume crossed) (tiedVolume straight) :=
  ⟨((List.Perm.swap ..).map _).cons _, rfl⟩

theorem distinct_tied : (tiedVolume crossed).Distinct := by
  unfold Volume.Distinct
  decide

theorem told_reordered_tied :
    let first := tiedVolume crossed
    let second := tiedVolume straight
    let exchange := Exchange.new .stat [[10]] true
    Reordered first second ∧ first.Distinct ∧ Asked exchange "" ∧
      linkedSite.resolve first "" = .ok ⟨"/h", []⟩ ∧
      first.directory (Place.mk "/h" []).bytes = .ok [[104]] ∧
      ∃ item items others, Tells linkedSite first exchange ⟨item, some items⟩ ∧
        Tells linkedSite second exchange ⟨item, some others⟩ ∧ items.Perm others ∧
        items.map (·.name) = others.map (·.name) := by
  intro first second exchange
  have asked : Asked exchange "" := ⟨rfl, rfl, rfl⟩
  have inner : first.directory (Place.mk "/h" []).bytes = .ok [[104]] := rfl
  exact ⟨reordered_tied, distinct_tied, asked, rfl, inner,
    (told_reordered reordered_tied distinct_tied asked rfl inner).1⟩

/-- The names `61FF` and `61FE` are shown alike, and the file that comes first is listed first. -/
theorem sent_differs_tied :
    let first := tiedVolume crossed
    let second := tiedVolume straight
    let exchange := Exchange.new .stat [[10]] true
    Reordered first second ∧ first.Distinct ∧
      (Listing.serve linkedSite second exchange).2.sent ≠
        (Listing.serve linkedSite first exchange).2.sent := by
  intro first second exchange
  refine ⟨reordered_tied, distinct_tied, fun same => ?_⟩
  have asked : Asked exchange "" := ⟨rfl, rfl, rfl⟩
  have alike := (sent_reordered_iff reordered_tied distinct_tied asked rfl rfl).mp same "a\uFFFD"
  revert alike
  decide

end Listing

end DesktopGateway.Files
