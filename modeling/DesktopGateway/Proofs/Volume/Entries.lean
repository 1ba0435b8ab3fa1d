import Mathlib.Data.List.Nodup
import DesktopGateway.Proofs.Volume.Directory
import DesktopGateway.Proofs.Volume.Region

/-!
# The entries of a directory

As long as no two entries have the same location, each entry of a directory is listed once under its
name, each entry below it once under its names, and nothing else is. The order of the entries does
not matter to what stands where.
-/

namespace DesktopGateway.Volume

/-- No two entries have the same location. -/
def Distinct (volume : Volume) : Prop :=
  (volume.entries.map (·.1)).Nodup

structure IsEntryName (name : Name) : Prop where
  filled : name ≠ []
  inner : name ≠ [Route.dot]
  lower : name ≠ [Route.dot, Route.dot]
  whole : Route.slash ∉ name
  unended : 0 ∉ name

instance (name : Name) : Decidable (IsEntryName name) :=
  decidable_of_iff (name ≠ [] ∧ name ≠ [Route.dot] ∧ name ≠ [Route.dot, Route.dot] ∧
      Route.slash ∉ name ∧ 0 ∉ name)
    ⟨fun ⟨filled, inner, lower, whole, unended⟩ => ⟨filled, inner, lower, whole, unended⟩,
      fun ⟨filled, inner, lower, whole, unended⟩ => ⟨filled, inner, lower, whole, unended⟩⟩

/-- A tree: every entry has a location of its own, made of names that entries can have. -/
structure Proper (volume : Volume) : Prop where
  distinct : volume.Distinct
  named : ∀ entry ∈ volume.entries, ∀ name ∈ entry.1, IsEntryName name

section Distinct

variable {α β : Type} [BEq α] [LawfulBEq α]

theorem lookup_eq_some_iff_mem {table : List (α × β)} (distinct : (table.map (·.1)).Nodup) {key : α}
    {value : β} : table.lookup key = some value ↔ (key, value) ∈ table := by
  rw [List.lookup_eq_some_iff]
  constructor
  · rintro ⟨front, back, rfl, _⟩
    simp
  · intro member
    obtain ⟨front, back, rfl⟩ := List.append_of_mem member
    refine ⟨front, back, rfl, ?_⟩
    intro entry earlier
    rw [List.map_append, List.map_cons, List.nodup_append] at distinct
    have other := distinct.2.2 entry.1 (List.mem_map_of_mem earlier) key (List.mem_cons_self ..)
    simpa using Ne.symm other

end Distinct

theorem Distinct.node?_eq_some_iff {volume : Volume} (distinct : volume.Distinct)
    {location : Location} (inner : location ≠ []) {node : Node} :
    volume.node? location = some node ↔ (location, node) ∈ volume.entries := by
  rw [node?_of_ne_nil volume inner]
  exact lookup_eq_some_iff_mem distinct

/-- The names on the way to an entry are names that entries can have. -/
theorem Proper.isEntryName {volume : Volume} (proper : volume.Proper) {location : Location}
    {node : Node} (present : volume.node? location = some node) {name : Name}
    (member : name ∈ location) : IsEntryName name := by
  have inner : location ≠ [] := List.ne_nil_of_mem member
  exact proper.named _ ((proper.distinct.node?_eq_some_iff inner).mp present) name member

theorem nameIn_eq_some_iff {directory place : Location} {name : Name} :
    nameIn directory place = some name ↔ place = directory ++ [name] := by
  unfold nameIn
  rcases List.eq_nil_or_concat place with rfl | ⟨above, last, rfl⟩
  · simp
  · rw [List.concat_eq_append, List.getLast?_concat, List.dropLast_concat]
    simp [and_comm]

theorem namesBelow_eq_some_iff {directory place names : Location} :
    namesBelow directory place = some names ↔ place = directory ++ names ∧ names ≠ [] := by
  unfold namesBelow
  constructor
  · intro below
    split at below
    · rename_i inside
      rw [Bool.and_eq_true, List.isPrefixOf_iff_prefix] at inside
      obtain ⟨⟨names, rfl⟩, longer⟩ := inside
      cases below
      rw [List.drop_left]
      refine ⟨rfl, ?_⟩
      rintro rfl
      simp at longer
    · cases below
  · rintro ⟨rfl, filled⟩
    simp [List.length_pos_iff.mpr filled]

section Chosen

variable {α : Type} {volume : Volume} {choice : Location → Option α} {place : α → Location}
  (exact : ∀ location value, choice location = some value → location = place value)

include exact

theorem mem_chosen {value : α} (picked : choice (place value) = some value) {node : Node} :
    (value, node) ∈ volume.chosen choice ↔ (place value, node) ∈ volume.entries := by
  unfold chosen
  rw [List.mem_filterMap]
  constructor
  · rintro ⟨⟨location, found⟩, member, same⟩
    obtain ⟨other, own, pair⟩ := Option.map_eq_some_iff.mp same
    cases pair
    rwa [← exact location _ own]
  · intro member
    exact ⟨(place value, node), member, by simp [picked]⟩

/-- What is chosen by its location is chosen once. -/
theorem nodup_chosen (distinct : volume.Distinct) :
    ((volume.chosen choice).map (·.1)).Nodup := by
  have keys : (volume.chosen choice).map (·.1) = (volume.entries.map (·.1)).filterMap choice := by
    unfold chosen
    rw [List.map_filterMap, List.filterMap_map]
    congr 1
    funext entry
    simp only [Option.map_map, Function.comp_def, Option.map_id']
  rw [keys]
  refine distinct.filterMap ?_
  intro first second value left right
  rw [exact first value left, exact second value right]

end Chosen

/-- Exactly the entries of a directory, each under its name. -/
structure Lists (volume : Volume) (location : Location) (entries : List (Name × Node)) : Prop where
  once : (entries.map (·.1)).Nodup
  mem_iff : ∀ name node, (name, node) ∈ entries ↔
    volume.node? (location ++ [name]) = some node

theorem Lists.perm {volume : Volume} {location : Location} {entries others : List (Name × Node)}
    (lists : volume.Lists location entries) (same : others.Perm entries) :
    volume.Lists location others where
  once := (same.map Prod.fst).nodup_iff.mpr lists.once
  mem_iff name node := same.mem_iff.trans (lists.mem_iff name node)

theorem Distinct.lists_children {volume : Volume} (distinct : volume.Distinct)
    (location : Location) : volume.Lists location (volume.children location) where
  once := by
    rw [children_eq_chosen]
    exact nodup_chosen (fun _ _ => nameIn_eq_some_iff.mp) distinct
  mem_iff name node := by
    rw [distinct.node?_eq_some_iff (by simp), children_eq_chosen]
    exact mem_chosen (fun _ _ => nameIn_eq_some_iff.mp) (nameIn_eq_some_iff.mpr rfl)

theorem Distinct.nodup_below {volume : Volume} (distinct : volume.Distinct) (location : Location) :
    ((volume.below location).map (·.1)).Nodup := by
  rw [below_eq_chosen]
  exact nodup_chosen (fun _ _ below => (namesBelow_eq_some_iff.mp below).1) distinct

theorem Distinct.mem_below {volume : Volume} (distinct : volume.Distinct)
    {location names : Location} {node : Node} : (names, node) ∈ volume.below location ↔
      volume.node? (location ++ names) = some node ∧ names ≠ [] := by
  by_cases filled : names = []
  · subst filled
    simp only [ne_eq, not_true, and_false, iff_false]
    intro member
    rw [below_eq_chosen, chosen, List.mem_filterMap] at member
    obtain ⟨entry, _, picked⟩ := member
    obtain ⟨names, below, same⟩ := Option.map_eq_some_iff.mp picked
    cases same
    exact (namesBelow_eq_some_iff.mp below).2 rfl
  · have own : namesBelow location (location ++ names) = some names :=
      namesBelow_eq_some_iff.mpr ⟨rfl, filled⟩
    rw [below_eq_chosen, distinct.node?_eq_some_iff (by simp [filled]), and_iff_left filled]
    exact mem_chosen (fun _ _ below => (namesBelow_eq_some_iff.mp below).1) own

/-! ## Another order -/

/-- A path leads to the same entry where the same stands at every location. -/
theorem find_of_node? {first second : Volume}
    (same : ∀ location, second.node? location = first.node? location) (follow : Bool)
    (path : List UInt8) : second.find follow path = first.find follow path := by
  have agree : ∀ location, AgreeAt first second location := fun location =>
    congrArg (Option.map Node.sight) (same location)
  rw [find_congr fun location _ => agree location]
  cases found : first.find follow path with
  | error failure => rfl
  | ok reached =>
      have holds := find_holds found
      cases reached with
      | entry location node =>
          have there : first.node? location = some node := holds
          simp only [Except.map, Found.location, Found.at, same, there]
      | absent location =>
          have free : first.node? location = none := holds.2
          simp only [Except.map, Found.location, Found.at, same, free]

/-- The same volume with its entries in another order. -/
structure Reordered (first second : Volume) : Prop where
  entries : first.entries.Perm second.entries
  files : second.files = first.files

namespace Reordered

variable {first second : Volume} (reordered : Reordered first second)

include reordered

theorem children (location : Location) :
    (first.children location).Perm (second.children location) :=
  reordered.entries.filterMap _

theorem record? (number : Nat) : second.record? number = first.record? number := by
  unfold Volume.record?
  rw [reordered.files]

theorem nodeLength (node : Node) : second.nodeLength node = first.nodeLength node := by
  cases node <;> simp only [Volume.nodeLength, reordered.record?]

theorem distinct (distinct : first.Distinct) : second.Distinct :=
  (reordered.entries.map Prod.fst).nodup_iff.mp distinct

theorem node? (distinct : first.Distinct) (location : Location) :
    second.node? location = first.node? location := by
  by_cases top : location = []
  · subst top
    rfl
  · apply Option.ext
    intro node
    rw [(reordered.distinct distinct).node?_eq_some_iff top, distinct.node?_eq_some_iff top,
      reordered.entries.mem_iff]

theorem findEntry (distinct : first.Distinct) (follow : Bool) (path : List UInt8) :
    second.findEntry follow path = first.findEntry follow path := by
  rw [Volume.findEntry, find_of_node? (reordered.node? distinct), ← Volume.findEntry]

theorem isDirectory (distinct : first.Distinct) (path : List UInt8) :
    second.isDirectory path = first.isDirectory path := by
  rw [Bool.eq_iff_iff, isDirectory_eq_true_iff, isDirectory_eq_true_iff, Volume.directory,
    reordered.findEntry distinct, ← Volume.directory]

end Reordered

end DesktopGateway.Volume
