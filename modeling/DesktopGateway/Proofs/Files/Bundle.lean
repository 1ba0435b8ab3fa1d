import DesktopGateway.Proofs.Files.SharedHome
import DesktopGateway.Proofs.Files.Tape
import DesktopGateway.Proofs.Volume.Entries

/-!
# Directories packed and unpacked

Unpacking the archive of a directory gives an entry for the directory and one for each node below
it, each under its own path and with what is stored there. Only that part of the volume decides what
the entries are.
-/

namespace DesktopGateway.Files

open DesktopGateway.Text
open DesktopGateway.Volume (IsEntryName Location Route Stored)

namespace Bundle

/-! ## Paths inside a bundle -/

theorem parts_joined {names : Location} (filled : names ≠ [])
    (named : ∀ name ∈ names, IsEntryName name) :
    Parts.of Route.slash (joined names) = names := by
  rw [Parts.of_eq_splitOn]
  exact List.splitOn_intercalate Route.slash (fun name member => (named name member).whole) filled

theorem eq_nil_of_joined {names : Location} (named : ∀ name ∈ names, IsEntryName name)
    (empty : joined names = []) : names = [] := by
  by_contra filled
  have parts := parts_joined filled named
  rw [empty, Parts.of_nil] at parts
  exact (named [] (by rw [← parts]; exact List.mem_singleton.mpr rfl)).filled rfl

/-- Names that entries can have are not lost when they are joined. -/
theorem joined_inj {names others : Location} (named : ∀ name ∈ names, IsEntryName name)
    (proper : ∀ name ∈ others, IsEntryName name) (same : joined names = joined others) :
    names = others := by
  by_cases top : names = []
  · subst top
    exact (eq_nil_of_joined proper same.symm).symm
  · have filled : others ≠ [] := by
      rintro rfl
      exact top (eq_nil_of_joined named same)
    rw [← parts_joined top named, same, parts_joined filled proper]

theorem mem_joined {names : Location} {byte : UInt8} (member : byte ∈ joined names) :
    byte = Route.slash ∨ ∃ name ∈ names, byte ∈ name := by
  induction names with
  | nil => cases member
  | cons name names ih =>
      cases names with
      | nil => exact Or.inr ⟨name, List.mem_singleton.mpr rfl, by simpa [joined] using member⟩
      | cons second names =>
          have parted : joined (name :: second :: names) =
              name ++ Route.slash :: joined (second :: names) := rfl
          rw [parted, List.mem_append, List.mem_cons] at member
          rcases member with own | here | later
          · exact Or.inr ⟨name, List.mem_cons_self .., own⟩
          · exact Or.inl here
          · obtain slash | ⟨other, listed, inside⟩ := ih later
            · exact Or.inl slash
            · exact Or.inr ⟨other, List.mem_cons_of_mem _ listed, inside⟩

/-! ## What is unpacked -/

def Kind.unpacked : Stored → Kind
  | .file content => .regular (.ofBytes content.toList)
  | .directory => .directory
  | .link target => .link target
  | .device _ => .device

theorem plain_ofShown (path : List UInt8) (stored : Stored) :
    (Entry.mk path (.ofShown stored)).plain = ⟨path, .unpacked stored⟩ := by
  cases stored <;> rfl

def entryOf (base : List UInt8) (names : Location) (stored : Stored) : Entry :=
  ⟨base ++ Route.slash :: joined names, .unpacked stored⟩

theorem stored?_of_directory {volume : Volume} {path : List UInt8} {location : Location}
    (found : volume.directory path = .ok location) : volume.stored? location = some .directory := by
  obtain ⟨owner, mode, ended⟩ := Volume.directory_eq_ok_iff.mp found
  have present : volume.node? location = some (.directory owner mode) := Volume.find_holds ended
  rw [Volume.stored?, present]
  rfl

/-- The entries of a directory and of all that stands below it: one for each, under a path of its
own, and no others. -/
structure Mirrors (volume : Volume) (location : Location) (base : List UInt8)
    (entries : List Entry) : Prop where
  once : (entries.map (·.path)).Nodup
  own : ∀ names others first second, volume.stored? (location ++ names) = some first →
    volume.stored? (location ++ others) = some second →
    (entryOf base names first).path = (entryOf base others second).path → names = others
  mem_iff : ∀ entry, entry ∈ entries ↔
    ∃ names stored, volume.stored? (location ++ names) = some stored ∧
      entry = entryOf base names stored

/-- In what order the entries come makes no difference. -/
theorem Mirrors.of_perm {volume : Volume} {location : Location} {base : List UInt8}
    {entries others : List Entry} (mirrors : Mirrors volume location base entries)
    (same : others.Perm entries) : Mirrors volume location base others where
  once := (same.map _).nodup_iff.mpr mirrors.once
  own := mirrors.own
  mem_iff entry := same.mem_iff.trans (mirrors.mem_iff entry)

def tree (volume : Volume) (location : Location) : List (Location × Stored) :=
  ([], .directory) :: (volume.below location).map fun entry => (entry.1, volume.shown entry.2)

section Tree

variable {volume : Volume} {location : Location} (proper : volume.Proper)
  (directory : volume.stored? location = some .directory)

include proper

theorem named_of_stored? {names : Location} {stored : Stored}
    (present : volume.stored? (location ++ names) = some stored) :
    ∀ name ∈ names, IsEntryName name := by
  obtain ⟨node, standing, _⟩ := Option.map_eq_some_iff.mp present
  exact fun name member => proper.isEntryName standing (List.mem_append_right _ member)

theorem nodup_tree : ((tree volume location).map (·.1)).Nodup := by
  have keys : (tree volume location).map (·.1) = [] :: (volume.below location).map (·.1) := by
    rw [tree, List.map_cons, List.map_map]
    rfl
  rw [keys, List.nodup_cons]
  refine ⟨?_, proper.distinct.nodup_below location⟩
  intro member
  obtain ⟨⟨names, node⟩, listed, empty⟩ := List.mem_map.mp member
  exact (proper.distinct.mem_below.mp listed).2 empty

include directory

theorem mem_tree {names : Location} {stored : Stored} :
    (names, stored) ∈ tree volume location ↔ volume.stored? (location ++ names) = some stored := by
  rw [tree, List.mem_cons, List.mem_map]
  by_cases top : names = []
  · subst top
    rw [List.append_nil, directory]
    constructor
    · rintro (same | ⟨⟨names, node⟩, listed, same⟩)
      · rw [(Prod.mk.inj same).2]
      · exact absurd (Prod.mk.inj same).1 (proper.distinct.mem_below.mp listed).2
    · intro same
      exact Or.inl (by rw [Option.some.inj same])
  · rw [Volume.stored?, Option.map_eq_some_iff]
    constructor
    · rintro (same | ⟨⟨names, node⟩, listed, same⟩)
      · exact absurd (Prod.mk.inj same).1 top
      · cases same
        exact ⟨node, (proper.distinct.mem_below.mp listed).1, rfl⟩
    · rintro ⟨node, present, rfl⟩
      exact Or.inr ⟨(names, node), proper.distinct.mem_below.mpr ⟨present, top⟩, rfl⟩

theorem mirrors_tree (base : List UInt8) : Mirrors volume location base
    ((tree volume location).map fun entry => entryOf base entry.1 entry.2) := by
  have own : ∀ names others first second, volume.stored? (location ++ names) = some first →
      volume.stored? (location ++ others) = some second →
      (entryOf base names first).path = (entryOf base others second).path → names = others := by
    intro names others first second here there same
    exact joined_inj (named_of_stored? proper here) (named_of_stored? proper there)
      (List.cons.inj (List.append_cancel_left same)).2
  refine ⟨?_, own, ?_⟩
  · rw [List.map_map]
    refine List.Nodup.map_on ?_ (nodup_tree proper).of_map
    intro first listed second member same
    have names := own first.1 second.1 first.2 second.2 ((mem_tree proper directory).mp listed)
      ((mem_tree proper directory).mp member) same
    exact List.inj_on_of_nodup_map (nodup_tree proper) listed member names
  · intro entry
    rw [List.mem_map]
    constructor
    · rintro ⟨⟨names, stored⟩, listed, rfl⟩
      exact ⟨names, stored, (mem_tree proper directory).mp listed, rfl⟩
    · rintro ⟨names, stored, present, rfl⟩
      exact ⟨(names, stored), (mem_tree proper directory).mpr present, rfl⟩

end Tree

/-- The same tree has the same entries, in whatever volume it stands. -/
theorem Mirrors.perm {first second : Volume} {here there : Location} {base : List UInt8}
    {entries others : List Entry} (mirrors : Mirrors first here base entries)
    (same : ∀ names, second.stored? (there ++ names) = first.stored? (here ++ names))
    (other : Mirrors second there base others) : others.Perm entries := by
  apply (List.perm_ext_iff_of_nodup other.once.of_map mirrors.once.of_map).mpr
  intro entry
  simp only [other.mem_iff, mirrors.mem_iff, same]

/-! ## What a directory is called -/

def baseOf (path : String) : String :=
  match (Route.ofBytes (Utf8.encode path)).lastName? with
  | some name => Utf8.lossy name
  | none => "home"

theorem encode_baseOf {path : String} {name : Volume.Name}
    (named : (Route.ofBytes (Utf8.encode path)).lastName? = some name) :
    Utf8.encode (baseOf path) = name := by
  rw [baseOf, named]
  exact Route.encode_lossy_lastName named

theorem baseOf_unnamed {path : String}
    (unnamed : (Route.ofBytes (Utf8.encode path)).lastName? = none) : baseOf path = "home" := by
  rw [baseOf, unnamed]

/-- What a bundle is called has no byte that its directory's path does not have. -/
theorem encode_baseOf_sublist (path : String) :
    (Utf8.encode (baseOf path)).Sublist (Utf8.encode path) ∨
      Utf8.encode (baseOf path) = Utf8.encode "home" := by
  cases named : (Route.ofBytes (Utf8.encode path)).lastName? with
  | none => exact Or.inr (by rw [baseOf_unnamed named])
  | some name =>
      rw [encode_baseOf named]
      exact Or.inl (Route.lastName_sublist named)

theorem gather_eq {volume : Volume} {path : String} {location : Location}
    (found : volume.directory (Utf8.encode path) = .ok location) :
    gather volume (Utf8.encode path) = .ok ⟨baseOf path,
      (tree volume location).map fun entry =>
        ⟨Utf8.encode (baseOf path) ++ Route.slash :: joined entry.1, .ofShown entry.2⟩⟩ := by
  have inner := map_kindOf volume (Utf8.encode (baseOf path) ++ [Route.slash])
    (volume.below location)
  rw [gather, found]
  change Except.ok (Bundle.mk (baseOf path)
    (⟨Utf8.encode (baseOf path) ++ [Route.slash], .directory⟩ ::
      (volume.below location).map fun entry =>
        Entry.mk (Utf8.encode (baseOf path) ++ [Route.slash] ++ joined entry.1)
          (kindOf volume entry.2))) = _
  rw [inner, tree, List.map_cons]
  simp only [List.append_assoc, List.singleton_append]
  rfl

/-! ## Packing -/

/-- A directory that can be packed: there is room for a temporary file outside the directory, and
the archiver stores what it is given. -/
structure Packable (site : Site) (unpack? : List UInt8 → Option (List Entry)) (volume : Volume)
    (path : String) (location : Location) : Prop where
  proper : volume.Proper
  found : volume.directory (Utf8.encode path) = .ok location
  room : ∃ free, volume.find true (Download.temporaryPath site) = .ok (.absent free) ∧
    ¬ location <+: free
  stores : ∀ bundle, gather volume (Utf8.encode path) = .ok bundle →
    site.archiver.Stores unpack? bundle

/-- The directory is packed into an archive of this name, from which these entries are unpacked. -/
def Packs (site : Site) (unpack? : List UInt8 → Option (List Entry)) (volume : Volume)
    (path : String) (name : String) (entries : List Entry) : Prop :=
  ∃ bundle packed bytes, Download.pack site volume (Utf8.encode path) = .ok (bundle, packed) ∧
    bundle.name = name ∧ packed.ReadsAs (Download.temporaryPath site) bytes ∧
    unpack? bytes = some entries

section Packable

variable {site : Site} {unpack? : List UInt8 → Option (List Entry)} {volume : Volume}
  {path : String} {location : Location} (packable : Packable site unpack? volume path location)

include packable

theorem Packable.directory : volume.stored? location = some .directory :=
  stored?_of_directory packable.found

/-- The archive of a directory is read as the entries of its tree. -/
theorem Packable.packs : ∃ entries,
    Packs site unpack? volume path (baseOf path ++ ".tar.gz") entries ∧
    entries.Perm ((tree volume location).map fun entry =>
      entryOf (Utf8.encode (baseOf path)) entry.1 entry.2) := by
  obtain ⟨free, absent, _⟩ := packable.room
  have gathered := gather_eq packable.found
  obtain ⟨packed, number, made, opens, holds⟩ := Download.pack_of_room ⟨free, absent⟩ gathered
  obtain ⟨entries, unpacked, listed⟩ := packable.stores _ gathered
  refine ⟨entries, ⟨_, packed, _, made, rfl, holds.readsAs opens, unpacked⟩, ?_⟩
  rw [List.map_map, List.map_congr_left fun entry _ => plain_ofShown _ entry.2] at listed
  exact listed

/-- A client of the packed directory finds the tree as it was before. -/
theorem Packable.stored?_of_pack {bundle : Bundle} {packed : Volume}
    (made : Download.pack site volume (Utf8.encode path) = .ok (bundle, packed))
    (names : Location) :
    packed.stored? (location ++ names) = volume.stored? (location ++ names) := by
  obtain ⟨free, absent, apart⟩ := packable.room
  have different : location ++ names ≠ free := by
    rintro rfl
    exact apart (List.prefix_append ..)
  rw [Download.pack, Volume.createFile, absent] at made
  dsimp only at made
  rw [gather_eq packable.found] at made
  cases made
  apply Volume.stored?_congr
  · rw [(Volume.onlyFile_write ..).node?, Volume.node?_put_other _ different,
      Volume.node?_putRecord]
  · intro number present
    have other : Volume.Handle.file volume.freshNumber ≠ .file number := by
      intro same
      cases same
      exact Nat.lt_irrefl _ (Volume.lt_freshNumber_of_node? volume present)
    rw [(Volume.onlyFile_write ..).contentOf other, Volume.contentOf_put,
      (Volume.onlyFile_putRecord ..).contentOf other]

end Packable

/-- Packing has one outcome. -/
theorem Packs.unique {site : Site} {unpack? : List UInt8 → Option (List Entry)} {volume : Volume}
    {path name other : String} {entries others : List Entry}
    (first : Packs site unpack? volume path name entries)
    (second : Packs site unpack? volume path other others) : other = name ∧ others = entries := by
  obtain ⟨bundle, packed, bytes, made, rfl, reads, unpacked⟩ := first
  obtain ⟨_, _, more, again, rfl, rereads, found⟩ := second
  cases made.symm.trans again
  obtain rfl := reads.unique rereads
  exact ⟨rfl, Option.some.inj (found.symm.trans unpacked)⟩

/-- A directory that can be packed is packed into an archive that is called after the last name of
its path, or `home` if that has none:
* Unpacking gives the directory and each node below it once, under its own path, with the content
  of a file and the target of a link, and nothing else.
* The temporary file changes nothing in the directory while it is packed.
* The same tree under the same name gives the same entries, whatever stands elsewhere in its volume,
  in whatever order it is stored, and whoever packs it. -/
theorem pack_mirrors {site : Site} {unpack? : List UInt8 → Option (List Entry)} {volume : Volume}
    {path : String} {location : Location}
    (packable : Packable site unpack? volume path location) :
    ∃ base entries, Packs site unpack? volume path (base ++ ".tar.gz") entries ∧
      ((Route.ofBytes (Utf8.encode path)).lastName? = some (Utf8.encode base) ∨
        (Route.ofBytes (Utf8.encode path)).lastName? = none ∧ base = "home") ∧
      Mirrors volume location (Utf8.encode base) entries ∧
      (∀ bundle packed, Download.pack site volume (Utf8.encode path) = .ok (bundle, packed) →
        ∀ names, packed.stored? (location ++ names) = volume.stored? (location ++ names)) ∧
      ∀ otherSite reader second other there name others,
        Packable otherSite reader second other there →
        (Route.ofBytes (Utf8.encode other)).lastName? =
          (Route.ofBytes (Utf8.encode path)).lastName? →
        (∀ names, second.stored? (there ++ names) = volume.stored? (location ++ names)) →
        Packs otherSite reader second other name others →
          name = base ++ ".tar.gz" ∧ others.Perm entries := by
  obtain ⟨entries, packed, listed⟩ := packable.packs
  have mirrors := (mirrors_tree packable.proper packable.directory
    (Utf8.encode (baseOf path))).of_perm listed
  refine ⟨baseOf path, entries, packed, ?_, mirrors, fun _ _ => packable.stored?_of_pack, ?_⟩
  · cases named : (Route.ofBytes (Utf8.encode path)).lastName? with
    | some name => exact Or.inl (by rw [encode_baseOf named])
    | none => exact Or.inr ⟨rfl, baseOf_unnamed named⟩
  · intro otherSite reader second other there name others otherPackable called same packs
    have base : baseOf other = baseOf path := by
      rw [baseOf, called, ← baseOf]
    obtain ⟨again, repacked, relisted⟩ := otherPackable.packs
    obtain ⟨rfl, rfl⟩ := repacked.unique packs
    rw [base] at relisted ⊢
    have mirrored := mirrors_tree otherPackable.proper otherPackable.directory
      (Utf8.encode (baseOf path))
    exact ⟨rfl, mirrors.perm same (mirrored.of_perm relisted)⟩

/-! ## Tapes -/

/-- What a tape stores as it is: files and links whose lengths can be announced, and links whose
targets are tidy. -/
def Kept : Stored → Prop
  | .file content => content.length ≤ Download.largest
  | .link target =>
      0 ∉ target ∧ target.length ≤ Download.largest ∧ Tape.storedTarget target = target
  | .directory | .device _ => True

instance : DecidablePred Kept
  | .file content => inferInstanceAs (Decidable (content.length ≤ Download.largest))
  | .link target => inferInstanceAs (Decidable
      (0 ∉ target ∧ target.length ≤ Download.largest ∧ Tape.storedTarget target = target))
  | .directory | .device _ => instDecidableTrue

theorem tidy_kept {stored : Stored} (kept : Kept stored) (path : List UInt8) :
    Tape.tidy ⟨path, .ofShown stored⟩ = ⟨path, .ofShown stored⟩ := by
  cases stored with
  | link target =>
      change Entry.mk path (.link (Tape.storedTarget target)) = _
      rw [kept.2.2]
      rfl
  | file content => rfl
  | directory => rfl
  | device device => rfl

section Tree

variable {volume : Volume} {path : String} {location : Location} (proper : volume.Proper)
  (found : volume.directory (Utf8.encode path) = .ok location)

include found

theorem plain_baseOf : 0 ∉ Utf8.encode (baseOf path) ∧
    (Utf8.encode (baseOf path)).length < Volume.pathLimit := by
  obtain ⟨owner, mode, ended⟩ := Volume.directory_eq_ok_iff.mp found
  obtain ⟨plain, _, short⟩ :=
    Volume.pathFailure?_eq_none_iff.mp (Volume.find_eq_ok_iff.mp ended).1
  rcases encode_baseOf_sublist path with inside | home
  · exact ⟨fun member => plain (inside.subset member), Nat.lt_of_le_of_lt inside.length_le short⟩
  · rw [home]
    decide

include proper

theorem storable_of_kept {names : Location} {stored : Stored}
    (present : volume.stored? (location ++ names) = some stored)
    (length : (joined names).length ≤ Download.largest) (kept : Kept stored) :
    Tape.Storable ⟨Utf8.encode (baseOf path) ++ Route.slash :: joined names, .ofShown stored⟩ := by
  obtain ⟨plain, short⟩ := plain_baseOf found
  have bound : Nat.pow 256 8 = 18446744073709551616 := rfl
  have limits : Download.largest = 9223372036854775807 ∧ Volume.pathLimit = 4096 := ⟨rfl, rfl⟩
  constructor
  case plain =>
    rw [List.mem_append, List.mem_cons, not_or, not_or]
    refine ⟨plain, by decide, fun member => ?_⟩
    obtain slash | ⟨name, listed, inside⟩ := mem_joined member
    · cases slash
    · exact (named_of_stored? proper present name listed).unended inside
  case path =>
    rw [List.length_append, List.length_cons]
    omega
  case target =>
    intro target link
    cases stored with
    | link own =>
        cases link
        exact ⟨kept.1, Nat.lt_of_le_of_lt (Nat.succ_le_succ kept.2.1) (by omega)⟩
    | file content => cases link
    | directory => cases link
    | device device => cases link
  case content =>
    intro content regular
    cases stored with
    | file own =>
        cases regular
        exact Nat.lt_of_le_of_lt kept (by omega)
    | link target => cases regular
    | directory => cases regular
    | device device => cases regular

/-- Tapes store the directories in which they keep everything as it is. -/
theorem stores_of_kept
    (kept : ∀ entry ∈ tree volume location,
      (joined entry.1).length ≤ Download.largest ∧ Kept entry.2) :
    ∀ bundle, gather volume (Utf8.encode path) = .ok bundle →
      Tape.archiver.Stores Tape.unpack? bundle := by
  intro bundle gathered
  rw [gather_eq found] at gathered
  cases gathered
  have tidied : ∀ entry ∈ tree volume location, Tape.tidy
      ⟨Utf8.encode (baseOf path) ++ Route.slash :: joined entry.1, .ofShown entry.2⟩ =
        ⟨Utf8.encode (baseOf path) ++ Route.slash :: joined entry.1, .ofShown entry.2⟩ :=
    fun entry listed => tidy_kept (kept entry listed).2 _
  apply Tape.stores_of_tidy
  · intro entry listed
    obtain ⟨own, member, rfl⟩ := List.mem_map.mp listed
    rw [tidied own member]
    exact storable_of_kept proper found
      ((mem_tree proper (stored?_of_directory found)).mp member) (kept own member).1
      (kept own member).2
  · intro entry listed
    obtain ⟨own, member, rfl⟩ := List.mem_map.mp listed
    exact tidied own member

end Tree

/-! ## A tree with links -/

/-- The directory `/h/d` has the empty directory `e`, a directory `s` with the file `f`, a file with
a name of 101 bytes, and three links: to itself, to a file outside, and to nothing. -/
def nestedVolume : Volume :=
  ⟨[([[104]], openDirectory), ([[116]], openDirectory), ([[111]], .file 0),
      ([[104], [100]], openDirectory), ([[104], [100], [101]], openDirectory),
      ([[104], [100], [115]], openDirectory), ([[104], [100], [115], [102]], .file 1),
      ([[104], [100], List.replicate 101 255], .file 2), ([[104], [100], [108]], .link [46]),
      ([[104], [100], [109]], .link [47, 111]), ([[104], [100], [110]], .link [47, 120])],
    [(0, ⟨.ofBytes [7], Volume.superuser⟩), (1, ⟨.ofBytes [1, 2, 3], Volume.superuser⟩),
      (2, ⟨.ofBytes [], Volume.superuser⟩)]⟩

theorem proper_nested : nestedVolume.Proper := by
  refine ⟨?_, by decide⟩
  unfold Volume.Distinct
  decide

theorem directory_nested :
    nestedVolume.directory (Utf8.encode "/h/d") = .ok [[104], [100]] := by
  decide

theorem packable_nested :
    Packable linkedSite Tape.unpack? nestedVolume "/h/d" [[104], [100]] :=
  ⟨proper_nested, directory_nested, ⟨_, rfl, by decide⟩,
    stores_of_kept proper_nested directory_nested (by decide)⟩

theorem pack_mirrors_nested :
    Packable linkedSite Tape.unpack? nestedVolume "/h/d" [[104], [100]] ∧
      ∃ entries, Packs linkedSite Tape.unpack? nestedVolume "/h/d" "d.tar.gz" entries ∧
        Mirrors nestedVolume [[104], [100]] (Utf8.encode "d") entries := by
  obtain ⟨base, entries, packs, named, mirrors, -, -⟩ := pack_mirrors packable_nested
  have last : (Route.ofBytes (Utf8.encode "/h/d")).lastName? = some (Utf8.encode "d") := by decide
  rw [last] at named
  obtain named | ⟨unnamed, -⟩ := named
  · obtain rfl := Utf8.encode_inj.mp (Option.some.inj named)
    exact ⟨packable_nested, entries, packs, mirrors⟩
  · cases unnamed

end Bundle

end DesktopGateway.Files
