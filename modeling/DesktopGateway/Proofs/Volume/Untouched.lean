import DesktopGateway.Files.Visit
import DesktopGateway.Proofs.Volume.Entries
import DesktopGateway.Proofs.Volume.Naming

/-!
# Files that come and go

A file that was made at a free place is an entry behind the others, with a number that nothing had.
Writing it changes nothing else, and when it has been removed the volume is as it was: all that is
left is a number that no entry leads to.
-/

namespace DesktopGateway.Volume

open DesktopGateway.Host

/-! ## Walks through a last link that is none -/

def Found.Plain (found : Found) : Prop :=
  ∀ place target, found ≠ .entry place (.link target)

theorem descend_followed {volume : Volume} {location : Location} {segments : List Segment}
    (plain : ∀ place target, descend volume false location segments ≠
      .found (.entry place (.link target))) :
    descend volume true location segments = descend volume false location segments := by
  rcases descend_unfollowed location segments with same | ⟨place, target, stopped⟩
  · exact same.symm
  · exact absurd stopped (plain place target)

theorem walk_followed {volume : Volume} {links : Nat} {location : Location}
    {segments : List Segment}
    (plain : ∀ found, walk volume false links location segments = .ok found → found.Plain) :
    walk volume true links location segments = walk volume false links location segments := by
  induction links generalizing location segments with
  | zero =>
      rw [walk, walk] at *
      rw [descend_followed fun place target stopped => ?_]
      rw [stopped] at plain
      exact plain _ rfl place target rfl
  | succ links ih =>
      rw [walk] at plain
      rw [walk, walk, descend_followed fun place target stopped => ?_]
      · cases stop : descend volume false location segments with
        | found found => rfl
        | refused refusal => rfl
        | link directory target rest =>
            rw [stop] at plain
            dsimp only at plain ⊢
            split
            · rfl
            · rename_i filled
              rw [if_neg filled] at plain
              exact ih plain
      · rw [stopped] at plain
        exact plain _ rfl place target rfl

/-- A path that leads to no link leads to the same with its last link. -/
theorem find_followed {volume : Volume} {path : List UInt8}
    (plain : ∀ found, volume.find false path = .ok found → found.Plain) :
    volume.find true path = volume.find false path := by
  cases usable : pathFailure? path with
  | some failure => rw [find, find, usable]
  | none =>
      have same : walk volume true mostLinks [] (Route.ofBytes path).segments =
          walk volume false mostLinks [] (Route.ofBytes path).segments :=
        walk_followed fun found walked => plain found (find_eq_ok_iff.mpr ⟨usable, walked⟩)
      rw [find, find, usable, same]

/-! ## Why a walk is refused -/

/-- No walk is refused because there is something. -/
theorem descend_ne_alreadyThere (volume : Volume) (follow : Bool) (location : Location)
    (segments : List Segment) :
    descend volume follow location segments ≠ .refused .alreadyThere := by
  induction segments generalizing location with
  | nil =>
      rw [descend]
      split <;> simp
  | cons segment rest ih =>
      unfold descend
      split
      · cases segment with
        | here => exact ih location
        | up => exact ih location.dropLast
        | name name =>
            dsimp only
            split
            · simp
            · split
              · split <;> simp
              · split <;> simp
              · exact ih _
      · simp

theorem walk_ne_alreadyThere (volume : Volume) (follow : Bool) (links : Nat) (location : Location)
    (segments : List Segment) :
    walk volume follow links location segments ≠ .error .alreadyThere := by
  induction links generalizing location segments with
  | zero =>
      rw [walk]
      cases stop : descend volume follow location segments with
      | found found => simp
      | refused refusal =>
          rintro ⟨⟩
          exact descend_ne_alreadyThere volume follow location segments stop
      | link directory target rest => simp
  | succ links ih =>
      rw [walk]
      cases stop : descend volume follow location segments with
      | found found => simp
      | refused refusal =>
          rintro ⟨⟩
          exact descend_ne_alreadyThere volume follow location segments stop
      | link directory target rest =>
          dsimp only
          split
          · simp
          · exact ih _ _

theorem find_ne_alreadyThere (volume : Volume) (follow : Bool) (path : List UInt8) :
    volume.find follow path ≠ .error (.refused .alreadyThere) := by
  unfold find
  split
  · rename_i failure unusable
    rintro ⟨⟩
    unfold pathFailure? at unusable
    split at unusable
    · cases unusable
    · split at unusable
      · cases unusable
      · split at unusable <;> cases unusable
  · cases walked : walk volume follow mostLinks [] (Route.ofBytes path).segments with
    | error refusal =>
        rintro ⟨⟩
        exact walk_ne_alreadyThere volume follow mostLinks _ _ walked
    | ok found => simp [Except.mapError]

/-! ## Volumes that were not touched -/

/-- The entries are those from before, and so are the files. There may be more files, which no entry
leads to. -/
structure Untouched (before after : Volume) : Prop where
  entries : after.entries = before.entries
  files : (after.files.filter fun file => file.1 ∈ before.numbers) = before.files

theorem filter_numbers (volume : Volume) :
    (volume.files.filter fun file => file.1 ∈ volume.numbers) = volume.files := by
  rw [List.filter_eq_self]
  intro file listed
  rw [decide_eq_true_eq]
  exact List.mem_append_left _ (List.mem_map_of_mem listed)

namespace Untouched

variable {before after : Volume}

theorem refl (volume : Volume) : volume.Untouched volume :=
  ⟨rfl, volume.filter_numbers⟩

variable (untouched : before.Untouched after)

include untouched

theorem node? (location : Location) : after.node? location = before.node? location :=
  node?_of_entries untouched.entries location

theorem find (follow : Bool) (path : List UInt8) :
    after.find follow path = before.find follow path :=
  find_of_node? untouched.node? follow path

end Untouched

/-! ## Files that are made -/

/-- A new file at a path that led nowhere, as the only thing that is new. -/
structure Adds (before : Volume) (path : List UInt8) (place : Location) (number : Nat)
    (after : Volume) : Prop where
  free : before.find false path = .ok (.absent place)
  fresh : number ∉ before.numbers
  entries : after.entries = before.entries ++ [(place, .file number)]
  files : (after.files.filter fun file => file.1 ∈ before.numbers) = before.files

theorem Untouched.numbers_subset {before after : Volume} (untouched : before.Untouched after) :
    before.numbers ⊆ after.numbers := by
  intro number known
  rw [numbers, untouched.entries]
  rw [numbers, ← untouched.files] at known
  refine (List.mem_append.mp known).elim (fun listed => List.mem_append_left _ ?_)
    (List.mem_append_right _)
  exact ((List.filter_sublist).map _).subset listed

/-- A file that is new to an untouched volume is new to the one before. -/
theorem Untouched.adds {before between after : Volume} {path : List UInt8} {place : Location}
    {number : Nat} (untouched : before.Untouched between)
    (adds : between.Adds path place number after) : before.Adds path place number after where
  free := (untouched.find false path).symm.trans adds.free
  fresh known := adds.fresh (untouched.numbers_subset known)
  entries := adds.entries.trans (by rw [untouched.entries])
  files := by
    have known : ∀ file ∈ after.files,
        (decide (file.1 ∈ before.numbers) && decide (file.1 ∈ between.numbers)) =
          decide (file.1 ∈ before.numbers) := by
      intro file _
      rw [← Bool.decide_and, decide_eq_decide, and_iff_left_iff_imp]
      exact fun listed => untouched.numbers_subset listed
    rw [← List.filter_congr known, ← List.filter_filter, adds.files, untouched.files]

theorem filter_putRecord (volume : Volume) {number : Nat} {numbers : List Nat}
    (fresh : number ∉ numbers) (record : FileRecord) :
    ((volume.putRecord number record).files.filter fun file => file.1 ∈ numbers) =
      volume.files.filter fun file => file.1 ∈ numbers := by
  have other : ∀ file ∈ volume.files,
      (decide (file.1 ∈ numbers) && (file.1 != number)) = decide (file.1 ∈ numbers) := by
    intro file _
    by_cases known : file.1 ∈ numbers
    · have different : file.1 ≠ number := fun same => fresh (same ▸ known)
      simp [known, different]
    · simp [known]
  rw [putRecord, List.filter_cons_of_neg (by simpa using fresh), List.filter_filter,
    List.filter_congr other]

theorem filter_modify (volume : Volume) {number : Nat} {numbers : List Nat}
    (fresh : number ∉ numbers) (change : Content → Content) :
    ((volume.modify number change).files.filter fun file => file.1 ∈ numbers) =
      volume.files.filter fun file => file.1 ∈ numbers := by
  unfold modify
  split
  · exact filter_putRecord volume fresh _
  · rfl

/-- A file is made where there was none. -/
theorem createNew_eq_ok {volume made : Volume} {credentials : Credentials} {path : List UInt8}
    {handle : Handle} (done : volume.createNew credentials path = .ok (handle, made)) :
    ∃ place number, handle = .file number ∧ volume.Adds path place number made := by
  unfold createNew at done
  split at done
  · cases done
  · cases done
  · rename_i place free
    cases done
    obtain ⟨inner, absent⟩ := find_holds free
    rw [node?_of_ne_nil _ inner] at absent
    have fresh : volume.freshNumber ∉ volume.numbers := fun known =>
      Nat.lt_irrefl _ (volume.lt_freshNumber known)
    refine ⟨place, volume.freshNumber, rfl, free, fresh, ?_, ?_⟩
    · have none : ¬ ((volume.entries.lookup place).isSome = true) := by
        rw [absent]
        decide
      rw [put]
      exact congrArg Volume.entries (if_neg none)
    · have same (node : Node) (made : Volume) : (made.put place node).files = made.files := by
        unfold put
        split <;> rfl
      rw [same, filter_putRecord volume fresh, filter_numbers]

theorem holds_of_createNew {volume made : Volume} {credentials : Credentials} {path : List UInt8}
    {number : Nat} (done : volume.createNew credentials path = .ok (.file number, made)) :
    made.Holds number [] := by
  unfold createNew at done
  split at done
  · cases done
  · cases done
  · cases done
    rw [Holds, record?_put]
    exact holds_putRecord ..

/-- Only what is there keeps a new file from being made for this reason. -/
theorem createNew_eq_alreadyThere_iff {volume : Volume} {credentials : Credentials}
    {path : List UInt8} :
    volume.createNew credentials path = .error (.refused .alreadyThere) ↔
      ∃ location node, volume.find false path = .ok (.entry location node) := by
  unfold createNew
  cases reached : volume.find false path with
  | error failure =>
      have other : failure ≠ .refused .alreadyThere := by
        rintro rfl
        exact find_ne_alreadyThere volume false path reached
      simp [other]
  | ok found =>
      cases found <;> simp

/-- A file that is made under a name that nothing has is a new one, however it is made. -/
theorem createFile_eq_createNew {volume : Volume} {path : List UInt8}
    (unused : ∀ location node, volume.find false path ≠ .ok (.entry location node))
    (credentials : Credentials) :
    volume.createFile credentials path = volume.createNew credentials path := by
  have same : volume.find true path = volume.find false path := by
    apply find_followed
    intro found reached
    cases found with
    | absent location => exact fun _ _ other => by cases other
    | entry location node => exact absurd reached (unused location node)
  unfold createFile createNew
  rw [same]
  cases reached : volume.find false path with
  | error failure => rfl
  | ok found =>
      cases found with
      | absent location => rfl
      | entry location node => exact absurd reached (unused location node)

namespace Adds

variable {before after : Volume} {path : List UInt8} {place : Location} {number : Nat}
  (adds : before.Adds path place number after)

include adds

/-- Writing the file changes nothing else. -/
theorem write (offset : Nat) (bytes : List UInt8) :
    before.Adds path place number (after.write (.file number) offset bytes) where
  free := adds.free
  fresh := adds.fresh
  entries := (entries_write after (.file number) offset bytes).trans adds.entries
  files := (filter_modify after adds.fresh _).trans adds.files

theorem absent : before.entries.lookup place = none := by
  obtain ⟨inner, absent⟩ := find_holds adds.free
  rwa [node?_of_ne_nil _ inner] at absent

theorem node?_self : after.node? place = some (.file number) := by
  have inner := (find_holds adds.free).1
  rw [node?_of_ne_nil _ inner, adds.entries, List.lookup_append, adds.absent]
  simp

theorem node?_other {location : Location} (different : location ≠ place) :
    after.node? location = before.node? location := by
  unfold node?
  rw [adds.entries, List.lookup_append, lookup_cons_other different]
  simp

theorem grown : after.Extends before :=
  .of_put (find_holds adds.free).2 adds.node?_self fun _ => adds.node?_other

/-- The path leads to the file, whether or not it is followed at its end. -/
theorem find (follow : Bool) : after.find follow path = .ok (.entry place (.file number)) := by
  have free : before.find follow path = .ok (.absent place) := by
    cases follow with
    | false => exact adds.free
    | true =>
        rw [find_followed, adds.free]
        intro found reached
        rw [adds.free] at reached
        cases reached
        exact fun _ _ same => by cases same
  rw [find_within adds.grown free, Found.within, adds.node?_self]

theorem openFile : after.openFile path = .ok (.file number) :=
  openFile_of_find (adds.find true)

/-- When the file is let go of, nothing is left of it. -/
theorem discard : before.Untouched (after.discard path) := by
  have removed : after.removeFile path = .ok (after.remove place) :=
    removeFile_eq_ok (adds.find false) rfl
  have others : ∀ entry ∈ before.entries, (entry.1 != place) = true := by
    intro entry listed
    have apart := List.lookup_eq_none_iff.mp adds.absent entry listed
    rwa [bne_comm]
  rw [Volume.discard, removed]
  constructor
  · rw [remove, adds.entries, List.filter_append, List.filter_eq_self.mpr others]
    simp
  · exact adds.files

end Adds

end DesktopGateway.Volume
