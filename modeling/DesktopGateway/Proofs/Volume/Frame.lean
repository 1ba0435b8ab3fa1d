import DesktopGateway.Proofs.Volume.Contents
import DesktopGateway.Proofs.Volume.Directory

/-!
# What stays as it was

An operation on a path leaves every location as it was, with its node and the content and the owner
of its file, except for what the path stands for: the free location where something is made, the
directory that is given away, and the file it leads to, under all its names.
-/

namespace DesktopGateway.Volume

/-- The same node stands at a location, and when it is a file it has the same content and owner. -/
structure SameAt (first second : Volume) (location : Location) : Prop where
  node : second.node? location = first.node? location
  record : ∀ number, first.node? location = some (.file number) →
    second.record? number = first.record? number

theorem SameAt.refl (volume : Volume) (location : Location) : SameAt volume volume location :=
  ⟨rfl, fun _ _ => rfl⟩

theorem SameAt.trans {first second third : Volume} {location : Location}
    (earlier : SameAt first second location) (later : SameAt second third location) :
    SameAt first third location := by
  refine ⟨later.node.trans earlier.node, ?_⟩
  intro number present
  have between := earlier.node.trans present
  exact (later.record number between).trans (earlier.record number present)

theorem SameAt.agreeAt {first second : Volume} {location : Location}
    (same : SameAt first second location) : AgreeAt first second location := by
  unfold AgreeAt sight?
  rw [same.node]

theorem sameAt_put (volume : Volume) {location other : Location} (different : other ≠ location)
    (node : Node) : SameAt volume (volume.put location node) other :=
  ⟨node?_put_other volume different node, fun _ _ => record?_put ..⟩

theorem sameAt_remove (volume : Volume) {location other : Location} (different : other ≠ location) :
    SameAt volume (volume.remove location) other :=
  ⟨node?_remove_other volume different, fun _ _ => rfl⟩

/-! ## Open files -/

/-- Two volumes with the same tree, which differ at most in the file behind a handle. -/
structure OnlyFile (handle : Handle) (first second : Volume) : Prop where
  entries : second.entries = first.entries
  record : ∀ number, handle ≠ .file number → second.record? number = first.record? number

namespace OnlyFile

variable {handle : Handle} {first second third : Volume}

theorem refl (handle : Handle) (volume : Volume) : OnlyFile handle volume volume :=
  ⟨rfl, fun _ _ => rfl⟩

theorem trans (earlier : OnlyFile handle first second) (later : OnlyFile handle second third) :
    OnlyFile handle first third :=
  ⟨later.entries.trans earlier.entries,
    fun number other => (later.record number other).trans (earlier.record number other)⟩

theorem node? (only : OnlyFile handle first second) (location : Location) :
    second.node? location = first.node? location := by
  rw [Volume.node?, Volume.node?, only.entries]

theorem contentOf (only : OnlyFile handle first second) {number : Nat}
    (other : handle ≠ .file number) : second.contentOf number = first.contentOf number := by
  rw [Volume.contentOf, Volume.contentOf, only.record number other]

theorem sameAt (only : OnlyFile handle first second) {location : Location}
    (apart : ∀ number, first.node? location = some (.file number) → handle ≠ .file number) :
    SameAt first second location :=
  ⟨only.node? location, fun number present => only.record number (apart number present)⟩

end OnlyFile

theorem onlyFile_putRecord (volume : Volume) (number : Nat) (record : FileRecord) :
    OnlyFile (.file number) volume (volume.putRecord number record) := by
  refine ⟨rfl, ?_⟩
  intro other different
  rw [record?_putRecord, if_neg]
  rintro rfl
  exact different rfl

theorem onlyFile_modify (volume : Volume) (number : Nat) (change : Content → Content) :
    OnlyFile (.file number) volume (volume.modify number change) := by
  unfold modify
  split
  · exact onlyFile_putRecord ..
  · exact .refl ..

theorem onlyFile_write (volume : Volume) (handle : Handle) (offset : Nat) (bytes : List UInt8) :
    OnlyFile handle volume (volume.write handle offset bytes) := by
  cases handle with
  | file number =>
      rw [write]
      exact onlyFile_modify ..
  | device device => exact .refl ..

theorem onlyFile_giveTo {volume given : Volume} {credentials : Credentials} {path : List UInt8}
    {user number : Nat} (opens : volume.openFile path = .ok (.file number))
    (done : volume.giveTo credentials path user = .ok given) :
    OnlyFile (.file number) volume given := by
  obtain ⟨place, found⟩ := openFile_eq_file_iff.mp opens
  rw [giveTo, findEntry_eq_ok_iff.mpr found] at done
  simp only at done
  split at done
  · cases done
    exact .refl ..
  · split at done
    · cases done
      rw [setOwner]
      split
      · exact onlyFile_putRecord ..
      · exact .refl ..
    · cases done

theorem slot?_eq_some_iff {volume : Volume} {path : List UInt8} {location : Location} :
    volume.slot? path = some location ↔
      ∃ found, volume.find false path = .ok found ∧ found.location = location := by
  unfold slot?
  cases volume.find false path with
  | error failure => simp
  | ok found => cases found <;> simp [Found.location]

/-- Two locations are names of one file. -/
def SharesFile (volume : Volume) (first second : Location) : Prop :=
  ∃ number, volume.node? first = some (.file number) ∧ volume.node? second = some (.file number)

/-- Opening a file for writing changes what the path concerns, and only that can be behind the
handle. -/
theorem sameAt_of_createFile {volume created : Volume} {credentials : Credentials}
    {path : List UInt8} {handle : Handle} {location : Location}
    (done : volume.createFile credentials path = .ok (handle, created))
    (apart : ¬ volume.Concerns path location) :
    SameAt volume created location ∧
      ∀ number, created.node? location = some (.file number) → handle ≠ .file number := by
  have creates := creates_of_createFile done
  have node := creates.node location apart
  have other : ∀ number, volume.node? location = some (.file number) → handle ≠ .file number :=
    fun number present => (creates.content location number apart present).1
  refine ⟨⟨node, ?_⟩, fun number present => other number (node.symm.trans present)⟩
  intro number present
  have different := other number present
  rcases createFile_eq_ok done with ⟨_, _, rfl, rfl⟩ | ⟨_, _, _, rfl, rfl⟩ | ⟨_, _, _, _, rfl⟩
  · rw [record?_put]
    exact (onlyFile_putRecord volume _ _).record number different
  · exact (onlyFile_modify volume _ _).record number different
  · rfl

/-! ## Directories -/

/-- Giving a directory away changes nothing else. -/
theorem sameAt_of_giveTo {volume given : Volume} {credentials : Credentials} {path : List UInt8}
    {user : Nat} {place location : Location} (found : volume.directory path = .ok place)
    (done : volume.giveTo credentials path user = .ok given) (different : location ≠ place) :
    SameAt volume given location := by
  obtain ⟨owner, mode, ended⟩ := directory_eq_ok_iff.mp found
  rw [giveTo, findEntry_eq_ok_iff.mpr ended] at done
  simp only at done
  split at done
  · cases done
    exact .refl ..
  · split at done
    · cases done
      exact sameAt_put volume different _
    · cases done

/-- A directory is made at a free location, or there is one already. -/
theorem ensureDirectory_eq_ok {volume made : Volume} {credentials : Credentials}
    {path : List UInt8} (done : volume.ensureDirectory credentials path = .ok made) :
    (∃ place, volume.find false path = .ok (.absent place) ∧
        made = volume.put place (.directory credentials.owner openMode)) ∨
      made = volume ∧ ∃ place, volume.directory path = .ok place := by
  unfold ensureDirectory at done
  split at done
  · rename_i created
    cases done
    unfold makeDirectory at created
    split at created
    · cases created
    · cases created
    · rename_i place ended
      cases created
      exact Or.inl ⟨place, ended, rfl⟩
  · split at done
    · rename_i present
      cases done
      exact Or.inr ⟨rfl, isDirectory_eq_true_iff.mp present⟩
    · cases done

end DesktopGateway.Volume
