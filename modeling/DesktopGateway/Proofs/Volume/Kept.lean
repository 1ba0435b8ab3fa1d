import DesktopGateway.Proofs.Volume.Frame

/-!
# What making directories and giving away leaves alone

Making a directory and giving something away may come between the steps of those who use a file.
Wherever something stands it stays, a file with its content, and what a path opens is still opened
by it.
-/

namespace DesktopGateway.Volume

/-- Everything that stands in one volume stands in the other, files with their content. Directories
may be added, and owners may change. -/
structure Keeps (first second : Volume) : Prop where
  agree : ∀ location, first.node? location ≠ none → AgreeAt first second location
  file : ∀ location number, first.node? location = some (.file number) →
    second.node? location = some (.file number)
  content : ∀ number, (second.record? number).map (·.content) =
    (first.record? number).map (·.content)

namespace Keeps

variable {first second : Volume}

theorem refl (volume : Volume) : Keeps volume volume :=
  ⟨fun _ _ => rfl, fun _ _ present => present, fun _ => rfl⟩

theorem of_entries (entries : second.entries = first.entries)
    (content : ∀ number, (second.record? number).map (·.content) =
      (first.record? number).map (·.content)) : Keeps first second := by
  have node (location : Location) : second.node? location = first.node? location := by
    rw [node?, node?, entries]
  refine ⟨fun location _ => ?_, fun location number present => ?_, content⟩
  · rw [AgreeAt, sight?, sight?, node]
  · rw [node, present]

/-- A directory is put where nothing stood or where a directory stood. -/
theorem of_put (volume : Volume) (place : Location) (owner : Owner) (mode : Nat)
    (before : ∀ node, volume.node? place = some node → node.sight = .directory) :
    Keeps volume (volume.put place (.directory owner mode)) := by
  refine ⟨fun location standing => ?_, fun location number present => ?_, fun number => ?_⟩
  · by_cases same : location = place
    · subst same
      by_cases root : location = []
      · rw [root]
        rfl
      · obtain ⟨node, present⟩ := Option.ne_none_iff_exists'.mp standing
        rw [AgreeAt, sight?, node?_put_self _ root, sight?_of_node? present,
          before node present]
        rfl
    · rw [AgreeAt, sight?, node?_put_other _ same, sight?]
  · have different : location ≠ place := by
      rintro rfl
      cases before _ present
    rw [node?_put_other _ different, present]
  · rw [record?_put]

variable (keeps : Keeps first second)

include keeps

theorem openFile {path : List UInt8} {number : Nat}
    (opens : first.openFile path = .ok (.file number)) :
    second.openFile path = .ok (.file number) := by
  obtain ⟨place, found⟩ := openFile_eq_file_iff.mp opens
  have there := keeps.file place number (find_holds found)
  refine openFile_eq_file_iff.mpr ⟨place, ?_⟩
  rw [find_kept keeps.agree found, Found.at, there]

theorem holds {number : Nat} {bytes : List UInt8} (holds : first.Holds number bytes) :
    second.Holds number bytes := by
  rw [Holds, keeps.content, holds]

theorem contentOf (number : Nat) : second.contentOf number = first.contentOf number := by
  rw [Volume.contentOf, Volume.contentOf, keeps.content]

end Keeps

theorem keeps_of_ensureDirectory {volume made : Volume} {credentials : Credentials}
    {path : List UInt8} (done : volume.ensureDirectory credentials path = .ok made) :
    Keeps volume made := by
  rcases ensureDirectory_eq_ok done with ⟨place, free, rfl⟩ | ⟨rfl, -⟩
  · refine .of_put volume place _ _ fun node present => ?_
    rw [(find_holds free).2] at present
    cases present
  · exact .refl made

theorem keeps_setOwner {volume : Volume} {location : Location} {node : Node}
    (present : volume.node? location = some node) (owner : Owner) :
    Keeps volume (volume.setOwner location node owner) := by
  cases node with
  | directory old mode =>
      refine .of_put volume location owner mode fun other there => ?_
      rw [present] at there
      cases there
      rfl
  | file number =>
      rw [setOwner]
      split
      · rename_i record recorded
        refine .of_entries rfl fun other => ?_
        rw [record?_putRecord]
        split
        · rename_i own
          rw [own, recorded]
          rfl
        · rfl
      · exact .refl volume
  | link target => exact .refl volume
  | device device => exact .refl volume

theorem keeps_of_giveTo {volume given : Volume} {credentials : Credentials} {path : List UInt8}
    {user : Nat} (done : volume.giveTo credentials path user = .ok given) : Keeps volume given := by
  unfold giveTo at done
  split at done
  · cases done
  · rename_i place node found
    split at done
    · cases done
      exact .refl volume
    · split at done
      · cases done
        exact keeps_setOwner (find_holds (findEntry_eq_ok_iff.mp found)) _
      · cases done

end DesktopGateway.Volume
