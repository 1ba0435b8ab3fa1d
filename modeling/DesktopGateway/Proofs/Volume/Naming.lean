import DesktopGateway.Proofs.Volume.Kept
import DesktopGateway.Proofs.Volume.Reading

/-!
# A path to one file, or to nothing

A path that led to a file may be without an entry later on. Writing, giving away and removing never
make it lead to anything else.
-/

namespace DesktopGateway.Volume

/-- If the path leads to anything, it is this file. -/
def LeadsTo (volume : Volume) (path : List UInt8) (number : Nat) : Prop :=
  ∀ location node, volume.findEntry true path = .ok (location, node) → node = .file number

theorem leadsTo_of_openFile {volume : Volume} {path : List UInt8} {number : Nat}
    (opens : volume.openFile path = .ok (.file number)) : volume.LeadsTo path number := by
  obtain ⟨place, found⟩ := openFile_eq_file_iff.mp opens
  intro location node there
  rw [findEntry_eq_ok_iff.mpr found] at there
  cases there
  rfl

theorem node?_of_entries {first second : Volume} (tree : second.entries = first.entries)
    (location : Location) : second.node? location = first.node? location := by
  rw [node?, node?, tree]

theorem remove_of_removeFile {volume later : Volume} {path : List UInt8}
    (removed : volume.removeFile path = .ok later) :
    ∃ location, later = volume.remove location := by
  unfold removeFile at removed
  split at removed
  · cases removed
  · cases removed
  · rename_i location node _ found
    exact ⟨location, (Except.ok.inj removed).symm⟩

namespace LeadsTo

variable {volume later : Volume} {path : List UInt8} {number : Nat}
  (leads : volume.LeadsTo path number)

include leads

theorem handle {handle : Handle} (opens : volume.openFile path = .ok handle) :
    handle = .file number := by
  unfold openFile at opens
  split at opens <;> rename_i found
  · cases opens
  · cases leads _ _ found
    cases opens
    rfl
  · cases leads _ _ found
  · cases opens
  · cases opens

theorem metadata {metadata : Metadata} (looked : volume.metadata path = .ok metadata) :
    metadata.isDirectory = false ∧ metadata.length = (volume.contentOf number).length := by
  obtain ⟨location, node, found, rfl⟩ := findEntry_of_metadata looked
  cases leads _ _ found
  exact ⟨rfl, nodeLength_file volume number⟩

/-- Nothing that a path leads to is new where entries have only gone. -/
theorem of_fewer (fewer : ∀ location, later.node? location ≠ none →
      later.node? location = volume.node? location) : later.LeadsTo path number := by
  intro location node found
  have agree (other : Location) (standing : later.node? other ≠ none) :
      AgreeAt later volume other := by
    rw [AgreeAt, sight?, sight?, fewer other standing]
  have ended := findEntry_eq_ok_iff.mp found
  have present : later.node? location = some node := find_holds ended
  have there : volume.node? location = some node := by
    rw [← fewer location (by rw [present]; simp), present]
  have kept := find_kept agree ended
  rw [Found.at, there] at kept
  exact leads location node (findEntry_eq_ok_iff.mpr kept)

theorem of_entries (tree : later.entries = volume.entries) : later.LeadsTo path number :=
  leads.of_fewer fun location _ => node?_of_entries tree location

theorem remove (place : Location) : (volume.remove place).LeadsTo path number := by
  refine leads.of_fewer fun location standing => ?_
  by_cases own : location = place
  · subst own
    by_cases root : location = []
    · rw [root]
      rfl
    · exact absurd (node?_remove_self volume root) standing
  · exact node?_remove_other volume own

/-- Giving the file away changes nothing but its owner. -/
theorem entries_giveTo {credentials : Credentials} {user : Nat}
    (given : volume.giveTo credentials path user = .ok later) :
    later.entries = volume.entries := by
  unfold giveTo at given
  split at given
  · cases given
  · rename_i found
    cases leads _ _ found
    split at given
    · cases given
      rfl
    · split at given
      · cases given
        rw [setOwner]
        split <;> rfl
      · cases given

end LeadsTo

/-! ## Volumes in which everything has its directory -/

/-- Every entry stands in a directory. -/
def Rooted (volume : Volume) : Prop :=
  ∀ location name, volume.node? (location ++ [name]) ≠ none →
    ∃ owner mode, volume.node? location = some (.directory owner mode)

theorem Rooted.of_entries {volume : Volume}
    (all : ∀ entry ∈ volume.entries, volume.sight? entry.1.dropLast = some .directory) :
    volume.Rooted := by
  intro location name standing
  obtain ⟨node, present⟩ := Option.ne_none_iff_exists'.mp standing
  rw [node?_of_ne_nil volume (by simp)] at present
  obtain ⟨front, back, same, -⟩ := List.lookup_eq_some_iff.mp present
  have directory := all (location ++ [name], node) (by rw [same]; simp)
  rw [List.dropLast_concat] at directory
  exact sight?_eq_directory_iff.mp directory

theorem Rooted.of_agree {first second : Volume} (rooted : first.Rooted)
    (agree : ∀ location, AgreeAt first second location) : second.Rooted := by
  intro location name standing
  have before : first.node? (location ++ [name]) ≠ none :=
    fun free => standing ((agree _).free free)
  obtain ⟨owner, mode, present⟩ := rooted location name before
  exact (agree location).directory present

theorem Rooted.free {volume : Volume} (rooted : volume.Rooted) {location : Location}
    (free : volume.node? location = none) (name : Name) :
    volume.node? (location ++ [name]) = none := by
  cases standing : volume.node? (location ++ [name]) with
  | none => rfl
  | some node =>
      obtain ⟨owner, mode, present⟩ := rooted location name (ne_none_of_eq_some standing)
      rw [free] at present
      cases present

/-- A directory that is made in a directory is where it belongs. -/
theorem Rooted.put {volume : Volume} (rooted : volume.Rooted) {above : Location} {name : Name}
    {outer inner : Owner} {mode other : Nat}
    (parent : volume.node? above = some (.directory outer mode)) :
    (volume.put (above ++ [name]) (.directory inner other)).Rooted := by
  have new : above ++ [name] ≠ [] := by simp
  have directory {location : Location}
      (before : ∃ owner mode, volume.node? location = some (.directory owner mode)) :
      ∃ owner mode, (volume.put (above ++ [name]) (.directory inner other)).node? location =
        some (.directory owner mode) := by
    by_cases own : location = above ++ [name]
    · exact ⟨inner, other, by rw [own, node?_put_self _ new]⟩
    · rwa [node?_put_other _ own]
  intro location last standing
  by_cases own : location ++ [last] = above ++ [name]
  · obtain ⟨rfl, -⟩ := List.append_inj' own rfl
    exact directory ⟨outer, mode, parent⟩
  · rw [node?_put_other _ own] at standing
    exact directory (rooted location last standing)

theorem node?_setOwner_other {volume : Volume} {location other : Location} (node : Node)
    (owner : Owner) (different : other ≠ location) :
    (volume.setOwner location node owner).node? other = volume.node? other := by
  cases node with
  | directory old mode => exact node?_put_other volume different _
  | file number =>
      rw [setOwner]
      split <;> rfl
  | link target => rfl
  | device device => rfl

/-- To a walk, giving something away changes nothing. -/
theorem agreeAt_giveTo {volume given : Volume} {credentials : Credentials} {path : List UInt8}
    {user : Nat} (done : volume.giveTo credentials path user = .ok given) (location : Location) :
    AgreeAt volume given location := by
  unfold giveTo at done
  split at done
  · cases done
  · rename_i place node found
    have present : volume.node? place = some node := find_holds (findEntry_eq_ok_iff.mp found)
    split at done
    · cases done
      rfl
    · split at done
      · cases done
        by_cases own : location = place
        · subst own
          exact (keeps_setOwner present _).agree location (ne_none_of_eq_some present)
        · rw [AgreeAt, sight?, sight?, node?_setOwner_other node _ own]
      · cases done

end DesktopGateway.Volume
