import DesktopGateway.Proofs.Volume.Change
import DesktopGateway.Proofs.Volume.Walk

/-!
# What the operations change

Each operation on a path changes at most what the path stands for: the entry that it names, what
that entry leads to, and the other names of the file it leads to.
-/

namespace DesktopGateway.Volume

/-- The location that a path names, be it taken or free; a link stands for itself. -/
def slot? (volume : Volume) (path : List UInt8) : Option Location :=
  match volume.find false path with
  | .ok (.entry location _) | .ok (.absent location) => some location
  | .error _ => none

inductive Concerns (volume : Volume) (path : List UInt8) (location : Location) : Prop where
  | slot (named : volume.slot? path = some location)
  | free (found : volume.find true path = .ok (.absent location))
  | file (place : Location) (number : Nat)
      (found : volume.find true path = .ok (.entry place (.file number)))
      (same : volume.node? location = some (.file number))

theorem findEntry_eq_ok_iff {volume : Volume} {follow : Bool} {path : List UInt8}
    {location : Location} {node : Node} :
    volume.findEntry follow path = .ok (location, node) ↔
      volume.find follow path = .ok (.entry location node) := by
  unfold findEntry
  cases volume.find follow path with
  | error failure => simp
  | ok found => cases found <;> simp

/-! ## Directories and owners -/

theorem stored?_congr {first second : Volume} {location : Location}
    (node : second.node? location = first.node? location)
    (content : ∀ number, first.node? location = some (.file number) →
      second.contentOf number = first.contentOf number) :
    second.stored? location = first.stored? location := by
  unfold stored?
  rw [node]
  cases present : first.node? location with
  | none => rfl
  | some found =>
      cases found with
      | file number => simp only [Option.map_some, shown, content number present]
      | directory owner mode => rfl
      | link target => rfl
      | device device => rfl

theorem stored?_setOwner {volume : Volume} {location : Location} {node : Node}
    (present : volume.node? location = some node) (owner : Owner) (other : Location) :
    (volume.setOwner location node owner).stored? other = volume.stored? other := by
  cases node with
  | directory old mode =>
      rw [setOwner]
      by_cases same : other = location
      · subst same
        by_cases root : other = []
        · rw [root]
          rfl
        · unfold stored?
          rw [node?_put_self _ root, present]
          rfl
      · apply stored?_congr (node?_put_other _ same _)
        intro number _
        exact contentOf_put ..
  | file number =>
      rw [setOwner]
      split
      · rename_i record recorded
        apply stored?_congr (node?_putRecord ..)
        intro held _
        rw [contentOf_putRecord]
        split
        · rename_i own
          rw [own, contentOf, recorded]
          rfl
        · rfl
      · rfl
  | link target => rfl
  | device device => rfl

/-- Giving something to somebody shows nowhere. -/
theorem stored?_of_giveTo {volume given : Volume} {credentials : Credentials} {path : List UInt8}
    {user : Nat} (done : volume.giveTo credentials path user = .ok given) (location : Location) :
    given.stored? location = volume.stored? location := by
  unfold giveTo at done
  split at done
  · cases done
  · rename_i place node found
    split at done
    · cases done
      rfl
    · split at done
      · cases done
        exact stored?_setOwner (find_holds (findEntry_eq_ok_iff.mp found)) _ _
      · cases done

/-- A directory is made where the path names a free location, and nothing else changes. -/
theorem stored?_of_makeDirectory {volume made : Volume} {credentials : Credentials}
    {path : List UInt8} (done : volume.makeDirectory credentials path = .ok made)
    (location : Location) :
    made.stored? location = volume.stored? location ∨
      volume.find false path = .ok (.absent location) ∧ volume.stored? location = none ∧
        made.stored? location = some .directory := by
  unfold makeDirectory at done
  split at done
  · cases done
  · cases done
  · rename_i place found
    cases done
    obtain ⟨inner, free⟩ := find_holds found
    by_cases same : location = place
    · subst same
      right
      refine ⟨found, ?_, ?_⟩
      · rw [stored?, free]
        rfl
      · rw [stored?, node?_put_self _ inner]
        rfl
    · left
      apply stored?_congr (node?_put_other _ same _)
      intro number _
      exact contentOf_put ..

theorem stored?_of_ensureDirectory {volume made : Volume} {credentials : Credentials}
    {path : List UInt8} (done : volume.ensureDirectory credentials path = .ok made)
    (location : Location) :
    made.stored? location = volume.stored? location ∨
      volume.find false path = .ok (.absent location) ∧ volume.stored? location = none ∧
        made.stored? location = some .directory := by
  unfold ensureDirectory at done
  split at done
  · rename_i created
    cases done
    exact stored?_of_makeDirectory created location
  · split at done
    · cases done
      exact Or.inl rfl
    · cases done

/-! ## Files -/

/-- Opening a file for writing adds at most a file and empties at most one, and changes nothing but
what the path concerns. What the path names is then there and can be removed. -/
structure Creates (volume : Volume) (path : List UInt8) (handle : Handle) (created : Volume) :
    Prop where
  grown : created.Extends volume
  node : ∀ location, ¬ volume.Concerns path location →
    created.node? location = volume.node? location
  content : ∀ location number, ¬ volume.Concerns path location →
    volume.node? location = some (.file number) →
      handle ≠ .file number ∧ created.contentOf number = volume.contentOf number
  named : ∃ location node, volume.slot? path = some location ∧
    created.find false path = .ok (.entry location node) ∧ node.isDirectory = false

theorem Extends.of_node?_eq {larger smaller : Volume}
    (same : ∀ location, larger.node? location = smaller.node? location) :
    larger.Extends smaller := by
  constructor
  · intro location node present
    rw [same, present]
  · intro location node free present
    rw [same, free] at present
    cases present

theorem Extends.of_put {larger smaller : Volume} {location : Location} {number : Nat}
    (free : smaller.node? location = none)
    (self : larger.node? location = some (.file number))
    (others : ∀ other, other ≠ location → larger.node? other = smaller.node? other) :
    larger.Extends smaller := by
  constructor
  · intro other node present
    have different : other ≠ location := by
      rintro rfl
      rw [free] at present
      cases present
    rw [others other different, present]
  · intro other node missing present
    by_cases same : other = location
    · rw [same, self] at present
      exact ⟨number, (Option.some.inj present).symm⟩
    · rw [others other same, missing] at present
      cases present

/-- What a path that leads somewhere names is taken in a larger volume, when it is taken in the
volume itself or its end has been filled. -/
theorem named_of_find {volume created : Volume} (grown : created.Extends volume)
    {path : List UInt8} {found : Found} (ended : volume.find true path = .ok found)
    (filled : ∃ location node, found.within created = .entry location node ∧
      node.isDirectory = false) :
    ∃ location node, volume.slot? path = some location ∧
      created.find false path = .ok (.entry location node) ∧ node.isDirectory = false := by
  rcases find_unfollowed ended with same | ⟨place, target, stopped⟩
  · obtain ⟨location, node, reached, plain⟩ := filled
    refine ⟨location, node, ?_, ?_, plain⟩
    · unfold slot?
      rw [same]
      cases found with
      | entry place old =>
          cases reached
          rfl
      | absent place =>
          cases present : created.node? place with
          | none =>
              rw [Found.within, present] at reached
              cases reached
          | some filler =>
              rw [Found.within, present] at reached
              cases reached
              rfl
    · rw [find_within grown same, reached]
  · refine ⟨place, .link target, ?_, find_within grown stopped, rfl⟩
    unfold slot?
    rw [stopped]

/-- A new file where the path leads to a free location. -/
theorem creates_new {volume : Volume} {path : List UInt8} {place : Location}
    (ended : volume.find true path = .ok (.absent place)) (record : FileRecord) :
    volume.Creates path (.file volume.freshNumber)
      ((volume.putRecord volume.freshNumber record).put place (.file volume.freshNumber)) := by
  obtain ⟨inner, free⟩ := find_holds ended
  have self := node?_put_self (volume.putRecord volume.freshNumber record) inner
    (.file volume.freshNumber)
  have others (other : Location) (different : other ≠ place) :=
    node?_put_other (volume.putRecord volume.freshNumber record) different
      (.file volume.freshNumber)
  have grown := Extends.of_put free self others
  refine ⟨grown, ?_, ?_, named_of_find grown ended ⟨place, .file volume.freshNumber, ?_, rfl⟩⟩
  · intro location apart
    apply others
    rintro rfl
    exact apart (.free ended)
  · intro location number _ present
    have older : number ≠ volume.freshNumber :=
      Nat.ne_of_lt (lt_freshNumber_of_node? volume present)
    refine ⟨fun same => older (Handle.file.inj same).symm, ?_⟩
    rw [contentOf_put, contentOf_putRecord, if_neg older]
  · rw [Found.within, self]

/-- A file that is there is emptied. -/
theorem creates_emptied {volume : Volume} {path : List UInt8} {place : Location} {number : Nat}
    (ended : volume.find true path = .ok (.entry place (.file number))) :
    volume.Creates path (.file number) (volume.modify number fun _ => .empty) := by
  have same (location : Location) :
      (volume.modify number fun _ => .empty).node? location = volume.node? location := by
    unfold node?
    rw [entries_modify]
  have grown := Extends.of_node?_eq same
  refine ⟨grown, fun location _ => same location, ?_,
    named_of_find grown ended ⟨place, .file number, rfl, rfl⟩⟩
  intro location other apart present
  have different : other ≠ number := by
    rintro rfl
    exact apart (.file place other ended present)
  exact ⟨fun own => different (Handle.file.inj own).symm, contentOf_modify_other _ different _⟩

theorem creates_device {volume : Volume} {path : List UInt8} {place : Location} {device : Device}
    (ended : volume.find true path = .ok (.entry place (.device device))) :
    volume.Creates path (.device device) volume := by
  have grown : volume.Extends volume := Extends.of_node?_eq fun _ => rfl
  refine ⟨grown, fun _ _ => rfl, ?_,
    named_of_find grown ended ⟨place, .device device, rfl, rfl⟩⟩
  intro location number _ _
  exact ⟨fun own => (by cases own), rfl⟩

/-- A file that is opened for writing is new, was emptied or is a device. -/
theorem createFile_eq_ok {volume created : Volume} {credentials : Credentials}
    {path : List UInt8} {handle : Handle}
    (done : volume.createFile credentials path = .ok (handle, created)) :
    (∃ place, volume.find true path = .ok (.absent place) ∧
        handle = .file volume.freshNumber ∧
        created = (volume.putRecord volume.freshNumber ⟨.empty, credentials.owner⟩).put place
          (.file volume.freshNumber)) ∨
      (∃ place number, volume.find true path = .ok (.entry place (.file number)) ∧
        handle = .file number ∧ created = volume.modify number fun _ => .empty) ∨
      ∃ place device, volume.find true path = .ok (.entry place (.device device)) ∧
        handle = .device device ∧ created = volume := by
  unfold createFile at done
  split at done
  · cases done
  · rename_i place ended
    cases done
    exact Or.inl ⟨place, ended, rfl, rfl⟩
  · rename_i place number ended
    cases done
    exact Or.inr (Or.inl ⟨place, number, ended, rfl, rfl⟩)
  · rename_i place device ended
    cases done
    exact Or.inr (Or.inr ⟨place, device, ended, rfl, rfl⟩)
  · cases done
  · cases done

/-- What opening a file for writing does to the volume. -/
theorem creates_of_createFile {volume created : Volume} {credentials : Credentials}
    {path : List UInt8} {handle : Handle}
    (done : volume.createFile credentials path = .ok (handle, created)) :
    volume.Creates path handle created := by
  rcases createFile_eq_ok done with
    ⟨place, ended, rfl, rfl⟩ | ⟨place, number, ended, rfl, rfl⟩ | ⟨place, device, ended, rfl, rfl⟩
  · exact creates_new ended _
  · exact creates_emptied ended
  · exact creates_device ended

theorem removeFile_eq_ok {volume : Volume} {path : List UInt8} {location : Location} {node : Node}
    (named : volume.find false path = .ok (.entry location node))
    (plain : node.isDirectory = false) :
    volume.removeFile path = .ok (volume.remove location) := by
  unfold removeFile
  rw [findEntry_eq_ok_iff.mpr named]
  cases node with
  | directory owner mode => cases plain
  | file number => rfl
  | link target => rfl
  | device device => rfl

end DesktopGateway.Volume
