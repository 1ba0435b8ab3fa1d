import DesktopGateway.Proofs.Volume.Operations
import DesktopGateway.Proofs.Volume.Reading

/-!
# Writing a file and reading it back

In a recorded volume every entry that is a file has its content. Opening a file for writing leaves
its content empty, writing at the end of the content appends to it, and giving the file to somebody
leaves it alone: what was written is what the path reads as.
-/

namespace DesktopGateway.Volume

namespace Content

theorem drop_ofBytes_of_le {bytes : List UInt8} {count : Nat} (all : bytes.length ≤ count) :
    (ofBytes bytes).drop count = empty := by
  unfold ofBytes drop empty
  rw [List.drop_of_length_le all, Nat.zero_sub]
  rfl

theorem take_ofBytes_length (bytes : List UInt8) : (ofBytes bytes).take bytes.length = bytes := by
  simp [take, ofBytes]

/-- Writing at the end of a content without a hole appends. -/
theorem writeAt_end (front bytes : List UInt8) :
    (ofBytes front).writeAt front.length bytes = ofBytes (front ++ bytes) := by
  have behind : (ofBytes front).drop (front.length + bytes.length) = empty :=
    drop_ofBytes_of_le (Nat.le_add_right ..)
  unfold writeAt
  rw [behind, take_ofBytes_length]
  simp [empty, ofBytes]

theorem take_ofBytes (bytes : List UInt8) (count : Nat) :
    (ofBytes bytes).take count = bytes.take count := by
  simp [take, ofBytes]

theorem toList_drop (content : Content) (count : Nat) :
    (content.drop count).toList = content.toList.drop count := by
  rw [drop, toList, toList, List.drop_append, List.drop_replicate]

/-- A byte of a file that was written to is one that was written there, a zero in a gap, or the byte
that was there before. -/
theorem getElem?_writeAt {content : Content} {offset place : Nat} {bytes : List UInt8}
    {byte : UInt8} (found : (content.writeAt offset bytes).toList[place]? = some byte) :
    (offset ≤ place ∧ bytes[place - offset]? = some byte) ∨ byte = 0 ∨
      content.toList[place]? = some byte := by
  have whole : (content.writeAt offset bytes).toList =
      content.toList.take offset ++
        (List.replicate (offset - (content.toList.take offset).length) 0 ++ (bytes ++ content.toList.drop (offset + bytes.length))) := by
    rw [← toList_drop, ← take_eq, writeAt]
    simp only [toList, List.append_assoc]
  have short : (content.toList.take offset).length ≤ offset := List.length_take_le ..
  rw [whole, List.getElem?_append] at found
  split at found
  · rename_i front
    rw [List.getElem?_take_of_lt (by omega)] at found
    exact .inr (.inr found)
  · rw [List.getElem?_append, List.length_replicate] at found
    split at found
    · exact .inr (.inl (List.eq_of_mem_replicate (List.mem_of_getElem? found)))
    · rename_i behind gap
      have past : place - (content.toList.take offset).length -
          (offset - (content.toList.take offset).length) = place - offset := by omega
      rw [past, List.getElem?_append] at found
      split at found
      · exact .inl ⟨by omega, found⟩
      · rw [List.getElem?_drop] at found
        have same : offset + bytes.length + (place - offset - bytes.length) = place := by omega
        rw [same] at found
        exact .inr (.inr found)

end Content

/-! ## Recorded volumes -/

structure Recorded (volume : Volume) : Prop where
  held : ∀ location number, volume.node? location = some (.file number) →
    (volume.record? number).isSome

theorem Recorded.of_entries {volume : Volume}
    (all : ∀ number ∈ volume.entries.filterMap (·.2.number?),
      (volume.record? number).isSome) : volume.Recorded := by
  constructor
  intro location number present
  unfold node? at present
  split at present
  · cases present
  · obtain ⟨front, back, same, _⟩ := List.lookup_eq_some_iff.mp present
    apply all
    rw [same, List.mem_filterMap]
    exact ⟨(location, .file number), by simp, rfl⟩

theorem isSome_record?_putRecord {volume : Volume} {other : Nat} (number : Nat)
    (record : FileRecord) (held : (volume.record? other).isSome) :
    ((volume.putRecord number record).record? other).isSome := by
  rw [record?_putRecord]
  split
  · rfl
  · exact held

theorem record?_put (volume : Volume) (location : Location) (node : Node) (number : Nat) :
    (volume.put location node).record? number = volume.record? number := by
  unfold record? put
  split <;> rfl

namespace Recorded

variable {volume : Volume} (recorded : volume.Recorded)

include recorded

theorem putRecord (number : Nat) (record : FileRecord) :
    (volume.putRecord number record).Recorded :=
  ⟨fun location other present =>
    isSome_record?_putRecord number record (recorded.held location other present)⟩

/-- A node may be put anywhere if it is no file without a content. -/
theorem put (location : Location) {node : Node}
    (held : ∀ number, node = .file number → (volume.record? number).isSome) :
    (volume.put location node).Recorded := by
  constructor
  intro other number present
  rw [record?_put]
  by_cases same : other = location
  · subst same
    by_cases root : other = []
    · subst root
      cases present
    · rw [node?_put_self _ root] at present
      exact held number (Option.some.inj present)
  · rw [node?_put_other _ same] at present
    exact recorded.held other number present

theorem remove (location : Location) : (volume.remove location).Recorded := by
  constructor
  intro other number present
  by_cases same : other = location
  · subst same
    by_cases root : other = []
    · subst root
      cases present
    · rw [node?_remove_self _ root] at present
      cases present
  · rw [node?_remove_other _ same] at present
    exact recorded.held other number present

theorem modify (number : Nat) (change : Content → Content) :
    (volume.modify number change).Recorded := by
  unfold Volume.modify
  split
  · exact recorded.putRecord ..
  · exact recorded

theorem write (handle : Handle) (offset : Nat) (bytes : List UInt8) :
    (volume.write handle offset bytes).Recorded := by
  cases handle with
  | file number =>
      rw [Volume.write]
      exact recorded.modify ..
  | device device => exact recorded

theorem setOwner (location : Location) (node : Node) (owner : Owner) :
    (volume.setOwner location node owner).Recorded := by
  cases node with
  | directory old mode => exact recorded.put _ fun _ impossible => by cases impossible
  | file number =>
      rw [Volume.setOwner]
      split
      · exact recorded.putRecord ..
      · exact recorded
  | link target => exact recorded
  | device device => exact recorded

variable {after : Volume} {credentials : Credentials} {path : List UInt8}

theorem giveTo {user : Nat} (done : volume.giveTo credentials path user = .ok after) :
    after.Recorded := by
  unfold Volume.giveTo at done
  split at done
  · cases done
  · split at done
    · cases done
      exact recorded
    · split at done
      · cases done
        exact recorded.setOwner ..
      · cases done

theorem makeDirectory (done : volume.makeDirectory credentials path = .ok after) :
    after.Recorded := by
  unfold Volume.makeDirectory at done
  split at done
  · cases done
  · cases done
  · cases done
    exact recorded.put _ fun _ impossible => by cases impossible

theorem ensureDirectory (done : volume.ensureDirectory credentials path = .ok after) :
    after.Recorded := by
  unfold Volume.ensureDirectory at done
  split at done
  · rename_i created
    cases done
    exact recorded.makeDirectory created
  · split at done
    · cases done
      exact recorded
    · cases done

theorem createFile {handle : Handle}
    (done : volume.createFile credentials path = .ok (handle, after)) : after.Recorded := by
  rcases createFile_eq_ok done with
    ⟨place, _, _, rfl⟩ | ⟨place, number, _, _, rfl⟩ | ⟨_, _, _, _, rfl⟩
  · refine (recorded.putRecord _ _).put _ ?_
    rintro number ⟨⟩
    rw [record?_putRecord, if_pos rfl]
    rfl
  · exact recorded.modify ..
  · exact recorded

theorem removeFile (done : volume.removeFile path = .ok after) : after.Recorded := by
  unfold Volume.removeFile at done
  split at done
  · cases done
  · cases done
  · cases done
    exact recorded.remove _

end Recorded

/-! ## The content of an open file -/

def Holds (volume : Volume) (number : Nat) (bytes : List UInt8) : Prop :=
  (volume.record? number).map (·.content) = some (.ofBytes bytes)

theorem Holds.contentOf {volume : Volume} {number : Nat} {bytes : List UInt8}
    (holds : volume.Holds number bytes) : volume.contentOf number = .ofBytes bytes := by
  unfold Volume.contentOf
  rw [holds, Option.getD_some]

theorem holds_putRecord (volume : Volume) (number : Nat) (owner : Owner) (bytes : List UInt8) :
    (volume.putRecord number ⟨.ofBytes bytes, owner⟩).Holds number bytes := by
  rw [Holds, record?_putRecord, if_pos rfl]
  rfl

theorem holds_modify {volume : Volume} {number : Nat} {change : Content → Content}
    {bytes : List UInt8} {record : FileRecord} (recorded : volume.record? number = some record)
    (changed : change record.content = .ofBytes bytes) :
    (volume.modify number change).Holds number bytes := by
  unfold modify
  rw [recorded]
  simp only [changed]
  exact holds_putRecord ..

/-- A portion that is written at the end of a file is appended to it. -/
theorem Holds.write {volume : Volume} {number : Nat} {front : List UInt8}
    (holds : volume.Holds number front) (bytes : List UInt8) :
    (volume.write (.file number) front.length bytes).Holds number (front ++ bytes) := by
  obtain ⟨record, recorded, same⟩ := Option.map_eq_some_iff.mp holds
  apply holds_modify recorded
  simp only [same, Content.writeAt_end]

theorem entries_write (volume : Volume) (handle : Handle) (offset : Nat) (bytes : List UInt8) :
    (volume.write handle offset bytes).entries = volume.entries := by
  cases handle with
  | file number => exact entries_modify ..
  | device device => rfl

/-! ## Reading back -/

/-- A path leads to a file, and these are all its bytes. -/
def ReadsAs (volume : Volume) (path bytes : List UInt8) : Prop :=
  ∃ number, volume.openFile path = .ok (.file number) ∧
    ∀ count, volume.read (.file number) count = bytes.take count

/-- A path reads as one sequence of bytes. -/
theorem ReadsAs.unique {volume : Volume} {path bytes others : List UInt8}
    (first : volume.ReadsAs path bytes) (second : volume.ReadsAs path others) :
    others = bytes := by
  obtain ⟨number, opens, reads⟩ := first
  obtain ⟨same, reopens, rereads⟩ := second
  cases opens.symm.trans reopens
  have all (count : Nat) : others.take count = bytes.take count :=
    (rereads count).symm.trans (reads count)
  have whole := all (max bytes.length others.length)
  rwa [List.take_of_length_le (Nat.le_max_right ..), List.take_of_length_le (Nat.le_max_left ..)]
    at whole

theorem Holds.read {volume : Volume} {number : Nat} {bytes : List UInt8}
    (holds : volume.Holds number bytes) (count : Nat) :
    volume.read (.file number) count = bytes.take count := by
  rw [Volume.read, holds.contentOf, Content.take_ofBytes]

theorem Holds.readsAs {volume : Volume} {number : Nat} {path bytes : List UInt8}
    (holds : volume.Holds number bytes) (opens : volume.openFile path = .ok (.file number)) :
    volume.ReadsAs path bytes := by
  exact ⟨number, opens, holds.read⟩

theorem openFile_eq_file_iff {volume : Volume} {path : List UInt8} {number : Nat} :
    volume.openFile path = .ok (.file number) ↔
      ∃ place, volume.find true path = .ok (.entry place (.file number)) := by
  simp only [← findEntry_eq_ok_iff]
  unfold openFile
  cases volume.findEntry true path with
  | error failure => simp
  | ok found =>
      obtain ⟨place, node⟩ := found
      cases node <;> simp

theorem openFile_of_find {volume : Volume} {path : List UInt8} {place : Location} {number : Nat}
    (found : volume.find true path = .ok (.entry place (.file number))) :
    volume.openFile path = .ok (.file number) :=
  openFile_eq_file_iff.mpr ⟨place, found⟩

/-- A new file is empty, and its path leads to it. -/
theorem createFile_of_absent {volume : Volume} {path : List UInt8} {place : Location}
    (ended : volume.find true path = .ok (.absent place)) (credentials : Credentials) :
    ∃ number created, volume.createFile credentials path = .ok (.file number, created) ∧
      created.Holds number [] ∧ created.openFile path = .ok (.file number) := by
  have done : volume.createFile credentials path = .ok (.file volume.freshNumber,
      (volume.putRecord volume.freshNumber ⟨.empty, credentials.owner⟩).put place
        (.file volume.freshNumber)) := by
    rw [createFile, ended]
  have grown := (creates_of_createFile done).grown
  refine ⟨_, _, done, ?_, ?_⟩
  · rw [Holds, record?_put]
    exact holds_putRecord ..
  · apply @openFile_of_find _ _ place
    rw [find_within grown ended, Found.within, node?_put_self _ (find_holds ended).1]

/-- The path of a file that was opened for writing leads to it. -/
theorem openFile_of_createFile {volume created : Volume} {credentials : Credentials}
    {path : List UInt8} {number : Nat}
    (done : volume.createFile credentials path = .ok (.file number, created)) :
    created.openFile path = .ok (.file number) := by
  have grown := (creates_of_createFile done).grown
  rcases createFile_eq_ok done with
    ⟨place, ended, opened, rfl⟩ | ⟨place, old, ended, opened, rfl⟩ | ⟨place, device, _, opened, _⟩
  · obtain ⟨number, created, same, _, opens⟩ := createFile_of_absent ended credentials
    rw [same] at done
    cases done
    exact opens
  · cases opened
    exact openFile_of_find (find_within grown ended)
  · cases opened

/-- A file that was opened for writing is empty. -/
theorem holds_of_createFile {volume created : Volume} {credentials : Credentials}
    {path : List UInt8} {number : Nat} (recorded : volume.Recorded)
    (done : volume.createFile credentials path = .ok (.file number, created)) :
    created.Holds number [] := by
  rcases createFile_eq_ok done with
    ⟨place, ended, opened, rfl⟩ | ⟨place, old, ended, opened, rfl⟩ | ⟨place, device, _, opened, _⟩
  · obtain ⟨number, created, same, empty, _⟩ := createFile_of_absent ended credentials
    rw [same] at done
    cases done
    exact empty
  · cases opened
    obtain ⟨record, held⟩ :=
      Option.isSome_iff_exists.mp (recorded.held place _ (find_holds ended))
    exact holds_modify held rfl
  · cases opened

theorem contentOf_write (volume : Volume) (number offset : Nat) (bytes : List UInt8) :
    (volume.write (.file number) offset bytes).contentOf number =
        (volume.contentOf number).writeAt offset bytes ∨
      (volume.write (.file number) offset bytes).contentOf number = volume.contentOf number := by
  rw [write, modify]
  split
  · rename_i record recorded
    left
    rw [contentOf_putRecord, if_pos rfl, contentOf, recorded]
    rfl
  · exact .inr rfl

/-- Opening the file that a path leads to for writing empties that file. -/
theorem createFile_of_openFile {volume created : Volume} {credentials : Credentials}
    {path : List UInt8} {number : Nat} {handle : Handle}
    (opens : volume.openFile path = .ok (.file number))
    (done : volume.createFile credentials path = .ok (handle, created)) :
    handle = .file number := by
  obtain ⟨place, found⟩ := openFile_eq_file_iff.mp opens
  rw [createFile, found] at done
  cases done
  rfl

/-- A look at the path of a file shows how many bytes it has. -/
theorem Holds.metadata {volume : Volume} {number : Nat} {path bytes : List UInt8}
    (holds : volume.Holds number bytes) (opens : volume.openFile path = .ok (.file number)) :
    ∃ owner, volume.metadata path = .ok ⟨false, bytes.length, owner⟩ := by
  obtain ⟨place, found⟩ := openFile_eq_file_iff.mp opens
  have length : volume.nodeLength (.file number) = bytes.length := by
    rw [nodeLength_file, holds.contentOf]
    rfl
  refine ⟨volume.nodeOwner (.file number), ?_⟩
  rw [Volume.metadata, findEntry_eq_ok_iff.mpr found, ← length]
  rfl

/-- A path opens the same file in a volume with the same tree. -/
theorem openFile_of_entries {first second : Volume} (tree : second.entries = first.entries)
    {path : List UInt8} {number : Nat} (opens : first.openFile path = .ok (.file number)) :
    second.openFile path = .ok (.file number) := by
  obtain ⟨place, found⟩ := openFile_eq_file_iff.mp opens
  have same (location : Location) : second.node? location = first.node? location := by
    unfold node?
    rw [tree]
  exact openFile_eq_file_iff.mpr ⟨place, find_within (Extends.of_node?_eq same) found⟩

/-- A file that is given to somebody reads as before. -/
theorem ReadsAs.giveTo {volume given : Volume} {credentials : Credentials}
    {path bytes : List UInt8} {user : Nat} (reads : volume.ReadsAs path bytes)
    (done : volume.giveTo credentials path user = .ok given) : given.ReadsAs path bytes := by
  obtain ⟨number, opens, all⟩ := reads
  obtain ⟨place, found⟩ := openFile_eq_file_iff.mp opens
  unfold Volume.giveTo at done
  rw [findEntry_eq_ok_iff.mpr found] at done
  simp only at done
  split at done
  · cases done
    exact ⟨number, opens, all⟩
  · split at done
    · cases done
      rw [setOwner]
      split
      · rename_i record recorded
        have tree : (volume.putRecord number { record with owner := ⟨user, user⟩ }).entries =
            volume.entries := rfl
        refine ⟨number, openFile_of_entries tree opens, ?_⟩
        intro count
        rw [← all count, read, read, contentOf_putRecord, if_pos rfl, contentOf, recorded]
        rfl
      · exact ⟨number, opens, all⟩
    · cases done

end DesktopGateway.Volume
