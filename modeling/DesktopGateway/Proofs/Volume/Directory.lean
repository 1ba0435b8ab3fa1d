import DesktopGateway.Proofs.Volume.Legs
import DesktopGateway.Proofs.Volume.Operations
import DesktopGateway.Proofs.Volume.Route

/-!
# Directories and the paths to them

A path leads to the same directory in every volume that agrees on its trail, and it leads there over
its steps alone, whether or not it is closed by a slash.
-/

namespace DesktopGateway.Volume

theorem directory_eq_ok_iff {volume : Volume} {path : List UInt8} {location : Location} :
    volume.directory path = .ok location ↔
      ∃ owner mode, volume.find true path = .ok (.entry location (.directory owner mode)) := by
  simp only [← findEntry_eq_ok_iff]
  unfold directory
  cases volume.findEntry true path with
  | error failure => simp
  | ok found =>
      obtain ⟨place, node⟩ := found
      cases node <;> simp

theorem isDirectory_eq_true_iff {volume : Volume} {path : List UInt8} :
    volume.isDirectory path = true ↔ ∃ location, volume.directory path = .ok location := by
  unfold isDirectory metadata directory
  cases volume.findEntry true path with
  | error failure => simp [Except.map]
  | ok found =>
      obtain ⟨place, node⟩ := found
      cases node <;> simp [Except.map, Node.isDirectory]

/-- A path leads to the same directory, or fails alike, in two volumes that agree on its trail. -/
theorem directory_congr {first second : Volume} {path : List UInt8}
    (agree : ∀ place ∈ first.pathTrail true path, AgreeAt first second place) :
    second.directory path = first.directory path := by
  have same := find_congr agree
  unfold directory findEntry
  rw [same]
  cases found : first.find true path with
  | error failure => rfl
  | ok reached =>
      have seen := agree _ (location_mem_pathTrail found)
      rw [Except.map]
      cases reached with
      | absent location =>
          have free : second.node? location = none := seen.free (find_holds found).2
          simp only [Found.location, Found.at, free]
      | entry location node =>
          obtain ⟨other, there, passed⟩ := seen.node (find_holds found)
          rw [Found.location] at there
          simp only [Found.location, Found.at, there]
          cases node <;> cases other <;> first | rfl | cases passed

/-- A path leads to the same directory when nothing that was there has become something else to a
walk. -/
theorem directory_kept {volume larger : Volume}
    (kept : ∀ other, volume.node? other ≠ none → AgreeAt volume larger other) {path : List UInt8}
    {location : Location} (found : volume.directory path = .ok location) :
    larger.directory path = .ok location := by
  obtain ⟨owner, mode, ended⟩ := directory_eq_ok_iff.mp found
  have present : volume.node? location = some (.directory owner mode) := find_holds ended
  obtain ⟨owner, mode, there⟩ := (kept location (ne_none_of_eq_some present)).directory present
  refine directory_eq_ok_iff.mpr ⟨owner, mode, ?_⟩
  rw [find_kept kept ended, Found.at, there]

/-- A step that stays ends where it starts, if that is a directory, and fails otherwise. -/
theorem walk_closing {volume : Volume} {links : Nat} {location : Location} {found : Found}
    (ended : walk volume true links location [.here] = .ok found) :
    ∃ owner mode, volume.node? location = some (.directory owner mode) ∧
      found = .entry location (.directory owner mode) := by
  by_cases inner : ∃ owner mode, volume.node? location = some (.directory owner mode)
  · obtain ⟨owner, mode, present⟩ := inner
    have stop : descend volume true location [.here] =
        .found (.entry location (.directory owner mode)) := by
      rw [descend_here present, descend, present]
    rw [walk_eq_ok_iff.mpr (.inl stop)] at ended
    exact ⟨owner, mode, present, (Except.ok.inj ended).symm⟩
  · have stop : descend volume true location [.here] = .refused .notDirectory :=
      descend_blocked fun owner mode present => inner ⟨owner, mode, present⟩
    rcases walk_eq_ok_iff.mp ended with other | ⟨_, _, _, _, _, other, _⟩ <;>
      (rw [stop] at other; cases other)

/-- A closing slash makes no difference to where a path leads as a directory. -/
theorem walk_steps_of_directory {volume : Volume} {path : List UInt8} {location : Location}
    (found : volume.directory path = .ok location) :
    ∃ owner mode, walk volume true mostLinks [] (Route.steps path) =
      .ok (.entry location (.directory owner mode)) := by
  obtain ⟨owner, mode, ended⟩ := directory_eq_ok_iff.mp found
  have walked := (find_eq_ok_iff.mp ended).2
  rcases Route.segments_eq_steps path with same | closed
  · rw [same] at walked
    exact ⟨owner, mode, walked⟩
  · rw [closed] at walked
    obtain ⟨place, node, first⟩ := walk_of_append (List.cons_ne_nil _ _) walked
    obtain ⟨left, longer⟩ := walk_append first
    have closing := (longer true [.here] _ (List.cons_ne_nil _ _)).mp walked
    obtain ⟨holder, bits, present, same⟩ := walk_closing closing
    cases same
    have same : node = .directory owner mode :=
      Option.some.inj ((walk_holds first).symm.trans present)
    rw [same] at first
    exact ⟨owner, mode, first⟩

/-- The trail of a path to a directory is that of its steps. -/
theorem mem_pathTrail_of_directory {volume : Volume} {path : List UInt8} {location : Location}
    (found : volume.directory path = .ok location) {other : Location}
    (member : other ∈ volume.trail true mostLinks [] (Route.steps path)) :
    other ∈ volume.pathTrail true path := by
  obtain ⟨owner, mode, ended⟩ := directory_eq_ok_iff.mp found
  have usable := (find_eq_ok_iff.mp ended).1
  obtain ⟨_, _, walked⟩ := walk_steps_of_directory found
  rw [pathTrail, usable]
  rcases Route.segments_eq_steps path with same | closed
  · rwa [same]
  · obtain ⟨left, longer⟩ := mem_trail_append walked
    rw [closed]
    exact (longer true [.here] other (List.cons_ne_nil _ _)).mpr (.inl member)

end DesktopGateway.Volume
