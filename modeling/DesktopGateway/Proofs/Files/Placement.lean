import DesktopGateway.Proofs.Files.Confinement
import DesktopGateway.Proofs.Volume.Directory

/-!
# Where places are

The path of a place leads over the home's directory and from there over the names of the place. As
long as none of these is a link, it ends below the home where the names say, and nothing is looked
at but what the home's own path leads over and what is below the home.
-/

namespace DesktopGateway.Files

open DesktopGateway.Text
open DesktopGateway.Volume (Location Route)

namespace Place

def names (place : Place) : List Volume.Name :=
  place.below.map Utf8.encode

theorem map_name_names (place : Place) :
    place.names.map .name = place.below.map fun name => Volume.Segment.name (Utf8.encode name) := by
  rw [names, List.map_map]
  rfl

section Inner

variable {place : Place} (inner : place.below ≠ []) (plain : ∀ name ∈ place.below, IsName name)

include inner plain

/-- The path of a place below the home does not end with a slash. -/
theorem getLast?_bytes : place.bytes.getLast? ≠ some Route.slash := by
  intro closed
  have ended := Parts.getLast?_of_closed closed
  obtain ⟨front, written, _, _⟩ := parts_path inner fun name listed => (plain name listed).whole
  obtain ⟨above, last, split⟩ := (List.eq_nil_or_concat place.below).resolve_left inner
  have parts : Parts.of Route.slash place.bytes =
      (Parts.of '/' place.path.toList).map fun part => Utf8.encode (String.ofList part) :=
    Route.parts_encode place.path
  have empty : Utf8.encode last = [] := by
    rw [parts, written, split] at ended
    simpa using ended
  exact (plain last (by rw [split]; simp)).filled ((@Utf8.encode_inj last "").mp empty)

theorem segments_bytes :
    (Route.ofBytes place.bytes).segments =
      Route.steps (Utf8.encode place.home) ++ place.names.map .name := by
  rw [Route.segments_of_open (getLast?_bytes inner plain), steps_bytes plain, map_name_names]

/-- A client sees a place below the home under its last name. -/
theorem shownName_eq {above : List String} {last : String} (split : place.below = above ++ [last]) :
    place.shownName = last := by
  have ended : place.names.map Volume.Segment.name =
      above.map (fun name => Volume.Segment.name (Utf8.encode name)) ++
        [.name (Utf8.encode last)] := by
    rw [map_name_names, split, List.map_append]
    rfl
  have kept : [Volume.Segment.name (Utf8.encode last)].filter (· ≠ .here) =
      [.name (Utf8.encode last)] := by
    simp
  have named : (Route.ofBytes place.bytes).lastName? = some (Utf8.encode last) := by
    rw [Route.lastName?, segments_bytes inner plain, ended, ← List.append_assoc,
      List.filter_append, kept, List.getLast?_concat]
  rw [shownName, named]
  exact Utf8.lossy_encode last

variable {volume : Volume} {root : Location}
  (home : volume.directory (Utf8.encode place.home) = .ok root)

include home

/-- From the home on, only the names of the place matter. -/
theorem find_bytes :
    ∃ left, ∀ follow found, volume.find follow place.bytes = .ok found ↔
      Volume.pathFailure? place.bytes = none ∧
        Volume.walk volume follow left root (place.names.map .name) = .ok found := by
  obtain ⟨owner, mode, walked⟩ := Volume.walk_steps_of_directory home
  obtain ⟨left, longer⟩ := Volume.walk_append walked
  refine ⟨left, ?_⟩
  intro follow found
  have filled : place.names.map Volume.Segment.name ≠ [] := by
    rw [map_name_names]
    simpa using inner
  rw [Volume.find_eq_ok_iff, segments_bytes inner plain, longer follow _ found filled]

variable (unlinked : volume.Unlinked root place.names)

include unlinked

theorem location_of_find {follow : Bool} {found : Volume.Found}
    (ended : volume.find follow place.bytes = .ok found) :
    found.location = root ++ place.names := by
  obtain ⟨left, only⟩ := find_bytes inner plain home
  exact Volume.location_of_walk_names unlinked ((only follow found).mp ended).2

theorem mem_pathTrail_bytes {follow : Bool} {location : Location}
    (seen : location ∈ volume.pathTrail follow place.bytes) :
    root <+: location ∨ location ∈ volume.pathTrail true (Utf8.encode place.home) := by
  obtain ⟨owner, mode, walked⟩ := Volume.walk_steps_of_directory home
  obtain ⟨left, longer⟩ := Volume.mem_trail_append walked
  have filled : place.names.map Volume.Segment.name ≠ [] := by
    rw [map_name_names]
    simpa using inner
  unfold Volume.pathTrail at seen
  split at seen
  · cases seen
  · rw [segments_bytes inner plain, longer follow _ location filled] at seen
    rcases seen with above | below
    · exact Or.inr (Volume.mem_pathTrail_of_directory home above)
    · exact Or.inl (Volume.prefix_of_mem_trail_names unlinked location below)

end Inner

/-! ## Children of the home -/

section Child

variable {volume : Volume} {home name : String} {root location : Location}
  (found : volume.directory (Utf8.encode home) = .ok root) (named : IsName name)

include found named

/-- A free child of the home is free in the home's directory, and its name is not too long. -/
theorem find_child_absent
    (free : volume.find false (Place.mk home [name]).bytes = .ok (.absent location)) :
    Volume.pathFailure? (Place.mk home [name]).bytes = none ∧
      ¬ Volume.longestName < (Utf8.encode name).length ∧
      location = root ++ [Utf8.encode name] := by
  have plain : ∀ other ∈ (Place.mk home [name]).below, IsName other := by simpa using named
  obtain ⟨left, only⟩ := find_bytes (List.cons_ne_nil _ _) plain found
  obtain ⟨usable, walked⟩ := (only false _).mp free
  obtain ⟨owner, mode, ended⟩ := Volume.directory_eq_ok_iff.mp found
  have step : Volume.descend volume false root [.name (Utf8.encode name)] = _ :=
    Volume.descend_name (Volume.find_holds ended) _
  change Volume.walk volume false left root [.name (Utf8.encode name)] = _ at walked
  split at step
  · rcases Volume.walk_eq_ok_iff.mp walked with stop | ⟨_, _, _, _, _, stop, _⟩ <;>
      (rw [step] at stop; cases stop)
  · refine ⟨usable, ‹_›, ?_⟩
    rw [Volume.walk_eq_ok_iff.mpr (.inl step)] at walked
    have same := congrArg Volume.Found.location (Except.ok.inj walked)
    rw [Volume.Found.location_at] at same
    exact same.symm

/-- A directory that is a child of the home is found under its name. -/
theorem directory_child (usable : Volume.pathFailure? (Place.mk home [name]).bytes = none)
    (fits : ¬ Volume.longestName < (Utf8.encode name).length) {owner : Volume.Owner} {mode : Nat}
    (there : volume.node? (root ++ [Utf8.encode name]) = some (.directory owner mode)) :
    volume.directory (Place.mk home [name]).bytes = .ok (root ++ [Utf8.encode name]) := by
  have plain : ∀ other ∈ (Place.mk home [name]).below, IsName other := by simpa using named
  obtain ⟨left, only⟩ := find_bytes (List.cons_ne_nil _ _) plain found
  obtain ⟨_, _, ended⟩ := Volume.directory_eq_ok_iff.mp found
  have inner := Volume.find_holds ended
  refine Volume.directory_eq_ok_iff.mpr ⟨owner, mode, (only true _).mpr ⟨usable, ?_⟩⟩
  apply Volume.walk_eq_ok_iff.mpr
  left
  change Volume.descend volume true root [.name (Utf8.encode name)] = _
  rw [Volume.descend_into inner fits there (by intro target same; cases same), Volume.descend,
    there]

end Child

end Place

/-- Paths are resolved only when the home is a directory. -/
theorem home_of_resolve {site : Site} {volume : Volume} {path : String} {place : Place}
    (resolved : site.resolve volume path = .ok place) :
    ∃ root, volume.directory (Utf8.encode site.home) = .ok root := by
  rw [← Volume.isDirectory_eq_true_iff]
  unfold Site.resolve Confinement.resolve at resolved
  split at resolved
  · assumption
  · cases resolved

end DesktopGateway.Files
