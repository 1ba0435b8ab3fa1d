import DesktopGateway.Proofs.Volume.Reading
import DesktopGateway.Proofs.Volume.Change
import DesktopGateway.Proofs.Volume.Trail

/-!
# What stands at and below a location

What a node shows decides its kind and its length and how a walk passes it. The part of a volume at
and below a location, in its order and as it shows, decides what is stored at each of these
locations, which entries a directory among them has, and what stands below it.
-/

namespace DesktopGateway.Volume

open DesktopGateway.Host

/-! ## What a node shows -/

namespace Stored

def isDirectory : Stored → Bool
  | directory => true
  | file _ | link _ | device _ => false

def length : Stored → Nat
  | file content => content.length
  | link target => target.length
  | directory | device _ => 0

def reading : Stored → Except Failure (Nat → List UInt8)
  | file content => .ok content.take
  | device .null => .ok fun _ => []
  | device .zero => .ok fun count => List.replicate count 0
  | directory => .error (.refused .isDirectory)
  | link _ => .error (.refused .tooManyLinks)

def sight : Stored → Sight
  | directory => .directory
  | link target => .link target
  | file _ | device _ => .closed

end Stored

theorem isDirectory_shown (volume : Volume) (node : Node) :
    (volume.shown node).isDirectory = node.isDirectory := by
  cases node <;> rfl

theorem length_shown (volume : Volume) (node : Node) :
    (volume.shown node).length = volume.nodeLength node := by
  cases node with
  | file number => exact (nodeLength_file volume number).symm
  | directory owner mode => rfl
  | link target => rfl
  | device device => rfl

theorem sight_shown (volume : Volume) (node : Node) :
    (volume.shown node).sight = node.sight := by
  cases node <;> rfl

/-- What is read behind a path is what its entry shows. -/
theorem map_read_openFile (volume : Volume) (path : List UInt8) :
    (volume.openFile path).map volume.read =
      (volume.findEntry true path).bind fun entry => (volume.shown entry.2).reading := by
  unfold openFile
  cases volume.findEntry true path with
  | error failure => rfl
  | ok found =>
      obtain ⟨place, node⟩ := found
      cases node with
      | file number => rfl
      | directory owner mode => rfl
      | link target => rfl
      | device device => cases device <;> rfl

/-! ## Regions -/

def pick {α : Type} (volume : Volume) (choice : Location → Option α) : List (α × Stored) :=
  volume.entries.filterMap fun entry => (choice entry.1).map (·, volume.shown entry.2)

/-- The part of a volume at and below a location. -/
def region (volume : Volume) (root : Location) : List (Location × Stored) :=
  volume.pick fun place => if root <+: place then some place else none

/-- What is picked inside a region is picked from the region. -/
theorem pick_eq {α : Type} (volume : Volume) {root : Location} {choice : Location → Option α}
    (inside : ∀ place value, choice place = some value → root <+: place) :
    volume.pick choice =
      (volume.region root).filterMap fun entry => (choice entry.1).map (·, entry.2) := by
  unfold region pick
  rw [List.filterMap_filterMap]
  congr 1
  funext ⟨place, node⟩
  cases chosen : choice place with
  | none => by_cases within : root <+: place <;> simp [within, chosen]
  | some value => simp [inside place value chosen, chosen]

theorem pick_congr {α : Type} {first second : Volume} {root : Location}
    (same : second.region root = first.region root) {choice : Location → Option α}
    (inside : ∀ place value, choice place = some value → root <+: place) :
    second.pick choice = first.pick choice := by
  rw [pick_eq second inside, pick_eq first inside, same]

def nameIn (directory place : Location) : Option Name :=
  match place.getLast? with
  | some name => if place.dropLast = directory then some name else none
  | none => none

/-- The names that lead from a directory to a location below it. -/
def namesBelow (directory place : Location) : Option Location :=
  if directory.isPrefixOf place && directory.length < place.length then
    some (place.drop directory.length)
  else none

/-- The entries whose locations are chosen, in the order of the volume. -/
def chosen {α : Type} (volume : Volume) (choice : Location → Option α) : List (α × Node) :=
  volume.entries.filterMap fun entry => (choice entry.1).map (·, entry.2)

theorem children_eq_chosen (volume : Volume) (location : Location) :
    volume.children location = volume.chosen (nameIn location) := by
  unfold children chosen nameIn
  congr 1
  funext ⟨place, node⟩
  dsimp only
  cases place.getLast? with
  | none => rfl
  | some name =>
      dsimp only
      split <;> rfl

theorem below_eq_chosen (volume : Volume) (location : Location) :
    volume.below location = volume.chosen (namesBelow location) := by
  unfold below chosen namesBelow
  congr 1
  funext ⟨place, node⟩
  dsimp only
  split <;> rfl

theorem shown_chosen {α : Type} (volume : Volume) (choice : Location → Option α) :
    (volume.chosen choice).map (fun entry => (entry.1, volume.shown entry.2)) =
      volume.pick choice := by
  unfold chosen pick
  rw [List.map_filterMap]
  congr 1
  funext entry
  rw [Option.map_map]
  rfl

theorem shown_children (volume : Volume) (location : Location) :
    (volume.children location).map (fun entry => (entry.1, volume.shown entry.2)) =
      volume.pick (nameIn location) := by
  rw [children_eq_chosen, shown_chosen]

theorem shown_below (volume : Volume) (location : Location) :
    (volume.below location).map (fun entry => (entry.1, volume.shown entry.2)) =
      volume.pick (namesBelow location) := by
  rw [below_eq_chosen, shown_chosen]

/-- What is stored in a region can be looked up there. -/
theorem stored?_eq_lookup (volume : Volume) {root location : Location}
    (inside : root <+: location) :
    volume.stored? location =
      if location = [] then some .directory else (volume.region root).lookup location := by
  by_cases top : location = []
  · rw [top]
    rfl
  rw [if_neg top, stored?, node?_of_ne_nil volume top, region, pick]
  induction volume.entries with
  | nil => rfl
  | cons entry rest ih =>
      obtain ⟨place, node⟩ := entry
      by_cases here : place = location
      · subst here
        simp [inside]
      · rw [lookup_cons_other (Ne.symm here), ih, List.filterMap_cons]
        by_cases within : root <+: place
        · simp only [within, if_true, Option.map_some]
          rw [lookup_cons_other (Ne.symm here)]
        · simp only [within, if_false, Option.map_none]

theorem sight?_eq_stored? (volume : Volume) (location : Location) :
    volume.sight? location = (volume.stored? location).map Stored.sight := by
  rw [sight?, stored?, Option.map_map]
  congr 1
  funext node
  exact (sight_shown volume node).symm

section Regions

variable {first second : Volume} {root location : Location}
  (same : second.region root = first.region root) (inside : root <+: location)

include same inside

theorem children_congr :
    (second.children location).map (fun entry => (entry.1, second.shown entry.2)) =
      (first.children location).map fun entry => (entry.1, first.shown entry.2) := by
  rw [shown_children, shown_children]
  apply pick_congr same
  intro place name chosen
  unfold nameIn at chosen
  split at chosen
  · split at chosen
    · rename_i above
      rw [← above] at inside
      exact inside.trans (List.dropLast_prefix place)
    · cases chosen
  · cases chosen

theorem below_congr :
    (second.below location).map (fun entry => (entry.1, second.shown entry.2)) =
      (first.below location).map fun entry => (entry.1, first.shown entry.2) := by
  rw [shown_below, shown_below]
  apply pick_congr same
  intro place names chosen
  unfold namesBelow at chosen
  split at chosen
  · rename_i within
    rw [Bool.and_eq_true] at within
    exact inside.trans (List.isPrefixOf_iff_prefix.mp within.1)
  · cases chosen

theorem stored?_of_region : second.stored? location = first.stored? location := by
  rw [stored?_eq_lookup second inside, stored?_eq_lookup first inside, same]

/-- A walk sees no difference between two volumes with the same region. -/
theorem agreeAt_of_region : AgreeAt first second location := by
  unfold AgreeAt
  rw [sight?_eq_stored?, sight?_eq_stored?, stored?_of_region same inside]

end Regions

end DesktopGateway.Volume
