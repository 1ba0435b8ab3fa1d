import DesktopGateway.Proofs.Volume.Walk

/-!
# What a walk looks at

A walk looks at the locations on its trail, and of the node that stands there it only wants to know
whether it is a directory, a link and where to, or something else. Two volumes that agree in this on
a trail are walked alike. A walk that ends at an entry has looked at entries only, so that it goes
the same way when free locations are filled.
-/

namespace DesktopGateway.Volume

/-- What a walk learns from a node. -/
inductive Sight where
  | directory
  | link (target : List UInt8)
  | closed
  deriving DecidableEq, Repr

def Node.sight : Node → Sight
  | directory .. => .directory
  | link target => .link target
  | file _ | device _ => .closed

def sight? (volume : Volume) (location : Location) : Option Sight :=
  (volume.node? location).map Node.sight

section Sights

variable {volume : Volume} {location : Location}

theorem sight?_eq_none_iff : volume.sight? location = none ↔ volume.node? location = none :=
  Option.map_eq_none_iff

theorem sight?_eq_directory_iff :
    volume.sight? location = some .directory ↔
      ∃ owner mode, volume.node? location = some (.directory owner mode) := by
  constructor
  · intro passed
    obtain ⟨node, present, same⟩ := Option.map_eq_some_iff.mp passed
    cases node with
    | directory owner mode => exact ⟨owner, mode, present⟩
    | file number => cases same
    | link target => cases same
    | device device => cases same
  · rintro ⟨owner, mode, present⟩
    rw [sight?, present]
    rfl

theorem sight?_eq_link_iff {target : List UInt8} :
    volume.sight? location = some (.link target) ↔
      volume.node? location = some (.link target) := by
  constructor
  · intro passed
    obtain ⟨node, present, same⟩ := Option.map_eq_some_iff.mp passed
    cases node with
    | directory owner mode => cases same
    | file number => cases same
    | link other =>
        cases same
        exact present
    | device device => cases same
  · intro present
    rw [sight?, present]
    rfl

theorem sight?_of_node? {node : Node} (present : volume.node? location = some node) :
    volume.sight? location = some node.sight := by
  rw [sight?, present]
  rfl

end Sights

/-- To a walk, a location is the same in two volumes. -/
def AgreeAt (first second : Volume) (location : Location) : Prop :=
  second.sight? location = first.sight? location

instance (first second : Volume) (location : Location) :
    Decidable (AgreeAt first second location) :=
  inferInstanceAs (Decidable (_ = _))

namespace AgreeAt

variable {first second : Volume} {location : Location} (agree : AgreeAt first second location)

include agree

theorem free (free : first.node? location = none) : second.node? location = none := by
  rw [← sight?_eq_none_iff, agree, sight?_eq_none_iff, free]

theorem directory {owner : Owner} {mode : Nat}
    (present : first.node? location = some (.directory owner mode)) :
    ∃ owner mode, second.node? location = some (.directory owner mode) := by
  rw [← sight?_eq_directory_iff, agree, sight?_eq_directory_iff]
  exact ⟨owner, mode, present⟩

theorem link {target : List UInt8} (linked : first.node? location = some (.link target)) :
    second.node? location = some (.link target) := by
  rw [← sight?_eq_link_iff, agree, sight?_eq_link_iff, linked]

theorem node {node : Node} (present : first.node? location = some node) :
    ∃ other, second.node? location = some other ∧ other.sight = node.sight := by
  unfold AgreeAt at agree
  rw [sight?_of_node? present] at agree
  exact Option.map_eq_some_iff.mp agree

/-- What is no link in one volume is none in the other. -/
theorem plain {node : Node} (present : first.node? location = some node)
    (other : ∀ target, node = .link target → False) :
    ∃ same, second.node? location = some same ∧ ∀ target, same = .link target → False := by
  obtain ⟨same, there, passed⟩ := agree.node present
  refine ⟨same, there, ?_⟩
  rintro target rfl
  cases node with
  | link target => exact other target rfl
  | directory owner mode => cases passed
  | file number => cases passed
  | device device => cases passed

theorem blocked (shut : ∀ owner mode, first.node? location = some (.directory owner mode) → False) :
    ∀ owner mode, second.node? location = some (.directory owner mode) → False := by
  intro owner mode there
  obtain ⟨_, _, present⟩ := AgreeAt.directory (Eq.symm agree) there
  exact shut _ _ present

end AgreeAt

/-! ## Trails -/

/-- The locations that are looked at until the walk ends or has to go through a link. -/
def stretch (volume : Volume) (location : Location) : List Segment → List Location
  | [] => [location]
  | segment :: rest =>
      location ::
        match volume.node? location with
        | some (.directory ..) =>
            match segment with
            | .here => stretch volume location rest
            | .up => stretch volume location.dropLast rest
            | .name name =>
                if longestName < name.length then []
                else
                  let next := location ++ [name]
                  match volume.node? next with
                  | none | some (.link _) => [next]
                  | some _ => stretch volume next rest
        | _ => []

/-- All locations that a walk looks at, through at most `links` links. -/
def trail (volume : Volume) (follow : Bool) (links : Nat) (location : Location)
    (segments : List Segment) : List Location :=
  stretch volume location segments ++
    match descend volume follow location segments with
    | .found _ | .refused _ => []
    | .link directory target rest =>
        match links with
        | 0 => []
        | links + 1 =>
            if target.isEmpty then []
            else
              let route := Route.ofBytes target
              trail volume follow links (if route.absolute then [] else directory)
                (route.segments ++ rest)
  termination_by structural links

/-- The locations that are looked at on the way along a written path. -/
def pathTrail (volume : Volume) (follow : Bool) (path : List UInt8) : List Location :=
  match pathFailure? path with
  | some _ => []
  | none => trail volume follow mostLinks [] (Route.ofBytes path).segments

def Found.location : Found → Location
  | entry location _ | absent location => location

def Found.at (volume : Volume) (location : Location) : Found :=
  match volume.node? location with
  | some node => .entry location node
  | none => .absent location

theorem Found.location_at (volume : Volume) (location : Location) :
    (Found.at volume location).location = location := by
  unfold Found.at
  split <;> rfl

def Stop.seenIn (volume : Volume) : Stop → Stop
  | .found reached => .found (.at volume reached.location)
  | .refused refusal => .refused refusal
  | .link directory target rest => .link directory target rest

section Steps

variable {volume : Volume} {location : Location} {rest : List Segment}

theorem location_mem_stretch (volume : Volume) (location : Location) (segments : List Segment) :
    location ∈ volume.stretch location segments := by
  cases segments with
  | nil => exact List.mem_singleton.mpr rfl
  | cons segment rest => exact List.mem_cons_self ..

variable {owner : Owner} {mode : Nat}
  (present : volume.node? location = some (.directory owner mode))

include present

theorem stretch_here :
    volume.stretch location (.here :: rest) = location :: volume.stretch location rest := by
  rw [stretch, present]

theorem stretch_up :
    volume.stretch location (.up :: rest) =
      location :: volume.stretch location.dropLast rest := by
  rw [stretch, present]

variable {name : Name} (fits : ¬ longestName < name.length)

include fits

theorem stretch_into {node : Node} (there : volume.node? (location ++ [name]) = some node)
    (other : ∀ target, node = .link target → False) :
    volume.stretch location (.name name :: rest) =
      location :: volume.stretch (location ++ [name]) rest := by
  rw [stretch, present]
  simp only [fits, if_false, there]

theorem stretch_link {target : List UInt8}
    (linked : volume.node? (location ++ [name]) = some (.link target)) :
    volume.stretch location (.name name :: rest) = [location, location ++ [name]] := by
  rw [stretch, present]
  simp only [fits, if_false, linked]

theorem next_mem_stretch : location ++ [name] ∈ volume.stretch location (.name name :: rest) := by
  rw [stretch, present]
  simp only [fits, if_false]
  apply List.mem_cons_of_mem
  split
  · exact List.mem_singleton.mpr rfl
  · exact List.mem_singleton.mpr rfl
  · exact location_mem_stretch ..

end Steps

section Congruence

variable {first second : Volume} {follow : Bool} {location : Location}

/-- A walk goes the same way in two volumes that agree on its trail. -/
theorem descend_congr {segments : List Segment}
    (agree : ∀ place ∈ first.stretch location segments, AgreeAt first second place) :
    descend second follow location segments =
      (descend first follow location segments).seenIn second := by
  have seen := agree location (location_mem_stretch ..)
  fun_induction descend first follow location segments with
  | case1 location node present =>
      obtain ⟨other, there, _⟩ := seen.node present
      simp only [descend, there, Stop.seenIn, Found.location, Found.at]
  | case2 location free => simp only [descend, seen.free free, Stop.seenIn]
  | case3 location rest owner mode present ih =>
      obtain ⟨_, _, there⟩ := seen.directory present
      rw [stretch_here present] at agree
      have later := fun place member => agree place (List.mem_cons_of_mem _ member)
      rw [descend_here there]
      exact ih later (later _ (location_mem_stretch ..))
  | case4 location rest owner mode present ih =>
      obtain ⟨_, _, there⟩ := seen.directory present
      rw [stretch_up present] at agree
      have later := fun place member => agree place (List.mem_cons_of_mem _ member)
      rw [descend_up there]
      exact ih later (later _ (location_mem_stretch ..))
  | case5 location rest owner mode present name long =>
      obtain ⟨_, _, there⟩ := seen.directory present
      exact descend_long there long
  | case6 location rest owner mode present name fits next free last =>
      obtain ⟨_, _, there⟩ := seen.directory present
      have beyond := (agree next (next_mem_stretch present fits)).free free
      rw [descend_free there fits beyond, if_pos last]
      simp only [Stop.seenIn, Found.location, Found.at, beyond]
      rfl
  | case7 location rest owner mode present name fits next free more =>
      obtain ⟨_, _, there⟩ := seen.directory present
      have beyond := (agree next (next_mem_stretch present fits)).free free
      rw [descend_free there fits beyond, if_neg more]
      rfl
  | case8 location rest owner mode present name fits next target linked last =>
      obtain ⟨_, _, there⟩ := seen.directory present
      have beyond := (agree next (next_mem_stretch present fits)).link linked
      rw [descend_link there fits beyond, if_pos last]
      simp only [Stop.seenIn, Found.location, Found.at, beyond]
      rfl
  | case9 location rest owner mode present name fits next target linked through =>
      obtain ⟨_, _, there⟩ := seen.directory present
      have beyond := (agree next (next_mem_stretch present fits)).link linked
      rw [descend_link there fits beyond, if_neg through]
      rfl
  | case10 location rest owner mode present name fits next node other found ih =>
      obtain ⟨_, _, there⟩ := seen.directory present
      obtain ⟨same, standing, plain⟩ :=
        (agree next (next_mem_stretch present fits)).plain found other
      rw [stretch_into present fits found other] at agree
      have later := fun place member => agree place (List.mem_cons_of_mem _ member)
      rw [descend_into there fits standing plain]
      exact ih later (later _ (location_mem_stretch ..))
  | case11 location segment rest shut => exact descend_blocked (seen.blocked shut)

theorem walk_congr {links : Nat} {segments : List Segment}
    (agree : ∀ place ∈ first.trail follow links location segments, AgreeAt first second place) :
    walk second follow links location segments =
      (walk first follow links location segments).map fun found =>
        .at second found.location := by
  induction links generalizing location segments with
  | zero =>
      rw [trail] at agree
      have same := @descend_congr first second follow location segments
        fun place member => agree place (List.mem_append_left _ member)
      rw [walk, walk, same]
      cases descend first follow location segments <;> rfl
  | succ links ih =>
      rw [trail] at agree
      have same := @descend_congr first second follow location segments
        fun place member => agree place (List.mem_append_left _ member)
      rw [walk, walk, same]
      cases stop : descend first follow location segments with
      | found reached => rfl
      | refused refusal => rfl
      | link directory target rest =>
          simp only [Stop.seenIn]
          split
          · rfl
          · rename_i filled
            apply ih
            intro place member
            apply agree
            rw [stop]
            simp only [filled]
            exact List.mem_append_right _ member

/-- A path leads to the same location in two volumes that agree on its trail. -/
theorem find_congr {path : List UInt8}
    (agree : ∀ place ∈ first.pathTrail follow path, AgreeAt first second place) :
    second.find follow path =
      (first.find follow path).map fun found => .at second found.location := by
  unfold pathTrail at agree
  unfold find
  cases failed : pathFailure? path with
  | some failure => rfl
  | none =>
      rw [failed] at agree
      simp only [walk_congr agree]
      cases walk first follow mostLinks [] (Route.ofBytes path).segments <;> rfl

end Congruence

/-! ## Walks that end -/

section Ends

variable {volume : Volume} {follow : Bool} {links : Nat} {location : Location}
  {segments : List Segment}

theorem walk_of_descend_eq {other : Location} {others : List Segment}
    (same : descend volume follow location segments = descend volume follow other others) :
    walk volume follow links location segments = walk volume follow links other others := by
  cases links with
  | zero => rw [walk, walk, same]
  | succ links => rw [walk, walk, same]

/-- A walk has ended, or it goes on behind a link with one link less to go through. -/
theorem walk_eq_ok_iff {found : Found} :
    walk volume follow links location segments = .ok found ↔
      descend volume follow location segments = .found found ∨
        ∃ left directory target rest, links = left + 1 ∧
          descend volume follow location segments = .link directory target rest ∧
          target.isEmpty = false ∧
          walk volume follow left (if (Route.ofBytes target).absolute then [] else directory)
            ((Route.ofBytes target).segments ++ rest) = .ok found := by
  constructor
  · intro ended
    cases stop : descend volume follow location segments with
    | found reached =>
        cases links <;> (rw [walk, stop] at ended; cases ended; exact Or.inl rfl)
    | refused refusal =>
        cases links <;> (rw [walk, stop] at ended; cases ended)
    | link directory target rest =>
        cases links with
        | zero => rw [walk, stop] at ended; cases ended
        | succ left =>
            rw [walk, stop] at ended
            simp only at ended
            split at ended
            · cases ended
            · rename_i filled
              exact Or.inr ⟨left, directory, target, rest, rfl, rfl, by simpa using filled, ended⟩
  · rintro (stop | ⟨left, directory, target, rest, rfl, stop, filled, ended⟩)
    · cases links <;> rw [walk, stop]
    · rw [walk, stop]
      simp only
      rw [if_neg (by simp [filled])]
      exact ended

theorem trail_of_found {found : Found}
    (stop : descend volume follow location segments = .found found) :
    volume.trail follow links location segments = volume.stretch location segments := by
  cases links with
  | zero => rw [trail, stop]; exact List.append_nil _
  | succ links => rw [trail, stop]; exact List.append_nil _

theorem trail_of_link {left : Nat} {directory : Location} {target : List UInt8}
    {rest : List Segment}
    (stop : descend volume follow location segments = .link directory target rest) (filled : target.isEmpty = false) :
    volume.trail follow (left + 1) location segments =
      volume.stretch location segments ++
        volume.trail follow left (if (Route.ofBytes target).absolute then [] else directory)
          ((Route.ofBytes target).segments ++ rest) := by
  rw [trail, stop]
  simp only
  rw [if_neg (by simp [filled])]

end Ends

/-! ## Where walks end -/

section Occupied

variable {volume : Volume} {follow : Bool} {location : Location}

theorem ne_none_of_eq_some {other : Location} {node : Node}
    (present : volume.node? other = some node) : volume.node? other ≠ none := by
  rw [present]
  exact Option.some_ne_none node

/-- What a walk looks at on its way to an entry or a link is there. -/
theorem descend_occupied {segments : List Segment}
    (ended : (∃ place node,
        descend volume follow location segments = .found (.entry place node)) ∨
      ∃ directory target rest,
        descend volume follow location segments = .link directory target rest) :
    ∀ place ∈ volume.stretch location segments, volume.node? place ≠ none := by
  fun_induction descend volume follow location segments with
  | case1 location node present =>
      intro place member
      rw [stretch, List.mem_singleton] at member
      rw [member, present]
      exact Option.some_ne_none node
  | case2 location free =>
      obtain ⟨_, _, impossible⟩ | ⟨_, _, _, impossible⟩ := ended <;> cases impossible
  | case3 location rest owner mode present ih =>
      rw [stretch_here present, List.forall_mem_cons]
      exact ⟨ne_none_of_eq_some present, ih ended⟩
  | case4 location rest owner mode present ih =>
      rw [stretch_up present, List.forall_mem_cons]
      exact ⟨ne_none_of_eq_some present, ih ended⟩
  | case5 location rest owner mode present name long =>
      obtain ⟨_, _, impossible⟩ | ⟨_, _, _, impossible⟩ := ended <;> cases impossible
  | case6 location rest owner mode present name fits next free last =>
      obtain ⟨_, _, impossible⟩ | ⟨_, _, _, impossible⟩ := ended <;> cases impossible
  | case7 location rest owner mode present name fits next free more =>
      obtain ⟨_, _, impossible⟩ | ⟨_, _, _, impossible⟩ := ended <;> cases impossible
  | case8 location rest owner mode present name fits next target linked last =>
      rw [stretch_link present fits linked, List.forall_mem_cons, List.forall_mem_singleton]
      exact ⟨ne_none_of_eq_some present, ne_none_of_eq_some linked⟩
  | case9 location rest owner mode present name fits next target linked through =>
      rw [stretch_link present fits linked, List.forall_mem_cons, List.forall_mem_singleton]
      exact ⟨ne_none_of_eq_some present, ne_none_of_eq_some linked⟩
  | case10 location rest owner mode present name fits next node other there ih =>
      rw [stretch_into present fits there other, List.forall_mem_cons]
      exact ⟨ne_none_of_eq_some present, ih ended⟩
  | case11 location segment rest shut =>
      obtain ⟨_, _, impossible⟩ | ⟨_, _, _, impossible⟩ := ended <;> cases impossible

theorem walk_occupied {links : Nat} {segments : List Segment} {place : Location} {node : Node}
    (ended : walk volume follow links location segments = .ok (.entry place node)) :
    ∀ other ∈ volume.trail follow links location segments, volume.node? other ≠ none := by
  induction links using Nat.strongRecOn generalizing location segments with
  | _ links ih =>
      rcases walk_eq_ok_iff.mp ended with
        stop | ⟨left, directory, target, rest, rfl, stop, filled, further⟩
      · rw [trail_of_found stop]
        exact descend_occupied (.inl ⟨place, node, stop⟩)
      · rw [trail_of_link stop filled, List.forall_mem_append]
        exact ⟨descend_occupied (.inr ⟨directory, target, rest, stop⟩),
          ih left (Nat.lt_succ_self left) further⟩

/-- A walk has looked at the location where it ends. -/
theorem location_mem_stretch_of_found {segments : List Segment} {found : Found}
    (ended : descend volume follow location segments = .found found) :
    found.location ∈ volume.stretch location segments := by
  fun_induction descend volume follow location segments with
  | case1 location node present =>
      cases ended
      exact List.mem_singleton.mpr rfl
  | case2 => cases ended
  | case3 location rest owner mode present ih =>
      rw [stretch_here present]
      exact List.mem_cons_of_mem _ (ih ended)
  | case4 location rest owner mode present ih =>
      rw [stretch_up present]
      exact List.mem_cons_of_mem _ (ih ended)
  | case5 => cases ended
  | case6 location rest owner mode present name fits next free last =>
      cases ended
      exact next_mem_stretch present fits
  | case7 => cases ended
  | case8 location rest owner mode present name fits next target linked last =>
      cases ended
      exact next_mem_stretch present fits
  | case9 => cases ended
  | case10 location rest owner mode present name fits next node other there ih =>
      rw [stretch_into present fits there other]
      exact List.mem_cons_of_mem _ (ih ended)
  | case11 => cases ended

theorem location_mem_trail {links : Nat} {segments : List Segment} {found : Found}
    (ended : walk volume follow links location segments = .ok found) :
    found.location ∈ volume.trail follow links location segments := by
  induction links using Nat.strongRecOn generalizing location segments with
  | _ links ih =>
      rcases walk_eq_ok_iff.mp ended with
        stop | ⟨left, directory, target, rest, rfl, stop, filled, further⟩
      · rw [trail_of_found stop]
        exact location_mem_stretch_of_found stop
      · rw [trail_of_link stop filled]
        exact List.mem_append_right _ (ih left (Nat.lt_succ_self left) further)

theorem location_mem_pathTrail {path : List UInt8} {found : Found}
    (ended : volume.find follow path = .ok found) :
    found.location ∈ volume.pathTrail follow path := by
  obtain ⟨usable, walked⟩ := find_eq_ok_iff.mp ended
  rw [pathTrail, usable]
  exact location_mem_trail walked

/-- A path that leads to an entry leads to the same location when nothing on its way has become
something else to a walk, whatever stands where nothing stood. -/
theorem find_kept {larger : Volume}
    (kept : ∀ other, volume.node? other ≠ none → AgreeAt volume larger other)
    {path : List UInt8} {place : Location} {node : Node}
    (ended : volume.find follow path = .ok (.entry place node)) :
    larger.find follow path = .ok (.at larger place) := by
  obtain ⟨usable, walked⟩ := find_eq_ok_iff.mp ended
  have agree : ∀ other ∈ volume.pathTrail follow path, AgreeAt volume larger other := by
    intro other member
    rw [pathTrail, usable] at member
    exact kept other (walk_occupied walked other member)
  rw [find_congr agree, ended]
  rfl

end Occupied

end DesktopGateway.Volume
