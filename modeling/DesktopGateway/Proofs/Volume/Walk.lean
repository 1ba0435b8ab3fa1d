import DesktopGateway.Volume.Walk

/-!
# Where walks end

A walk ends at what stands there, or at a free location inside a directory. It looks at nothing but
the nodes on its way, so that it goes the same way when a free location at its end is filled.
-/

namespace DesktopGateway.Volume

variable {volume : Volume} {follow : Bool} {location : Location} {rest : List Segment}

/-! ## One step -/

section Step

variable {owner : Owner} {mode : Nat}
  (present : volume.node? location = some (.directory owner mode))

include present

attribute [local simp] descend

theorem descend_here :
    descend volume follow location (.here :: rest) = descend volume follow location rest := by
  rw [descend, present]

theorem descend_up :
    descend volume follow location (.up :: rest) =
      descend volume follow location.dropLast rest := by
  rw [descend, present]

variable {name : Name}

theorem descend_long (long : longestName < name.length) :
    descend volume follow location (.name name :: rest) = .refused .nameTooLong := by
  simp [present, long]

theorem descend_free (fits : ¬ longestName < name.length)
    (free : volume.node? (location ++ [name]) = none) :
    descend volume follow location (.name name :: rest) =
      if rest.isEmpty then .found (.absent (location ++ [name])) else .refused .noEntry := by
  simp [present, fits, free]

theorem descend_link {target : List UInt8} (fits : ¬ longestName < name.length)
    (linked : volume.node? (location ++ [name]) = some (.link target)) :
    descend volume follow location (.name name :: rest) =
      if rest.isEmpty && !follow then .found (.entry (location ++ [name]) (.link target))
      else .link location target rest := by
  simp [present, fits, linked]

theorem descend_into {node : Node} (fits : ¬ longestName < name.length)
    (there : volume.node? (location ++ [name]) = some node)
    (other : ∀ target, node = .link target → False) :
    descend volume follow location (.name name :: rest) =
      descend volume follow (location ++ [name]) rest := by
  rw [descend, present]
  simp only [fits, if_false, there]

end Step

theorem descend_blocked {segment : Segment}
    (blocked : ∀ owner mode, volume.node? location = some (.directory owner mode) → False) :
    descend volume follow location (segment :: rest) = .refused .notDirectory := by
  rw [descend.eq_def]
  dsimp only
  split
  · exact absurd ‹_› (blocked _ _)
  · rfl

/-! ## What a walk found -/

def Found.Holds (volume : Volume) : Found → Prop
  | .entry location node => volume.node? location = some node
  | .absent location => location ≠ [] ∧ volume.node? location = none

theorem descend_holds {segments : List Segment} {found : Found}
    (ended : descend volume follow location segments = .found found) : found.Holds volume := by
  fun_induction descend volume follow location segments with
  | case1 location node present =>
      cases ended
      exact present
  | case2 => cases ended
  | case3 location rest owner mode present ih => exact ih ended
  | case4 location rest owner mode present ih => exact ih ended
  | case5 => cases ended
  | case6 location rest owner mode present name fits next free last =>
      cases ended
      exact ⟨List.append_ne_nil_of_right_ne_nil _ (List.cons_ne_nil _ _), free⟩
  | case7 => cases ended
  | case8 location rest owner mode present name fits next target linked last =>
      cases ended
      exact linked
  | case9 => cases ended
  | case10 location rest owner mode present name fits next node there other ih => exact ih ended
  | case11 => cases ended

theorem walk_holds {links : Nat} {segments : List Segment} {found : Found}
    (ended : walk volume follow links location segments = .ok found) : found.Holds volume := by
  induction links generalizing location segments with
  | zero =>
      rw [walk] at ended
      split at ended
      · cases ended
        exact descend_holds ‹_›
      · cases ended
      · cases ended
  | succ links ih =>
      rw [walk] at ended
      split at ended
      · cases ended
        exact descend_holds ‹_›
      · cases ended
      · simp only at ended
        split at ended
        · cases ended
        · exact ih ended

/-- A system call takes a path that is not empty, not too long and not ended early. -/
theorem pathFailure?_eq_none_iff {path : List UInt8} :
    pathFailure? path = none ↔ 0 ∉ path ∧ path ≠ [] ∧ path.length < pathLimit := by
  unfold pathFailure?
  by_cases ended : 0 ∈ path
  · simp [ended]
  · by_cases empty : path = []
    · simp [empty]
    · by_cases long : pathLimit ≤ path.length
      · simp [ended, empty, long]
      · simp [ended, empty, long, Nat.lt_of_not_le long]

/-- A path that is found is walked. -/
theorem find_eq_ok_iff {path : List UInt8} {found : Found} :
    volume.find follow path = .ok found ↔
      pathFailure? path = none ∧
        walk volume follow mostLinks [] (Route.ofBytes path).segments = .ok found := by
  unfold find
  cases pathFailure? path with
  | some failure => simp
  | none =>
      cases walk volume follow mostLinks [] (Route.ofBytes path).segments with
      | error refusal =>
          constructor
          · intro impossible; cases impossible
          · rintro ⟨_, impossible⟩; cases impossible
      | ok reached =>
          constructor
          · intro same; cases same; exact ⟨rfl, rfl⟩
          · rintro ⟨_, same⟩; cases same; rfl

theorem find_holds {path : List UInt8} {found : Found}
    (ended : volume.find follow path = .ok found) : found.Holds volume :=
  walk_holds (find_eq_ok_iff.mp ended).2

/-! ## Walks that stop at a link -/

/-- Without going through the last link, a walk ends where it would end with it, or at a link. -/
theorem descend_unfollowed (location : Location) (segments : List Segment) :
    descend volume false location segments = descend volume true location segments ∨
      ∃ place target, descend volume false location segments =
        .found (.entry place (.link target)) := by
  fun_induction descend volume true location segments with
  | case1 location node present => exact Or.inl (by rw [descend, present])
  | case2 location free => exact Or.inl (by rw [descend, free])
  | case3 location rest owner mode present ih => rwa [descend_here present]
  | case4 location rest owner mode present ih => rwa [descend_up present]
  | case5 location rest owner mode present name long => exact Or.inl (descend_long present long)
  | case6 location rest owner mode present name fits next free last =>
      exact Or.inl (by rw [descend_free present fits free, if_pos last])
  | case7 location rest owner mode present name fits next free more =>
      exact Or.inl (by rw [descend_free present fits free, if_neg more])
  | case8 location rest owner mode present name fits next target linked last =>
      rw [Bool.not_true, Bool.and_false] at last
      cases last
  | case9 location rest owner mode present name fits next target linked through =>
      rw [descend_link present fits linked]
      split
      · exact Or.inr ⟨_, target, rfl⟩
      · exact Or.inl rfl
  | case10 location rest owner mode present name fits next node other there ih =>
      rwa [descend_into present fits there other]
  | case11 location segment rest blocked => exact Or.inl (descend_blocked blocked)

theorem walk_unfollowed {links : Nat} {segments : List Segment} {found : Found}
    (ended : walk volume true links location segments = .ok found) :
    walk volume false links location segments = .ok found ∨
      ∃ place target, walk volume false links location segments =
        .ok (.entry place (.link target)) := by
  induction links generalizing location segments with
  | zero =>
      rw [walk] at ended ⊢
      rcases descend_unfollowed location segments with same | ⟨place, target, stopped⟩
      · rw [same]
        exact Or.inl ended
      · rw [stopped]
        exact Or.inr ⟨place, target, rfl⟩
  | succ links ih =>
      rw [walk] at ended ⊢
      rcases descend_unfollowed location segments with same | ⟨place, target, stopped⟩
      · rw [same]
        cases stop : descend volume true location segments with
        | found reached => rw [stop] at ended; exact Or.inl ended
        | refused refusal => rw [stop] at ended; cases ended
        | link directory target rest =>
            rw [stop] at ended
            simp only at ended ⊢
            split at ended
            · cases ended
            · rename_i filled
              rw [if_neg filled]
              exact ih ended
      · rw [stopped]
        exact Or.inr ⟨place, target, rfl⟩

/-- Where a path leads through links, it also leads without them: to the same end, or to a link. -/
theorem find_unfollowed {path : List UInt8} {found : Found}
    (ended : volume.find true path = .ok found) :
    volume.find false path = .ok found ∨
      ∃ place target, volume.find false path = .ok (.entry place (.link target)) := by
  obtain ⟨usable, walked⟩ := find_eq_ok_iff.mp ended
  rcases walk_unfollowed walked with same | ⟨place, target, stopped⟩
  · exact Or.inl (find_eq_ok_iff.mpr ⟨usable, same⟩)
  · exact Or.inr ⟨place, target, find_eq_ok_iff.mpr ⟨usable, stopped⟩⟩

/-! ## Walks in a volume with more files -/

/-- All nodes are still there, and free locations have at most been filled with files. -/
structure Extends (larger smaller : Volume) : Prop where
  kept : ∀ location node, smaller.node? location = some node → larger.node? location = some node
  filled : ∀ location node, smaller.node? location = none → larger.node? location = some node →
    ∃ number, node = .file number

def Found.within (larger : Volume) : Found → Found
  | .entry location node => .entry location node
  | .absent location =>
      match larger.node? location with
      | some node => .entry location node
      | none => .absent location

def Stop.within (larger : Volume) : Stop → Stop
  | .found reached => .found (reached.within larger)
  | .refused refusal => .refused refusal
  | .link directory target rest => .link directory target rest

theorem descend_within {larger : Volume} (grown : larger.Extends volume)
    {segments : List Segment} {stop : Stop}
    (ended : descend volume follow location segments = stop)
    (unrefused : ∀ refusal, stop ≠ .refused refusal) :
    descend larger follow location segments = stop.within larger := by
  fun_induction descend volume follow location segments with
  | case1 location node present =>
      subst ended
      rw [descend, grown.kept _ _ present]
      rfl
  | case2 => exact absurd ended.symm (unrefused _)
  | case3 location rest owner mode present ih =>
      rw [descend_here (grown.kept _ _ present)]
      exact ih ended
  | case4 location rest owner mode present ih =>
      rw [descend_up (grown.kept _ _ present)]
      exact ih ended
  | case5 => exact absurd ended.symm (unrefused _)
  | case6 location rest owner mode present name fits next free last =>
      subst ended
      have above := grown.kept _ _ present
      cases found : larger.node? next with
      | none =>
          rw [descend_free above fits found, if_pos last, Stop.within, Found.within, found]
      | some node =>
          obtain ⟨number, rfl⟩ := grown.filled _ _ free found
          rw [descend_into above fits found (by intro target same; cases same),
            List.isEmpty_iff.mp last, descend, Stop.within, Found.within, found]
  | case7 => exact absurd ended.symm (unrefused _)
  | case8 location rest owner mode present name fits next target linked last =>
      subst ended
      rw [descend_link (grown.kept _ _ present) fits (grown.kept _ _ linked), if_pos last]
      rfl
  | case9 location rest owner mode present name fits next target linked through =>
      subst ended
      rw [descend_link (grown.kept _ _ present) fits (grown.kept _ _ linked), if_neg through]
      rfl
  | case10 location rest owner mode present name fits next node other there ih =>
      rw [descend_into (grown.kept _ _ present) fits (grown.kept _ _ there) other]
      exact ih ended
  | case11 => exact absurd ended.symm (unrefused _)

theorem walk_within {larger : Volume} (grown : larger.Extends volume) {links : Nat}
    {segments : List Segment} {found : Found}
    (ended : walk volume follow links location segments = .ok found) :
    walk larger follow links location segments = .ok (found.within larger) := by
  induction links generalizing location segments with
  | zero =>
      rw [walk] at ended ⊢
      cases stop : descend volume follow location segments with
      | found reached =>
          rw [stop] at ended
          cases ended
          rw [descend_within grown stop (by intro refusal same; cases same)]
          rfl
      | refused refusal => rw [stop] at ended; cases ended
      | link directory target rest => rw [stop] at ended; cases ended
  | succ links ih =>
      rw [walk] at ended ⊢
      cases stop : descend volume follow location segments with
      | found reached =>
          rw [stop] at ended
          cases ended
          rw [descend_within grown stop (by intro refusal same; cases same)]
          rfl
      | refused refusal => rw [stop] at ended; cases ended
      | link directory target rest =>
          rw [stop] at ended
          rw [descend_within grown stop (by intro refusal same; cases same)]
          simp only [Stop.within] at ended ⊢
          split at ended
          · cases ended
          · rename_i filled
            rw [if_neg filled]
            exact ih ended

/-- A path leads to the same end when files have been added, or to the file that is there now. -/
theorem find_within {larger : Volume} (grown : larger.Extends volume) {path : List UInt8}
    {found : Found} (ended : volume.find follow path = .ok found) :
    larger.find follow path = .ok (found.within larger) := by
  obtain ⟨usable, walked⟩ := find_eq_ok_iff.mp ended
  exact find_eq_ok_iff.mpr ⟨usable, walk_within grown walked⟩

end DesktopGateway.Volume
