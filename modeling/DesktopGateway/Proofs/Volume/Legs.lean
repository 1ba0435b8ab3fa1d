import DesktopGateway.Proofs.Volume.Trail

/-!
# Walks in two legs

A walk over the steps of a path is a walk over the first ones and, from where that ended and with
the links it has left, one over the others. Over names alone and past no link, a walk ends where the
names say.
-/

namespace DesktopGateway.Volume

variable {volume : Volume} {follow : Bool} {location : Location} {back : List Segment}

/-- A walk over more parts goes on from the entry where the walk over the first ones ended. -/
theorem descend_append (filled : back ≠ []) (front : List Segment) :
    match descend volume true location front with
    | .found (.entry place _) =>
        descend volume follow location (front ++ back) = descend volume follow place back
    | .link directory target rest =>
        descend volume follow location (front ++ back) = .link directory target (rest ++ back)
    | _ => ∃ refusal, descend volume follow location (front ++ back) = .refused refusal := by
  have more (rest : List Segment) : (rest ++ back).isEmpty = false := by
    cases rest with
    | nil => simpa using filled
    | cons segment rest => rfl
  fun_induction descend volume true location front with
  | case1 location node present => rfl
  | case2 location free =>
      refine ⟨.notDirectory, ?_⟩
      cases back with
      | nil => exact absurd rfl filled
      | cons segment rest =>
          apply descend_blocked
          intro owner mode present
          rw [free] at present
          cases present
  | case3 location rest owner mode present ih =>
      rw [List.cons_append, descend_here present]
      exact ih
  | case4 location rest owner mode present ih =>
      rw [List.cons_append, descend_up present]
      exact ih
  | case5 location rest owner mode present name long =>
      exact ⟨.nameTooLong, descend_long present long⟩
  | case6 location rest owner mode present name fits next free last =>
      refine ⟨.noEntry, ?_⟩
      rw [List.cons_append, descend_free present fits free, more]
      rfl
  | case7 location rest owner mode present name fits next free _ =>
      refine ⟨.noEntry, ?_⟩
      rw [List.cons_append, descend_free present fits free, more]
      rfl
  | case8 location rest owner mode present name fits next target linked last =>
      rw [Bool.not_true, Bool.and_false] at last
      cases last
  | case9 location rest owner mode present name fits next target linked through =>
      rw [List.cons_append, descend_link present fits linked, more]
      rfl
  | case10 location rest owner mode present name fits next node other there ih =>
      rw [List.cons_append, descend_into present fits there other]
      exact ih
  | case11 location segment rest blocked =>
      exact ⟨.notDirectory, descend_blocked blocked⟩

/-- Where a walk over the first parts ends, and with how many links left, decides where every longer
walk ends. -/
theorem walk_append {links : Nat} {front : List Segment} {place : Location} {node : Node}
    (ended : walk volume true links location front = .ok (.entry place node)) :
    ∃ left, ∀ follow back found, back ≠ [] →
      (walk volume follow links location (front ++ back) = .ok found ↔
        walk volume follow left place back = .ok found) := by
  induction links using Nat.strongRecOn generalizing location front with
  | _ links ih =>
      rcases walk_eq_ok_iff.mp ended with
        stop | ⟨left, directory, target, rest, rfl, stop, followed, further⟩
      · refine ⟨links, ?_⟩
        intro follow back found filled
        have split := @descend_append volume follow location back filled front
        rw [stop] at split
        rw [walk_of_descend_eq split]
      · obtain ⟨remaining, longer⟩ := ih left (Nat.lt_succ_self left) further
        refine ⟨remaining, ?_⟩
        intro follow back found filled
        have split := @descend_append volume follow location back filled front
        rw [stop] at split
        rw [← longer follow back found filled, walk_eq_ok_iff, split, List.append_assoc]
        constructor
        · rintro (impossible | ⟨_, _, _, _, same, stopped, _, later⟩)
          · cases impossible
          · cases same
            cases stopped
            exact later
        · intro later
          exact Or.inr ⟨left, directory, target, rest ++ back, rfl, rfl, followed, later⟩

/-- What a longer walk looks at before and behind the entry where its first parts end. -/
theorem mem_stretch_append {front : List Segment} {place : Location} {node : Node}
    (ended : descend volume true location front = .found (.entry place node)) (other : Location) :
    other ∈ volume.stretch location (front ++ back) ↔
      other ∈ volume.stretch location front ∨ other ∈ volume.stretch place back := by
  fun_induction descend volume true location front with
  | case1 location node present =>
      cases ended
      rw [stretch, List.mem_singleton, List.nil_append]
      constructor
      · exact Or.inr
      · rintro (rfl | behind)
        · exact location_mem_stretch ..
        · exact behind
  | case2 => cases ended
  | case3 location rest owner mode present ih =>
      rw [List.cons_append, stretch_here present, stretch_here present, List.mem_cons,
        List.mem_cons, ih ended, or_assoc]
  | case4 location rest owner mode present ih =>
      rw [List.cons_append, stretch_up present, stretch_up present, List.mem_cons, List.mem_cons,
        ih ended, or_assoc]
  | case5 => cases ended
  | case6 => cases ended
  | case7 => cases ended
  | case8 location rest owner mode present name fits next target linked last =>
      rw [Bool.not_true, Bool.and_false] at last
      cases last
  | case9 => cases ended
  | case10 location rest owner mode present name fits next node unlinked there ih =>
      rw [List.cons_append, stretch_into present fits there unlinked,
        stretch_into present fits there unlinked, List.mem_cons, List.mem_cons, ih ended, or_assoc]
  | case11 => cases ended

/-- Up to a link that is gone through, a longer walk looks at nothing else. -/
theorem stretch_append_of_link {front : List Segment} {directory : Location} {target : List UInt8}
    {rest : List Segment}
    (stop : descend volume true location front = .link directory target rest) :
    volume.stretch location (front ++ back) = volume.stretch location front := by
  fun_induction descend volume true location front with
  | case1 => cases stop
  | case2 => cases stop
  | case3 location rest owner mode present ih =>
      rw [List.cons_append, stretch_here present, stretch_here present, ih stop]
  | case4 location rest owner mode present ih =>
      rw [List.cons_append, stretch_up present, stretch_up present, ih stop]
  | case5 => cases stop
  | case6 => cases stop
  | case7 => cases stop
  | case8 => cases stop
  | case9 location rest owner mode present name fits next target linked through =>
      rw [List.cons_append, stretch_link present fits linked, stretch_link present fits linked]
  | case10 location rest owner mode present name fits next node unlinked there ih =>
      rw [List.cons_append, stretch_into present fits there unlinked,
        stretch_into present fits there unlinked, ih stop]
  | case11 => cases stop

/-- The trail of a longer walk is that of its first parts and, from where they end, that of the
others. -/
theorem mem_trail_append {links : Nat} {front : List Segment} {place : Location} {node : Node}
    (ended : walk volume true links location front = .ok (.entry place node)) :
    ∃ left, ∀ follow back other, back ≠ [] →
      (other ∈ volume.trail follow links location (front ++ back) ↔
        other ∈ volume.trail true links location front ∨
          other ∈ volume.trail follow left place back) := by
  induction links using Nat.strongRecOn generalizing location front with
  | _ links ih =>
      rcases walk_eq_ok_iff.mp ended with
        stop | ⟨left, directory, target, rest, rfl, stop, followed, further⟩
      · refine ⟨links, ?_⟩
        intro follow back other filled
        have split := @descend_append volume follow location back filled front
        rw [stop] at split
        rw [trail_of_found stop, trail, trail, split, List.mem_append, List.mem_append,
          mem_stretch_append stop, or_assoc]
      · obtain ⟨remaining, longer⟩ := ih left (Nat.lt_succ_self left) further
        refine ⟨remaining, ?_⟩
        intro follow back other filled
        have split := @descend_append volume follow location back filled front
        rw [stop] at split
        rw [trail_of_link stop followed, trail_of_link split followed,
          stretch_append_of_link stop, ← List.append_assoc, List.mem_append, List.mem_append,
          longer follow back other filled, or_assoc]

/-- Before a longer walk ends, the walk over its first parts has ended at an entry. -/
theorem walk_of_append {links : Nat} {front : List Segment} {found : Found} (filled : back ≠ [])
    (ended : walk volume follow links location (front ++ back) = .ok found) :
    ∃ place node, walk volume true links location front = .ok (.entry place node) := by
  induction links using Nat.strongRecOn generalizing location front with
  | _ links ih =>
      have split := @descend_append volume follow location back filled front
      have going : ∀ refusal, descend volume follow location (front ++ back) ≠
          .refused refusal := by
        intro refusal refused
        rcases walk_eq_ok_iff.mp ended with stop | ⟨_, _, _, _, _, stop, _⟩ <;>
          rw [refused] at stop <;> cases stop
      cases stop : descend volume true location front with
      | found reached =>
          cases reached with
          | entry place node => exact ⟨place, node, walk_eq_ok_iff.mpr (.inl stop)⟩
          | absent place =>
              rw [stop] at split
              obtain ⟨refusal, refused⟩ := split
              exact absurd refused (going refusal)
      | refused refusal =>
          rw [stop] at split
          obtain ⟨other, refused⟩ := split
          exact absurd refused (going other)
      | link directory target rest =>
          rw [stop] at split
          rcases walk_eq_ok_iff.mp ended with
            ended | ⟨left, _, _, _, rfl, passed, followed, further⟩
          · rw [split] at ended
            cases ended
          · rw [split] at passed
            cases passed
            rw [← List.append_assoc] at further
            obtain ⟨place, node, reached⟩ := ih left (Nat.lt_succ_self left) further
            exact ⟨place, node, walk_eq_ok_iff.mpr
              (.inr ⟨left, directory, target, rest, rfl, stop, followed, reached⟩)⟩

/-! ## Names without links -/

/-- No link stands at a location or on the way there from another one. -/
def Unlinked (volume : Volume) (location : Location) (names : List Name) : Prop :=
  ∀ front, front <+: names → front ≠ [] →
    ∀ target, volume.node? (location ++ front) ≠ some (.link target)

theorem unlinked_nil : volume.Unlinked location [] := by
  intro front inside filled
  exact absurd (List.prefix_nil.mp inside) filled

theorem unlinked_cons_iff {name : Name} {names : List Name} :
    volume.Unlinked location (name :: names) ↔
      (∀ target, volume.node? (location ++ [name]) ≠ some (.link target)) ∧
        volume.Unlinked (location ++ [name]) names := by
  constructor
  · intro plain
    refine ⟨plain [name] (List.prefix_append [name] names) (List.cons_ne_nil _ _), ?_⟩
    intro front inside filled target
    rw [List.append_assoc]
    exact plain (name :: front) ((List.prefix_cons_inj name).mpr inside) (List.cons_ne_nil _ _)
      target
  · rintro ⟨first, plain⟩ front inside filled target
    rcases List.prefix_cons_iff.mp inside with empty | ⟨rest, rfl, within⟩
    · exact absurd empty filled
    · by_cases alone : rest = []
      · rw [alone]
        exact first target
      · have further := plain rest within alone target
        rwa [List.append_assoc] at further

theorem descend_names {names : List Name} (plain : volume.Unlinked location names) :
    match descend volume follow location (names.map .name) with
    | .found found => found.location = location ++ names
    | .refused _ => True
    | .link .. => False := by
  induction names generalizing location with
  | nil =>
      rw [List.map_nil, descend]
      cases volume.node? location with
      | none => trivial
      | some node => exact (List.append_nil location).symm
  | cons name names ih =>
      obtain ⟨first, beneath⟩ := unlinked_cons_iff.mp plain
      rw [List.map_cons]
      by_cases reached : ∃ owner mode, volume.node? location = some (.directory owner mode)
      · obtain ⟨owner, mode, present⟩ := reached
        by_cases long : longestName < name.length
        · rw [descend_long present long]
          trivial
        cases beyond : volume.node? (location ++ [name]) with
        | none =>
            rw [descend_free present long beyond]
            cases names with
            | nil => rfl
            | cons next names => trivial
        | some node =>
            have other : ∀ target, node = .link target → False := by
              rintro target rfl
              exact first target beyond
            have further := ih beneath
            rw [List.append_assoc] at further
            rw [descend_into present long beyond other]
            exact further
      · rw [descend_blocked fun owner mode present => reached ⟨owner, mode, present⟩]
        trivial

/-- One step that does not go through a link ends at what stands under its name. -/
theorem descend_name {owner : Owner} {mode : Nat}
    (present : volume.node? location = some (.directory owner mode)) (name : Name) :
    descend volume false location [.name name] =
      if longestName < name.length then .refused .nameTooLong
      else .found (.at volume (location ++ [name])) := by
  split
  · exact descend_long present ‹_›
  · rename_i fits
    cases there : volume.node? (location ++ [name]) with
    | none =>
        rw [descend_free present fits there, Found.at, there]
        rfl
    | some node =>
        by_cases linked : ∃ target, node = .link target
        · obtain ⟨target, rfl⟩ := linked
          rw [descend_link present fits there, Found.at, there]
          rfl
        · rw [descend_into present fits there fun target same => linked ⟨target, same⟩, descend,
            there, Found.at, there]

/-- On its stretch over names, a walk looks at the location and below it. -/
theorem prefix_of_mem_stretch_names (names : List Name) :
    ∀ other ∈ volume.stretch location (names.map .name), location <+: other := by
  induction names generalizing location with
  | nil =>
      intro other member
      obtain rfl := List.mem_singleton.mp member
      exact List.prefix_refl _
  | cons name names ih =>
      have next : location <+: location ++ [name] := List.prefix_append ..
      intro other member
      rw [List.map_cons, stretch, List.mem_cons] at member
      rcases member with rfl | later
      · exact List.prefix_refl _
      · split at later
        · simp only at later
          split at later
          · cases later
          · split at later
            · rw [List.mem_singleton.mp later]
              exact next
            · rw [List.mem_singleton.mp later]
              exact next
            · exact next.trans (ih other later)
        · cases later

theorem prefix_of_mem_trail_names {links : Nat} {names : List Name}
    (plain : volume.Unlinked location names) :
    ∀ other ∈ volume.trail follow links location (names.map .name), location <+: other := by
  have direct := @descend_names volume follow location names plain
  intro other member
  apply prefix_of_mem_stretch_names names other
  cases stop : descend volume follow location (names.map .name) with
  | found found => rwa [trail_of_found stop] at member
  | refused refusal =>
      rw [trail, stop] at member
      simpa using member
  | link directory target rest =>
      rw [stop] at direct
      exact direct.elim

/-- Without links on its way, a walk over names ends where the names say. -/
theorem location_of_walk_names {links : Nat} {names : List Name} {found : Found}
    (plain : volume.Unlinked location names)
    (ended : walk volume follow links location (names.map .name) = .ok found) :
    found.location = location ++ names := by
  have direct := @descend_names volume follow location names plain
  rcases walk_eq_ok_iff.mp ended with stop | ⟨_, _, _, _, _, stop, _⟩
  · rw [stop] at direct
    exact direct
  · rw [stop] at direct
    exact direct.elim

end DesktopGateway.Volume
