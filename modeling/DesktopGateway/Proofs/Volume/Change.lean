import DesktopGateway.Volume.Operations

/-!
# Changes to a volume

What each change of the tree and of the files shows at every location. Owners and modes of
directories and the numbers of files are left out of what is shown, so that giving a directory or a
file to somebody is no change.
-/

namespace DesktopGateway.Volume

/-! ## Tables -/

section Tables

variable {α β : Type} [BEq α] [LawfulBEq α]

theorem beq_eq_false_of_ne {first second : α} (different : first ≠ second) :
    (first == second) = false :=
  beq_eq_false_iff_ne.mpr different

theorem lookup_cons_other {key other : α} (different : other ≠ key) (value : β)
    (table : List (α × β)) : ((key, value) :: table).lookup other = table.lookup other := by
  rw [List.lookup_cons, beq_eq_false_of_ne different]

theorem lookup_filter_self (key : α) (table : List (α × β)) :
    (table.filter fun entry => entry.1 != key).lookup key = none := by
  rw [List.lookup_eq_none_iff]
  intro entry member
  have kept := (List.mem_filter.mp member).2
  simp only [bne_iff_ne, ne_eq] at kept
  simp [Ne.symm kept]

theorem lookup_filter_other {key other : α} (different : other ≠ key) (table : List (α × β)) :
    (table.filter fun entry => entry.1 != key).lookup other = table.lookup other := by
  induction table with
  | nil => rfl
  | cons entry rest ih =>
      obtain ⟨first, value⟩ := entry
      by_cases same : first = key
      · rw [List.filter_cons_of_neg (by simp [same]), ih, same, lookup_cons_other different]
      · rw [List.filter_cons_of_pos (by simp [same]), List.lookup_cons, List.lookup_cons, ih]

theorem lookup_replace_self {key : α} {table : List (α × β)} (value : β)
    (present : (table.lookup key).isSome) :
    (table.map fun entry => if entry.1 == key then (key, value) else entry).lookup key =
      some value := by
  induction table with
  | nil => cases present
  | cons entry rest ih =>
      obtain ⟨first, old⟩ := entry
      by_cases same : first = key
      · simp [same]
      · rw [lookup_cons_other (Ne.symm same)] at present
        simp only [List.map_cons, beq_eq_false_of_ne same, Bool.false_eq_true, if_false]
        rw [lookup_cons_other (Ne.symm same), ih present]

theorem lookup_replace_other {key other : α} (different : other ≠ key) (value : β)
    (table : List (α × β)) :
    (table.map fun entry => if entry.1 == key then (key, value) else entry).lookup other =
      table.lookup other := by
  induction table with
  | nil => rfl
  | cons entry rest ih =>
      obtain ⟨first, old⟩ := entry
      by_cases same : first = key
      · simp only [List.map_cons, same, beq_self_eq_true, if_true]
        rw [lookup_cons_other different, lookup_cons_other different, ih]
      · simp only [List.map_cons, beq_eq_false_of_ne same, Bool.false_eq_true, if_false]
        rw [List.lookup_cons, List.lookup_cons, ih]

end Tables

/-! ## Entries -/

variable (volume : Volume)

theorem node?_of_ne_nil {location : Location} (inner : location ≠ []) :
    volume.node? location = volume.entries.lookup location := by
  unfold node?
  rw [if_neg (by simpa using inner)]

theorem node?_put_self {location : Location} (inner : location ≠ []) (node : Node) :
    (volume.put location node).node? location = some node := by
  rw [node?_of_ne_nil _ inner]
  unfold put
  split
  · exact lookup_replace_self node ‹_›
  · rename_i absent
    rw [Bool.not_eq_true, Option.isSome_eq_false_iff, Option.isNone_iff_eq_none] at absent
    rw [List.lookup_append, absent]
    simp

theorem node?_put_other {location other : Location} (different : other ≠ location) (node : Node) :
    (volume.put location node).node? other = volume.node? other := by
  by_cases root : other = []
  · rw [root]
    rfl
  · rw [node?_of_ne_nil _ root, node?_of_ne_nil _ root]
    unfold put
    split
    · exact lookup_replace_other different node volume.entries
    · rw [List.lookup_append, lookup_cons_other different]
      simp

theorem node?_remove_self {location : Location} (inner : location ≠ []) :
    (volume.remove location).node? location = none := by
  rw [node?_of_ne_nil _ inner]
  exact lookup_filter_self location volume.entries

theorem node?_remove_other {location other : Location} (different : other ≠ location) :
    (volume.remove location).node? other = volume.node? other := by
  by_cases root : other = []
  · rw [root]
    rfl
  · rw [node?_of_ne_nil _ root, node?_of_ne_nil _ root]
    exact lookup_filter_other different volume.entries

/-! ## Files -/

@[simp] theorem contentOf_put (location : Location) (node : Node) (number : Nat) :
    (volume.put location node).contentOf number = volume.contentOf number := by
  unfold contentOf record? put
  split <;> rfl

@[simp] theorem contentOf_remove (location : Location) (number : Nat) :
    (volume.remove location).contentOf number = volume.contentOf number := rfl

theorem record?_putRecord (number other : Nat) (record : FileRecord) :
    (volume.putRecord number record).record? other =
      if other = number then some record else volume.record? other := by
  unfold record? putRecord
  by_cases same : other = number
  · simp [same]
  · rw [lookup_cons_other same, lookup_filter_other same, if_neg same]

theorem contentOf_putRecord (number other : Nat) (record : FileRecord) :
    (volume.putRecord number record).contentOf other =
      if other = number then record.content else volume.contentOf other := by
  unfold contentOf
  rw [record?_putRecord]
  split <;> rfl

@[simp] theorem node?_putRecord (number : Nat) (record : FileRecord) (location : Location) :
    (volume.putRecord number record).node? location = volume.node? location := rfl

@[simp] theorem entries_modify (number : Nat) (change : Content → Content) :
    (volume.modify number change).entries = volume.entries := by
  unfold modify
  split <;> rfl

theorem contentOf_modify_other {number other : Nat} (different : other ≠ number)
    (change : Content → Content) :
    (volume.modify number change).contentOf other = volume.contentOf other := by
  unfold modify
  split
  · rw [contentOf_putRecord, if_neg different]
  · rfl

/-- The fresh number is above all numbers in use. -/
theorem lt_freshNumber {number : Nat} (used : number ∈ volume.numbers) :
    number < volume.freshNumber := by
  have bound : ∀ (numbers : List Nat) (start : Nat),
      start ≤ numbers.foldl (fun fresh number => max fresh (number + 1)) start ∧
        ∀ number ∈ numbers,
          number < numbers.foldl (fun fresh number => max fresh (number + 1)) start := by
    intro numbers
    induction numbers with
    | nil =>
        intro start
        exact ⟨Nat.le_refl _, fun _ impossible => absurd impossible List.not_mem_nil⟩
    | cons first rest ih =>
        intro start
        obtain ⟨above, inside⟩ := ih (max start (first + 1))
        rw [List.foldl_cons]
        refine ⟨by omega, ?_⟩
        intro number member
        rcases List.mem_cons.mp member with rfl | later
        · omega
        · exact inside number later
  exact (bound volume.numbers 0).2 number used

theorem lt_freshNumber_of_node? {location : Location} {number : Nat}
    (found : volume.node? location = some (.file number)) : number < volume.freshNumber := by
  apply lt_freshNumber
  unfold node? at found
  split at found
  · cases found
  · obtain ⟨front, back, same, _⟩ := List.lookup_eq_some_iff.mp found
    unfold numbers
    rw [List.mem_append]
    refine Or.inr (List.mem_filterMap.mpr ⟨(location, .file number), ?_, rfl⟩)
    rw [same]
    simp

/-! ## What is stored -/

/-- What stands at a location, without owners, modes and numbers. -/
inductive Stored where
  | file (content : Content)
  | directory
  | link (target : List UInt8)
  | device (device : Device)
  deriving DecidableEq, Repr

def shown : Node → Stored
  | .file number => .file (volume.contentOf number)
  | .directory .. => .directory
  | .link target => .link target
  | .device device => .device device

def stored? (location : Location) : Option Stored :=
  (volume.node? location).map volume.shown

end DesktopGateway.Volume
