import Mathlib.Data.String.Basic
import DesktopGateway.Monitoring.Mark

/-!
# What a label has

The entries of a series are in the order of their labels, so a label has one value; a change is seen
at its label and nowhere else.
-/

namespace DesktopGateway.Monitoring

namespace Series

variable {α : Type}

/-- The value of a label, or what it starts with when nobody has asked for it. -/
def value (series : Series α) (initial : α) (label : String) : α :=
  (series.find? label).getD initial

def Ordered (entries : List (String × α)) : Prop :=
  entries.Pairwise fun first second => first.1 < second.1

def Sound (series : Series α) : Prop :=
  Ordered series.entries

section Alter

variable {initial : α} {change : α → α} {label : String} {entries : List (String × α)}

theorem label_of_mem_alter {entry : String × α}
    (among : entry ∈ alter initial change label entries) :
    entry.1 = label ∨ ∃ old ∈ entries, old.1 = entry.1 := by
  induction entries with
  | nil =>
      rw [alter, List.mem_singleton] at among
      exact .inl (congrArg Prod.fst among)
  | cons head later ih =>
      obtain ⟨other, old⟩ := head
      rw [alter] at among
      split at among
      · rcases List.mem_cons.mp among with rfl | among
        · exact .inr ⟨_, List.mem_cons_self, rfl⟩
        · exact .inr ⟨entry, List.mem_cons_of_mem _ among, rfl⟩
      · split at among
        · rcases List.mem_cons.mp among with rfl | among
          · exact .inl rfl
          · exact .inr ⟨entry, among, rfl⟩
        · rcases List.mem_cons.mp among with rfl | among
          · exact .inr ⟨_, List.mem_cons_self, rfl⟩
          · refine (ih among).imp_right ?_
            rintro ⟨known, before, same⟩
            exact ⟨known, List.mem_cons_of_mem _ before, same⟩

theorem Ordered.alter (ordered : Ordered entries) :
    Ordered (alter initial change label entries) := by
  induction entries with
  | nil => exact List.pairwise_singleton _ _
  | cons head later ih =>
      obtain ⟨other, old⟩ := head
      obtain ⟨first, rest⟩ := List.pairwise_cons.mp ordered
      rw [Series.alter]
      split
      · exact List.pairwise_cons.mpr ⟨first, rest⟩
      · rename_i differs
        split
        · rename_i less
          refine List.pairwise_cons.mpr ⟨fun entry among => ?_, ordered⟩
          rcases List.mem_cons.mp among with rfl | among
          · exact less
          · exact lt_trans less (first entry among)
        · rename_i notLess
          have greater : other < label := lt_of_le_of_ne (not_lt.mp notLess) (Ne.symm differs)
          refine List.pairwise_cons.mpr ⟨fun entry among => ?_, ih rest⟩
          rcases label_of_mem_alter among with same | ⟨known, before, same⟩
          · exact same ▸ greater
          · exact same ▸ first known before

theorem lookup_of_lt (less : ∀ entry ∈ entries, label < entry.1) :
    entries.lookup label = none := by
  refine List.lookup_eq_none_iff.mpr fun entry among => ?_
  exact bne_iff_ne.mpr (ne_of_lt (less entry among))

theorem lookup_cons_eq (other : String) (old : α) (later : List (String × α)) (wanted : String) :
    ((other, old) :: later).lookup wanted =
      if wanted = other then some old else later.lookup wanted := by
  rw [List.lookup_cons]
  by_cases own : wanted = other
  · simp [own]
  · simp [own, beq_eq_false_iff_ne.mpr own]

theorem lookup_alter (ordered : Ordered entries) (wanted : String) :
    (alter initial change label entries).lookup wanted =
      if wanted = label then some (change ((entries.lookup label).getD initial))
      else entries.lookup wanted := by
  induction entries with
  | nil => rw [alter, lookup_cons_eq, List.lookup_nil, List.lookup_nil, Option.getD_none]
  | cons head later ih =>
      obtain ⟨other, old⟩ := head
      obtain ⟨first, rest⟩ := List.pairwise_cons.mp ordered
      rw [alter]
      split
      · rename_i same
        subst same
        rw [lookup_cons_eq, lookup_cons_eq, lookup_cons_eq, if_pos rfl, Option.getD_some]
        by_cases own : wanted = label
        · rw [if_pos own, if_pos own]
        · rw [if_neg own, if_neg own, if_neg own]
      · rename_i differs
        split
        · rename_i less
          -- The label stands before all entries, so it has had no value.
          have fresh : ((other, old) :: later).lookup label = none := by
            refine lookup_of_lt fun entry among => ?_
            rcases List.mem_cons.mp among with rfl | among
            · exact less
            · exact lt_trans less (first entry among)
          rw [fresh, lookup_cons_eq, Option.getD_none]
        · rw [lookup_cons_eq, ih rest, lookup_cons_eq, lookup_cons_eq, if_neg differs]
          by_cases own : wanted = label
          · rw [own, if_neg differs, if_pos rfl, if_pos rfl]
          · rw [if_neg own, if_neg own]

end Alter

section Modify

variable {series : Series α}

theorem sound_empty : (empty : Series α).Sound :=
  List.Pairwise.nil

theorem Sound.modify (sound : series.Sound) (label : String) (initial : α) (change : α → α) :
    (series.modify label initial change).Sound :=
  Ordered.alter sound

theorem Sound.value_modify (sound : series.Sound) (label : String) (initial : α)
    (change : α → α) (wanted : String) :
    (series.modify label initial change).value initial wanted =
      if wanted = label then change (series.value initial label)
      else series.value initial wanted := by
  rw [value, find?, Series.modify, lookup_alter sound]
  split
  · rfl
  · rfl

end Modify

end Series

/-- The sum over all labels follows each change. -/
theorem Metrics.activeTotal_modify (series : Series Int) (label : String) (more : Int) :
    (series.modify label 0 (· + more)).values.foldr (· + ·) 0 =
      series.values.foldr (· + ·) 0 + more := by
  obtain ⟨entries⟩ := series
  rw [Series.modify, Series.values, Series.values]
  induction entries with
  | nil => simp [Series.alter]
  | cons head later ih =>
      obtain ⟨other, old⟩ := head
      dsimp only at ih ⊢
      rw [Series.alter]
      split
      · simp only [List.map_cons, List.foldr_cons]
        omega
      · split
        · simp only [List.map_cons, List.foldr_cons]
          omega
        · simp only [List.map_cons, List.foldr_cons, ih]
          omega

end DesktopGateway.Monitoring
