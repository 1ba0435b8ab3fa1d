import Mathlib.Data.List.Induction
import DesktopGateway.Serving.Roster

/-!
# Who is in a roster

After any calls a service has a server exactly when the last call about it puts one in, and then it
has this one.
-/

namespace DesktopGateway.Serving.Roster

open DesktopGateway.Wire

variable {α : Type}

/-- The last call about the service puts this server in. -/
def Latest (changes : List (Change α)) (service : Service) (server : α) : Prop :=
  ∃ earlier later, changes = earlier ++ .insert service server :: later ∧
    ∀ change ∈ later, change.service ≠ service

theorem not_latest_nil {service : Service} {server : α} : ¬ Latest [] service server := by
  rintro ⟨earlier, later, whole, -⟩
  simp at whole

theorem latest_concat_iff {changes : List (Change α)} {last : Change α} {service : Service}
    {server : α} : Latest (changes ++ [last]) service server ↔
      last = .insert service server ∨ last.service ≠ service ∧ Latest changes service server := by
  constructor
  · rintro ⟨earlier, later, whole, others⟩
    rcases later.eq_nil_or_concat with rfl | ⟨later, change, rfl⟩
    · exact .inl (List.cons.inj (List.append_inj' whole rfl).2).1
    · rw [List.concat_eq_append, ← List.cons_append, ← List.append_assoc] at whole
      obtain ⟨front, same⟩ := List.append_inj' whole rfl
      cases same
      exact .inr ⟨others last (by simp), earlier, later, front,
        fun change among => others change (by simp [among])⟩
  · rintro (rfl | ⟨differs, earlier, later, rfl, others⟩)
    · exact ⟨changes, [], rfl, by simp⟩
    · refine ⟨earlier, later ++ [last], by simp, fun change among => ?_⟩
      rcases List.mem_append.mp among with among | among
      · exact others change among
      · rw [List.mem_singleton.mp among]
        exact differs

theorem ofChanges_concat (changes : List (Change α)) (last : Change α) :
    ofChanges (changes ++ [last]) = (ofChanges changes).change last := by
  simp [ofChanges]

theorem find?_ofChanges_iff {changes : List (Change α)} {service : Service} {server : α} :
    (ofChanges changes).find? service = some server ↔ Latest changes service server := by
  induction changes using List.reverseRecOn with
  | nil =>
      rw [ofChanges, List.foldl_nil, find?_empty]
      exact iff_of_false (by simp) not_latest_nil
  | append_singleton changes last ih =>
      rw [ofChanges_concat, latest_concat_iff, ← ih]
      by_cases own : last.service = service
      · subst own
        cases last with
        | insert service other => simp [change, Change.service]
        | erase service => simp [change, Change.service]
      · cases last with
        | insert other stranger =>
            simp only [Change.service] at own
            simp [change, Change.service, own, Ne.symm own]
        | erase other =>
            simp only [Change.service] at own
            simp [change, Change.service, own, Ne.symm own]

/-- The services that are served are those that have a server, in the order of their codes. -/
theorem services_pairwise (roster : Roster α) :
    roster.services.Pairwise fun first second => first.code < second.code :=
  List.Pairwise.filter _ (by decide)

theorem mem_services_ofChanges {changes : List (Change α)} {service : Service} :
    service ∈ (ofChanges changes).services ↔ ∃ server, Latest changes service server := by
  rw [mem_services, Option.isSome_iff_exists]
  exact exists_congr fun server => find?_ofChanges_iff

end DesktopGateway.Serving.Roster
