import DesktopGateway.Files.Site
import DesktopGateway.Proofs.Volume.Route
import DesktopGateway.Proofs.Wire.Field
import Mathlib.Data.List.Basic

/-!
# Places and the texts they come from

The names of a place are parts of the path that a client wrote, and the name that a client sees is
a part of the place's path. Neither brings in characters of its own. The path of a place leads to
the home and from there over the place's names.
-/

namespace DesktopGateway.Files

open DesktopGateway.Text
open DesktopGateway.Wire

structure IsName (name : String) : Prop where
  filled : name ≠ ""
  inner : name ≠ "."
  lower : name ≠ ".."
  whole : '/' ∉ name.toList

theorem segment?_encode (part : String) :
    Volume.Route.segment? (Utf8.encode part) =
      if part = "" then none
      else if part = "." then some .here
      else if part = ".." then some .up
      else some (.name (Utf8.encode part)) := by
  have empty : (Utf8.encode part).isEmpty = true ↔ part = "" := by
    rw [List.isEmpty_iff]
    exact @Utf8.encode_inj part ""
  have dot : Utf8.encode part = [Volume.Route.dot] ↔ part = "." := @Utf8.encode_inj part "."
  have dots : Utf8.encode part = [Volume.Route.dot, Volume.Route.dot] ↔ part = ".." :=
    @Utf8.encode_inj part ".."
  simp only [Volume.Route.segment?, empty, dot, dots]

theorem IsName.segment? {name : String} (named : IsName name) :
    Volume.Route.segment? (Utf8.encode name) = some (.name (Utf8.encode name)) := by
  rw [segment?_encode, if_neg named.filled, if_neg named.inner, if_neg named.lower]

namespace Place

/-- The shown name is written with bytes of the path. -/
theorem encode_shownName_sublist (place : Place) :
    (Utf8.encode place.shownName).Sublist place.bytes := by
  unfold shownName
  split
  · rename_i name found
    rw [bytes, Volume.Route.encode_lossy_lastName found]
    exact Volume.Route.lastName_sublist found
  · exact List.nil_sublist _

theorem length_encode_shownName (place : Place) :
    (Utf8.encode place.shownName).length ≤ place.bytes.length :=
  place.encode_shownName_sublist.length_le

theorem newline_mem_path {place : Place} (shown : '\n' ∈ place.shownName.toList) :
    '\n' ∈ place.path.toList := by
  rw [← Field.newline_mem_encode_iff] at shown ⊢
  exact place.encode_shownName_sublist.subset shown

/-- Joining names with slashes adds nothing but slashes. -/
theorem mem_of_mem_joined {names : List String} {char : Char} (other : char ≠ '/')
    (member : char ∈ (String.intercalate "/" names).toList) :
    ∃ name ∈ names, char ∈ name.toList := by
  induction names with
  | nil => cases member
  | cons name names ih =>
      cases names with
      | nil =>
          rw [String.intercalate_singleton] at member
          exact ⟨name, List.mem_cons_self .., member⟩
      | cons next later =>
          rw [String.intercalate_cons_cons, String.toList_append, String.toList_append,
            List.mem_append, List.mem_append] at member
          rcases member with (here | slash) | behind
          · exact ⟨name, List.mem_cons_self .., here⟩
          · exact absurd (List.mem_singleton.mp slash) other
          · obtain ⟨found, listed, inside⟩ := ih behind
            exact ⟨found, List.mem_cons_of_mem _ listed, inside⟩

/-- A character of a path other than a slash is in the home's path or in a name. -/
theorem mem_path {place : Place} {char : Char} (found : char ∈ place.path.toList)
    (other : char ≠ '/') :
    char ∈ place.home.toList ∨ ∃ name ∈ place.below, char ∈ name.toList := by
  unfold path at found
  split at found
  · exact Or.inl found
  · dsimp only at found
    rw [String.toList_append, List.mem_append] at found
    rcases found with front | member
    · split at front
      · exact Or.inl front
      · rw [String.toList_append, List.mem_append] at front
        rcases front with inside | slash
        · exact Or.inl inside
        · exact absurd (List.mem_singleton.mp slash) other
    · exact Or.inr (mem_of_mem_joined other member)

/-- Behind the path of the home, every name is a part of its own. -/
theorem parts_path {place : Place} (inner : place.below ≠ [])
    (plain : ∀ name ∈ place.below, '/' ∉ name.toList) :
    ∃ front, Parts.of '/' place.path.toList = front ++ place.below.map String.toList ∧
      front ≠ [] ∧
      (Parts.of '/' place.home.toList = front ∨
        Parts.of '/' place.home.toList = front ++ [[]]) := by
  have joined : Parts.of '/' (String.intercalate "/" place.below).toList =
      place.below.map String.toList := by
    rw [Parts.of_eq_splitOn, String.toList_intercalate]
    apply List.splitOn_intercalate '/' _ (by simpa using inner)
    intro part member
    obtain ⟨name, listed, rfl⟩ := List.mem_map.mp member
    exact plain name listed
  have written (front : List Char) (shape : place.path.toList =
      front ++ '/' :: (String.intercalate "/" place.below).toList) :
      Parts.of '/' place.path.toList = Parts.of '/' front ++ place.below.map String.toList := by
    rw [shape, Parts.of_append_separator, joined]
  unfold path at written ⊢
  rw [if_neg (by simpa using inner)] at written ⊢
  dsimp only at written ⊢
  by_cases closed : place.home.toList.getLast? = some '/'
  · obtain ⟨front, ended⟩ := List.getLast?_eq_some_iff.mp closed
    refine ⟨Parts.of '/' front, written front ?_, List.cons_ne_nil _ _, Or.inr ?_⟩
    · rw [if_pos closed, String.toList_append, ended, List.append_assoc]
      rfl
    · rw [ended, Parts.of_append_separator, Parts.of_nil]
  · refine ⟨Parts.of '/' place.home.toList, written place.home.toList ?_, List.cons_ne_nil _ _,
      Or.inl rfl⟩
    rw [if_neg closed, String.toList_append, String.toList_append, List.append_assoc]
    rfl

/-- The bytes of a place lead to the home and from there over its names. -/
theorem steps_bytes {place : Place} (plain : ∀ name ∈ place.below, IsName name) :
    Volume.Route.steps place.bytes = Volume.Route.steps (Utf8.encode place.home) ++
      place.below.map fun name => .name (Utf8.encode name) := by
  by_cases inner : place.below = []
  · rw [inner, bytes, path, inner]
    exact (List.append_nil _).symm
  obtain ⟨front, written, _, home⟩ := parts_path inner fun name listed => (plain name listed).whole
  have names : (place.below.map String.toList).filterMap
      (fun part => Volume.Route.segment? (Utf8.encode (String.ofList part))) =
      place.below.map fun name => .name (Utf8.encode name) := by
    rw [List.filterMap_map, List.filterMap_eq_map_iff_forall_eq_some]
    intro name listed
    simp only [Function.comp_apply, String.ofList_toList, (plain name listed).segment?]
  unfold Volume.Route.steps
  rw [bytes, Volume.Route.parts_encode, Volume.Route.parts_encode, List.filterMap_map,
    List.filterMap_map]
  rcases home with same | closed
  · rw [written, same, List.filterMap_append, ← names]
    rfl
  · rw [written, closed, List.filterMap_append, List.filterMap_append, ← names]
    exact congrArg (· ++ _) (List.append_nil _).symm

end Place

namespace Confinement

/-- After any number of steps, every name is one of the parts or was there before. -/
theorem mem_of_foldlM_step {parts : List (List Char)} {names result : List String}
    (walked : parts.foldlM step names = some result) {name : String} (member : name ∈ result) :
    name ∈ names ∨ name.toList ∈ parts := by
  induction parts generalizing names with
  | nil =>
      cases walked
      exact Or.inl member
  | cons part parts ih =>
      rw [List.foldlM_cons] at walked
      cases stepped : step names part with
      | none =>
          rw [stepped] at walked
          cases walked
      | some next =>
          rw [stepped] at walked
          rcases ih walked with before | listed
          · unfold step at stepped
            split at stepped
            · cases stepped
              exact Or.inl before
            · split at stepped
              · cases names with
                | nil => cases stepped
                | cons last above =>
                    cases stepped
                    exact Or.inl (List.mem_cons_of_mem _ before)
              · cases stepped
                rcases List.mem_cons.mp before with rfl | old
                · rw [String.toList_ofList]
                  exact Or.inr (List.mem_cons_self ..)
                · exact Or.inl old
          · exact Or.inr (List.mem_cons_of_mem _ listed)

theorem mem_parts_of_names? {path : String} {names : List String}
    (resolved : names? path = some names) {name : String} (member : name ∈ names) :
    name.toList ∈ Parts.of '/' path.toList := by
  unfold names? at resolved
  cases walked : (Parts.of '/' path.toList).foldlM step [] with
  | none =>
      rw [walked] at resolved
      cases resolved
  | some reached =>
      rw [walked] at resolved
      cases resolved
      have present : name ∈ reached := List.mem_reverse.mp member
      exact (mem_of_foldlM_step walked present).resolve_left List.not_mem_nil

theorem resolve_eq_ok {volume : Volume} {home path : String} {place : Place}
    (resolved : resolve volume home path = .ok place) :
    place.home = home ∧ names? path = some place.below := by
  unfold resolve at resolved
  split at resolved
  · split at resolved
    · rename_i names found
      cases resolved
      exact ⟨rfl, found⟩
    · cases resolved
  · cases resolved

/-- A newline in the path of a place comes from the home's path or from the client's. -/
theorem newline_mem_of_resolve {volume : Volume} {home path : String} {place : Place}
    (resolved : resolve volume home path = .ok place) (found : '\n' ∈ place.path.toList) :
    '\n' ∈ home.toList ∨ '\n' ∈ path.toList := by
  obtain ⟨rfl, names⟩ := resolve_eq_ok resolved
  rcases Place.mem_path found (by decide) with above | ⟨name, member, inside⟩
  · exact Or.inl above
  · exact Or.inr ((Parts.sublist_of_mem (mem_parts_of_names? names member)).subset inside)

end Confinement

end DesktopGateway.Files
