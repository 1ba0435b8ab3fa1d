import DesktopGateway.Proofs.Files.Confinement

/-!
# Paths are resolved by their text

A path is cut at its slashes, empty parts and dots are left out, and the others are taken one after
the other: a name goes onto a stack and `..` takes the last name off. The path is resolved exactly
if no `..` finds the stack empty, and then the components of the place are those of the home with
the stack behind them. The volume decides nothing but whether there is a home.
-/

namespace DesktopGateway.Volume.Route

/-- The components of a written path. A dot counts only at the beginning of a path that does not
start at the root; empty parts and a closing slash do not count at all. -/
def components (bytes : List UInt8) : Route :=
  let opening := if bytes.head? ≠ some slash ∧ (parts bytes).head? = some [dot] then [.here] else []
  ⟨bytes.head? = some slash, opening ++ (steps bytes).filter (· ≠ .here)⟩

def extend (route : Route) (names : List String) : Route :=
  { route with segments := route.segments ++ names.map fun name => .name (Text.Utf8.encode name) }

/-- A path that begins as another one and goes on with some names has the components of both. -/
theorem components_of_steps {bytes front : List UInt8} {names : List String}
    (absolute : bytes.head? = front.head?)
    (first : (parts bytes).head? = (parts front).head?)
    (behind : steps bytes = steps front ++ names.map fun name => .name (Text.Utf8.encode name)) :
    components bytes = (components front).extend names := by
  have kept : (names.map fun name => Segment.name (Text.Utf8.encode name)).filter (· ≠ .here) =
      names.map fun name => Segment.name (Text.Utf8.encode name) := by
    rw [List.filter_eq_self]
    intro segment member
    obtain ⟨name, _, rfl⟩ := List.mem_map.mp member
    exact decide_eq_true fun impossible => by cases impossible
  unfold components extend
  rw [absolute, first, behind, List.filter_append, kept]
  simp only [List.append_assoc]

end DesktopGateway.Volume.Route

namespace DesktopGateway.Files

open DesktopGateway.Text
open Volume (Route Segment)

namespace Place

variable {place : Place}

/-- A place is written with its home in front. -/
theorem bytes_eq_append (place : Place) : ∃ rest, place.bytes = Utf8.encode place.home ++ rest := by
  rw [bytes, path]
  split
  · exact ⟨[], (List.append_nil _).symm⟩
  · dsimp only
    split
    · exact ⟨_, Utf8.encode_append ..⟩
    · rw [Utf8.encode_append, Utf8.encode_append, List.append_assoc]
      exact ⟨_, rfl⟩

theorem head?_bytes (written : place.home ≠ "") :
    place.bytes.head? = (Utf8.encode place.home).head? := by
  obtain ⟨rest, same⟩ := place.bytes_eq_append
  have filled : Utf8.encode place.home ≠ [] := fun empty =>
    written ((@Utf8.encode_inj place.home "").mp empty)
  rw [same, List.head?_append_of_ne_nil _ filled]

/-- A place begins with the first part of its home. -/
theorem head?_parts_bytes (plain : ∀ name ∈ place.below, IsName name) :
    (Route.parts place.bytes).head? = (Route.parts (Utf8.encode place.home)).head? := by
  by_cases inner : place.below = []
  · rw [bytes, path, inner]
    rfl
  obtain ⟨front, same, filled, home⟩ :=
    parts_path inner fun name listed => (plain name listed).whole
  rw [bytes, Route.parts_encode, Route.parts_encode, List.head?_map, List.head?_map, same,
    List.head?_append_of_ne_nil _ filled]
  rcases home with equal | closed
  · rw [equal]
  · rw [closed, List.head?_append_of_ne_nil _ filled]

/-- The components of a place are those of its home, and its names. -/
theorem components_bytes (written : place.home ≠ "") (plain : ∀ name ∈ place.below, IsName name) :
    Route.components place.bytes =
      (Route.components (Utf8.encode place.home)).extend place.below :=
  Route.components_of_steps (head?_bytes written) (head?_parts_bytes plain) (steps_bytes plain)

end Place

namespace Confinement

/-! ## The stack of names -/

def countedParts (path : String) : List String :=
  ((path.toList.splitOn '/').filter fun part => part ≠ [] ∧ part ≠ ['.']).map String.ofList

/-- The names on the stack after one more part. -/
def moved (names : List String) (part : String) : List String :=
  if part = ".." then names.dropLast else names ++ [part]

def stack (parts : List String) : List String :=
  parts.foldl moved []

/-- No `..` finds the stack empty. -/
def StaysBelow (parts : List String) : Prop :=
  ∀ before after, parts = before ++ ".." :: after → stack before ≠ []

theorem step_skipped (names : List String) {part : List Char} (skipped : part = [] ∨ part = ['.']) :
    step names part = some names := by
  rcases skipped with rfl | rfl <;> rfl

theorem step_name (names : List String) {part : List Char} (filled : part ≠ [])
    (inner : part ≠ ['.']) (lower : part ≠ ['.', '.']) :
    step names part = some (String.ofList part :: names) := by
  simp [step, filled, inner, lower]

/-- Parts that do not count may be left out. -/
theorem foldlM_step_filter (parts : List (List Char)) (names : List String) :
    (parts.filter fun part => part ≠ [] ∧ part ≠ ['.']).foldlM step names =
      parts.foldlM step names := by
  induction parts generalizing names with
  | nil => rfl
  | cons part parts ih =>
      by_cases counted : part ≠ [] ∧ part ≠ ['.']
      · rw [List.filter_cons_of_pos (by simpa using counted), List.foldlM_cons, List.foldlM_cons]
        exact congrArg _ (funext ih)
      · have skipped : part = [] ∨ part = ['.'] := by tauto
        rw [List.filter_cons_of_neg (by simpa using counted), List.foldlM_cons,
          step_skipped names skipped, ih]
        rfl

def StaysBelowFrom (names parts : List String) : Prop :=
  ∀ before after, parts = before ++ ".." :: after → before.foldl moved names ≠ []

theorem staysBelowFrom_cons (names : List String) (part : String) (parts : List String) :
    StaysBelowFrom names (part :: parts) ↔
      (part = ".." → names ≠ []) ∧ StaysBelowFrom (moved names part) parts := by
  constructor
  · intro stays
    constructor
    · rintro rfl
      exact stays [] parts rfl
    · intro before after same
      exact stays (part :: before) after (by rw [same, List.cons_append])
  · rintro ⟨first, later⟩ before after same
    cases before with
    | nil =>
        cases same
        exact first rfl
    | cons other before =>
        cases same
        exact later before after rfl

/-- The names that are walked to are those on the stack, the last one first; the walk ends early
exactly where `..` finds the stack empty. -/
theorem foldlM_step_iff {parts : List String} (counted : ∀ part ∈ parts, part ≠ "" ∧ part ≠ ".")
    (names result : List String) :
    (parts.map String.toList).foldlM step names = some result ↔
      StaysBelowFrom names.reverse parts ∧ result.reverse = parts.foldl moved names.reverse := by
  induction parts generalizing names with
  | nil =>
      constructor
      · intro same
        cases same
        refine ⟨?_, rfl⟩
        intro before after impossible
        cases before <;> cases impossible
      · rintro ⟨_, same⟩
        rw [List.reverse_inj.mp same]
        rfl
  | cons part parts ih =>
      have further := ih fun other member => counted other (List.mem_cons_of_mem _ member)
      rw [List.map_cons, List.foldlM_cons, staysBelowFrom_cons, List.foldl_cons]
      by_cases up : part = ".."
      · subst up
        cases names with
        | nil =>
            constructor
            · intro impossible
              cases impossible
            · rintro ⟨⟨impossible, _⟩, _⟩
              exact absurd rfl (impossible rfl)
        | cons last above =>
            have popped : moved (last :: above).reverse ".." = above.reverse := by
              rw [moved, if_pos rfl, List.reverse_cons, List.dropLast_concat]
            have filled : (".." = ".." → (last :: above).reverse ≠ []) := by simp
            rw [popped, and_iff_right filled, ← further above]
            rfl
      · have here := counted part (List.mem_cons_self ..)
        have pushed : moved names.reverse part = (part :: names).reverse := by
          rw [moved, if_neg up, List.reverse_cons]
        have stepped : step names part.toList = some (part :: names) := by
          have different {text : String} (other : part ≠ text) : part.toList ≠ text.toList :=
            fun same => other (String.toList_inj.mp same)
          rw [step_name names (different here.1) (different here.2) (different up),
            String.ofList_toList]
        rw [pushed, and_iff_right (fun same => absurd same up), stepped, ← further (part :: names)]
        rfl

theorem counted_of_mem {path part : String} (member : part ∈ countedParts path) :
    part ≠ "" ∧ part ≠ "." ∧ '/' ∉ part.toList := by
  obtain ⟨chars, listed, rfl⟩ := List.mem_map.mp member
  obtain ⟨present, counted⟩ := List.mem_filter.mp listed
  rw [decide_eq_true_eq] at counted
  refine ⟨?_, ?_, ?_⟩
  · intro same
    have empty := congrArg String.toList same
    rw [String.toList_ofList] at empty
    exact counted.1 empty
  · intro same
    have dot := congrArg String.toList same
    rw [String.toList_ofList] at dot
    exact counted.2 dot
  · rw [← Parts.of_eq_splitOn] at present
    rw [String.toList_ofList]
    exact Parts.separator_not_mem_of_mem present

/-- A path has names exactly if it stays below the home, and they are what is then on the stack. -/
theorem names?_eq_some_iff (path : String) (names : List String) :
    names? path = some names ↔
      StaysBelow (countedParts path) ∧ names = stack (countedParts path) := by
  have counted : ∀ part ∈ countedParts path, part ≠ "" ∧ part ≠ "." := fun part member =>
    ⟨(counted_of_mem member).1, (counted_of_mem member).2.1⟩
  have walked (result : List String) :
      (Parts.of '/' path.toList).foldlM step [] = some result ↔
        StaysBelow (countedParts path) ∧ result.reverse = stack (countedParts path) := by
    rw [Parts.of_eq_splitOn, ← foldlM_step_filter]
    have same := foldlM_step_iff counted [] result
    have chars : (countedParts path).map String.toList =
        (path.toList.splitOn '/').filter fun part => part ≠ [] ∧ part ≠ ['.'] := by
      have kept : String.toList ∘ String.ofList = id := funext fun _ => String.toList_ofList
      rw [countedParts, List.map_map, kept, List.map_id]
    rw [chars] at same
    exact same
  unfold names?
  rw [Option.map_eq_some_iff]
  constructor
  · rintro ⟨result, reached, rfl⟩
    exact (walked result).mp reached
  · rintro ⟨stays, rfl⟩
    refine ⟨(stack (countedParts path)).reverse, (walked _).mpr ⟨stays, ?_⟩, ?_⟩
    · exact List.reverse_reverse _
    · exact List.reverse_reverse _

theorem mem_of_mem_foldl_moved {names parts : List String} {name : String}
    (member : name ∈ parts.foldl moved names) :
    name ∈ names ∨ name ∈ parts ∧ name ≠ ".." := by
  induction parts generalizing names with
  | nil => exact Or.inl member
  | cons part parts ih =>
      rcases ih member with before | ⟨listed, other⟩
      · unfold moved at before
        split at before
        · exact Or.inl ((List.dropLast_sublist names).subset before)
        · rename_i other
          rcases List.mem_append.mp before with old | new
          · exact Or.inl old
          · rw [List.mem_singleton] at new
            rw [new]
            exact Or.inr ⟨List.mem_cons_self .., other⟩
      · exact Or.inr ⟨List.mem_cons_of_mem _ listed, other⟩

/-- What is left on the stack can be the name of an entry. -/
theorem isName_of_mem_stack {path name : String} (member : name ∈ stack (countedParts path)) :
    IsName name := by
  obtain ⟨listed, other⟩ := (mem_of_mem_foldl_moved member).resolve_left List.not_mem_nil
  obtain ⟨filled, inner, whole⟩ := counted_of_mem listed
  exact ⟨filled, inner, other, whole⟩

/-! ## Names that are resolved again -/

theorem countedParts_intercalate {names : List String} (plain : ∀ name ∈ names, IsName name) :
    countedParts (String.intercalate "/" names) = names := by
  have chars : (names.map String.toList).map String.ofList = names := by
    have kept : String.ofList ∘ String.toList = id := funext fun _ => String.ofList_toList
    rw [List.map_map, kept, List.map_id]
  cases shape : names with
  | nil => rfl
  | cons first others =>
      rw [← shape]
      have parts : (String.intercalate "/" names).toList.splitOn '/' = names.map String.toList := by
        rw [String.toList_intercalate]
        apply List.splitOn_intercalate '/' _ (by simp [shape])
        intro part member
        obtain ⟨name, listed, rfl⟩ := List.mem_map.mp member
        exact (plain name listed).whole
      have all : (names.map String.toList).filter (fun part => part ≠ [] ∧ part ≠ ['.']) =
          names.map String.toList := by
        rw [List.filter_eq_self]
        intro part member
        obtain ⟨name, listed, rfl⟩ := List.mem_map.mp member
        have different {text : String} (other : name ≠ text) : name.toList ≠ text.toList :=
          fun same => other (String.toList_inj.mp same)
        exact decide_eq_true ⟨different (plain name listed).filled,
          different (plain name listed).inner⟩
      rw [countedParts, parts, all, chars]

theorem foldl_moved_names {names : List String} (plain : ∀ name ∈ names, IsName name)
    (start : List String) : names.foldl moved start = start ++ names := by
  induction names generalizing start with
  | nil => exact (List.append_nil start).symm
  | cons name names ih =>
      have pushed : moved start name = start ++ [name] := by
        rw [moved, if_neg (plain name (List.mem_cons_self ..)).lower]
      rw [List.foldl_cons, pushed,
        ih fun other listed => plain other (List.mem_cons_of_mem _ listed), List.append_assoc]
      rfl

/-- The names of a place, joined with slashes, are resolved to these names. -/
theorem names?_intercalate {names : List String} (plain : ∀ name ∈ names, IsName name) :
    names? (String.intercalate "/" names) = some names := by
  rw [names?_eq_some_iff, countedParts_intercalate plain]
  constructor
  · intro before after same
    have up : ".." ∈ names := by
      rw [same]
      exact List.mem_append_right _ (List.mem_cons_self ..)
    exact absurd rfl (plain ".." up).lower
  · exact (foldl_moved_names plain []).symm

end Confinement

/-! ## Resolving on the path itself -/

/-- A path to which names are added and from which they are taken, and how many of its names were
added. -/
structure Cursor where
  route : Route
  depth : Nat

namespace Cursor

/-- Follow one more component. The count keeps the names that were there at the beginning. -/
def step (cursor : Cursor) : Segment → Option Cursor
  | .here => some cursor
  | .up =>
      if cursor.depth = 0 then none
      else
        some ⟨{ cursor.route with segments := cursor.route.segments.dropLast }, cursor.depth - 1⟩
  | .name name =>
      some ⟨{ cursor.route with segments := cursor.route.segments ++ [.name name] },
        cursor.depth + 1⟩

def below (home : Route) (names : List String) : Cursor :=
  ⟨home.extend names, names.length⟩

variable (home : Route)

theorem step_up (names : List String) (last : String) :
    (below home (names ++ [last])).step .up = some (below home names) := by
  unfold below Route.extend step
  simp only [List.length_append, List.length_singleton, Nat.add_one_ne_zero, if_false,
    List.map_append, List.map_singleton, ← List.append_assoc, List.dropLast_concat,
    Nat.add_sub_cancel]

theorem step_name (names : List String) (name : String) :
    (below home names).step (.name (Utf8.encode name)) = some (below home (names ++ [name])) := by
  unfold below Route.extend step
  simp only [List.length_append, List.length_singleton, List.map_append, List.map_singleton,
    List.append_assoc]

theorem foldlM_step_filter (segments : List Segment) (cursor : Cursor) :
    (segments.filter (· ≠ .here)).foldlM step cursor = segments.foldlM step cursor := by
  induction segments generalizing cursor with
  | nil => rfl
  | cons segment segments ih =>
      by_cases still : segment = .here
      · rw [List.filter_cons_of_neg (by simpa using still), ih, still]
        rfl
      · rw [List.filter_cons_of_pos (by simpa using still), List.foldlM_cons, List.foldlM_cons]
        exact congrArg _ (funext ih)

/-- Path and count stay in step with the stack of names. -/
theorem foldlM_step_parts (parts : List (List Char)) (names : List String) :
    (parts.filterMap fun part =>
        Route.segment? (Utf8.encode (String.ofList part))).foldlM step (below home names.reverse) =
      (parts.foldlM Confinement.step names).map fun result => below home result.reverse := by
  induction parts generalizing names with
  | nil => rfl
  | cons part parts ih =>
      rw [List.filterMap_cons, segment?_encode, List.foldlM_cons]
      have same {text : String} : String.ofList part = text ↔ part = text.toList := by
        rw [← String.toList_inj, String.toList_ofList]
      by_cases empty : String.ofList part = ""
      · rw [if_pos empty, Confinement.step_skipped names (.inl (same.mp empty))]
        exact ih names
      by_cases dot : String.ofList part = "."
      · rw [if_neg empty, if_pos dot, Confinement.step_skipped names (.inr (same.mp dot))]
        exact ih names
      by_cases up : String.ofList part = ".."
      · have dots : part = ['.', '.'] := same.mp up
        rw [if_neg empty, if_neg dot, if_pos up, dots]
        cases names with
        | nil => rfl
        | cons last above =>
            rw [List.foldlM_cons, List.reverse_cons, step_up]
            exact ih above
      · rw [if_neg empty, if_neg dot, if_neg up, List.foldlM_cons, step_name,
          ← List.reverse_cons,
          Confinement.step_name names (fun chars => empty (same.mpr chars))
            (fun chars => dot (same.mpr chars)) (fun chars => up (same.mpr chars))]
        exact ih (String.ofList part :: names)

/-- Following the components of a path gives the components of the home and its names. -/
theorem foldlM_step_components (path : String) :
    (Route.components (Utf8.encode path)).segments.foldlM step (below home []) =
      (Confinement.names? path).map (below home) := by
  have opened (opening : List Segment) (dots : opening = [.here] ∨ opening = []) :
      (opening ++ (Route.steps (Utf8.encode path)).filter (· ≠ .here)).foldlM step
          (below home []) =
        (Route.steps (Utf8.encode path)).foldlM step (below home []) := by
    rcases dots with rfl | rfl <;> exact foldlM_step_filter ..
  have walked := foldlM_step_parts home (Parts.of '/' path.toList) []
  unfold Route.components
  dsimp only
  rw [opened _ (by split <;> simp), Route.steps, Route.parts_encode, List.filterMap_map]
  refine walked.trans ?_
  rw [Confinement.names?, Option.map_map]
  rfl

end Cursor

/-! ## Resolution -/

namespace Confinement

/-- With a home, the names of a path decide what becomes of it. -/
theorem resolve_of_home {volume : Volume} {home : String}
    (present : volume.isDirectory (Utf8.encode home) = true) (path : String) :
    resolve volume home path =
      match names? path with
      | some names => .ok ⟨home, names⟩
      | none => .error (.outside path) := by
  rw [resolve, present]
  rfl

/-- Every path has one of these outcomes, which the volume decides only by whether there is a home:
* Without a home, no path is resolved.
* A path on which `..` never finds the stack empty is resolved to the home with the stack behind it.
  All of its names can be names of entries, following the components one by one ends at the place's
  components, and the names behind the home are resolved to the same place again.
* Any other path is refused as one that leads outside, and following its components fails. -/
theorem resolve_lexical (volume : Volume) (home path : String) :
    let names := stack (countedParts path)
    let place : Place := ⟨home, names⟩
    let origin := Route.components (Utf8.encode home)
    let followed := (Route.components (Utf8.encode path)).segments.foldlM Cursor.step ⟨origin, 0⟩
    (∀ other : Volume,
      other.isDirectory (Utf8.encode home) = volume.isDirectory (Utf8.encode home) →
        resolve other home path = resolve volume home path) ∧
      if volume.isDirectory (Utf8.encode home) then
        (StaysBelow (countedParts path) ∧ resolve volume home path = .ok place ∧
            Route.components place.bytes = origin.extend names ∧
            (∀ name ∈ names, IsName name) ∧
            followed = some ⟨Route.components place.bytes, names.length⟩ ∧
            resolve volume home (String.intercalate "/" names) = .ok place) ∨
          ¬ StaysBelow (countedParts path) ∧ resolve volume home path = .error (.outside path) ∧
            followed = none
      else resolve volume home path = .error .disabled := by
  intro names place origin followed
  have start : Cursor.below origin [] = ⟨origin, 0⟩ := by
    unfold Cursor.below Route.extend
    rw [List.map_nil, List.append_nil]
    rfl
  have walked : followed = (names? path).map (Cursor.below origin) := by
    unfold followed
    rw [← start]
    exact Cursor.foldlM_step_components origin path
  refine ⟨?_, ?_⟩
  · intro other same
    unfold resolve
    rw [same]
  · split
    · rename_i present
      have written : home ≠ "" := by
        rintro rfl
        cases present
      have named : ∀ name ∈ names, IsName name := fun _ => isName_of_mem_stack
      by_cases stays : StaysBelow (countedParts path)
      · have found : names? path = some names := (names?_eq_some_iff path names).mpr ⟨stays, rfl⟩
        have components := @Place.components_bytes place written named
        refine Or.inl ⟨stays, ?_, components, named, ?_, ?_⟩
        · rw [resolve_of_home present, found]
        · rw [walked, found, components]
          rfl
        · rw [resolve_of_home present, names?_intercalate named]
      · have lost : names? path = none := by
          rw [Option.eq_none_iff_forall_ne_some]
          intro result found
          exact stays ((names?_eq_some_iff path result).mp found).1
        refine Or.inr ⟨stays, ?_, ?_⟩
        · rw [resolve_of_home present, lost]
        · rw [walked, lost]
          rfl
    · rename_i missing
      simp only [resolve, missing]
      rfl

end Confinement

end DesktopGateway.Files
