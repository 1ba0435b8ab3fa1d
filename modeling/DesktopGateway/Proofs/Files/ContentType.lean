import DesktopGateway.Files.Excerpt
import Mathlib.Data.List.TakeWhile

/-!
# Telling content types apart

The tests of a content type exclude each other, so that their order does not matter. Only the window
at the beginning of the data counts, blanks in front of markup do not, and no test looks beyond the
data.
-/

namespace DesktopGateway.Files.ContentType

/-! ## Rules -/

/-- One test: for a signature, for the form of a container, for a tag or for the declaration. -/
inductive Rule where
  | signature (mark : List UInt8) (type : ContentType)
  | container (form : List UInt8) (type : ContentType)
  | opening (tag : List UInt8)
  | declaration
  deriving DecidableEq, Repr

namespace Rule

def type : Rule → ContentType
  | signature _ type => type
  | container _ type => type
  | opening _ => html
  | declaration => xml

def Claims (head : List UInt8) : Rule → Prop
  | signature mark _ => mark <+: head
  | container form _ => codes "RIFF" <+: head ∧ 12 ≤ head.length ∧ (head.drop 8).take 4 = form
  | opening tag => opensWith tag (head.dropWhile isBlank) = true
  | declaration => codes "<?xml" <+: head.dropWhile isBlank

instance (head : List UInt8) (rule : Rule) : Decidable (rule.Claims head) :=
  match rule with
  | signature mark _ => inferInstanceAs (Decidable (mark <+: head))
  | container form _ => inferInstanceAs (Decidable
      (codes "RIFF" <+: head ∧ 12 ≤ head.length ∧ (head.drop 8).take 4 = form))
  | opening tag => inferInstanceAs (Decidable (opensWith tag (head.dropWhile isBlank) = true))
  | declaration => inferInstanceAs (Decidable (codes "<?xml" <+: head.dropWhile isBlank))

end Rule

def rules : List Rule :=
  (signatures.map fun entry => .signature entry.1 entry.2) ++
    (containers.map fun entry => .container entry.1 entry.2) ++ tags.map .opening ++ [.declaration]

def claimed? (order : List Rule) (head : List UInt8) : Option ContentType :=
  (order.find? fun rule => rule.Claims head).map Rule.type

def unclaimed (head : List UInt8) : ContentType :=
  if head.any isBinary then binary else text

theorem mem_rules {rule : Rule} : rule ∈ rules ↔
    (∃ entry ∈ signatures, rule = .signature entry.1 entry.2) ∨
      (∃ entry ∈ containers, rule = .container entry.1 entry.2) ∨
      (∃ tag ∈ tags, rule = .opening tag) ∨ rule = .declaration := by
  simp only [rules, List.mem_append, List.mem_map, List.mem_singleton, or_assoc, eq_comm]

/-- The type that one of the families claims, asked one after the other. -/
def recognised? (head : List UInt8) : Option ContentType :=
  bySignature? head <|> byContainer? head <|> byTag? head <|> byDeclaration? head

theorem ofHead_eq (head : List UInt8) :
    ofHead head = (recognised? head).getD (unclaimed head) := by
  rw [ofHead, ← recognised?]
  cases recognised? head with
  | none => rfl
  | some found => rfl

/-! ## What excludes what -/

theorem signature_unique {head : List UInt8} {first second : List UInt8 × ContentType}
    (listed : first ∈ signatures) (member : second ∈ signatures) (here : first.1 <+: head)
    (there : second.1 <+: head) : first.2 = second.2 := by
  have apart : ∀ one ∈ signatures, ∀ other ∈ signatures, one.1 <+: other.1 → one.2 = other.2 := by
    decide
  rcases List.prefix_or_prefix_of_prefix here there with front | behind
  · exact apart first listed second member front
  · exact (apart second member first listed behind).symm

theorem not_signature_of_container {head : List UInt8} (container : codes "RIFF" <+: head)
    {entry : List UInt8 × ContentType} (listed : entry ∈ signatures) : ¬ entry.1 <+: head := by
  intro signature
  have apart : ∀ one ∈ signatures, ¬ (codes "RIFF" <+: one.1 ∨ one.1 <+: codes "RIFF") := by
    decide
  have nested := List.prefix_or_prefix_of_prefix container signature
  exact apart entry listed nested

def OpensMarkup (head : List UInt8) : Prop :=
  (head.dropWhile isBlank).head? = some 60

theorem not_opensMarkup {mark head : List UInt8} (opens : mark <+: head)
    (other : ∃ first ∈ mark.head?, isBlank first = false ∧ first ≠ 60) : ¬ OpensMarkup head := by
  obtain ⟨first, begins, filled, different⟩ := other
  obtain ⟨rest, rfl⟩ := opens
  obtain ⟨more, rfl⟩ := List.head?_eq_some_iff.mp begins
  intro markup
  rw [OpensMarkup, List.cons_append, List.dropWhile_cons_of_neg (by simp [filled])] at markup
  exact different (Option.some.inj markup)

theorem not_signature_of_opensMarkup {head : List UInt8} (markup : OpensMarkup head)
    {entry : List UInt8 × ContentType} (listed : entry ∈ signatures) : ¬ entry.1 <+: head := by
  intro signature
  have others : ∀ one ∈ signatures, ∃ first ∈ one.1.head?, isBlank first = false ∧ first ≠ 60 := by
    decide
  exact not_opensMarkup signature (others entry listed) markup

theorem not_container_of_opensMarkup {head : List UInt8} (markup : OpensMarkup head) :
    ¬ codes "RIFF" <+: head := by
  intro container
  exact not_opensMarkup container ⟨82, by decide, by decide, by decide⟩ markup

/-- A tag opens content that has the tag in any case and a blank or a closing bracket behind it. -/
theorem opensWith_iff {tag content : List UInt8} : opensWith tag content = true ↔
    ∃ front terminator rest, content = front ++ terminator :: rest ∧ front.map capital = tag ∧
      (terminator = 32 ∨ terminator = 62) := by
  unfold opensWith
  rw [Bool.and_eq_true, List.isPrefixOf_iff_prefix]
  constructor
  · rintro ⟨opens, closed⟩
    have front : (content.take tag.length).map capital = tag := by
      rw [List.map_take]
      exact (List.prefix_iff_eq_take.mp opens).symm
    cases behind : content.drop tag.length with
    | nil =>
        rw [behind] at closed
        cases closed
    | cons terminator rest =>
        rw [behind] at closed
        refine ⟨content.take tag.length, terminator, rest, ?_, front, by simpa using closed⟩
        rw [← behind, List.take_append_drop]
  · rintro ⟨front, terminator, rest, rfl, rfl, closed⟩
    refine ⟨?_, ?_⟩
    · rw [List.map_append]
      exact List.prefix_append ..
    · rw [List.length_map, List.drop_left]
      simpa using closed

/-- Brackets and question marks are the capital form of nothing else. -/
theorem eq_of_capital {byte mark : UInt8} (same : capital byte = mark) (small : mark < 65) :
    byte = mark := by
  unfold capital at same
  split at same
  · rename_i letter
    rw [Bool.and_eq_true, decide_eq_true_eq, decide_eq_true_eq] at letter
    grind
  · exact same

theorem opensMarkup_of_opensWith {head tag : List UInt8} (listed : tag ∈ tags)
    (opens : opensWith tag (head.dropWhile isBlank) = true) : OpensMarkup head := by
  have brackets : ∀ one ∈ tags, one.head? = some 60 := by decide
  obtain ⟨front, terminator, rest, content, rfl, -⟩ := opensWith_iff.mp opens
  have begins := brackets _ listed
  rw [List.head?_map, Option.map_eq_some_iff] at begins
  obtain ⟨first, begins, bracket⟩ := begins
  rw [OpensMarkup, content, List.head?_append, begins, eq_of_capital bracket (by decide)]
  rfl

theorem opensMarkup_of_declaration {head : List UInt8}
    (opens : codes "<?xml" <+: head.dropWhile isBlank) : OpensMarkup head := by
  obtain ⟨rest, content⟩ := opens
  rw [OpensMarkup, ← content, List.head?_append]
  rfl

/-- No tag has a question mark behind its bracket. -/
theorem not_opensWith_of_declaration {content tag : List UInt8} (opens : codes "<?xml" <+: content)
    (listed : tag ∈ tags) : opensWith tag content = false := by
  have seconds : ∀ one ∈ tags, 2 ≤ one.length ∧ one[1]? ≠ some 63 := by decide
  rw [Bool.eq_false_iff]
  intro opening
  obtain ⟨front, terminator, rest, rfl, rfl, -⟩ := opensWith_iff.mp opening
  obtain ⟨length, second⟩ := seconds _ listed
  obtain ⟨more, content⟩ := opens
  rw [List.length_map] at length
  have mark : front[1]? = some 63 := by
    rw [← List.getElem?_append_left (by omega), ← content]
    rfl
  exact second (by rw [List.getElem?_map, mark]; rfl)

/-! ## One type at the most -/

theorem bySignature?_eq_some {head : List UInt8} {entry : List UInt8 × ContentType}
    (listed : entry ∈ signatures) (opens : entry.1 <+: head) :
    bySignature? head = some entry.2 := by
  rw [bySignature?, Option.map_eq_some_iff]
  cases found : signatures.find? fun signature => signature.1.isPrefixOf head with
  | none =>
      exact absurd (List.isPrefixOf_iff_prefix.mpr opens) (List.find?_eq_none.mp found _ listed)
  | some first =>
      have matched := List.find?_some found
      have begins := List.isPrefixOf_iff_prefix.mp matched
      exact ⟨first, rfl, signature_unique (List.mem_of_find?_eq_some found) listed begins opens⟩

theorem bySignature?_eq_none {head : List UInt8}
    (others : ∀ entry ∈ signatures, ¬ entry.1 <+: head) : bySignature? head = none := by
  rw [bySignature?, Option.map_eq_none_iff, List.find?_eq_none]
  intro entry listed opens
  exact others entry listed (List.isPrefixOf_iff_prefix.mp opens)

theorem byContainer?_eq_none {head : List UInt8} (other : ¬ codes "RIFF" <+: head) :
    byContainer? head = none := by
  rw [byContainer?, if_neg]
  rw [Bool.and_eq_true, List.isPrefixOf_iff_prefix]
  exact fun both => other both.1

theorem byTag?_eq_none {head : List UInt8}
    (others : ∀ tag ∈ tags, opensWith tag (head.dropWhile isBlank) = false) :
    byTag? head = none := by
  have no : (tags.any fun tag => opensWith tag (head.dropWhile isBlank)) = false :=
    List.any_eq_false.mpr fun tag listed => Bool.eq_false_iff.mp (others tag listed)
  exact if_neg (by rw [no]; decide)

/-- A rule that claims data gives them their type, whatever family comes first. -/
theorem recognised?_of_claims {head : List UInt8} {rule : Rule} (listed : rule ∈ rules)
    (claims : rule.Claims head) : recognised? head = some rule.type := by
  unfold recognised?
  obtain ⟨entry, member, rfl⟩ | ⟨entry, member, rfl⟩ | ⟨tag, member, rfl⟩ | rfl :=
    mem_rules.mp listed
  · rw [bySignature?_eq_some member claims]
    rfl
  · obtain ⟨mark, length, form⟩ := claims
    have looked : byContainer? head = some entry.2 := by
      have both : ((codes "RIFF").isPrefixOf head && 12 ≤ head.length) = true := by
        rw [Bool.and_eq_true, List.isPrefixOf_iff_prefix, decide_eq_true_eq]
        exact ⟨mark, length⟩
      have lookups : ∀ one ∈ containers, containers.lookup one.1 = some one.2 := by decide
      rw [byContainer?, if_pos both, form]
      exact lookups entry member
    rw [bySignature?_eq_none fun other => not_signature_of_container mark, looked]
    rfl
  · have markup := opensMarkup_of_opensWith member claims
    have opened : byTag? head = some html := by
      have some : (tags.any fun tag => opensWith tag (head.dropWhile isBlank)) = true :=
        List.any_eq_true.mpr ⟨tag, member, claims⟩
      exact if_pos some
    rw [bySignature?_eq_none fun other => not_signature_of_opensMarkup markup,
      byContainer?_eq_none (not_container_of_opensMarkup markup), opened]
    rfl
  · have markup := opensMarkup_of_declaration claims
    have declared : byDeclaration? head = some xml := by
      rw [byDeclaration?]
      exact if_pos (List.isPrefixOf_iff_prefix.mpr claims)
    rw [bySignature?_eq_none fun other => not_signature_of_opensMarkup markup,
      byContainer?_eq_none (not_container_of_opensMarkup markup),
      byTag?_eq_none fun tag => not_opensWith_of_declaration claims, declared]
    rfl

/-- What no rule claims is not recognised. -/
theorem recognised?_eq_none {head : List UInt8} (unclaimed : ∀ rule ∈ rules, ¬ rule.Claims head) :
    recognised? head = none := by
  have signature : bySignature? head = none := by
    apply bySignature?_eq_none
    intro entry listed opens
    exact unclaimed _ (mem_rules.mpr (Or.inl ⟨entry, listed, rfl⟩)) opens
  have container : byContainer? head = none := by
    unfold byContainer?
    split
    · rename_i both
      rw [Bool.and_eq_true, List.isPrefixOf_iff_prefix, decide_eq_true_eq] at both
      rw [List.lookup_eq_none_iff]
      intro entry listed
      rw [bne_iff_ne]
      intro form
      have member : Rule.container entry.1 entry.2 ∈ rules :=
        mem_rules.mpr (Or.inr (Or.inl ⟨entry, listed, rfl⟩))
      exact unclaimed _ member ⟨both.1, both.2, form⟩
    · rfl
  have tag : byTag? head = none := by
    apply byTag?_eq_none
    intro tag listed
    rw [Bool.eq_false_iff]
    exact unclaimed _ (mem_rules.mpr (Or.inr (Or.inr (Or.inl ⟨tag, listed, rfl⟩))))
  have declaration : byDeclaration? head = none := by
    rw [byDeclaration?, if_neg]
    rw [List.isPrefixOf_iff_prefix]
    exact unclaimed _ (mem_rules.mpr (Or.inr (Or.inr (Or.inr rfl))))
  rw [recognised?, signature, container, tag, declaration]
  rfl

/-- Two rules that claim the same data claim the same type. -/
theorem type_eq_of_claims {head : List UInt8} {first second : Rule} (listed : first ∈ rules)
    (member : second ∈ rules) (here : first.Claims head) (there : second.Claims head) :
    first.type = second.type :=
  Option.some.inj ((recognised?_of_claims listed here).symm.trans
    (recognised?_of_claims member there))

/-- The rules may be asked in any order. -/
theorem claimed?_of_perm {order : List Rule} (perm : order.Perm rules) (head : List UInt8) :
    claimed? order head = recognised? head := by
  unfold claimed?
  cases found : order.find? fun rule => rule.Claims head with
  | none =>
      have none : ∀ rule ∈ rules, ¬ rule.Claims head := by
        intro rule listed claims
        have other := List.find?_eq_none.mp found rule (perm.mem_iff.mpr listed)
        exact other (decide_eq_true claims)
      exact (recognised?_eq_none none).symm
  | some rule =>
      have claims : rule.Claims head := by
        have chosen := List.find?_some found
        exact of_decide_eq_true chosen
      exact (recognised?_of_claims (perm.mem_iff.mp (List.mem_of_find?_eq_some found)) claims).symm

/-! ## The window -/

/-- Blanks are dropped from the front of a window as from the data. -/
theorem dropWhile_take (data : List UInt8) (count : Nat) :
    (data.take count).dropWhile isBlank =
      (data.dropWhile isBlank).take (count - (data.takeWhile isBlank).length) := by
  induction data generalizing count with
  | nil => simp
  | cons byte data ih =>
      cases count with
      | zero => simp
      | succ count =>
          cases blank : isBlank byte with
          | true =>
              rw [List.take_succ_cons, List.dropWhile_cons_of_pos blank,
                List.dropWhile_cons_of_pos blank, List.takeWhile_cons_of_pos blank, ih,
                List.length_cons, Nat.add_sub_add_right]
          | false =>
              have filled : ¬ isBlank byte = true := by rw [blank]; decide
              rw [List.take_succ_cons, List.dropWhile_cons_of_neg filled,
                List.dropWhile_cons_of_neg filled, List.takeWhile_cons_of_neg filled,
                List.length_nil, Nat.sub_zero, List.take_succ_cons]

/-- A tag in the window is a tag in the data whose terminator lies in the window. -/
theorem opensWith_take {tag content : List UInt8} {count : Nat} :
    opensWith tag (content.take count) = true ↔
      opensWith tag content = true ∧ tag.length < count := by
  simp only [opensWith_iff]
  constructor
  · rintro ⟨front, terminator, rest, cut, rfl, closed⟩
    have whole : content = front ++ terminator :: (rest ++ content.drop count) := by
      rw [← List.cons_append, ← List.append_assoc, ← cut, List.take_append_drop]
    have short : front.length + (rest.length + 1) ≤ count := by
      rw [← List.length_cons, ← List.length_append, ← cut]
      exact List.length_take_le ..
    refine ⟨⟨front, terminator, _, whole, rfl, closed⟩, ?_⟩
    rw [List.length_map]
    omega
  · rintro ⟨⟨front, terminator, rest, rfl, rfl, closed⟩, room⟩
    rw [List.length_map] at room
    obtain ⟨more, rfl⟩ := Nat.exists_eq_add_of_lt room
    refine ⟨front, terminator, rest.take more, ?_, rfl, closed⟩
    rw [Nat.add_assoc, List.take_length_add_append, List.take_succ_cons]

/-- What gives data their type: a rule that claims them, or else their bytes. -/
theorem ofHead_eq_iff {head : List UInt8} {type : ContentType} : ofHead head = type ↔
    (∃ rule ∈ rules, rule.Claims head ∧ rule.type = type) ∨
      (∀ rule ∈ rules, ¬ rule.Claims head) ∧ unclaimed head = type := by
  rw [ofHead_eq]
  by_cases claimed : ∃ rule ∈ rules, rule.Claims head
  · obtain ⟨rule, listed, claims⟩ := claimed
    rw [recognised?_of_claims listed claims, Option.getD_some]
    constructor
    · intro same
      exact Or.inl ⟨rule, listed, claims, same⟩
    · rintro (⟨other, member, also, rfl⟩ | ⟨none, -⟩)
      · exact type_eq_of_claims listed member claims also
      · exact absurd claims (none rule listed)
  · have none : ∀ rule ∈ rules, ¬ rule.Claims head :=
      fun rule listed claims => claimed ⟨rule, listed, claims⟩
    rw [recognised?_eq_none none, Option.getD_none]
    constructor
    · intro same
      exact Or.inr ⟨none, same⟩
    · rintro (⟨rule, listed, claims, -⟩ | ⟨-, same⟩)
      · exact absurd claims (none rule listed)
      · exact same

/-- Types other than those of plain data come from a rule. -/
theorem claims_of_ofHead {head : List UInt8} {type : ContentType} (found : ofHead head = type)
    (notBinary : type ≠ binary) (notText : type ≠ text) :
    ∃ rule ∈ rules, rule.Claims head ∧ rule.type = type := by
  obtain claimed | ⟨-, same⟩ := ofHead_eq_iff.mp found
  · exact claimed
  · unfold unclaimed at same
    split at same
    · exact absurd same.symm notBinary
    · exact absurd same.symm notText

theorem ofHead_eq_html_iff {head : List UInt8} :
    ofHead head = html ↔ ∃ tag ∈ tags, opensWith tag (head.dropWhile isBlank) = true := by
  constructor
  · intro found
    obtain ⟨rule, listed, claims, same⟩ := claims_of_ofHead found (by decide) (by decide)
    obtain ⟨entry, member, rfl⟩ | ⟨entry, member, rfl⟩ | ⟨tag, member, rfl⟩ | rfl :=
      mem_rules.mp listed
    · have others : ∀ one ∈ signatures, one.2 ≠ html := by decide
      exact absurd same (others entry member)
    · have others : ∀ one ∈ containers, one.2 ≠ html := by decide
      exact absurd same (others entry member)
    · exact ⟨tag, member, claims⟩
    · cases same
  · rintro ⟨tag, listed, opens⟩
    have member : Rule.opening tag ∈ rules :=
      mem_rules.mpr (Or.inr (Or.inr (Or.inl ⟨tag, listed, rfl⟩)))
    exact ofHead_eq_iff.mpr (Or.inl ⟨_, member, opens, rfl⟩)

theorem ofHead_eq_xml_iff {head : List UInt8} :
    ofHead head = xml ↔ codes "<?xml" <+: head.dropWhile isBlank := by
  constructor
  · intro found
    obtain ⟨rule, listed, claims, same⟩ := claims_of_ofHead found (by decide) (by decide)
    obtain ⟨entry, member, rfl⟩ | ⟨entry, member, rfl⟩ | ⟨tag, member, rfl⟩ | rfl :=
      mem_rules.mp listed
    · have others : ∀ one ∈ signatures, one.2 ≠ xml := by decide
      exact absurd same (others entry member)
    · have others : ∀ one ∈ containers, one.2 ≠ xml := by decide
      exact absurd same (others entry member)
    · cases same
    · exact claims
  · intro opens
    have member : Rule.declaration ∈ rules := mem_rules.mpr (Or.inr (Or.inr (Or.inr rfl)))
    exact ofHead_eq_iff.mpr (Or.inl ⟨_, member, opens, rfl⟩)

section Blanks

variable {blanks data : List UInt8} (blank : ∀ byte ∈ blanks, isBlank byte = true)

include blank

/-- Blanks in front only move what stands behind them. -/
theorem dropWhile_window_append : ((blanks ++ data).take window).dropWhile isBlank =
    (data.dropWhile isBlank).take
      (window - (blanks.length + (data.takeWhile isBlank).length)) := by
  rw [dropWhile_take, List.dropWhile_append_of_pos blank, List.takeWhile_append_of_pos blank,
    List.length_append]

/-- Data are a page if a tag opens them behind blanks and the tag and its terminator are inside the
window. -/
theorem of_append_eq_html_iff : of (blanks ++ data) = html ↔
    ∃ tag ∈ tags, opensWith tag (data.dropWhile isBlank) = true ∧
      blanks.length + (data.takeWhile isBlank).length + tag.length + 1 ≤ window := by
  rw [of, ofHead_eq_html_iff, dropWhile_window_append blank]
  simp only [opensWith_take]
  constructor
  · rintro ⟨tag, listed, opens, room⟩
    exact ⟨tag, listed, opens, by omega⟩
  · rintro ⟨tag, listed, opens, room⟩
    exact ⟨tag, listed, opens, by omega⟩

theorem of_append_eq_xml_iff : of (blanks ++ data) = xml ↔
    codes "<?xml" <+: data.dropWhile isBlank ∧
      blanks.length + (data.takeWhile isBlank).length + (codes "<?xml").length ≤ window := by
  have filled : 0 < (codes "<?xml").length := by decide
  rw [of, ofHead_eq_xml_iff, dropWhile_window_append blank, List.prefix_take_iff]
  constructor
  · rintro ⟨opens, room⟩
    exact ⟨opens, by omega⟩
  · rintro ⟨opens, room⟩
    exact ⟨opens, by omega⟩

end Blanks

/-! ## Places -/

theorem excerpt?_zero {bytes : List UInt8} {count : Nat} (inside : count ≤ bytes.length) :
    excerpt? bytes 0 count = some (bytes.take count) := by
  rw [excerpt?, if_pos ⟨Nat.zero_le _, inside⟩, List.drop_zero]

theorem contentAt?_eq (head : List UInt8) : contentAt? head = some (head.dropWhile isBlank) := by
  have inside : (head.findIdx fun byte => !isBlank byte) ≤ head.length := List.findIdx_le_length
  rw [contentAt?, ← List.findIdx_eq_getD_findIdx?, excerpt?, if_pos ⟨inside, Nat.le_refl _⟩,
    List.take_length, ← List.dropWhile_eq_drop_findIdx_not]

theorem containerAt?_eq (head : List UInt8) : containerAt? head = some (byContainer? head) := by
  unfold containerAt? byContainer?
  rw [Bool.and_comm]
  split
  · rename_i both
    rw [Bool.and_eq_true, decide_eq_true_eq] at both
    rw [excerpt?, if_pos ⟨by decide, both.2⟩, List.drop_take]
    rfl
  · rfl

/-- The byte behind a tag is looked at only when there is one. -/
theorem tagAt?_eq {tag : List UInt8} (listed : tag ∈ tags) (content : List UInt8) :
    tagAt? content tag = some (opensWith tag content) := by
  have capitals : ∀ one ∈ tags, one.map capital = one := by decide
  unfold tagAt?
  split
  · rename_i short
    have closed : opensWith tag content = false := by
      rw [Bool.eq_false_iff]
      intro opens
      obtain ⟨front, terminator, rest, rfl, rfl, -⟩ := opensWith_iff.mp opens
      simp only [List.length_append, List.length_cons, List.length_map] at short
      omega
    rw [closed]
  · rename_i long
    have room : tag.length < content.length := Nat.lt_of_not_le long
    have same : (tag.isPrefixOf (content.map capital)) =
        decide ((content.take tag.length).map capital = tag) := by
      rw [Bool.eq_iff_iff, List.isPrefixOf_iff_prefix, decide_eq_true_eq, List.map_take]
      exact List.prefix_iff_eq_take.trans eq_comm
    rw [excerpt?_zero room.le, capitals tag listed, List.getElem?_eq_getElem room, opensWith, same,
      List.drop_eq_getElem_cons room]
    simp only [Option.bind_eq_bind, Option.bind_some]
    by_cases opens : (content.take tag.length).map capital = tag
    · rw [if_pos opens, decide_eq_true opens]
      rfl
    · rw [if_neg opens, decide_eq_false opens]
      rfl

theorem anyM_eq {α : Type} {list : List α} {test? : α → Option Bool} {test : α → Bool}
    (answered : ∀ item ∈ list, test? item = some (test item)) :
    list.anyM test? = some (list.any test) := by
  induction list with
  | nil => rfl
  | cons item list ih =>
      have first := answered item (List.mem_cons_self ..)
      have rest := ih fun other listed => answered other (List.mem_cons_of_mem _ listed)
      rw [List.anyM, first, List.any_cons]
      cases test item with
      | true => rfl
      | false => exact rest

/-- Every place that is looked at is inside the data, and the type is the same. -/
theorem ofPlaces?_eq (data : List UInt8) : ofPlaces? data = some (of data) := by
  have cut : excerpt? data 0 (min data.length window) = some (data.take window) := by
    rw [excerpt?_zero (Nat.min_le_left ..), Nat.min_comm, ← List.take_eq_take_min]
  unfold ofPlaces?
  rw [cut, of]
  generalize data.take window = head
  simp only [Option.bind_eq_bind, Option.bind_some, containerAt?_eq, contentAt?_eq,
    anyM_eq fun _ listed => tagAt?_eq listed (head.dropWhile isBlank)]
  cases head with
  | nil => decide
  | cons byte rest =>
      rw [ofHead_eq, recognised?, List.isEmpty_cons, if_neg (by decide)]
      cases bySignature? (byte :: rest) with
      | some found => rfl
      | none =>
          cases byContainer? (byte :: rest) with
          | some found => rfl
          | none =>
              unfold byTag? byDeclaration? unclaimed
              dsimp only
              split
              · rfl
              · split
                · rfl
                · split <;> rfl

/-! ## The whole test -/

/-- Data that no rule claims are text, or one of their bytes keeps them from it. -/
theorem unclaimed_cases (head : List UInt8) :
    (unclaimed head = text ∧ ∀ byte ∈ head, isBinary byte = false) ∨
      (unclaimed head = binary ∧ ∃ byte ∈ head, isBinary byte = true) := by
  unfold unclaimed
  cases found : head.any isBinary with
  | true => exact Or.inr ⟨if_pos rfl, List.any_eq_true.mp found⟩
  | false =>
      refine Or.inl ⟨if_neg (by decide), fun byte member => ?_⟩
      exact Bool.eq_false_iff.mpr (List.any_eq_false.mp found byte member)

/-- The type of data is told without ambiguity:
* Only the window counts, and no place outside the data is looked at.
* Rules that claim the same data claim the same type, and they may be asked in any order.
* Behind any blanks, data are a page if a tag opens them and the window holds it and its terminator,
  and a document if the declaration opens them and the window holds it.
* Data that no rule claims are text if the window has no byte that texts cannot hold, and binary
  otherwise. -/
theorem of_unambiguous (data : List UInt8) :
    (∀ other, other.take window = data.take window → of other = of data) ∧
      ofPlaces? data = some (of data) ∧
      (∀ first ∈ rules, ∀ second ∈ rules, first.Claims (data.take window) →
        second.Claims (data.take window) → first.type = second.type) ∧
      (∀ order, order.Perm rules →
        of data = (claimed? order (data.take window)).getD (unclaimed (data.take window))) ∧
      (∀ blanks, (∀ byte ∈ blanks, isBlank byte = true) →
        (of (blanks ++ data) = html ↔
          ∃ tag ∈ tags, opensWith tag (data.dropWhile isBlank) = true ∧
            blanks.length + (data.takeWhile isBlank).length + tag.length + 1 ≤ window) ∧
        (of (blanks ++ data) = xml ↔
          codes "<?xml" <+: data.dropWhile isBlank ∧
            blanks.length + (data.takeWhile isBlank).length + (codes "<?xml").length ≤ window)) ∧
      ((∀ rule ∈ rules, ¬ rule.Claims (data.take window)) →
        (of data = text ∧ ∀ byte ∈ data.take window, isBinary byte = false) ∨
          (of data = binary ∧ ∃ byte ∈ data.take window, isBinary byte = true)) := by
  refine ⟨?_, ofPlaces?_eq data, ?_, ?_, ?_, ?_⟩
  · intro other same
    rw [of, same, of]
  · intro first listed second member here there
    exact type_eq_of_claims listed member here there
  · intro order perm
    rw [claimed?_of_perm perm, of, ofHead_eq]
  · intro blanks blank
    exact ⟨of_append_eq_html_iff blank, of_append_eq_xml_iff blank⟩
  · intro none
    rw [of, ofHead_eq, recognised?_eq_none none, Option.getD_none]
    exact unclaimed_cases _

example : of (codes "\n <p>one</p>") = html := by decide

end DesktopGateway.Files.ContentType
