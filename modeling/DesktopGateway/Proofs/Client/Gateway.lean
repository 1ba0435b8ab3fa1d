import DesktopGateway.Client.Gateway
import DesktopGateway.Proofs.Net.Address

/-!
# The host of an address

An address is cut at its last colon, and brackets around all that stands in front of it are taken
off. So a host without brackets is found in both notations and in no other text. What is found in
texts of neither notation is empty or has brackets in it, and is refused as a name.
-/

namespace DesktopGateway.Net

open DesktopGateway.Text

/-! ## Names -/

namespace DomainName

/-- A name has the characters of its labels and the dots between them. -/
theorem char_of_isName {name : String} (valid : isName name = true) {char : Char}
    (member : char ∈ name.toList) (other : char ≠ '.') :
    isLetter char = true ∨ isDigit char = true ∨ char = '-' := by
  obtain ⟨label, listed, inside⟩ := Parts.exists_mem_of other member
  have fits : isLabel label = true := by
    simp only [isName, Bool.and_eq_true, List.all_eq_true] at valid
    refine valid.1.2 label ?_
    -- Only an empty label at the end is left out.
    split
    · next ended =>
        have whole := List.dropLast_append_getLast? [] (decide_eq_true_iff.mp ended.2)
        rw [← whole, List.mem_append, List.mem_singleton] at listed
        rcases listed with kept | rfl
        · exact kept
        · cases inside
    · exact listed
  simp only [isLabel, Bool.and_eq_true, List.all_eq_true, Bool.or_eq_true, decide_eq_true_eq,
    or_assoc] at fits
  exact fits.1.1.2 char inside

end DomainName

namespace HostName

theorem ofText?_empty : ofText? "" = none := by
  decide

theorem ofText?_eq_none_of_bracket {text : String}
    (bracket : '[' ∈ text.toList ∨ ']' ∈ text.toList) : ofText? text = none := by
  have noName : DomainName.isName text = false := by
    rw [← Bool.not_eq_true]
    intro valid
    rcases bracket with member | member
    · exact absurd (DomainName.char_of_isName valid member (by decide)) (by decide)
    · exact absurd (DomainName.char_of_isName valid member (by decide)) (by decide)
  have noAddress : IpAddress.ofText? text = none := by
    rcases bracket with member | member
    · exact IpAddress.ofText?_eq_none_of_mem IpAddress.foreign_open member
    · exact IpAddress.ofText?_eq_none_of_mem IpAddress.foreign_close member
  rw [ofText?, noName, noAddress]
  rfl

end HostName

end DesktopGateway.Net

namespace DesktopGateway.Client.Gateway

open DesktopGateway.Net
open DesktopGateway.Text

/-! ## Hosts -/

structure IsHost (host : List Char) : Prop where
  filled : host ≠ []
  noOpen : '[' ∉ host
  noClose : ']' ∉ host

/-- What may stand behind the last colon. -/
structure IsPort (port : List Char) : Prop where
  filled : port ≠ []
  whole : ':' ∉ port

inductive Written (host port : List Char) : List Char → Prop
  | bare : Written host port (host ++ ':' :: port)
  | bracketed : Written host port ('[' :: host ++ ']' :: ':' :: port)

theorem inBrackets?_eq_some_iff (text inner : List Char) :
    inBrackets? text = some inner ↔ text = '[' :: inner ++ [']'] := by
  constructor
  · intro found
    match text with
    | [] => cases found
    | first :: rest =>
        by_cases opened : first = '['
        · subst opened
          simp only [inBrackets?] at found
          split at found
          · next closed =>
              cases found
              rw [List.cons_append, List.dropLast_append_getLast? _ closed]
          · cases found
        · simp [inBrackets?, opened] at found
  · rintro rfl
    simp [inBrackets?]

/-- An address with a front and a port has a host: what stands between brackets, or all of the
front. -/
theorem hostOf?_of_front {front port : List Char} (filled : front ≠ []) (isPort : IsPort port) :
    hostOf? (front ++ ':' :: port) = some ((inBrackets? front).getD front) := by
  have behind : port.isEmpty = false := List.isEmpty_eq_false_iff.mpr isPort.filled
  have before : front.isEmpty = false := List.isEmpty_eq_false_iff.mpr filled
  rw [hostOf?, Parts.atLast?_append isPort.whole]
  simp [behind, before]

theorem hostOf?_eq_some_iff (address host : List Char) :
    hostOf? address = some host ↔
      ∃ front port, front ≠ [] ∧ IsPort port ∧ address = front ++ ':' :: port ∧
        host = (inBrackets? front).getD front := by
  constructor
  · intro found
    unfold hostOf? at found
    split at found
    · cases found
    · next front port cut =>
        obtain ⟨rfl, whole⟩ := Parts.atLast?_eq_some_iff.mp cut
        split at found
        · cases found
        · next filled =>
            rw [Bool.or_eq_true, not_or, List.isEmpty_iff, List.isEmpty_iff] at filled
            cases found
            exact ⟨front, port, filled.2, ⟨filled.1, whole⟩, rfl, rfl⟩
  · rintro ⟨front, port, filled, isPort, rfl, rfl⟩
    exact hostOf?_of_front filled isPort

/-- A host without brackets is found in its two notations and nowhere else. -/
theorem hostOf?_eq_some_iff_written {host : List Char} (isHost : IsHost host)
    (address : List Char) :
    hostOf? address = some host ↔ ∃ port, IsPort port ∧ Written host port address := by
  rw [hostOf?_eq_some_iff]
  constructor
  · rintro ⟨front, port, -, isPort, rfl, same⟩
    refine ⟨port, isPort, ?_⟩
    cases brackets : inBrackets? front with
    | none =>
        rw [brackets] at same
        rw [same]
        exact .bare
    | some inner =>
        rw [brackets] at same
        rw [(inBrackets?_eq_some_iff front inner).mp brackets, show inner = host from same.symm,
          List.append_assoc]
        exact .bracketed
  · rintro ⟨port, isPort, written⟩
    cases written with
    | bare =>
        have noBrackets : inBrackets? host = none := by
          rw [Option.eq_none_iff_forall_ne_some]
          intro inner found
          rw [inBrackets?_eq_some_iff] at found
          exact isHost.noOpen (found ▸ List.mem_cons_self ..)
        exact ⟨host, port, isHost.filled, isPort, rfl, by rw [noBrackets]; rfl⟩
    | bracketed =>
        have inside := (inBrackets?_eq_some_iff ('[' :: host ++ [']']) host).mpr rfl
        refine ⟨'[' :: host ++ [']'], port, List.cons_ne_nil _ _, isPort, ?_, ?_⟩
        · rw [List.append_assoc]
          rfl
        · rw [inside]
          rfl

/-- An address is bad if no host is found in it. Otherwise the host decides as a name. -/
theorem ofAddress_eq (address : String) :
    ofAddress address =
      match hostOf? address.toList with
      | none => .error (.badAddress address)
      | some host => (nameOf (String.ofList host)).map fun name => ⟨address, name⟩ := by
  unfold ofAddress
  cases hostOf? address.toList with
  | none => rfl
  | some host =>
      dsimp only [bind, Except.bind]
      cases nameOf (String.ofList host) <;> rfl

theorem nameOf_ne_badAddress (name address : String) :
    nameOf name ≠ .error (.badAddress address) := by
  unfold nameOf
  split <;> simp

/-- What is no host is no name either. -/
theorem nameOf_of_not_isHost {host : List Char} (other : ¬IsHost host) :
    nameOf (String.ofList host) = .error (.badName (String.ofList host)) := by
  have none : HostName.ofText? (String.ofList host) = none := by
    by_cases empty : host = []
    · rw [empty]
      exact HostName.ofText?_empty
    · apply HostName.ofText?_eq_none_of_bracket
      rw [String.toList_ofList]
      by_contra noBracket
      rw [not_or] at noBracket
      exact other ⟨empty, noBracket.1, noBracket.2⟩
  rw [nameOf, none]

theorem ofAddress_eq_badAddress_iff (address : String) :
    ofAddress address = .error (.badAddress address) ↔ hostOf? address.toList = none := by
  rw [ofAddress_eq]
  cases hostOf? address.toList with
  | none => simp
  | some host =>
      have other := nameOf_ne_badAddress (String.ofList host) address
      dsimp only
      cases outcome : nameOf (String.ofList host) with
      | ok name => simp [Except.map]
      | error fault =>
          rw [outcome] at other
          simpa [Except.map] using other

/-- For every address:
* A host without brackets is what is found exactly if the address is this host with a port, in
  brackets or not.
* Nothing is found exactly if the address has no last colon with something on both sides of it. Just
  then the address is called bad.
* When something is found in an address that is no host without brackets with a port, it is empty or
  has brackets. The address is refused then, but what was found is called a bad name. -/
theorem hostOf?_exact (address : String) :
    (∀ host, IsHost host →
      (hostOf? address.toList = some host ↔
        ∃ port, IsPort port ∧ Written host port address.toList)) ∧
      (hostOf? address.toList = none ↔
        ¬∃ front port, front ≠ [] ∧ IsPort port ∧ address.toList = front ++ ':' :: port) ∧
      (ofAddress address = .error (.badAddress address) ↔ hostOf? address.toList = none) ∧
      ((¬∃ host port, IsHost host ∧ IsPort port ∧ Written host port address.toList) →
        ∀ host, hostOf? address.toList = some host →
          ¬IsHost host ∧ ofAddress address = .error (.badName (String.ofList host))) := by
  refine ⟨fun host isHost => hostOf?_eq_some_iff_written isHost _, ?_,
    ofAddress_eq_badAddress_iff address, ?_⟩
  · rw [Option.eq_none_iff_forall_ne_some]
    constructor
    · rintro nothing ⟨front, port, filled, isPort, same⟩
      rw [same] at nothing
      exact nothing _ (hostOf?_of_front filled isPort)
    · intro nowhere host found
      obtain ⟨front, port, filled, isPort, same, -⟩ := (hostOf?_eq_some_iff _ host).mp found
      exact nowhere ⟨front, port, filled, isPort, same⟩
  · intro neither host found
    have other : ¬IsHost host := by
      intro isHost
      obtain ⟨port, isPort, written⟩ := (hostOf?_eq_some_iff_written isHost _).mp found
      exact neither ⟨host, port, isHost, isPort, written⟩
    refine ⟨other, ?_⟩
    rw [ofAddress_eq, found]
    dsimp only
    rw [nameOf_of_not_isHost other]
    rfl

-- Brackets around nothing are not noticed before the name.
example : ofAddress "[]:80" = .error (.badName "") := by
  decide

end DesktopGateway.Client.Gateway
