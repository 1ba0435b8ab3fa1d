import DesktopGateway.Files.Tape
import DesktopGateway.Proofs.Files.Upload
import DesktopGateway.Proofs.Link.Reply

/-!
# Uploads that fail with their file open

Filling the file writes to the one behind the handle only. An upload that fails because of its
content removes what its path names; one that cannot be given away leaves what it has copied.
-/

namespace DesktopGateway.Files.Upload

open DesktopGateway.Serving
open DesktopGateway.Wire
open Volume (Location)

/-- That a place cannot be given away is no failure of the content. -/
theorem give_ne_stream {site : Site} {owner : Option Nat} {volume : Volume} {place : Place}
    {failure : Failure} (failed : give site owner volume place = .error failure)
    (cause : Host.Failure) : failure ≠ .stream cause := by
  rintro rfl
  cases owner with
  | none => cases failed
  | some user =>
      unfold give at failed
      dsimp only at failed
      cases changed : volume.giveTo site.credentials place.bytes user <;>
        rw [changed] at failed <;> cases failed

namespace Opening

def copied (opening : Opening) : Volume :=
  (opening.upload.copy opening.size 0 opening.opened opening.behind).2.1

variable {opening : Opening}

theorem onlyFile_copied : Volume.OnlyFile opening.upload.handle opening.opened opening.copied :=
  onlyFile_copy ..

section Filled

variable {filled : Volume}
  (only : Volume.OnlyFile opening.upload.handle opening.opened filled)
  (creates : opening.prepared.Creates opening.upload.target.bytes opening.upload.handle
    opening.opened)

include only creates

/-- Opening the file and filling it change nothing but what the target's path concerns. -/
theorem stored?_filled {location : Location}
    (apart : ¬ opening.prepared.Concerns opening.upload.target.bytes location) :
    filled.stored? location = opening.prepared.stored? location := by
  apply Volume.stored?_congr
  · rw [only.node?, creates.node location apart]
  · intro number present
    obtain ⟨other, same⟩ := creates.content location number apart present
    rw [only.contentOf other, same]

/-- What is discarded is the entry that the target's path names. -/
theorem discard_filled :
    ∃ slot, opening.prepared.slot? opening.upload.target.bytes = some slot ∧ slot ≠ [] ∧
      opening.upload.discard filled = filled.remove slot := by
  obtain ⟨slot, node, named, found, plain⟩ := creates.named
  have there := Volume.find_within (Volume.Extends.of_node?_eq only.node?) found
  refine ⟨slot, named, ?_, ?_⟩
  · rintro rfl
    have root := Volume.find_holds found
    cases root
    cases plain
  · unfold discard
    rw [Volume.removeFile_eq_ok there plain]

theorem stored?_discarded {location : Location}
    (apart : ¬ opening.prepared.Concerns opening.upload.target.bytes location) :
    (opening.upload.discard filled).stored? location = opening.prepared.stored? location := by
  obtain ⟨slot, named, _, discarded⟩ := discard_filled only creates
  have different : location ≠ slot := by
    rintro rfl
    exact apart (.slot named)
  rw [discarded, ← stored?_filled only creates apart]
  apply Volume.stored?_congr (Volume.node?_remove_other _ different)
  intro number _
  exact Volume.contentOf_remove ..

/-- Nothing is stored any more at the location that the target's path names. -/
theorem gone_discarded :
    ∃ slot, opening.prepared.slot? opening.upload.target.bytes = some slot ∧
      (opening.upload.discard filled).stored? slot = none := by
  obtain ⟨slot, named, inner, discarded⟩ := discard_filled only creates
  refine ⟨slot, named, ?_⟩
  rw [discarded, Volume.stored?, Volume.node?_remove_self _ inner]
  rfl

end Filled

/-- Filling the file either copies the content or fails and discards what was copied. -/
theorem fill_outcome (opening : Opening) :
    let filled := opening.upload.fill opening.size opening.opened opening.behind
    (filled.1 = .ok () ∧ filled.2.1 = opening.copied) ∨
      (∃ cause, filled.1 = .error (.stream cause)) ∧
        filled.2.1 = opening.upload.discard opening.copied := by
  intro filled
  unfold filled fill copied
  split
  · rename_i outcome
    rw [outcome]
    exact Or.inr ⟨⟨_, rfl⟩, rfl⟩
  · rename_i outcome
    rw [outcome]
    split
    · exact Or.inr ⟨⟨_, rfl⟩, rfl⟩
    · exact Or.inl ⟨rfl, rfl⟩

/-- An upload that fails once its file is open has discarded the file because of its content, or it
could not be given to its owner. -/
theorem finish_failed {site : Site} {owner : Option Nat} {failure : Failure}
    (failed : (opening.finish site owner).1 = .error failure) :
    ((∃ cause, failure = .stream cause) ∧
        (opening.finish site owner).2.1 = opening.upload.discard opening.copied) ∨
      (∀ cause, failure ≠ .stream cause) ∧ (opening.finish site owner).2.1 = opening.copied := by
  have outcome := opening.fill_outcome
  unfold finish at failed ⊢
  split at failed
  · rename_i refusal volume exchange filled
    rw [filled] at outcome
    cases failed
    rcases outcome with ⟨impossible, _⟩ | ⟨⟨cause, same⟩, discarded⟩
    · cases impossible
    · exact Or.inl ⟨⟨cause, Except.error.inj same⟩, discarded⟩
  · rename_i volume exchange filled
    rw [filled] at outcome
    rcases outcome with ⟨_, copied⟩ | ⟨⟨_, impossible⟩, _⟩
    · split at failed
      · rename_i refusal given
        cases failed
        exact Or.inr ⟨give_ne_stream given, copied⟩
      · cases failed
    · cases impossible

/-- An upload whose content ends early fails because of it. -/
theorem finish_of_short (site : Site) (owner : Option Nat)
    (short : opening.behind.incoming.flatten.length < opening.size) :
    ∃ cause, (opening.finish site owner).1 = .error (.stream cause) := by
  obtain ⟨cause, ended⟩ := copy_of_short opening.upload opening.size 0 opening.opened
    opening.behind short
  refine ⟨cause, ?_⟩
  unfold finish fill
  cases outcome : opening.upload.copy opening.size 0 opening.opened opening.behind with
  | mk result rest =>
      rw [outcome] at ended
      cases ended
      rfl

end Opening

/-! ## The whole upload -/

variable {site : Site} {owner : Option Nat} {volume : Volume} {exchange : Exchange}
  {failure : Failure}

/-- An upload that fails is answered with a refusal, which changes nothing else. -/
theorem serve_of_failed (failed : (attempt site owner volume exchange).1 = .error failure) :
    serve site owner volume exchange =
      (((attempt site owner volume exchange).2.2.refuse failure).1,
        ((attempt site owner volume exchange).2.2.refuse failure).2,
        (attempt site owner volume exchange).2.1) := by
  unfold serve
  cases attempted : attempt site owner volume exchange with
  | mk outcome rest =>
      rw [attempted] at failed
      cases failed
      rfl

theorem sent_of_failed (reachable : exchange.reachable = true)
    (failed : (attempt site owner volume exchange).1 = .error failure) :
    ∃ rest, (serve site owner volume exchange).2.1.sent =
      exchange.sent ++ Verdict.refused.code :: rest := by
  have advances := attempt_advances site owner volume exchange
  obtain ⟨rest, opens⟩ := Link.Endpoint.refusal_opens failure.message
  refine ⟨rest, ?_⟩
  rw [serve_of_failed failed, Exchange.refuse,
    Exchange.emit_of_reachable (advances.reachable_eq.trans reachable), ← advances.sent_eq, ← opens]
  rfl

/-- An upload that failed because of its content has removed the entry that its path names. -/
theorem gone_of_stream {opening : Opening} {cause : Host.Failure}
    (found : opening? site owner volume exchange = some opening)
    (failed : (attempt site owner volume exchange).1 = .error (.stream cause)) :
    ∃ slot, opening.prepared.slot? opening.upload.target.bytes = some slot ∧
      (attempt site owner volume exchange).2.1.stored? slot = none := by
  obtain ⟨_, creates⟩ := creates_of_opening found
  rw [attempt_of_opening found] at failed ⊢
  rcases Opening.finish_failed failed with ⟨_, gone⟩ | ⟨other, _⟩
  · rw [gone]
    exact Opening.gone_discarded Opening.onlyFile_copied creates
  · exact absurd rfl (other cause)

theorem failed_of_short {opening : Opening}
    (found : opening? site owner volume exchange = some opening)
    (short : opening.behind.incoming.flatten.length < opening.size) :
    ∃ cause, (attempt site owner volume exchange).1 = .error (.stream cause) := by
  rw [attempt_of_opening found]
  exact opening.finish_of_short site owner short

/-! ## An upload over an old file -/

/-- A home at `/h` in which an upload called `a` is stored already. -/
def usedSite : Site :=
  ⟨"/h", ⟨Volume.superuser, true⟩, "/t", "x"⟩

def usedTarget : Location :=
  [[104], [85, 112, 108, 111, 97, 100, 115], [97]]

def usedVolume : Volume :=
  ⟨[(usedTarget.take 1, .directory Volume.superuser Volume.openMode),
      (usedTarget.take 2, .directory Volume.superuser Volume.openMode), (usedTarget, .file 0)],
    [(0, ⟨.ofBytes [111, 108, 100], Volume.superuser⟩)]⟩

def cutExchange : Exchange :=
  Exchange.new .store [[97, 10, 10, 0, 0, 0, 0, 0, 0, 0, 99, 117, 116, 33]] true

def cutOpening : Opening :=
  ⟨10, usedVolume, ⟨⟨"/h", ["Uploads", "a"]⟩, .file 0⟩, usedVolume.modify 0 fun _ => .empty,
    ⟨.store, [[99, 117, 116, 33]], 10, [], true⟩⟩

theorem opening?_cut : opening? usedSite none usedVolume cutExchange = some cutOpening := rfl

end DesktopGateway.Files.Upload
