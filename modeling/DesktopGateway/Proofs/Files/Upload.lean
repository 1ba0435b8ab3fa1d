import DesktopGateway.Files.Upload
import DesktopGateway.Proofs.Serving.Exchange
import DesktopGateway.Proofs.Volume.Frame

/-!
# The steps of an upload

An upload reads what the client sends and writes nothing to it before it is answered. On the volume
it makes the directory of uploads, opens one file and writes to that file alone.
-/

namespace DesktopGateway.Files.Upload

open DesktopGateway.Serving
open DesktopGateway.Wire
open Volume (Location Handle OnlyFile)

/-! ## The client -/

theorem readContent_advances {exchange later : Exchange} {window left : Window} {room : Nat}
    {taken : Except Host.Failure (List UInt8)}
    (same : exchange.readContent window room = (taken, left, later)) : exchange.Advances later := by
  cases same
  exact ⟨_, _, rfl⟩

theorem copy_advances (upload : Upload) (missing offset : Nat) (volume : Volume)
    (exchange : Exchange) :
    exchange.Advances (upload.copy missing offset volume exchange).2.2 := by
  fun_induction copy upload missing offset volume exchange with
  | case1 offset volume exchange => exact .refl exchange
  | case2 missing offset volume exchange failure left later taken =>
      exact readContent_advances taken
  | case3 missing offset volume exchange left later taken => exact readContent_advances taken
  | case4 missing offset volume exchange first more left later taken ih =>
      exact (readContent_advances taken).trans ih

theorem fill_advances (upload : Upload) (size : Nat) (volume : Volume) (exchange : Exchange) :
    exchange.Advances (upload.fill size volume exchange).2.2 := by
  have copied := copy_advances upload size 0 volume exchange
  unfold fill
  split
  · rename_i outcome
    rw [outcome] at copied
    exact copied
  · rename_i outcome
    rw [outcome] at copied
    split
    · exact copied
    · exact copied

theorem store_advances (site : Site) (owner : Option Nat) (name : String) (size : Nat)
    (volume : Volume) (exchange : Exchange) :
    exchange.Advances (store site owner name size volume exchange).2.2 := by
  unfold store
  split
  · exact .refl exchange
  · split
    · exact .refl exchange
    · split
      · exact .refl exchange
      · rename_i upload opened _
        have filled := fill_advances upload size opened exchange
        split
        · rename_i outcome
          rw [outcome] at filled
          exact filled
        · rename_i outcome
          rw [outcome] at filled
          split
          · exact filled
          · exact filled

/-- Up to its answer an upload only reads from the client. -/
theorem attempt_advances (site : Site) (owner : Option Nat) (volume : Volume)
    (exchange : Exchange) : exchange.Advances (attempt site owner volume exchange).2.2 := by
  have asked := exchange.readRequest_advances .storeRequest
  unfold attempt
  split
  · rename_i outcome
    rw [outcome] at asked
    exact asked
  · rename_i outcome
    rw [outcome] at asked
    exact asked.trans (store_advances ..)
  · rename_i outcome
    rw [outcome] at asked
    exact asked

/-! ## The directory -/

def IsNewDirectory (site : Site) (volume after : Volume) (location : Location) : Prop :=
  ∃ directory, site.resolve volume directoryName = .ok directory ∧
    volume.find false directory.bytes = .ok (.absent location) ∧
    volume.stored? location = none ∧ after.stored? location = some .directory

/-- Giving a place away changes nothing, or it is given to somebody. -/
theorem give_eq_ok {site : Site} {owner : Option Nat} {volume given : Volume} {place : Place}
    (done : give site owner volume place = .ok given) :
    given = volume ∨ ∃ user, volume.giveTo site.credentials place.bytes user = .ok given := by
  cases owner with
  | none => exact Or.inl (Except.ok.inj done).symm
  | some user => exact Or.inr ⟨user, (mapError_eq_ok_iff ..).mp done⟩

theorem stored?_of_give {site : Site} {owner : Option Nat} {volume given : Volume} {place : Place}
    (done : give site owner volume place = .ok given) (location : Location) :
    given.stored? location = volume.stored? location := by
  rcases give_eq_ok done with rfl | ⟨user, changed⟩
  · rfl
  · exact Volume.stored?_of_giveTo changed location

/-- Preparing an upload leaves the volume alone, or it makes sure of the directory of uploads, which
may then be given to its owner. -/
theorem prepare_cases (site : Site) (owner : Option Nat) (volume : Volume) :
    (prepare site owner volume).2 = volume ∨
      ∃ directory made, site.resolve volume directoryName = .ok directory ∧
        volume.ensureDirectory site.credentials directory.bytes = .ok made ∧
        ((prepare site owner volume).2 = made ∨
          give site owner made directory = .ok (prepare site owner volume).2) := by
  unfold prepare
  split
  · exact Or.inl rfl
  · rename_i directory resolved
    split
    · exact Or.inl rfl
    · rename_i made ensured
      refine Or.inr ⟨directory, made, resolved, ensured, ?_⟩
      split
      · exact Or.inl rfl
      · exact Or.inr ‹_›

/-- Preparing an upload makes the directory of uploads, or it changes nothing that shows. -/
theorem stored?_of_prepare (site : Site) (owner : Option Nat) (volume : Volume)
    (location : Location) :
    (prepare site owner volume).2.stored? location = volume.stored? location ∨
      IsNewDirectory site volume (prepare site owner volume).2 location := by
  rcases prepare_cases site owner volume with same | ⟨directory, made, resolved, ensured, result⟩
  · exact Or.inl (by rw [same])
  have shown : (prepare site owner volume).2.stored? location = made.stored? location := by
    rcases result with same | given
    · rw [same]
    · exact stored?_of_give given location
  rcases Volume.stored?_of_ensureDirectory ensured location with same | ⟨found, free, new⟩
  · exact Or.inl (shown.trans same)
  · exact Or.inr ⟨directory, resolved, found, free, shown.trans new⟩

/-! ## The content -/

/-- Each portion changes the open file only, and so does the whole copy. -/
theorem onlyFile_copy (upload : Upload) (missing offset : Nat) (volume : Volume)
    (exchange : Exchange) :
    OnlyFile upload.handle volume (upload.copy missing offset volume exchange).2.1 := by
  fun_induction copy upload missing offset volume exchange with
  | case1 => exact .refl ..
  | case2 => exact .refl ..
  | case3 => exact .refl ..
  | case4 missing offset volume exchange first more left later taken ih =>
      exact (Volume.onlyFile_write ..).trans ih

/-- A portion that was read is not empty and stood at the front of what the client sent. -/
theorem readContent_eq_ok {exchange later : Exchange} {missing : Nat} {left : Window}
    {bytes : List UInt8}
    (taken : exchange.readContent ⟨missing + 1⟩ portion = (.ok bytes, left, later)) :
    bytes ≠ [] ∧ bytes ++ later.incoming.flatten = exchange.incoming.flatten := by
  have whole := Pieces.read_flatten (min portion (missing + 1)) exchange.incoming
  unfold Exchange.readContent Window.read at taken
  dsimp only at taken
  by_cases empty : (Pieces.read (min portion (missing + 1)) exchange.incoming).1 = []
  · have room : 0 < portion := by decide
    simp only [empty, List.isEmpty_nil, room, Nat.succ_pos, decide_true, Bool.and_self,
      if_true] at taken
    cases taken
  · have filled :
        (Pieces.read (min portion (missing + 1)) exchange.incoming).1.isEmpty = false := by
      simpa using empty
    simp only [filled, Bool.false_and, Bool.false_eq_true, if_false] at taken
    cases taken
    exact ⟨empty, whole⟩

/-- Content that ends early is noticed. -/
theorem copy_of_short (upload : Upload) (missing offset : Nat) (volume : Volume)
    (exchange : Exchange) (short : exchange.incoming.flatten.length < missing) :
    ∃ failure, (upload.copy missing offset volume exchange).1 = .error failure := by
  fun_induction copy upload missing offset volume exchange with
  | case1 => exact absurd short (Nat.not_lt_zero _)
  | case2 missing offset volume exchange failure left later taken => exact ⟨failure, rfl⟩
  | case3 missing offset volume exchange left later taken =>
      exact absurd rfl (readContent_eq_ok taken).1
  | case4 missing offset volume exchange first more left later taken ih =>
      have whole := congrArg List.length (readContent_eq_ok taken).2
      rw [List.length_append, List.length_cons] at whole
      exact ih (by omega)

/-! ## The open file -/

/-- An upload whose file was opened: how much content it announced, the volume before that with the
directory of uploads in it, and what is left of the client's bytes. -/
structure Opening where
  size : Nat
  prepared : Volume
  upload : Upload
  opened : Volume
  behind : Exchange

def named? (site : Site) (owner : Option Nat) (name : String) (size : Nat) (volume : Volume)
    (behind : Exchange) : Option Opening :=
  match SafeName.ofName? name with
  | none => none
  | some safe =>
      match prepare site owner volume with
      | (.error _, _) => none
      | (.ok directory, prepared) =>
          match start site prepared directory safe with
          | .error _ => none
          | .ok (upload, opened) => some ⟨size, prepared, upload, opened, behind⟩

def opening? (site : Site) (owner : Option Nat) (volume : Volume) (exchange : Exchange) :
    Option Opening :=
  match exchange.readRequest .storeRequest with
  | (.ok (.storeRequest name size _), behind) =>
      named? site owner name size.toNatClampNeg volume behind
  | _ => none

def Opening.finish (site : Site) (owner : Option Nat) (opening : Opening) :
    Except Failure Unit × Volume × Exchange :=
  match opening.upload.fill opening.size opening.opened opening.behind with
  | (.error failure, volume, exchange) => (.error failure, volume, exchange)
  | (.ok (), volume, exchange) =>
      match give site owner volume opening.upload.target with
      | .error failure => (.error failure, volume, exchange)
      | .ok volume => (.ok (), volume, exchange)

section Opened

variable {site : Site} {owner : Option Nat} {name : String} {size : Nat} {volume : Volume}
  {exchange : Exchange} {opening : Opening}

/-- The file is opened under a usable name in the prepared volume. -/
theorem named?_eq_some_iff :
    named? site owner name size volume exchange = some opening ↔
      ∃ safe directory, SafeName.ofName? name = some safe ∧
        prepare site owner volume = (.ok directory, opening.prepared) ∧
        start site opening.prepared directory safe = .ok (opening.upload, opening.opened) ∧
        opening.size = size ∧ opening.behind = exchange := by
  constructor
  · intro found
    unfold named? at found
    split at found
    · cases found
    · rename_i safe usable
      split at found
      · cases found
      · rename_i directory prepared made
        split at found
        · cases found
        · cases found
          exact ⟨safe, directory, usable, made, ‹_›, rfl, rfl⟩
  · rintro ⟨safe, directory, usable, made, started, rfl, rfl⟩
    simp only [named?, usable, made, started]

theorem store_of_named (found : named? site owner name size volume exchange = some opening) :
    store site owner name size volume exchange = opening.finish site owner := by
  obtain ⟨safe, directory, usable, made, started, rfl, rfl⟩ := named?_eq_some_iff.mp found
  simp only [store, usable, made, started]
  rfl

/-- An upload whose file is not opened fails before it reads any content. -/
theorem store_of_unnamed (unopened : named? site owner name size volume exchange = none) :
    ∃ failure after,
      store site owner name size volume exchange = (.error failure, after, exchange) ∧
      (after = volume ∨ after = (prepare site owner volume).2) := by
  unfold named? at unopened
  unfold store
  cases usable : SafeName.ofName? name with
  | none => exact ⟨_, _, rfl, Or.inl rfl⟩
  | some safe =>
      rw [usable] at unopened
      cases made : prepare site owner volume with
      | mk outcome prepared =>
          rw [made] at unopened
          cases outcome with
          | error failure => exact ⟨_, _, rfl, Or.inr rfl⟩
          | ok directory =>
              cases started : start site prepared directory safe with
              | error failure => exact ⟨failure, prepared, by simp only [started], Or.inr rfl⟩
              | ok opened => simp only [started] at unopened; cases unopened

theorem start_eq_ok {prepared opened : Volume} {directory : Place} {upload : Upload}
    (started : start site prepared directory name = .ok (upload, opened)) :
    upload.target = directory.child name ∧
      prepared.createFile site.credentials upload.target.bytes = .ok (upload.handle, opened) := by
  unfold start at started
  dsimp only at started
  split at started
  · cases started
  · cases started
    exact ⟨rfl, ‹_›⟩

theorem creates_of_named (found : named? site owner name size volume exchange = some opening) :
    opening.prepared = (prepare site owner volume).2 ∧
      opening.prepared.Creates opening.upload.target.bytes opening.upload.handle
        opening.opened := by
  obtain ⟨safe, directory, _, made, started, _, _⟩ := named?_eq_some_iff.mp found
  refine ⟨?_, Volume.creates_of_createFile (start_eq_ok started).2⟩
  rw [made]

/-- A file is opened for a request to store something under a name. -/
theorem opening?_eq_some_iff :
    opening? site owner volume exchange = some opening ↔
      ∃ name size behind,
        exchange.readRequest .storeRequest = (.ok (.storeRequest name size ()), behind) ∧
          named? site owner name size.toNatClampNeg volume behind = some opening := by
  unfold opening?
  constructor
  · intro found
    split at found
    · rename_i name size _ behind read
      exact ⟨name, size, behind, read, found⟩
    · cases found
  · rintro ⟨name, size, behind, read, named⟩
    rw [read]
    exact named

theorem attempt_of_opening (found : opening? site owner volume exchange = some opening) :
    attempt site owner volume exchange = opening.finish site owner := by
  obtain ⟨name, size, behind, read, named⟩ := opening?_eq_some_iff.mp found
  rw [attempt, read]
  exact store_of_named named

/-- The file is opened in the prepared volume. -/
theorem creates_of_opening (found : opening? site owner volume exchange = some opening) :
    opening.prepared = (prepare site owner volume).2 ∧
      opening.prepared.Creates opening.upload.target.bytes opening.upload.handle
        opening.opened := by
  obtain ⟨name, size, behind, _, named⟩ := opening?_eq_some_iff.mp found
  exact creates_of_named named

/-- Without an opening, nothing has happened but the preparation. -/
theorem volume_of_unopened (unopened : opening? site owner volume exchange = none) :
    (attempt site owner volume exchange).2.1 = volume ∨
      (attempt site owner volume exchange).2.1 = (prepare site owner volume).2 := by
  unfold opening? at unopened
  unfold attempt
  cases asked : exchange.readRequest .storeRequest with
  | mk outcome behind =>
      rw [asked] at unopened
      cases outcome with
      | error failure => exact Or.inl rfl
      | ok parcel =>
          cases parcel with
          | storeRequest name size content =>
              obtain ⟨_, _, failed, unchanged⟩ := store_of_unnamed unopened
              dsimp only
              rw [failed]
              exact unchanged
          | _ => exact Or.inl rfl

end Opened

end DesktopGateway.Files.Upload
