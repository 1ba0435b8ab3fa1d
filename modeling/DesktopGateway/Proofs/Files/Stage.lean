import DesktopGateway.Files.Stage
import DesktopGateway.Proofs.Files.Upload
import Mathlib.Logic.Function.Iterate

/-!
# A run on its own

When no other run comes between, the stages of an upload make up the upload: the run ends with the
answer, the stream and the volume that the upload as a whole leaves behind.
-/

namespace DesktopGateway.Files.Upload

open DesktopGateway.Serving
open DesktopGateway.Wire

/-- What is read through the window on the content is what the client gives. -/
theorem deliver_of_readContent {exchange later : Exchange} {missing : Nat} {left : Window}
    {result : Except Host.Failure (List UInt8)}
    (taken : exchange.readContent ⟨missing + 1⟩ portion = (result, left, later)) :
    (∃ bytes, result = .ok bytes ∧
        exchange.deliver (.portion (min portion (missing + 1))) = (.bytes bytes, later)) ∨
      result = .error (Window.ended (missing + 1)) ∧
        exchange.deliver (.portion (min portion (missing + 1))) = (.ended, later) := by
  unfold Exchange.readContent Window.read at taken
  dsimp only at taken
  unfold Exchange.deliver
  dsimp only
  cases read : Pieces.read (min portion (missing + 1)) exchange.incoming with
  | mk bytes rest =>
      rw [read] at taken
      cases bytes with
      | nil =>
          have none :
              ([] : List UInt8).isEmpty && decide (0 < portion) && decide (0 < missing + 1) := by
            simp [portion]
          dsimp only at taken
          rw [if_pos none] at taken
          cases taken
          exact .inr ⟨rfl, rfl⟩
      | cons first more =>
          cases taken
          exact .inl ⟨_, rfl, rfl⟩

namespace Run

variable {site : Site} {owner : Option Nat}

def Leads (site : Site) (owner : Option Nat) (first second : Run × Volume) : Prop :=
  ∃ count, (fun state : Run × Volume => state.1.step site owner state.2)^[count] first = second

namespace Leads

theorem refl (state : Run × Volume) : Leads site owner state state :=
  ⟨0, rfl⟩

theorem one {run : Run} {volume : Volume} {later : Run × Volume}
    (same : run.step site owner volume = later) : Leads site owner (run, volume) later :=
  ⟨1, same⟩

theorem trans {first second third : Run × Volume} (earlier : Leads site owner first second)
    (later : Leads site owner second third) : Leads site owner first third := by
  obtain ⟨front, rfl⟩ := earlier
  obtain ⟨back, rfl⟩ := later
  exact ⟨back + front, Function.iterate_add_apply ..⟩

end Leads

/-- The request is read byte by byte. -/
theorem asking_leads (demand : Demand (Except Fault (Parcel Unit))) (volume : Volume)
    (exchange : Exchange) :
    Leads site owner (⟨.asking demand, exchange, none⟩, volume)
      (⟨.asked (exchange.read demand).1, (exchange.read demand).2, none⟩, volume) := by
  induction demand generalizing exchange with
  | done request => exact .one rfl
  | next onByte onEnd ihByte ihEnd =>
      cases pulled : exchange.pull with
      | mk answer later =>
          cases answer with
          | byte value =>
              have driven : exchange.read (.next onByte onEnd) = later.read (onByte value) := by
                rw [Exchange.read, Demand.drive, pulled, Exchange.read]
              rw [driven]
              refine .trans (.one ?_) (ihByte value later)
              simp only [step, Stage.wish?, Exchange.deliver, pulled, Pulled.delivery, Stage.feed]
          | ended =>
              have driven : exchange.read (.next onByte onEnd) = later.read onEnd := by
                rw [Exchange.read, Demand.drive, pulled, Exchange.read]
              rw [driven]
              refine .trans (.one ?_) (ihEnd later)
              simp only [step, Stage.wish?, Exchange.deliver, pulled, Pulled.delivery, Stage.feed]
          | waiting =>
              unfold Exchange.pull at pulled
              split at pulled <;> cases pulled

/-- The content is copied portion by portion. -/
theorem writing_leads (upload : Upload) (missing offset : Nat) (volume : Volume)
    (exchange : Exchange) :
    let copied := upload.copy missing offset volume exchange
    Leads site owner (⟨.writing upload missing offset, exchange, none⟩, volume)
      (⟨match copied.1 with
        | .error failure => .discarding upload failure
        | .ok () => .syncing upload, copied.2.2, none⟩, copied.2.1) := by
  fun_induction copy upload missing offset volume exchange with
  | case1 offset volume exchange => exact .one rfl
  | case2 missing offset volume exchange failure left later taken =>
      rcases deliver_of_readContent taken with ⟨bytes, impossible, -⟩ | ⟨ended, delivered⟩
      · cases impossible
      · cases ended
        exact .one (by simp only [step, Stage.wish?, delivered, Stage.feed])
  | case3 missing offset volume exchange left later taken =>
      exact absurd rfl (readContent_eq_ok taken).1
  | case4 missing offset volume exchange first more left later taken ih =>
      rcases deliver_of_readContent taken with ⟨bytes, same, delivered⟩ | ⟨impossible, -⟩
      · cases same
        exact .trans (.one (by simp only [step, Stage.wish?, delivered, Stage.feed])) ih
      · cases impossible

theorem discarding_leads (upload : Upload) (failure : Host.Failure) (volume : Volume)
    (exchange : Exchange) :
    Leads site owner (⟨.discarding upload failure, exchange, none⟩, volume)
      (⟨.settled (.error (.stream failure)), exchange, none⟩, upload.discard volume) :=
  .one rfl

/-- The content is copied, and what was copied is synced or discarded. -/
theorem filling_leads (upload : Upload) (size : Nat) (volume : Volume) (exchange : Exchange) :
    let filled := upload.fill size volume exchange
    Leads site owner (⟨.writing upload size 0, exchange, none⟩, volume)
      (⟨match filled.1 with
        | .error failure => .settled (.error failure)
        | .ok () => .granting upload, filled.2.2, none⟩, filled.2.1) := by
  have copied := @writing_leads site owner upload size 0 volume exchange
  unfold fill
  split <;> rename_i outcome <;> rw [outcome] at copied
  · exact copied.trans (discarding_leads ..)
  · split <;> rename_i synced
    · refine (copied.trans (.one ?_)).trans (discarding_leads ..)
      simp only [step, Stage.wish?, Stage.work, synced]
    · refine copied.trans (.one ?_)
      simp only [step, Stage.wish?, Stage.work, synced]

/-- The directory is made and given away before the file is opened. -/
theorem preparing_leads {name safe : String} (usable : SafeName.ofName? name = some safe)
    (size : Nat) (volume : Volume) (exchange : Exchange) :
    let prepared := prepare site owner volume
    Leads site owner (⟨.resolving name size, exchange, none⟩, volume)
      (⟨match prepared.1 with
        | .error failure => .settled (.error failure)
        | .ok directory => .opening directory safe size, exchange, none⟩, prepared.2) := by
  unfold prepare
  cases resolved : site.resolve volume directoryName with
  | error failure => exact .one (by simp only [step, Stage.wish?, Stage.work, usable, resolved])
  | ok directory =>
      have named : Leads site owner (⟨.resolving name size, exchange, none⟩, volume)
          (⟨.making directory safe size, exchange, none⟩, volume) :=
        .one (by simp only [step, Stage.wish?, Stage.work, usable, resolved])
      refine named.trans ?_
      cases ensured : volume.ensureDirectory site.credentials directory.bytes with
      | error failure => exact .one (by simp only [step, Stage.wish?, Stage.work, ensured])
      | ok made =>
          have making : Leads site owner (⟨.making directory safe size, exchange, none⟩, volume)
              (⟨.claiming directory safe size, exchange, none⟩, made) :=
            .one (by simp only [step, Stage.wish?, Stage.work, ensured])
          refine making.trans (.one ?_)
          cases given : give site owner made directory with
          | error failure => simp only [step, Stage.wish?, Stage.work, ensured, given]
          | ok later => simp only [step, Stage.wish?, Stage.work, ensured, given]

/-- What is stored under the name of a request. -/
theorem storing_leads (name : String) (size : Nat) (volume : Volume) (exchange : Exchange) :
    let stored := store site owner name size volume exchange
    Leads site owner (⟨.resolving name size, exchange, none⟩, volume)
      (⟨.settled stored.1, stored.2.2, none⟩, stored.2.1) := by
  unfold store
  split
  · rename_i unusable
    exact .one (by simp only [step, Stage.wish?, Stage.work, unusable])
  · rename_i safe usable
    have prepared := @preparing_leads site owner name safe usable size volume exchange
    split <;> rename_i outcome <;> rw [outcome] at prepared
    · exact prepared
    · split <;> rename_i started
      · exact prepared.trans (.one (by simp only [step, Stage.wish?, Stage.work, started]))
      · rename_i directory before _ upload opened
        have opens : Leads site owner (⟨.opening directory safe size, exchange, none⟩, before)
            (⟨.writing upload size 0, exchange, none⟩, opened) :=
          .one (by simp only [step, Stage.wish?, Stage.work, started])
        have filled := (prepared.trans opens).trans (filling_leads upload size opened exchange)
        split <;> rename_i ended <;> rw [ended] at filled
        · exact filled
        · split <;> rename_i given
          · exact filled.trans (.one (by simp only [step, Stage.wish?, Stage.work, given]))
          · exact filled.trans (.one (by simp only [step, Stage.wish?, Stage.work, given]))

/-- The stages of a run lead to the outcome of the attempt. -/
theorem attempt_leads (volume : Volume) (exchange : Exchange) :
    let attempted := attempt site owner volume exchange
    Leads site owner (.new exchange, volume)
      (⟨.settled attempted.1, attempted.2.2, none⟩, attempted.2.1) := by
  unfold new Stage.start attempt Exchange.readRequest
  cases exchange.service.request? with
  | none => exact .refl _
  | some kind =>
      have asked := @asking_leads site owner (Parcel.decode kind) volume exchange
      dsimp only at asked ⊢
      refine asked.trans ?_
      unfold Stage.asked
      cases requested : (exchange.read (Parcel.decode kind)).1.bind
          (fun parcel => parcel.expect .storeRequest) with
      | error fault => exact .refl _
      | ok parcel =>
          cases parcel with
          | storeRequest name size content => exact storing_leads ..
          | statRequest path => exact .refl _
          | fetchRequest path => exact .refl _
          | fetchedFile name contentType size content => exact .refl _

/-- A run that nothing comes between answers, sends and stores what the upload as a whole does. -/
theorem serve_leads (volume : Volume) (exchange : Exchange) :
    let served := serve site owner volume exchange
    Leads site owner (.new exchange, volume)
      (⟨.settled (attempt site owner volume exchange).1, served.2.1, some served.1⟩,
        served.2.2) := by
  have settled := @attempt_leads site owner volume exchange
  refine settled.trans (.one ?_)
  unfold serve
  cases attempted : attempt site owner volume exchange with
  | mk result rest =>
      cases result with
      | error failure => rfl
      | ok stored => rfl

end Run
end DesktopGateway.Files.Upload
