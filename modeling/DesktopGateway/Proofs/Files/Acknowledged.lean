import DesktopGateway.Proofs.Files.Crowd

/-!
# What is left of an accepted upload

Runs for one name share its file without a lock, a temporary name or a renaming. What a run was
accepted for is stored as long as no other run opens the file, writes to it or removes it. As long
as no other run removes it, the file is there, and each of its bytes was sent for its very place or
was never written.
-/

namespace DesktopGateway.Files.Upload

open DesktopGateway.Serving
open DesktopGateway.Wire
open Volume (Handle)

/-! ## The steps that matter to a file -/

/-- Opening the file, writing to it, or removing it. -/
def Stage.Touches (handle : Handle) : Stage → Prop
  | .opening .. | .discarding .. => True
  | .writing upload (_ + 1) _ => upload.handle = handle
  | _ => False

def Stage.Removes : Stage → Prop
  | .discarding .. => True
  | _ => False

section Facts

variable (site : Site) (safe : String) (orders : List Order)

def IsExact (volume : Volume) (number : Nat) (bytes : List UInt8) : Prop :=
  volume.openFile (targetPlace site safe).bytes = .ok (.file number) ∧ volume.Holds number bytes

/-- The name leads to a file whose bytes were all sent for their places, apart from gaps. -/
def IsMixed (volume : Volume) (number : Nat) : Prop :=
  volume.openFile (targetPlace site safe).bytes = .ok (.file number) ∧
    ∀ (place : Nat) (byte : UInt8), (volume.contentOf number).toList[place]? = some byte →
      byte = 0 ∨ ∃ order ∈ orders, order.content[place]? = some byte

end Facts

section Lasting

variable {site : Site} {owner : Option Nat} {safe : String} {orders : List Order}

/-- What was written from the beginning on is exact as long as nobody else touches the file. -/
theorem lasting_exact :
    Lasting site owner safe orders Stage.Touches (IsExact site safe) where
  opened _ _ _ recorded created :=
    ⟨Volume.openFile_of_createFile created, Volume.holds_of_createFile recorded created⟩
  written order _ volume number offset bytes rest ahead within reached exact := by
    obtain ⟨opens, holds⟩ := exact
    have taken : order.stream.take (offset + bytes.length) = order.stream.take offset ++ bytes := by
      rw [List.take_add, ahead, List.take_left]
    have length : (order.stream.take offset).length = offset := List.length_take_of_le reached
    have written := holds.write bytes
    rw [length] at written
    rw [taken]
    exact ⟨Volume.openFile_of_entries (Volume.entries_write ..) opens, written⟩
  calm _ _ _ _ keeps exact := ⟨keeps.openFile exact.1, keeps.holds exact.2⟩
  spared order _ stage volume later number bytes _ effect apart exact := by
    obtain ⟨opens, holds⟩ := exact
    cases effect with
    | calm keeps still => exact ⟨keeps.openFile opens, keeps.holds holds⟩
    | opened usable created => exact absurd trivial apart
    | @written upload missing offset _ portion _ ahead within =>
        have only := Volume.onlyFile_write volume upload.handle offset portion
        refine ⟨Volume.openFile_of_entries only.entries opens, ?_⟩
        rw [Volume.Holds, only.record number apart]
        exact holds
    | discarded => exact absurd trivial apart

theorem isMixed_write {volume : Volume} {number : Nat} {order : Order} (member : order ∈ orders)
    {offset : Nat} {portion rest : List UInt8} (ahead : order.stream.drop offset = portion ++ rest)
    (within : offset + portion.length ≤ order.count)
    (mixed : IsMixed site safe orders volume number)
    (handle : Handle) : IsMixed site safe orders (volume.write handle offset portion) number := by
  obtain ⟨opens, sent⟩ := mixed
  have only := Volume.onlyFile_write volume handle offset portion
  refine ⟨Volume.openFile_of_entries only.entries opens, fun place byte found => ?_⟩
  by_cases own : handle = .file number
  · subst own
    rcases volume.contentOf_write number offset portion with changed | same
    · rw [changed] at found
      rcases Volume.Content.getElem?_writeAt found with ⟨behind, put⟩ | gap | before
      · right
        refine ⟨order, member, ?_⟩
        obtain ⟨inside, -⟩ := List.getElem?_eq_some_iff.mp put
        have there : order.stream[place]? = some byte := by
          have shifted : (order.stream.drop offset)[place - offset]? = some byte := by
            rw [ahead, List.getElem?_append_left inside, put]
          rwa [List.getElem?_drop, Nat.add_sub_cancel' behind] at shifted
        rw [Order.content, List.getElem?_take_of_lt (by omega), there]
      · exact .inl gap
      · exact sent place byte before
    · rw [same] at found
      exact sent place byte found
  · rw [only.contentOf own] at found
    exact sent place byte found

theorem IsMixed.read {volume : Volume} {number : Nat}
    (mixed : IsMixed site safe orders volume number)
    {count place : Nat} {byte : UInt8}
    (found : (volume.read (.file number) count)[place]? = some byte) :
    byte = 0 ∨ ∃ order ∈ orders, order.content[place]? = some byte := by
  rw [Volume.read, Volume.Content.take_eq] at found
  obtain ⟨within, -⟩ := List.getElem?_eq_some_iff.mp found
  have inside : place < count := Nat.lt_of_lt_of_le within (List.length_take_le ..)
  rw [List.getElem?_take_of_lt inside] at found
  exact mixed.2 place byte found

theorem isMixed_createFile {volume opened : Volume} {number : Nat} (recorded : volume.Recorded)
    (created : volume.createFile site.credentials (targetPlace site safe).bytes =
      .ok (.file number, opened)) : IsMixed site safe orders opened number := by
  refine ⟨Volume.openFile_of_createFile created, fun place byte found => ?_⟩
  rw [(Volume.holds_of_createFile recorded created).contentOf] at found
  cases found

theorem isMixed_of_keeps {volume later : Volume} {number : Nat} (keeps : volume.Keeps later)
    (mixed : IsMixed site safe orders volume number) : IsMixed site safe orders later number := by
  refine ⟨keeps.openFile mixed.1, fun place byte found => mixed.2 place byte ?_⟩
  rwa [keeps.contentOf] at found

/-- The file is there and has only what was sent as long as nobody else removes it. -/
theorem lasting_mixed (usable : ∀ order ∈ orders, SafeName.ofName? order.name = some safe) :
    Lasting site owner safe orders (fun _ => Stage.Removes)
      (fun volume number _ => IsMixed site safe orders volume number) where
  opened _ _ _ recorded created := isMixed_createFile recorded created
  written _ member _ _ _ _ _ ahead within _ mixed := isMixed_write member ahead within mixed _
  calm _ _ _ _ keeps mixed := isMixed_of_keeps keeps mixed
  spared order member stage volume later number _ recorded effect apart mixed := by
    cases effect with
    | calm keeps still => exact isMixed_of_keeps keeps mixed
    | opened named created =>
        have own := usable order member
        rw [named] at own
        cases own
        obtain rfl := Volume.createFile_of_openFile mixed.1 created
        exact isMixed_createFile recorded created
    | written ahead within => exact isMixed_write member ahead within mixed _
    | discarded => exact absurd trivial apart

end Lasting

/-! ## What an accepted run has stored -/

namespace Crowd

variable {site : Site} {owner : Option Nat} {safe : String} {orders : List Order} {crowd : Crowd}
  {own : Nat} {order : Order} {upload : Upload}

/-- A run has put nothing into its file when it opens it. -/
theorem hasPut_of_opens {kind : Handle → Stage → Prop} {fact : Volume → Nat → List UInt8 → Prop}
    (lasting : Lasting site owner safe orders kind fact) (sound : crowd.Sound site safe orders)
    (ordered : orders[own]? = some order) (opens : crowd.Opens site owner own order upload) :
    ∃ run, (crowd.step site owner own).runs[own]? = some run ∧ run.stage.IsPast ∧
      run.stage.HasPut fact order (crowd.step site owner own).volume upload := by
  obtain ⟨⟨directory, word, before⟩, after⟩ := opens
  obtain ⟨run, present, opening⟩ := Option.map_eq_some_iff.mp before
  obtain ⟨same, asked, running⟩ := sound.runs own run present
  rw [ordered] at asked
  cases asked
  rw [run_step present, Option.map_some] at after
  have stage := Option.some.inj after
  refine ⟨_, run_step present, by rw [stage]; trivial, ?_⟩
  rw [step_eq present]
  rcases run.step_cases site owner crowd.volume with
    ⟨result, settled, -, -⟩ | ⟨wish, wished, -⟩ | ⟨-, stepped⟩
  · rw [opening] at settled
    cases settled
  · rw [opening] at wished
    cases wished
  · have stands := running.stands
    rw [opening] at stands
    have named (other : String) (same : SafeName.ofName? order.name = some other) : other = safe :=
      Option.some.inj (same.symm.trans (sound.usable order (List.mem_of_getElem? ordered)))
    rw [stepped, opening] at stage ⊢
    rcases lasting.opens stands named sound.recorded with ⟨failure, failed⟩ | ⟨other, writes, has⟩
    · rw [failed] at stage
      cases stage
    · rw [writes] at stage
      cases stage
      exact has

/-- What a run has put into the file that it opened lasts while the others are spared of a kind of
step. -/
theorem hasPut_of_spares {kind : Handle → Stage → Prop} {fact : Volume → Nat → List UInt8 → Prop}
    (lasting : Lasting site owner safe orders kind fact) (sound : crowd.Sound site safe orders)
    (ordered : orders[own]? = some order) (opens : crowd.Opens site owner own order upload)
    {schedule : List Nat}
    (spares : (crowd.step site owner own).Spares site owner (kind upload.handle) own schedule)
    {run : Run} (present : (crowd.follow site owner (own :: schedule)).runs[own]? = some run)
    (stored : run.stage = .settled (.ok ())) :
    ∃ number, fact (crowd.follow site owner (own :: schedule)).volume number order.content := by
  obtain ⟨first, there, past, put⟩ := hasPut_of_opens lasting sound ordered opens
  obtain ⟨later, last, lasts⟩ :=
    follow_hasPut lasting (sound.step owner own) ordered there past put spares
  change (crowd.follow site owner (own :: schedule)).runs[own]? = some later at last
  rw [present] at last
  cases last
  rw [stored] at lasts
  obtain ⟨number, -, holds⟩ := lasts
  exact ⟨number, holds⟩

end Crowd

/-- The client of an exchange asks for an order under a name, and has been sent nothing yet. -/
structure Order.Asked (safe : String) (order : Order) (exchange : Exchange) : Prop where
  requests : Requests exchange order.name order.size order.stream
  usable : SafeName.ofName? order.name = some safe
  silent : exchange.sent = []

theorem Run.sound_new {site : Site} {safe : String} {order : Order} {exchange : Exchange}
    (asked : order.Asked safe exchange) : (Run.new exchange).Sound site order := by
  refine ⟨?_, fun _ => asked.silent, fun accepted => ?_⟩
  · rw [Run.new]
    dsimp only
    rw [asked.requests.sent]
    exact .start asked.requests.asked asked.requests.sendable
  · rw [Run.new] at accepted
    rw [asked.silent] at accepted
    cases accepted

theorem Run.closed_new {safe : String} {order : Order} {exchange : Exchange}
    (asked : order.Asked safe exchange) : ¬ (Run.new exchange).stage.IsOpen := by
  rw [Run.new, Stage.start, asked.requests.asked]
  exact id

theorem Crowd.runs_start (volume : Volume) (exchanges : List Exchange) (index : Nat) :
    (Crowd.start volume exchanges).runs[index]? = exchanges[index]?.map Run.new :=
  List.getElem?_map

theorem Crowd.sound_start {site : Site} {safe : String} {volume : Volume}
    (recorded : volume.Recorded) {clients : List (Order × Exchange)}
    (asked : ∀ client ∈ clients, client.1.Asked safe client.2) :
    (Crowd.start volume (clients.map Prod.snd)).Sound site safe (clients.map Prod.fst) := by
  refine ⟨fun order member => ?_, recorded, fun index run present => ?_⟩
  · obtain ⟨client, listed, rfl⟩ := List.mem_map.mp member
    exact (asked client listed).usable
  · rw [runs_start, List.getElem?_map, Option.map_map] at present
    obtain ⟨client, found, rfl⟩ := Option.map_eq_some_iff.mp present
    refine ⟨client.1, ?_, Run.sound_new (asked client (List.mem_of_getElem? found))⟩
    rw [List.getElem?_map, found, Option.map_some]

/-- For any runs whose names come to the same file, in any order of their steps, as soon as one of
them has been accepted:
* It has opened the file.
* If no other run has opened it, written to it or removed it since, the name reads as exactly the
  announced bytes.
* If no other run has removed it since, the name leads to a file of which each byte was sent to one
  of the runs for that place, or is a zero. -/
theorem stored_of_accepted (site : Site) (owner : Option Nat) {safe : String} {volume : Volume}
    (recorded : volume.Recorded) {clients : List (Order × Exchange)}
    (asked : ∀ client ∈ clients, client.1.Asked safe client.2) (schedule : List Nat) {own : Nat}
    {order : Order} {exchange : Exchange} (client : clients[own]? = some (order, exchange)) :
    let first := Crowd.start volume (clients.map Prod.snd)
    let last := first.follow site owner schedule
    ∀ run, last.runs[own]? = some run → run.exchange.sent = [Verdict.accepted.code] →
      (∃ before after upload, schedule = before ++ own :: after ∧
        (first.follow site owner before).Opens site owner own order upload) ∧
      ∀ before after upload, schedule = before ++ own :: after →
        (first.follow site owner before).Opens site owner own order upload →
          let opened := first.follow site owner (before ++ [own])
          (opened.Spares site owner (Stage.Touches upload.handle) own after →
            last.volume.ReadsAs (targetPlace site safe).bytes order.content ∧
              order.content.length = order.count) ∧
          (opened.Spares site owner Stage.Removes own after → ∃ number,
            last.volume.openFile (targetPlace site safe).bytes = .ok (.file number) ∧
            ∀ (count place : Nat) (byte : UInt8),
              (last.volume.read (.file number) count)[place]? = some byte →
                byte = 0 ∨ ∃ client ∈ clients, client.1.content[place]? = some byte) := by
  intro first last run present accepted
  have sound : first.Sound site safe (clients.map Prod.fst) := Crowd.sound_start recorded asked
  have ordered : (clients.map Prod.fst)[own]? = some order := by
    rw [List.getElem?_map, client, Option.map_some]
  obtain ⟨same, there, running⟩ := (sound.follow owner schedule).runs own run present
  rw [ordered] at there
  cases there
  have stored := running.accepted accepted
  refine ⟨?_, fun before after upload split opens => ?_⟩
  · refine Crowd.opens_of_isOpen sound ordered (fun start found => ?_) present ?_
    · rw [Crowd.runs_start, List.getElem?_map, client] at found
      cases found
      exact Run.closed_new (asked _ (List.mem_of_getElem? client))
    · rw [stored]
      trivial
  · have reached := sound.follow owner before
    have whole : last = (first.follow site owner before).follow site owner (own :: after) := by
      rw [← Crowd.follow_append, ← split]
    have step : first.follow site owner (before ++ [own]) =
        (first.follow site owner before).step site owner own := Crowd.follow_append ..
    rw [whole] at present ⊢
    rw [step]
    refine ⟨fun spares => ?_, fun spares => ?_⟩
    · obtain ⟨number, opens, holds⟩ :=
        Crowd.hasPut_of_spares lasting_exact reached ordered opens spares present stored
      refine ⟨holds.readsAs opens, ?_⟩
      have stands := running.stands
      rw [stored] at stands
      generalize run.exchange.incoming.flatten = rest at stands
      cases stands with
      | stored usable enough => exact List.length_take_of_le enough
    · obtain ⟨number, mixed⟩ :=
        Crowd.hasPut_of_spares (lasting_mixed sound.usable) reached ordered opens spares present
          stored
      refine ⟨number, mixed.1, fun count place byte found => ?_⟩
      rcases mixed.read found with zero | ⟨other, member, put⟩
      · exact .inl zero
      · obtain ⟨one, listed, rfl⟩ := List.mem_map.mp member
        exact .inr ⟨one, listed, put⟩

/-! ## Two runs for one name -/

def wholeExchange : Exchange :=
  Exchange.new .store [[97, 10, 3, 0, 0, 0, 0, 0, 0, 0], [110, 101, 117]] true

def briefExchange : Exchange :=
  Exchange.new .store [[97, 10, 2, 0, 0, 0, 0, 0, 0, 0], [106, 97]] true

def usedPath : List UInt8 :=
  (targetPlace usedSite "a").bytes

/-- The run that is cut comes first. -/
theorem stored_of_accepted_last :
    let last := (Crowd.start usedVolume [wholeExchange, cutExchange]).follow usedSite none
      (List.replicate 19 1 ++ List.replicate 20 0)
    last.volume.ReadsAs usedPath [110, 101, 117] ∧
      ∃ number, last.volume.openFile usedPath = .ok (.file number) := by
  have recorded : usedVolume.Recorded := .of_entries (by decide)
  have first : (⟨"a", 3, [110, 101, 117]⟩ : Order).Asked "a" wholeExchange :=
    ⟨⟨rfl, ⟨by decide, by unfold Field.IsLine; decide⟩, by decide⟩, by decide, rfl⟩
  have second : (⟨"a", 10, [99, 117, 116, 33]⟩ : Order).Asked "a" cutExchange :=
    ⟨⟨rfl, ⟨by decide, by unfold Field.IsLine; decide⟩, by decide⟩, by decide, rfl⟩
  have asked : ∀ client ∈ [((⟨"a", 3, [110, 101, 117]⟩ : Order), wholeExchange),
      (⟨"a", 10, [99, 117, 116, 33]⟩, cutExchange)], client.1.Asked "a" client.2 := by
    simp [first, second]
  have accepted := @stored_of_accepted usedSite none _ _ recorded _ asked
    (List.replicate 19 1 ++ List.replicate 20 0) 0 _ _ rfl
  obtain ⟨-, since⟩ := accepted _ rfl rfl
  obtain ⟨exact, mixed⟩ := since (List.replicate 19 1 ++ List.replicate 14 0) (List.replicate 5 0)
    ⟨targetPlace usedSite "a", .file 1⟩ rfl ⟨⟨_, _, rfl⟩, rfl⟩
  obtain ⟨number, opens, -⟩ := mixed (by simp [Crowd.Spares, List.replicate])
  exact ⟨(exact (by simp [Crowd.Spares, List.replicate])).1, number, opens⟩

/-- A run that fails after another one was accepted removes what that one stored; and two runs that
are both accepted can leave a file that neither of them was sent. -/
theorem accepted_content_lost :
    let removed := (Crowd.start usedVolume [wholeExchange, cutExchange]).follow usedSite none
      (List.replicate 20 0 ++ List.replicate 19 1)
    let mixed := (Crowd.start usedVolume [wholeExchange, briefExchange]).follow usedSite none
      (List.replicate 15 0 ++ List.replicate 15 1 ++ List.replicate 5 0 ++ List.replicate 5 1)
    (removed.runs.all (·.answer.isSome) = true ∧
      removed.runs[0]?.map (·.exchange.sent) = some [Verdict.accepted.code] ∧
      ∀ bytes, ¬ removed.volume.ReadsAs usedPath bytes) ∧
    mixed.runs.all (·.answer.isSome) = true ∧
      mixed.runs.map (·.exchange.sent) = [[Verdict.accepted.code], [Verdict.accepted.code]] ∧
      ¬ mixed.volume.ReadsAs usedPath [110, 101, 117] ∧
      ¬ mixed.volume.ReadsAs usedPath [106, 97] := by
  intro removed mixed
  refine ⟨⟨rfl, rfl, ?_⟩, rfl, rfl, ?_⟩
  · rintro bytes ⟨number, opens, -⟩
    have gone : removed.volume.openFile usedPath = .error (.refused .noEntry) := rfl
    rw [gone] at opens
    cases opens
  · have opened : mixed.volume.openFile usedPath = .ok (.file 0) := rfl
    have content : mixed.volume.read (.file 0) 3 = [106, 97, 117] := rfl
    constructor
    · rintro ⟨number, opens, reads⟩
      rw [opened] at opens
      cases opens
      exact absurd (content.symm.trans (reads 3)) (by decide)
    · rintro ⟨number, opens, reads⟩
      rw [opened] at opens
      cases opens
      exact absurd (content.symm.trans (reads 3)) (by decide)

end DesktopGateway.Files.Upload
