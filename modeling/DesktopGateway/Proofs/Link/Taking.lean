import DesktopGateway.Proofs.Link.Handing

/-!
# What a reading takes

A reading is carried out by polls, and the bytes that these hand out tell its answer: those of a
field or a header by its demand, raw bytes and content by how many they are. Before it has its
answer a reading stops only where nothing is unread.
-/

namespace DesktopGateway.Link

/-- What a reader finds next: bytes, the end of the stream, or nothing yet. -/
inductive Left where
  | bytes
  | ended
  | waiting
  deriving DecidableEq, Repr

namespace Left

def of (unread : List UInt8) (closed : Bool) : Left :=
  if unread = [] then (if closed then .ended else .waiting) else .bytes

theorem of_eq_ended_iff {unread : List UInt8} {closed : Bool} :
    of unread closed = .ended ↔ unread = [] ∧ closed = true := by
  unfold of
  split
  · rename_i empty
    cases closed <;> simp [empty]
  · rename_i some
    simp [some]

theorem of_eq_waiting_iff {unread : List UInt8} {closed : Bool} :
    of unread closed = .waiting ↔ unread = [] ∧ closed = false := by
  unfold of
  split
  · rename_i empty
    cases closed <;> simp [empty]
  · rename_i some
    simp [some]

end Left

end DesktopGateway.Link

namespace DesktopGateway.Wire.Demand

open DesktopGateway.Link

variable {α : Type} {left : Left}

/-- What a demand makes of the bytes that it has taken. It has met the end of the stream only if
that is left, and it waits only if nothing is left. -/
inductive Answers (left : Left) : Demand α → List UInt8 → Option α → Prop where
  | done (result : α) : Answers left (.done result) [] (some result)
  | byte {onByte : UInt8 → Demand α} {onEnd : Demand α} {value : UInt8} {taken : List UInt8}
      {answer : Option α} (later : Answers left (onByte value) taken answer) :
      Answers left (.next onByte onEnd) (value :: taken) answer
  | ended {onByte : UInt8 → Demand α} {onEnd : Demand α} {answer : Option α} (last : left = .ended)
      (later : Answers left onEnd [] answer) : Answers left (.next onByte onEnd) [] answer
  | waiting {onByte : UInt8 → Demand α} {onEnd : Demand α} (last : left = .waiting) :
      Answers left (.next onByte onEnd) [] none

/-- Only that the stream has ended must still be so for the answer to stand. -/
theorem Answers.of_ended {other : Left} {demand : Demand α} {taken : List UInt8} {result : α}
    (answers : Answers left demand taken (some result)) (ended : left = .ended → other = .ended) :
    Answers other demand taken (some result) := by
  generalize same : some result = answer at answers ⊢
  induction answers with
  | done result => exact .done result
  | byte later ih => exact .byte (ih same)
  | ended last later ih => exact .ended (ended last) (ih same)
  | waiting => cases same

end DesktopGateway.Wire.Demand

namespace DesktopGateway.Link

open DesktopGateway.Host
open DesktopGateway.Wire

/-- What is made of the bytes that were to come next, if there are `count` of them. -/
inductive Exactly (left : Left) (count : Nat) :
    List UInt8 → Option (Except Failure (List UInt8)) → Prop where
  | all {taken : List UInt8} (length : taken.length = count) :
      Exactly left count taken (some (.ok taken))
  | ended {taken : List UInt8} (short : taken.length < count) (last : left = .ended) :
      Exactly left count taken (some (.error Window.exhausted))
  | waiting {taken : List UInt8} (short : taken.length < count) (last : left = .waiting) :
      Exactly left count taken none

inductive ToEnd (left : Left) : List UInt8 → Option (List UInt8) → Prop where
  | ended {taken : List UInt8} (last : left = .ended) : ToEnd left taken (some taken)
  | waiting {taken : List UInt8} (last : left = .waiting) : ToEnd left taken none

/-- What is made of content of which `announced` bytes were announced: as much as has come. -/
def Collects (left : Left) (announced : Nat) (taken : List UInt8)
    (content : Option Parcel.Content) : Prop :=
  ∃ answer, Exactly left announced taken answer ∧
    content = answer.map fun _ => ⟨announced, taken, announced - taken.length⟩

/-- What is made of a message: its header by the demand, its content by the size in the header. -/
inductive Receives (left : Left) (kind : Parcel.Kind) :
    List UInt8 → Option (Except Fault (Parcel Parcel.Content)) → Prop where
  | waiting {taken : List UInt8} (header : Demand.Answers left (Parcel.decode kind) taken none) :
      Receives left kind taken none
  | fault {taken : List UInt8} {fault : Fault}
      (header : Demand.Answers left (Parcel.decode kind) taken (some (.error fault))) :
      Receives left kind taken (some (.error fault))
  | content {front back : List UInt8} {parcel : Parcel Unit} {content : Option Parcel.Content}
      (header : Demand.Answers left (Parcel.decode kind) front (some (.ok parcel)))
      (collects : Collects left parcel.contentSize back content) :
      Receives left kind (front ++ back)
        (content.map fun content => .ok (parcel.map fun _ => content))

theorem Exactly.append {left : Left} {count : Nat} {taken : List UInt8}
    {answer : Option (Except Failure (List UInt8))} (chunk : List UInt8)
    (rest : Exactly left count taken answer) :
    Exactly left (chunk.length + count) (chunk ++ taken)
      (answer.map (·.map (chunk ++ ·))) := by
  have total := @List.length_append _ chunk taken
  cases rest with
  | all length => exact .all (by omega)
  | ended short last => exact .ended (by omega) last
  | waiting short last => exact .waiting (by omega) last

namespace Endpoint

/-! ## Polls of a source -/

/-- Polls of a source hand out these bytes and lead there. -/
inductive Takes : Endpoint × Pipe → List UInt8 → Endpoint × Pipe → Prop where
  | refl (source : Endpoint × Pipe) : Takes source [] source
  | poll {source later last : Endpoint × Pipe} {front back : List UInt8} (poll : ReadPoll)
      (first : Endpoint.poll source poll = (front, later)) (rest : Takes later back last) :
      Takes source (front ++ back) last

namespace Takes

variable {source later last : Endpoint × Pipe} {front back : List UInt8}

theorem one (poll : ReadPoll) (done : Endpoint.poll source poll = (front, later)) :
    Takes source front later := by
  have once := Takes.poll poll done (.refl later)
  rwa [List.append_nil] at once

theorem trans (earlier : Takes source front later) (rest : Takes later back last) :
    Takes source (front ++ back) last := by
  induction earlier with
  | refl => exact rest
  | poll poll first _ ih =>
      rw [List.append_assoc]
      exact .poll poll first (ih rest)

/-- However a reading goes, it has handed out what came first and left the rest unread. -/
theorem handsOut (takes : Takes source front later) : HandsOut source front later := by
  induction takes with
  | refl source => exact .refl source
  | @poll source later last front back poll first _ ih =>
      have handed := poll_handsOut poll source
      rw [first] at handed
      exact handed.trans ih

end Takes

def left (source : Endpoint × Pipe) : Left :=
  .of (unread source) source.2.closed

/-- A reading is carried out by polls, and what these hand out tells its answer. -/
def Reads {α : Type} (read : Endpoint × Pipe → Option α × Endpoint × Pipe)
    (answers : Left → List UInt8 → Option α → Prop) : Prop :=
  ∀ source, ∃ taken, Takes source taken (read source).2 ∧
    answers (left (read source).2) taken (read source).1

/-- A reading hands out some bytes and does nothing else. -/
def OnlyTakes {α : Type} (read : Endpoint × Pipe → Option α × Endpoint × Pipe) : Prop :=
  ∀ source, ∃ taken, HandsOut source taken (read source).2

theorem Reads.onlyTakes {α : Type} {read : Endpoint × Pipe → Option α × Endpoint × Pipe}
    {answers : Left → List UInt8 → Option α → Prop} (reads : Reads read answers) :
    OnlyTakes read := by
  intro source
  obtain ⟨taken, takes, _⟩ := reads source
  exact ⟨taken, takes.handsOut⟩

/-- From a source that has nothing left nothing is taken, and it stays like that. -/
theorem HandsOut.of_empty {source later : Endpoint × Pipe} {taken : List UInt8}
    (handed : HandsOut source taken later) (empty : unread source = []) :
    taken = [] ∧ left later = left source := by
  have conserved := handed.conserved
  rw [empty, List.append_eq_nil_iff] at conserved
  exact ⟨conserved.1, by rw [left, left, conserved.2, empty, handed.closed]⟩

/-! ## Readings -/

/-- A field or a header is read byte by byte. -/
theorem read_reads {α : Type} (demand : Demand α) :
    Reads (read demand) fun left => Demand.Answers left demand := by
  induction demand with
  | done result => exact fun source => ⟨[], .refl source, .done result⟩
  | next onByte onEnd ihByte ihEnd =>
      intro source
      have gives := pull_gives source
      unfold read
      rw [Demand.drive]
      cases pulled : pull source with
      | mk answer later =>
          rw [pulled] at gives
          have one : Takes source answer.taken later :=
            .one .byte (by rw [poll, pulled])
          cases answer with
          | byte value =>
              obtain ⟨taken, takes, answers⟩ := ihByte value later
              exact ⟨[value] ++ taken, one.trans takes, .byte answers⟩
          | ended =>
              obtain ⟨taken, takes, answers⟩ := ihEnd later
              cases gives with
              | ended closed empty rest =>
                  obtain ⟨rfl, same⟩ := takes.handsOut.of_empty rest
                  have last := Left.of_eq_ended_iff.mpr ⟨rest, one.handsOut.closed.trans closed⟩
                  exact ⟨[], one.trans takes, .ended (same.trans last) answers⟩
          | waiting =>
              cases gives with
              | waiting openly empty rest =>
                  have last := Left.of_eq_waiting_iff.mpr ⟨rest, one.handsOut.closed.trans openly⟩
                  exact ⟨[], one, .waiting last⟩

/-- A take with some room hands out some bytes, or nothing is left. -/
theorem takes_take {source later : Endpoint × Pipe} {missing room : Nat} {delivery : Delivery}
    (roomy : 0 < room) (fits : room ≤ missing) (done : take room source = (delivery, later)) :
    (∃ first more, delivery = .bytes (first :: more) ∧ more.length < missing ∧
        Takes source (first :: more) later) ∨
      Takes source [] later ∧
        (delivery = .ended ∧ left later = .ended ∨
          delivery = .waiting ∧ left later = .waiting) := by
  have gives := take_gives roomy source
  have one : Takes source delivery.taken later := .one (.upTo room) (by rw [poll, done])
  rw [done] at gives
  cases gives with
  | bytes first more short whole => exact .inl ⟨first, more, rfl, by omega, one⟩
  | ended closed empty rest =>
      have last := Left.of_eq_ended_iff.mpr ⟨rest, one.handsOut.closed.trans closed⟩
      exact .inr ⟨one, .inl ⟨rfl, last⟩⟩
  | waiting openly empty rest =>
      have last := Left.of_eq_waiting_iff.mpr ⟨rest, one.handsOut.closed.trans openly⟩
      exact .inr ⟨one, .inr ⟨rfl, last⟩⟩

theorem takes_readExactly (missing : Nat) (front : List UInt8) (source : Endpoint × Pipe) :
    let result := readExactly missing front source
    ∃ taken answer, Takes source taken result.2 ∧ Exactly (left result.2) missing taken answer ∧
      result.1 = answer.map (·.map (front ++ ·)) := by
  intro result
  unfold result
  fun_induction readExactly missing front source with
  | case1 front source =>
      exact ⟨[], _, .refl source, .all rfl, by simp [Except.map]⟩
  | case2 missing front source later empty =>
      rcases takes_take (Nat.succ_pos missing) (Nat.le_refl _) empty with
        ⟨first, more, impossible, -⟩ | ⟨-, ⟨impossible, -⟩ | ⟨impossible, -⟩⟩ <;> cases impossible
  | case3 missing front source first more later some ih =>
      rcases takes_take (Nat.succ_pos missing) (Nat.le_refl _) some with
        ⟨_, _, same, short, one⟩ | ⟨-, ⟨impossible, -⟩ | ⟨impossible, -⟩⟩
      · cases same
        obtain ⟨taken, answer, takes, exact_, told⟩ := ih
        have whole := exact_.append (first :: more)
        rw [show (first :: more).length + (missing - more.length) = missing + 1 by
          rw [List.length_cons]; omega] at whole
        refine ⟨_, _, one.trans takes, whole, ?_⟩
        rw [told]
        rcases answer with _ | _ | _ <;> simp [Except.map]
      · cases impossible
      · cases impossible
  | case4 missing front source later ended =>
      rcases takes_take (Nat.succ_pos missing) (Nat.le_refl _) ended with
        ⟨first, more, impossible, -⟩ | ⟨one, ⟨-, last⟩ | ⟨impossible, -⟩⟩
      · cases impossible
      · exact ⟨[], _, one, .ended (Nat.succ_pos missing) last, rfl⟩
      · cases impossible
  | case5 missing front source later waiting =>
      rcases takes_take (Nat.succ_pos missing) (Nat.le_refl _) waiting with
        ⟨first, more, impossible, -⟩ | ⟨one, ⟨impossible, -⟩ | ⟨-, last⟩⟩
      · cases impossible
      · cases impossible
      · exact ⟨[], _, one, .waiting (Nat.succ_pos missing) last, rfl⟩

theorem readExactly_reads (count : Nat) :
    Reads (readExactly count []) fun left => Exactly left count := by
  intro source
  obtain ⟨taken, answer, takes, told, same⟩ := takes_readExactly count [] source
  refine ⟨taken, takes, ?_⟩
  rw [same]
  cases told with
  | all length => exact .all length
  | ended short last => exact .ended short last
  | waiting short last => exact .waiting short last

/-- There is always room to collect more content. -/
theorem collectingRoom_pos (held memory : Nat) : 0 < (collectingRoom held memory).1 := by
  unfold collectingRoom
  dsimp only
  split <;> omega

theorem takes_readContent (missing : Nat) (front : List UInt8) (memory : Nat)
    (source : Endpoint × Pipe) :
    let result := readContent missing front memory source
    ∃ taken answer, Takes source taken result.2 ∧ Exactly (left result.2) missing taken answer ∧
      result.1 = answer.map fun _ => front ++ taken := by
  intro result
  unfold result
  have roomy (front : List UInt8) (memory missing : Nat) :
      0 < min (collectingRoom front.length memory).1 (missing + 1) :=
    Nat.lt_min.mpr ⟨collectingRoom_pos .., missing.succ_pos⟩
  fun_induction readContent missing front memory source with
  | case1 front memory source => exact ⟨[], _, .refl source, .all rfl, by simp⟩
  | case2 missing front memory source room later empty =>
      rcases takes_take (roomy ..) (Nat.min_le_right ..) empty with
        ⟨first, more, impossible, -⟩ | ⟨-, ⟨impossible, -⟩ | ⟨impossible, -⟩⟩ <;> cases impossible
  | case3 missing front memory source room first more later some ih =>
      rcases takes_take (roomy ..) (Nat.min_le_right ..) some with
        ⟨_, _, same, short, one⟩ | ⟨-, ⟨impossible, -⟩ | ⟨impossible, -⟩⟩
      · cases same
        obtain ⟨taken, answer, takes, told, same⟩ := ih
        have whole := told.append (first :: more)
        rw [show (first :: more).length + (missing - more.length) = missing + 1 by
          rw [List.length_cons]; omega] at whole
        refine ⟨_, _, one.trans takes, whole, ?_⟩
        rw [same]
        rcases answer with _ | _ | _ <;> simp
      · cases impossible
      · cases impossible
  | case4 missing front memory source room later ended =>
      rcases takes_take (roomy ..) (Nat.min_le_right ..) ended with
        ⟨first, more, impossible, -⟩ | ⟨one, ⟨-, last⟩ | ⟨impossible, -⟩⟩
      · cases impossible
      · exact ⟨[], _, one, .ended (Nat.succ_pos missing) last, by simp⟩
      · cases impossible
  | case5 missing front memory source room later waiting =>
      rcases takes_take (roomy ..) (Nat.min_le_right ..) waiting with
        ⟨first, more, impossible, -⟩ | ⟨one, ⟨impossible, -⟩ | ⟨-, last⟩⟩
      · cases impossible
      · cases impossible
      · exact ⟨[], _, one, .waiting (Nat.succ_pos missing) last, rfl⟩

theorem collect_snd (announced : Nat) (source : Endpoint × Pipe) :
    (collect announced source).2 = (readContent announced [] 0 source).2 := by
  unfold collect
  split <;> rename_i outcome <;> rw [outcome]

theorem collect_reads (announced : Nat) :
    Reads (collect announced) fun left => Collects left announced := by
  intro source
  obtain ⟨taken, answer, takes, told, same⟩ := takes_readContent announced [] 0 source
  rw [← collect_snd] at takes told
  refine ⟨taken, takes, answer, told, ?_⟩
  unfold collect
  split <;> rename_i outcome <;> rw [outcome] at same <;> cases answer <;> cases same <;> rfl

/-- A message is read byte by byte up to its content, and the content as it comes. -/
theorem readParcel_reads (kind : Parcel.Kind) :
    Reads (readParcel kind) fun left => Receives left kind := by
  intro source
  obtain ⟨front, takes, header⟩ := read_reads (Parcel.decode kind) source
  unfold readParcel
  cases decoded : read (Parcel.decode kind) source with
  | mk answer later =>
      rw [decoded] at takes header
      -- A header whose content has been collected is the same header.
      have collected (parcel : Parcel Unit) (same : answer = some (.ok parcel))
          {last : Endpoint × Pipe} {content : Option Parcel.Content} {back : List UInt8}
          (rest : Takes later back last)
          (collects : Collects (left last) parcel.contentSize back content) :
          Takes source (front ++ back) last ∧
            Receives (left last) kind (front ++ back)
              (content.map fun content => .ok (parcel.map fun _ => content)) := by
        rw [same] at header
        refine ⟨takes.trans rest, .content (header.of_ended fun ended => ?_) collects⟩
        obtain ⟨empty, -⟩ := Left.of_eq_ended_iff.mp ended
        exact (rest.handsOut.of_empty empty).2.trans ended
      have nothing (parcel : Parcel Unit) (size : parcel.contentSize = 0) :
          Collects (left later) parcel.contentSize [] (some ⟨0, [], 0⟩) := by
        rw [size]
        exact ⟨_, .all rfl, rfl⟩
      rcases answer with _ | fault | parcel
      · exact ⟨front, takes, .waiting header⟩
      · exact ⟨front, takes, .fault header⟩
      · cases parcel with
        | statRequest path => exact ⟨_, collected _ rfl (.refl later) (nothing _ rfl)⟩
        | fetchRequest path => exact ⟨_, collected _ rfl (.refl later) (nothing _ rfl)⟩
        | storeRequest name size content =>
            obtain ⟨back, rest, told⟩ := collect_reads size.toNatClampNeg later
            exact ⟨_, collected _ rfl rest told⟩
        | fetchedFile name contentType size content =>
            obtain ⟨back, rest, told⟩ := collect_reads size.toNatClampNeg later
            exact ⟨_, collected _ rfl rest told⟩

theorem readToEnd_reads : Reads readToEnd ToEnd := by
  intro source
  have one : Takes source (source.1.ahead ++ source.2.held) (readToEnd source).2 :=
    .one .rest rfl
  have rest : unread (readToEnd source).2 = [] := rfl
  refine ⟨_, one, ?_⟩
  cases closed : source.2.closed with
  | true =>
      have last := Left.of_eq_ended_iff.mpr ⟨rest, one.handsOut.closed.trans closed⟩
      rw [show (readToEnd source).1 = _ from if_pos closed]
      exact .ended last
  | false =>
      have last := Left.of_eq_waiting_iff.mpr ⟨rest, one.handsOut.closed.trans closed⟩
      rw [show (readToEnd source).1 = _ from if_neg (by simp [closed])]
      exact .waiting last

end Endpoint

end DesktopGateway.Link
