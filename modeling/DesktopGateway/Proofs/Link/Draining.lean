import DesktopGateway.Proofs.Link.Taking

/-!
# Readings of a stream that ends

When the writing side is done, a reading gives and leaves what the bytes that are unread say: not
how they are cut into pieces, and not how many of them have been read ahead.
-/

namespace DesktopGateway.Link

open DesktopGateway.Host
open DesktopGateway.Wire

/-! ## One read -/

namespace Endpoint

variable {source : Endpoint × Pipe}

/-- With room, a source whose pipe is closed delivers some bytes or has ended. -/
theorem take_of_closed {room : Nat} (closed : source.2.closed = true) (roomy : 0 < room) :
    ∃ later, later.2.closed = true ∧
      (take room source = (.ended, later) ∧ unread source = [] ∧ unread later = [] ∨
        ∃ first more, take room source = (.bytes (first :: more), later) ∧ more.length < room ∧
          unread source = first :: more ++ unread later) := by
  refine ⟨(take room source).2, (take_handsOut room source).closed.trans closed, ?_⟩
  have gives := take_gives roomy source
  cases taken : take room source with
  | mk delivery later =>
      rw [taken] at gives
      cases gives with
      | bytes first more short whole => exact .inr ⟨first, more, rfl, short, whole⟩
      | ended _ empty rest => exact .inl ⟨rfl, empty, rest⟩
      | waiting openly _ _ =>
          rw [closed] at openly
          cases openly

/-- A source whose pipe is closed hands out the next byte or has ended. -/
theorem pull_of_closed (closed : source.2.closed = true) :
    ∃ later, later.2.closed = true ∧
      (pull source = (.ended, later) ∧ unread source = [] ∧ unread later = [] ∨
        ∃ value, pull source = (.byte value, later) ∧ unread source = value :: unread later) := by
  refine ⟨(pull source).2, (pull_handsOut source).closed.trans closed, ?_⟩
  have gives := pull_gives source
  cases pulled : pull source with
  | mk answer later =>
      rw [pulled] at gives
      cases answer with
      | byte value =>
          cases gives with
          | bytes _ _ _ whole => exact .inr ⟨value, rfl, whole⟩
      | ended =>
          cases gives with
          | ended _ empty rest => exact .inl ⟨rfl, empty, rest⟩
      | waiting =>
          cases gives with
          | waiting openly _ _ =>
              rw [closed] at openly
              cases openly

/-! ## Readings -/

/-- A reading gives and leaves what `result` says of the bytes that are unread, if the pipe of its
source is closed. -/
def Computes {α : Type} (read : Endpoint × Pipe → Option α × Endpoint × Pipe)
    (result : List UInt8 → α × List UInt8) : Prop :=
  ∀ source, source.2.closed = true →
    (read source).1 = some (result (unread source)).1 ∧
      unread (read source).2 = (result (unread source)).2

theorem read_computes {α : Type} (demand : Demand α) : Computes (read demand) demand.run := by
  induction demand with
  | done result =>
      intro source closed
      rw [Demand.run_done]
      exact ⟨rfl, rfl⟩
  | next onByte onEnd ihByte ihEnd =>
      intro source closed
      obtain ⟨later, still, ⟨ended, empty, rest⟩ | ⟨value, byte, whole⟩⟩ := pull_of_closed closed
      · have driven : read (.next onByte onEnd) source = read onEnd later := by
          rw [read, Demand.drive, ended, read]
        rw [driven, empty, Demand.run_next_nil, ← rest]
        exact ihEnd later still
      · have driven : read (.next onByte onEnd) source = read (onByte value) later := by
          rw [read, Demand.drive, byte, read]
        rw [driven, whole, Demand.run_next_cons]
        exact ihByte value later still

/-- The first bytes, when some of them have come. -/
theorem take_front (first : UInt8) {more : List UInt8} (back : List UInt8) {missing : Nat}
    (short : more.length < missing + 1) :
    (first :: more ++ back).take (missing + 1) =
        first :: more ++ back.take (missing - more.length) ∧
      (first :: more ++ back).drop (missing + 1) = back.drop (missing - more.length) := by
  have length : missing + 1 - (first :: more).length = missing - more.length :=
    Nat.add_sub_add_right ..
  constructor
  · rw [List.take_append, length, List.take_of_length_le short]
  · rw [List.drop_append, length, List.drop_of_length_le short, List.nil_append]

theorem readExactly_computes (missing : Nat) (taken : List UInt8) :
    Computes (readExactly missing taken) fun unread =>
      (if missing ≤ unread.length then .ok (taken ++ unread.take missing)
        else .error Window.exhausted, unread.drop missing) := by
  induction missing using Nat.strongRecOn generalizing taken with
  | ind missing ih =>
      intro source closed
      cases missing with
      | zero => simp [readExactly]
      | succ missing =>
          obtain ⟨later, still, ⟨ended, empty, rest⟩ | ⟨first, more, bytes, short, whole⟩⟩ :=
            take_of_closed closed missing.succ_pos
          · rw [readExactly, ended]
            simp [empty, rest]
          · obtain ⟨result, rest⟩ :=
              ih (missing - more.length) (by omega) (taken ++ first :: more) later still
            obtain ⟨front, back⟩ := take_front first (unread later) short
            have enough : missing + 1 ≤ (first :: more ++ unread later).length ↔
                missing - more.length ≤ (unread later).length := by
              rw [List.length_append, List.length_cons]
              omega
            rw [readExactly, bytes]
            dsimp only at result rest ⊢
            simp only [result, rest, whole, front, back, enough, List.append_assoc, and_self]

/-- Content that is collected is read as far as it comes. -/
theorem readContent_computes (missing : Nat) (taken : List UInt8) (memory : Nat) :
    Computes (readContent missing taken memory) fun unread =>
      (taken ++ unread.take missing, unread.drop missing) := by
  induction missing using Nat.strongRecOn generalizing taken memory with
  | ind missing ih =>
      intro source closed
      cases missing with
      | zero => simp [readContent]
      | succ missing =>
          have roomy : 0 < min (collectingRoom taken.length memory).1 (missing + 1) :=
            Nat.lt_min.mpr ⟨collectingRoom_pos .., missing.succ_pos⟩
          obtain ⟨later, still, ⟨ended, empty, rest⟩ | ⟨first, more, bytes, short, whole⟩⟩ :=
            take_of_closed closed roomy
          · rw [readContent, ended]
            simp [empty, rest]
          · obtain ⟨result, rest⟩ := ih (missing - more.length) (by omega) (taken ++ first :: more)
              (collectingRoom taken.length memory).2 later still
            obtain ⟨front, back⟩ :=
              take_front first (unread later) (Nat.lt_of_lt_of_le short (Nat.min_le_right ..))
            rw [readContent, bytes]
            dsimp only at result rest ⊢
            rw [result, rest, whole, front, back, List.append_assoc]
            exact ⟨rfl, rfl⟩

theorem readToEnd_computes : Computes readToEnd fun unread => (unread, []) :=
  fun _ closed => ⟨if_pos closed, rfl⟩

theorem collect_computes (announced : Nat) :
    Computes (collect announced) (Parcel.Content.take announced) := by
  intro source closed
  obtain ⟨result, rest⟩ := readContent_computes announced [] 0 source closed
  dsimp only [List.nil_append] at result
  rw [collect_snd, rest]
  refine ⟨?_, rfl⟩
  unfold collect
  split <;> rename_i outcome <;> rw [outcome] at result <;> cases result
  rfl

/-- A message is read as it is read from bytes that then end. -/
theorem readParcel_computes (kind : Parcel.Kind) :
    Computes (readParcel kind) (Parcel.read kind) := by
  intro source closed
  obtain ⟨result, rest⟩ := read_computes (Parcel.decode kind) source closed
  obtain ⟨_, handed⟩ := (read_reads (Parcel.decode kind)).onlyTakes source
  have still := handed.closed.trans closed
  unfold readParcel Parcel.read
  cases header : read (Parcel.decode kind) source with
  | mk answer later =>
      cases decoded : (Parcel.decode kind).run (unread source) with
      | mk outcome left =>
          rw [header] at still
          rw [header, decoded] at result rest
          obtain rfl : answer = some outcome := result
          obtain rfl : Endpoint.unread later = left := rest
          cases outcome with
          | error fault => exact ⟨rfl, rfl⟩
          | ok parcel =>
              cases parcel with
              | statRequest path => exact ⟨rfl, rfl⟩
              | fetchRequest path => exact ⟨rfl, rfl⟩
              | storeRequest name size content =>
                  obtain ⟨collected, left⟩ := collect_computes size.toNatClampNeg later still
                  dsimp only
                  rw [collected, left]
                  exact ⟨rfl, rfl⟩
              | fetchedFile name contentType size content =>
                  obtain ⟨collected, left⟩ := collect_computes size.toNatClampNeg later still
                  dsimp only
                  rw [collected, left]
                  exact ⟨rfl, rfl⟩

end Endpoint

end DesktopGateway.Link
