import DesktopGateway.Proofs.Wire.Parcel
import DesktopGateway.Serving.Exchange

/-!
# What a service reads and writes

How the bytes of a client are cut into pieces makes no difference to a reading. A reading takes
bytes and writes none; an emission to a client that is there puts all its bytes behind those that
were sent before.
-/

namespace DesktopGateway.Wire

namespace Pieces

theorem flatten_of_next?_none {pieces : Pieces} (ended : pieces.next? = none) :
    pieces.flatten = [] := by
  induction pieces with
  | nil => rfl
  | cons piece rest ih =>
      cases piece with
      | nil => exact ih ended
      | cons first more => cases ended

theorem flatten_of_next?_some {pieces rest : Pieces} {value : UInt8}
    (found : pieces.next? = some (value, rest)) : pieces.flatten = value :: rest.flatten := by
  induction pieces with
  | nil => cases found
  | cons piece later ih =>
      cases piece with
      | nil => exact ih found
      | cons first more =>
          cases found
          rfl

end Pieces

namespace Parcel

/-- A message that is decoded is of the kind that was asked for. -/
theorem expect_of_decode {kind : Kind} {bytes rest : List UInt8} {parcel : Parcel Unit}
    (decoded : (decode kind).run bytes = (.ok parcel, rest)) :
    parcel.expect kind = .ok parcel := by
  have sort := ((decode_run_iff kind bytes rest parcel).mp decoded).1
  rw [expect, if_pos sort]

end Parcel

end DesktopGateway.Wire

namespace DesktopGateway.Serving.Exchange

open DesktopGateway.Wire

variable {α : Type}

def advance (exchange : Exchange) (incoming : Pieces) (received : Nat) : Exchange :=
  { exchange with incoming := incoming, received := received }

/-- Nothing but reading lies between two exchanges. -/
def Advances (earlier later : Exchange) : Prop :=
  ∃ incoming received, later = earlier.advance incoming received

theorem Advances.refl (exchange : Exchange) : exchange.Advances exchange :=
  ⟨exchange.incoming, exchange.received, rfl⟩

theorem Advances.trans {first second third : Exchange} (earlier : first.Advances second)
    (later : second.Advances third) : first.Advances third := by
  obtain ⟨_, _, rfl⟩ := earlier
  obtain ⟨incoming, received, rfl⟩ := later
  exact ⟨incoming, received, rfl⟩

theorem Advances.sent_eq {earlier later : Exchange} (advances : earlier.Advances later) :
    later.sent = earlier.sent := by
  obtain ⟨_, _, rfl⟩ := advances
  rfl

theorem Advances.reachable_eq {earlier later : Exchange} (advances : earlier.Advances later) :
    later.reachable = earlier.reachable := by
  obtain ⟨_, _, rfl⟩ := advances
  rfl

theorem pull_of_next?_some {exchange : Exchange} {value : UInt8} {rest : Pieces}
    (found : exchange.incoming.next? = some (value, rest)) :
    exchange.pull = (.byte value, exchange.advance rest (exchange.received + 1)) := by
  rw [pull, found]
  rfl

theorem pull_of_next?_none {exchange : Exchange} (ended : exchange.incoming.next? = none) :
    exchange.pull = (.ended, exchange) := by
  rw [pull, ended]

/-- A reading gives what it gives on the client's bytes, and leaves what it leaves of them. -/
theorem drive_pull (demand : Demand α) (exchange : Exchange) :
    ∃ incoming received, demand.drive pull exchange =
        (some (demand.run exchange.incoming.flatten).1, exchange.advance incoming received) ∧
      incoming.flatten = (demand.run exchange.incoming.flatten).2 := by
  induction demand generalizing exchange with
  | done result =>
      refine ⟨exchange.incoming, exchange.received, ?_, ?_⟩
      · rw [Demand.run_done]
        rfl
      · rw [Demand.run_done]
  | next onByte onEnd ihByte ihEnd =>
      cases found : exchange.incoming.next? with
      | none =>
          have empty := Pieces.flatten_of_next?_none found
          obtain ⟨incoming, received, driven, left⟩ := ihEnd exchange
          refine ⟨incoming, received, ?_, ?_⟩
          · rw [Demand.drive, pull_of_next?_none found]
            simp only
            rw [driven, empty, Demand.run_next_nil]
          · rw [left, empty, Demand.run_next_nil]
      | some taken =>
          obtain ⟨value, rest⟩ := taken
          have whole := Pieces.flatten_of_next?_some found
          obtain ⟨incoming, received, driven, left⟩ :=
            ihByte value (exchange.advance rest (exchange.received + 1))
          refine ⟨incoming, received, ?_, ?_⟩
          · rw [Demand.drive, pull_of_next?_some found]
            simp only
            rw [driven, whole, Demand.run_next_cons]
            rfl
          · rw [left, whole, Demand.run_next_cons]
            rfl

theorem read_eq (demand : Demand (Except Fault α)) (exchange : Exchange) :
    ∃ incoming received, exchange.read demand =
        ((demand.run exchange.incoming.flatten).1, exchange.advance incoming received) ∧
      incoming.flatten = (demand.run exchange.incoming.flatten).2 := by
  obtain ⟨incoming, received, driven, left⟩ := drive_pull demand exchange
  refine ⟨incoming, received, ?_, left⟩
  rw [read, driven]

/-- A service reads the request of its own kind, or it says why there is none. -/
theorem readRequest_eq {exchange : Exchange} {kind : Parcel.Kind}
    (asked : exchange.service.request? = some kind) :
    ∃ incoming received, exchange.readRequest kind =
        (((Parcel.decode kind).run exchange.incoming.flatten).1.mapError .dialogue,
          exchange.advance incoming received) ∧
      incoming.flatten = ((Parcel.decode kind).run exchange.incoming.flatten).2 := by
  obtain ⟨incoming, received, result, left⟩ := read_eq (Parcel.decode kind) exchange
  refine ⟨incoming, received, ?_, left⟩
  rw [readRequest, asked]
  simp only [result]
  cases decoded : (Parcel.decode kind).run exchange.incoming.flatten with
  | mk outcome rest =>
      cases outcome with
      | error fault => rfl
      | ok parcel => rw [Except.bind, Parcel.expect_of_decode decoded]

/-- A request that was sent is read, and what was sent behind it is left. -/
theorem readRequest_of_sent {exchange : Exchange} {parcel : Parcel Unit} {stream : List UInt8}
    (asked : exchange.service.request? = some parcel.kind) (sendable : parcel.IsSendable)
    (sent : exchange.incoming.flatten = parcel.headerBytes ++ stream) :
    ∃ behind, exchange.readRequest parcel.kind = (.ok parcel, behind) ∧
      behind.incoming.flatten = stream := by
  obtain ⟨incoming, received, result, left⟩ := readRequest_eq asked
  have decoded := (Parcel.decode_run_iff parcel.kind _ stream parcel).mpr ⟨rfl, sendable, sent⟩
  rw [decoded] at result left
  exact ⟨_, result, left⟩

/-- A request is read without a byte being written, whatever the connection is for. -/
theorem readRequest_advances (exchange : Exchange) (wanted : Parcel.Kind) :
    exchange.Advances (exchange.readRequest wanted).2 := by
  rw [readRequest]
  cases asked : exchange.service.request? with
  | none => exact .refl exchange
  | some kind =>
      obtain ⟨incoming, received, result, left⟩ := read_eq (Parcel.decode kind) exchange
      exact ⟨incoming, received, congrArg Prod.snd result⟩

/-! ## Writing -/

def append (exchange : Exchange) (bytes : List UInt8) : Exchange :=
  { exchange with sent := exchange.sent ++ bytes }

theorem write_of_reachable {exchange : Exchange} (reachable : exchange.reachable = true)
    (bytes : List UInt8) : exchange.write bytes = (.ok (), exchange.append bytes) := by
  unfold write
  cases bytes with
  | nil =>
      rw [append, List.append_nil]
      rfl
  | cons first more => simp [reachable, append]

theorem emit_of_reachable {exchange : Exchange} (reachable : exchange.reachable = true)
    (emission : Parcel.Emission) :
    (exchange.emit emission).2 = exchange.append emission.bytes := by
  rw [emit, write_of_reachable reachable]

/-- To a client that has gone nothing is written. -/
theorem emit_of_unreachable {exchange : Exchange} (gone : exchange.reachable = false)
    (emission : Parcel.Emission) : (exchange.emit emission).2 = exchange := by
  unfold emit write
  cases emission.bytes with
  | nil => rfl
  | cons first more => simp [gone]

/-- Whatever comes of an emission, a client that is there has been sent its bytes. -/
theorem emit_snd (exchange : Exchange) (emission : Parcel.Emission) :
    (exchange.emit emission).2 =
      exchange.append (if exchange.reachable then emission.bytes else []) := by
  cases there : exchange.reachable with
  | true => rw [emit_of_reachable there, if_pos rfl]
  | false => simp [emit_of_unreachable there, append]

theorem emit_eq_ok {exchange : Exchange} (reachable : exchange.reachable = true)
    {emission : Parcel.Emission} (faultless : emission.fault = none) :
    exchange.emit emission = (.ok (), exchange.append emission.bytes) := by
  rw [emit, write_of_reachable reachable, faultless]

end DesktopGateway.Serving.Exchange
