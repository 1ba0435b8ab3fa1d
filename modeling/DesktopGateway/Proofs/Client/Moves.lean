import DesktopGateway.Client.Transfer
import DesktopGateway.Proofs.Files.Acknowledged
import DesktopGateway.Proofs.Link.Passing

/-!
# What a step of a transfer does

A step moves bytes at one place at most: from the source to the sending, from the sending or the
answer into a pipe, or from what is unread to a reader. How the bytes are cut into pieces does not
matter.
-/

namespace DesktopGateway.Link

open DesktopGateway.Serving
open DesktopGateway.Wire

namespace Endpoint

theorem deliver_handsOut (source : Endpoint × Pipe) (wish : Wish) :
    HandsOut source (deliver source wish).1.taken (deliver source wish).2 := by
  cases wish with
  | byte =>
      unfold deliver
      dsimp only
      rw [Pulled.taken_delivery]
      exact pull_handsOut source
  | portion room => exact take_handsOut room source

theorem deliver_gives (source : Endpoint × Pipe) {wish : Wish} (roomy : 0 < wish.room) :
    Gives source wish.room (deliver source wish).2 (deliver source wish).1 := by
  cases wish with
  | byte => exact pull_gives source
  | portion room => exact take_gives roomy source

theorem delivered_gives {endpoint : Endpoint} {pipe cut : Pipe} {pieces : Pieces}
    {later : Endpoint × Pipe} (recut : pipe.recut? pieces = some cut) {wish : Wish}
    (roomy : 0 < wish.room) {delivery : Delivery}
    (delivered : deliver (endpoint, cut) wish = (delivery, later)) :
    Gives (endpoint, pipe) wish.room later delivery ∧ pipe.Resembles later.2 := by
  obtain ⟨resembles, held⟩ := Pipe.recut?_eq_some recut
  have gives := deliver_gives (endpoint, cut) roomy
  have handed := deliver_handsOut (endpoint, cut) wish
  rw [delivered] at gives handed
  exact ⟨gives.of_recut resembles held, resembles.trans handed.resembles⟩

end Endpoint

end DesktopGateway.Link

namespace DesktopGateway.Client.Transfer

open DesktopGateway.Files
open DesktopGateway.Host
open DesktopGateway.Link
open DesktopGateway.Link.Endpoint (unread Gives Passes)
open DesktopGateway.Serving
open DesktopGateway.Wire

inductive Moves (site : Site) (owner : Option Nat) (transfer : Transfer) : Transfer → Prop where
  | loaded {pending bytes rest : List UInt8} {copied missing : Nat}
      (waits : transfer.returned = none)
      (sender : transfer.sender =
        .sending pending (bytes ++ rest) copied (bytes.length + missing))
      (some : bytes ≠ []) :
      Moves site owner transfer { transfer with
        sender := .sending (pending ++ bytes) rest (copied + bytes.length) missing }
  | sent {bytes rest source : List UInt8} {copied missing : Nat} {client : Endpoint} {uplink : Pipe}
      (waits : transfer.returned = none)
      (sender : transfer.sender = .sending (bytes ++ rest) source copied missing)
      (passes : Passes (transfer.client, transfer.uplink) bytes (client, uplink)) :
      Moves site owner transfer { transfer with
        sender := .sending rest source copied missing, client := client, uplink := uplink }
  | finished {source : List UInt8} {copied : Nat} (waits : transfer.returned = none)
      (sender : transfer.sender = .sending [] source copied 0) :
      Moves site owner transfer { transfer with sender := .ended none }
  | short {copied missing : Nat} (waits : transfer.returned = none)
      (sender : transfer.sender = .sending [] [] copied (missing + 1)) :
      Moves site owner transfer { transfer with
        sender := .failing (.shortContent (copied + (missing + 1)) copied) }
  | broken {first : UInt8} {more source : List UInt8} {copied missing : Nat}
      (waits : transfer.returned = none)
      (sender : transfer.sender = .sending (first :: more) source copied missing)
      (closed : transfer.uplink.closed = true) :
      Moves site owner transfer { transfer with
        sender := .failing (.stream (Failure.ofKind .brokenPipe)) }
  | failed {fault : Fault} (waits : transfer.returned = none)
      (sender : transfer.sender = .failing fault) :
      Moves site owner transfer { transfer with
        sender := .ended (some fault), uplink := transfer.uplink.close }
  | heard {onByte : UInt8 → Demand (Except Fault Unit)} {onEnd : Demand (Except Fault Unit)}
      {value : UInt8} {client : Endpoint} {downlink : Pipe} (waits : transfer.returned = none)
      (verdict : transfer.verdict = .next onByte onEnd)
      (front : unread (transfer.client, transfer.downlink) = value :: unread (client, downlink))
      (resembles : transfer.downlink.Resembles downlink) :
      Moves site owner transfer { transfer with
        verdict := onByte value, client := client, downlink := downlink }
  | unheard {onByte : UInt8 → Demand (Except Fault Unit)} {onEnd : Demand (Except Fault Unit)}
      {client : Endpoint} {downlink : Pipe} (waits : transfer.returned = none)
      (verdict : transfer.verdict = .next onByte onEnd) (closed : transfer.downlink.closed = true)
      (empty : unread (transfer.client, transfer.downlink) = [])
      (rest : unread (client, downlink) = [])
      (resembles : transfer.downlink.Resembles downlink) :
      Moves site owner transfer { transfer with
        verdict := .done (onEnd.run []).1, client := client, downlink := downlink }
  | concluded {verdict : Except Fault Unit} {result : Except Fault Unit}
      (waits : transfer.returned = none) (known : transfer.verdict = .done verdict)
      (settled : Call.settle verdict transfer.sender.shown = some result) :
      Moves site owner transfer { transfer with
        returned := some result
        uplink := transfer.uplink.close
        downlink := transfer.downlink.close }
  | greeted {onByte : UInt8 → Demand (Except Fault Service)} {onEnd : Demand (Except Fault Service)}
      {value : UInt8} {server : Endpoint} {uplink : Pipe}
      (phase : transfer.phase = .accepting (.next onByte onEnd))
      (front : unread (transfer.server, transfer.uplink) = value :: unread (server, uplink))
      (resembles : transfer.uplink.Resembles uplink) :
      Moves site owner transfer { transfer with
        phase := .accepting (onByte value), server := server, uplink := uplink }
  | ungreeted {onByte : UInt8 → Demand (Except Fault Service)}
      {onEnd : Demand (Except Fault Service)} {server : Endpoint} {uplink : Pipe}
      (phase : transfer.phase = .accepting (.next onByte onEnd))
      (closed : transfer.uplink.closed = true)
      (empty : unread (transfer.server, transfer.uplink) = [])
      (rest : unread (server, uplink) = []) (resembles : transfer.uplink.Resembles uplink) :
      Moves site owner transfer { transfer with
        phase := .accepting (.done (onEnd.run []).1), server := server, uplink := uplink }
  | welcomed (phase : transfer.phase = .accepting (.done (.ok .store))) :
      Moves site owner transfer { transfer with
        server := { transfer.server with service := .store }, phase := .handling (.start .store) }
  | rejected {outcome : Except Fault Service} (phase : transfer.phase = .accepting (.done outcome))
      (other : outcome ≠ .ok .store) :
      Moves site owner transfer { transfer with phase := .leaving }
  | fed {stage : Upload.Stage} {wish : Wish} {delivery : Delivery} {server : Endpoint}
      {uplink : Pipe} (phase : transfer.phase = .handling stage)
      (wished : stage.wish? = some wish)
      (gives : Gives (transfer.server, transfer.uplink) wish.room (server, uplink) delivery)
      (given : delivery ≠ .waiting) (resembles : transfer.uplink.Resembles uplink) :
      Moves site owner transfer { transfer with
        phase := .handling (stage.feed transfer.volume delivery).1
        volume := (stage.feed transfer.volume delivery).2
        server := server
        uplink := uplink }
  | worked {stage : Upload.Stage} (phase : transfer.phase = .handling stage)
      (alone : stage.wish? = none) (unsettled : ∀ result, stage ≠ .settled result) :
      Moves site owner transfer { transfer with
        phase := .handling (stage.work site owner transfer.volume).1
        volume := (stage.work site owner transfer.volume).2 }
  | settled {result : Except Serving.Failure Unit}
      (phase : transfer.phase = .handling (.settled result)) :
      Moves site owner transfer { transfer with
        phase := .answering (Upload.emission result).bytes }
  | answered {bytes rest : List UInt8} {server : Endpoint} {downlink : Pipe}
      (phase : transfer.phase = .answering (bytes ++ rest))
      (passes : Passes (transfer.server, transfer.downlink) bytes (server, downlink)) :
      Moves site owner transfer { transfer with
        phase := .answering rest
        server := server
        downlink := downlink
        told := transfer.told ++ bytes }
  | done (phase : transfer.phase = .answering []) :
      Moves site owner transfer { transfer with phase := .parting }
  | unanswered {pending : List UInt8} (phase : transfer.phase = .answering pending)
      (closed : transfer.downlink.closed = true) :
      Moves site owner transfer { transfer with phase := .parting }
  | parted (phase : transfer.phase = .parting) :
      Moves site owner transfer { transfer with
        downlink := transfer.downlink.close, phase := .leaving }
  | left (phase : transfer.phase = .leaving) :
      Moves site owner transfer { transfer with
        uplink := transfer.uplink.close, downlink := transfer.downlink.close, phase := .gone }

variable {site : Site} {owner : Option Nat} {transfer next : Transfer}

theorem moves_load {count : Nat} (waits : transfer.returned = none)
    (done : transfer.load count = some next) : Moves site owner transfer next := by
  obtain ⟨sender, loaded, rfl⟩ := Option.map_eq_some_iff.mp done
  cases same : transfer.sender with
  | failing fault =>
      rw [same] at loaded
      cases loaded
  | ended fault =>
      rw [same] at loaded
      cases loaded
  | sending pending source copied missing =>
      rw [same, Sender.load?] at loaded
      split at loaded
      · rename_i possible
        obtain ⟨positive, there, wanted, -⟩ := possible
        cases loaded
        have length : (source.take count).length = count := List.length_take_of_le there
        have moves := @Moves.loaded site owner transfer pending (source.take count)
          (source.drop count) copied (missing - count) waits
        rw [List.take_append_drop, length, Nat.add_sub_cancel' wanted] at moves
        refine moves same (List.ne_nil_of_length_pos ?_)
        rwa [length]
      · cases loaded

theorem moves_send {count : Nat} (waits : transfer.returned = none)
    (done : transfer.send count = some next) : Moves site owner transfer next := by
  unfold send at done
  split at done
  · rename_i sender
    obtain ⟨⟨rest, client, uplink⟩, passed, rfl⟩ := Option.map_eq_some_iff.mp done
    obtain ⟨bytes, -, rfl, passes⟩ := Endpoint.pass?_eq_some passed
    exact .sent waits sender passes
  · cases done
  · cases done

theorem moves_stop (waits : transfer.returned = none) (done : transfer.stop = some next) :
    Moves site owner transfer next := by
  unfold stop at done
  split at done
  · rename_i source copied missing sender
    split at done
    · rename_i all
      subst all
      cases done
      exact .finished waits sender
    · rename_i some
      split at done
      · rename_i empty
        obtain rfl := List.isEmpty_iff.mp empty
        obtain ⟨missing, rfl⟩ := Nat.exists_eq_succ_of_ne_zero some
        cases done
        exact .short waits sender
      · cases done
  · rename_i sender
    split at done
    · rename_i closed
      cases done
      exact .broken waits sender closed
    · cases done
  · rename_i sender
    cases done
    exact .failed waits sender
  · cases done

theorem moves_hear {pieces : Pieces} (waits : transfer.returned = none)
    (done : transfer.hear pieces = some next) : Moves site owner transfer next := by
  unfold hear at done
  split at done
  · rename_i onByte onEnd cut verdict recut
    split at done <;> rename_i pulled
    · cases done
      obtain ⟨gives, like⟩ := Endpoint.pulled_gives recut pulled
      cases gives with
      | bytes _ _ _ whole => exact .heard waits verdict whole like
    · cases done
      obtain ⟨gives, like⟩ := Endpoint.pulled_gives recut pulled
      cases gives with
      | ended closed empty rest => exact .unheard waits verdict closed empty rest like
    · cases done
  · cases done
  · cases done

theorem moves_conclude (waits : transfer.returned = none) (done : transfer.conclude = some next) :
    Moves site owner transfer next := by
  unfold conclude at done
  split at done
  · rename_i verdict known
    obtain ⟨result, settled, rfl⟩ := Option.map_eq_some_iff.mp done
    exact .concluded waits known settled
  · cases done

theorem moves_serve {pieces : Pieces} (done : transfer.serve pieces = some next) :
    Moves site owner transfer next := by
  unfold serve at done
  split at done
  · rename_i onByte onEnd cut phase recut
    split at done <;> rename_i pulled
    · cases done
      obtain ⟨gives, like⟩ := Endpoint.pulled_gives recut pulled
      cases gives with
      | bytes _ _ _ whole => exact .greeted phase whole like
    · cases done
      obtain ⟨gives, like⟩ := Endpoint.pulled_gives recut pulled
      cases gives with
      | ended closed empty rest => exact .ungreeted phase closed empty rest like
    · cases done
  · rename_i stage cut phase recut
    split at done
    · cases done
    · rename_i wish wished
      split at done
      · cases done
      · rename_i delivery server uplink some delivered
        cases done
        obtain ⟨gives, like⟩ :=
          Endpoint.delivered_gives recut (Upload.wish?_roomy wished) delivered
        exact .fed phase wished gives some like
  · cases done

theorem moves_work (done : transfer.work site owner = some next) :
    Moves site owner transfer next := by
  unfold work at done
  split at done
  · rename_i phase
    cases done
    exact .welcomed phase
  · rename_i outcome other phase
    cases done
    exact .rejected phase other
  · cases done
  · rename_i phase
    cases done
    exact .settled phase
  · rename_i stage unsettled phase
    split at done
    · cases done
    · rename_i alone
      cases done
      exact .worked phase alone unsettled
  · rename_i phase
    cases done
    exact .done phase
  · rename_i phase
    split at done
    · rename_i closed
      cases done
      exact .unanswered phase closed
    · cases done
  · rename_i phase
    cases done
    exact .parted phase
  · rename_i phase
    cases done
    exact .left phase
  · cases done

theorem moves_answer {count : Nat} (done : transfer.answer count = some next) :
    Moves site owner transfer next := by
  unfold answer at done
  split at done
  · rename_i pending phase
    obtain ⟨⟨rest, server, downlink⟩, passed, rfl⟩ := Option.map_eq_some_iff.mp done
    obtain ⟨bytes, same, rfl, passes⟩ := Endpoint.pass?_eq_some passed
    dsimp only
    rw [← same]
    exact .answered phase passes
  · cases done

theorem calling_eq_some {step : Transfer → Option Transfer}
    (done : transfer.calling step = some next) :
    transfer.returned = none ∧ step transfer = some next := by
  unfold calling at done
  split at done
  · rename_i waits
    exact ⟨waits, done⟩
  · cases done

/-- Every step that is possible is one of these. -/
theorem moves_of_turn {turn : Turn} (done : transfer.turn site owner turn = some next) :
    Moves site owner transfer next := by
  unfold Transfer.turn at done
  cases turn with
  | load count => exact moves_load (calling_eq_some done).1 (calling_eq_some done).2
  | send count => exact moves_send (calling_eq_some done).1 (calling_eq_some done).2
  | stop => exact moves_stop (calling_eq_some done).1 (calling_eq_some done).2
  | hear pieces => exact moves_hear (calling_eq_some done).1 (calling_eq_some done).2
  | conclude => exact moves_conclude (calling_eq_some done).1 (calling_eq_some done).2
  | serve pieces => exact moves_serve done
  | work => exact moves_work done
  | answer count => exact moves_answer done

end DesktopGateway.Client.Transfer
