import Mathlib.Data.List.Induction
import DesktopGateway.Proofs.Serving.Exchange
import DesktopGateway.Serving.SoundLease

/-!
# A sound session that was started is closed

Whatever the session, the client and the copies do: a session that is there is closed once, when
nothing is passed on any more, and one that is not there is not closed. What closing gives makes no
difference to the result, which is that of the acceptance or of the first that ended.
-/

namespace DesktopGateway.Serving

namespace Relay

def lane (relay : Relay) : Course → Lane
  | .toTarget => relay.toTarget
  | .toClient => relay.toClient

/-- How an event on one way ends a relay that goes on until then: the source is at its end and
nothing is held, or a side fails, which is no failure of the relay when that side has gone. -/
inductive Ends (relay : Relay) (course : Course) : LaneEvent → Except Host.Failure Unit → Prop where
  | drained (empty : (relay.lane course).held = []) : Ends relay course .ended (.ok ())
  | left {failure : Host.Failure} (gone : failure.isBrokenPipe = true) :
      Ends relay course (.failed failure) (.ok ())
  | failed {failure : Host.Failure} (here : failure.isBrokenPipe = false) :
      Ends relay course (.failed failure) (.error failure)

/-- What is held for the target is handed over, and the end of the client is seen. -/
def parting (relay : Relay) : List LaneEvent :=
  [.accepted relay.toTarget.held.length, .ended]

theorem outcome_step {relay : Relay} (going : relay.outcome = none) (course : Course)
    (event : LaneEvent) :
    (relay.step course event).outcome = ((relay.lane course).step event).2.map settle := by
  rw [step.eq_def, going]
  cases course <;> rfl

theorem ends_of_step {relay : Relay} (going : relay.outcome = none) {course : Course}
    {event : LaneEvent} {outcome : Except Host.Failure Unit}
    (ended : (relay.step course event).outcome = some outcome) :
    relay.Ends course event outcome := by
  rw [outcome_step going, Lane.step.eq_def] at ended
  cases event with
  | taken bytes => cases ended
  | accepted count => cases ended
  | ended =>
      dsimp only at ended
      split at ended
      · rename_i empty
        cases ended
        exact .drained (List.isEmpty_iff.mp empty)
      · cases ended
  | failed failure =>
      cases ended
      cases gone : failure.isBrokenPipe with
      | true =>
          rw [settle, gone]
          exact .left gone
      | false =>
          rw [settle, gone]
          exact .failed gone

end Relay

namespace SoundStream

open DesktopGateway.Link

namespace Stream

/-- How an event ends a stream: the session has come to its own end, or the relay ends. -/
inductive Ends (stream : Stream) : Event → Except Failure Unit → Prop where
  | session (result : Except Sound.Failure Unit) :
      Ends stream (.sessionEnded result) (result.mapError .sound)
  | relay {course : Course} {event : LaneEvent} {outcome : Except Host.Failure Unit}
      (ends : stream.relay.Ends course event outcome) :
      Ends stream (.relayed course event) (outcome.mapError .stream)

theorem of_result?_none {stream : Stream} (going : stream.result? = none) :
    stream.sessionEnd = none ∧ stream.relay.outcome = none := by
  obtain ⟨relay, sessionEnd⟩ := stream
  cases sessionEnd with
  | some result => cases going
  | none => exact ⟨rfl, Option.map_eq_none_iff.mp going⟩

theorem ends_of_step {stream : Stream} (going : stream.result? = none) {event : Event}
    {result : Except Failure Unit} (ended : (stream.step event).result? = some result) :
    stream.Ends event result := by
  obtain ⟨silent, relaying⟩ := of_result?_none going
  rw [step.eq_def, going] at ended
  cases event with
  | sessionEnded outcome =>
      cases ended
      exact .session outcome
  | relayed course event =>
      simp only [Option.isSome_none, Bool.false_eq_true, if_false, result?, silent] at ended
      obtain ⟨outcome, reached, rfl⟩ := Option.map_eq_some_iff.mp ended
      exact .relay (Relay.ends_of_step relaying reached)

end Stream

namespace Lease

variable {answers : List Answer} {lease : Lease} {result : Except Failure Unit}

def streamAfter (events : List Event) : Stream :=
  events.foldl Stream.step Stream.start

def opening (events : List Event) : List Answer :=
  .started (.ok ()) :: .written (.ok ()) :: events.map .streamed

def opened (events : List Event) : List Act :=
  .started :: .wrote Endpoint.acceptance :: events.map .streamed

/-! ## All that answers lead to -/

/-- The stages of a lease, with the answers that lead there and with what is done on the way. -/
inductive Reached : List Answer → Stage → List Act → Prop where
  | starting : Reached [] .starting []
  | refusing (failure : Sound.Failure) :
      Reached [.started (.error failure)] (.refusing failure) []
  | refused (failure : Sound.Failure) (result : Except Failure Unit) :
      Reached [.started (.error failure), .written result] (.settled result)
        [.wrote (refusal failure)]
  | accepting : Reached [.started (.ok ())] .accepting [.started]
  | unaccepted (failure : Failure) :
      Reached [.started (.ok ()), .written (.error failure)] (.closing (.error failure))
        [.started, .wrote Endpoint.acceptance]
  | streaming {events : List Event} (going : (streamAfter events).result? = none) :
      Reached (opening events) (.streaming (streamAfter events)) (opened events)
  | ended {events : List Event} {last : Event} {result : Except Failure Unit}
      (going : (streamAfter events).result? = none)
      (ends : (streamAfter events).Ends last result) :
      Reached (opening (events ++ [last])) (.closing result) (opened (events ++ [last]))
  | closed {answers : List Answer} {acts : List Act} {result : Except Failure Unit}
      (halted : Reached answers (.closing result) acts) (closing : Except Sound.Failure Unit) :
      Reached (answers ++ [.closed closing]) (.settled result) (acts ++ [.closed])

theorem opening_concat (events : List Event) (event : Event) :
    opening (events ++ [event]) = opening events ++ [.streamed event] := by
  simp [opening]

theorem opened_concat (events : List Event) (event : Event) :
    opened (events ++ [event]) = opened events ++ [.streamed event] := by
  simp [opened]

theorem streamAfter_concat (events : List Event) (event : Event) :
    streamAfter (events ++ [event]) = (streamAfter events).step event := by
  simp [streamAfter]

/-- An event on a stream that goes on ends it or does not. -/
theorem Reached.event {events : List Event} (going : (streamAfter events).result? = none)
    (event : Event) :
    Reached (opening events ++ [.streamed event])
      (afterEvent ((streamAfter events).step event)) (opened events ++ [.streamed event]) := by
  rw [← opening_concat, ← opened_concat, afterEvent]
  cases halted : ((streamAfter events).step event).result? with
  | none =>
      rw [← streamAfter_concat] at halted ⊢
      exact .streaming halted
  | some result => exact .ended going (Stream.ends_of_step going halted)

theorem Reached.step {answer : Answer} {next : Lease}
    (reached : Reached answers lease.stage lease.acts) (done : lease.step answer = some next) :
    Reached (answers ++ [answer]) next.stage next.acts := by
  obtain ⟨stage, acts⟩ := lease
  cases reached with
  | starting =>
      cases answer with
      | started outcome =>
          cases outcome with
          | ok _ =>
              cases done
              exact .accepting
          | error failure =>
              cases done
              exact .refusing failure
      | written _ | streamed _ | closed _ => cases done
  | refusing failure =>
      cases answer with
      | written result =>
          cases done
          exact .refused failure result
      | started _ | streamed _ | closed _ => cases done
  | accepting =>
      cases answer with
      | written outcome =>
          cases outcome with
          | ok _ =>
              cases done
              exact @Reached.streaming [] rfl
          | error failure =>
              cases done
              exact .unaccepted failure
      | started _ | streamed _ | closed _ => cases done
  | streaming going =>
      cases answer with
      | streamed event =>
          cases done
          exact .event going event
      | started _ | written _ | closed _ => cases done
  | unaccepted failure =>
      cases answer with
      | closed closing =>
          cases done
          exact .closed (.unaccepted failure) closing
      | started _ | written _ | streamed _ => cases done
  | ended going ends =>
      cases answer with
      | closed closing =>
          cases done
          exact .closed (.ended going ends) closing
      | started _ | written _ | streamed _ => cases done
  | refused failure result => cases done
  | closed halted closing => cases done

/-- What gives the result of a session that was started: the acceptance that could not be written,
or the first event that ends the stream. -/
inductive Decides : List Answer → Except Failure Unit → Prop where
  | unaccepted (failure : Failure) :
      Decides [.started (.ok ()), .written (.error failure)] (.error failure)
  | ended {events : List Event} {last : Event} {result : Except Failure Unit}
      (going : (streamAfter events).result? = none)
      (ends : (streamAfter events).Ends last result) :
      Decides (opening (events ++ [last])) result

theorem Decides.head (decides : Decides answers result) :
    answers.head? = some (.started (.ok ())) := by
  cases decides <;> rfl

/-- What comes of telling the client whether there is a session. -/
def told (exchange : Exchange) : Except Sound.Failure Unit → Except Failure Unit
  | .ok () => (exchange.emit Endpoint.acceptance).1
  | .error failure => (exchange.refuse (.sound failure)).1

/-- The events of a stream, and then the end of a client that has gone silent. -/
def heard (events : List Event) : List Event :=
  events ++ (streamAfter events).relay.parting.map (Event.relayed .toTarget)

def Act.deed? : Act → Option Deed
  | .started => some .start
  | .closed => some .close
  | .wrote _ | .streamed _ => none

def Act.isStreamed : Act → Bool
  | .streamed _ => true
  | _ => false

/-- The bytes that are written to the client beside the stream. -/
def Act.written : Act → List UInt8
  | .wrote emission => emission.bytes
  | _ => []

/-- A report says what was done: the result of the lease, its deeds, the stream behind the events
if there was one, and what was written to the client before and on the stream. -/
structure Tells (lease : Lease) (events : List Event) (exchange : Exchange) (report : Report) :
    Prop where
  result : lease.stage = .settled report.result
  deeds : report.deeds = lease.acts.filterMap Act.deed?
  stream : report.stream =
    if lease.acts.any Act.isStreamed then some (streamAfter events) else none
  exchange : report.exchange = { exchange with
    sent := exchange.sent ++
      (if exchange.reachable then lease.acts.flatMap Act.written else []) ++
      report.stream.elim [] fun stream => stream.relay.toClient.delivered
    received := exchange.received +
      report.stream.elim 0 fun stream => stream.relay.toTarget.delivered.length }

end Lease

end SoundStream

end DesktopGateway.Serving
