import DesktopGateway.Serving.Reception

/-!
# Attendances

What is done for one client, step by step, while others are attended to as well: its stream is
secured, its first byte is read, the roster is asked for a server, and the server is called. What
the server does to the exchange, and how it returns, is its own affair; when it has returned the
stream is ended, and only then is the connection closed in the counters. The steps of many clients
come in any order.
-/

namespace DesktopGateway.Serving

open DesktopGateway.Link
open DesktopGateway.Monitoring
open DesktopGateway.Wire

namespace Attendance

variable {ν : Type}

/-- How far a client has been attended to. A server is found in the roster, and then called; behind
its return stands its result. -/
inductive Stage (ν : Type) where
  | securing
  | greeting
  | seeking (service : Service)
  | calling (service : Service) (server : ν)
  | serving (service : Service)
  | parting (service : Service) (result : Except Failure Unit)
  | leaving (service : Service) (result : Except Failure Unit)
  | insecure
  | gone (visit : Visit)

inductive Deed (ν : Type) where
  | called (server : ν) (exchange : Exchange)
  | returned (result : Except Failure Unit)
  | ended

/-- A step. The result of ending the stream is not looked at. -/
inductive Turn where
  | secured (trusted : Bool)
  | lost (failure : Host.Failure)
  | proceed
  | acted (exchange : Exchange)
  | returned (result : Except Failure Unit)
  | ended (result : Except Host.Failure Unit)

end Attendance

structure Attendance (ν : Type) where
  stage : Attendance.Stage ν
  exchange : Exchange
  deeds : List (Attendance.Deed ν)

namespace Attendance

variable {ν : Type}

def start (incoming : Pieces) (reachable : Bool) : Attendance ν :=
  ⟨.securing, .new .display incoming reachable, []⟩

def proceed (stage : Stage ν) (client : Attendance ν) : Attendance ν :=
  { client with stage := stage }

def record (deed : Deed ν) (client : Attendance ν) : Attendance ν :=
  { client with deeds := client.deeds ++ [deed] }

def setExchange (exchange : Exchange) (client : Attendance ν) : Attendance ν :=
  { client with exchange := exchange }

/-- The counters of a connection that is over. -/
def closing (service : Service) (exchange : Exchange) : Mark :=
  .closed service.name (UInt64.ofNat exchange.sent.length) (UInt64.ofNat exchange.received)

def greet (client : Attendance ν) : Attendance ν × List Mark :=
  match client.exchange.read Endpoint.opening with
  | (.ok service, exchange) =>
      ((client.setExchange { exchange with service := service }).proceed (.seeking service), [])
  | (.error fault, exchange) =>
      ((client.setExchange exchange).proceed (.gone (.unopened fault)), [.handshakeFailed])

def seek (roster : Roster ν) (service : Service) (client : Attendance ν) :
    Attendance ν × List Mark :=
  match roster.find? service with
  | none => (client.proceed (.gone (.unserved service)), [])
  | some server => (client.proceed (.calling service server), [.opened service.name])

/-- One step and what it does to the counters. The stream of a client fails when nothing of what it
sent is left. -/
def step (roster : Roster ν) (client : Attendance ν) :
    Turn → Option (Attendance ν × List Mark)
  | .secured trusted =>
      match client.stage with
      | .securing =>
          if trusted then some (client.proceed .greeting, [])
          else some (client.proceed .insecure, [.handshakeFailed])
      | _ => none
  | .lost failure =>
      match client.stage with
      | .greeting =>
          if client.exchange.incoming.next?.isNone then
            some (client.proceed (.gone (.unopened (.stream failure))), [.handshakeFailed])
          else none
      | _ => none
  | .proceed =>
      match client.stage with
      | .greeting => some client.greet
      | .seeking service => some (client.seek roster service)
      | .calling service server =>
          some ((client.record (.called server client.exchange)).proceed (.serving service), [])
      | .leaving service result =>
          some (client.proceed (.gone (.served service result)), [closing service client.exchange])
      | _ => none
  | .acted exchange =>
      match client.stage with
      | .serving _ => some (client.setExchange exchange, [])
      | _ => none
  | .returned result =>
      match client.stage with
      | .serving service =>
          some ((client.record (.returned result)).proceed (.parting service result), [])
      | _ => none
  | .ended _ =>
      match client.stage with
      | .parting service result =>
          some ((client.record .ended).proceed (.leaving service result), [])
      | _ => none

def follow (roster : Roster ν) (client : Attendance ν) :
    List Turn → Option (Attendance ν × List Mark)
  | [] => some (client, [])
  | turn :: later =>
      (client.step roster turn).bind fun (next, marks) =>
        (next.follow roster later).map fun (last, more) => (last, marks ++ more)

def isGone (client : Attendance ν) : Bool :=
  match client.stage with
  | .insecure | .gone _ => true
  | _ => false

end Attendance

/-- All clients and the counters. -/
structure Hall (ν : Type) where
  metrics : Metrics
  clients : List (Attendance ν)

namespace Hall

variable {ν : Type}

def start (clients : List (Pieces × Bool)) : Hall ν :=
  ⟨.new, clients.map fun client => .start client.1 client.2⟩

def step (roster : Roster ν) (hall : Hall ν) (index : Nat) (turn : Attendance.Turn) :
    Option (Hall ν) :=
  (hall.clients[index]?).bind fun client =>
    (client.step roster turn).map fun (next, marks) =>
      ⟨hall.metrics.noteAll marks, hall.clients.set index next⟩

def follow (roster : Roster ν) (hall : Hall ν) :
    List (Nat × Attendance.Turn) → Option (Hall ν)
  | [] => some hall
  | (index, turn) :: later =>
      (hall.step roster index turn).bind fun next => next.follow roster later

end Hall

end DesktopGateway.Serving
