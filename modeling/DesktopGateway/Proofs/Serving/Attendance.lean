import DesktopGateway.Proofs.Serving.Exchange
import DesktopGateway.Proofs.Serving.Roster
import DesktopGateway.Serving.Attendance

/-!
# Which server a client gets

The first byte of a client and the last call about its service settle which server is called. It is
called once, with everything behind this byte, and the stream of the client is ended behind its
return. Nobody else is called, and a client that gets no server is sent nothing.
-/

namespace DesktopGateway.Serving.Exchange

open DesktopGateway.Link
open DesktopGateway.Wire

variable {exchange : Exchange}

def opened (value : UInt8) : Except Fault Service :=
  match Service.ofCode? value with
  | some service => .ok service
  | none => .error (.unknownService value)

theorem read_opening_of_byte {value : UInt8} {rest : Pieces}
    (found : exchange.incoming.next? = some (value, rest)) :
    exchange.read Endpoint.opening =
      (opened value, exchange.advance rest (exchange.received + 1)) := by
  rw [read, Endpoint.opening, Field.readByte, Demand.andThen, Demand.bind, Demand.drive,
    pull_of_next?_some found, opened]
  cases known : Service.ofCode? value with
  | none => simp [Demand.bind, Demand.drive, known]
  | some service => simp [Demand.bind, Demand.drive, known]

theorem read_opening_of_end (ended : exchange.incoming.next? = none) :
    exchange.read Endpoint.opening = (.error .endOfStream, exchange) := by
  rw [read, Endpoint.opening, Field.readByte, Demand.andThen, Demand.bind, Demand.drive,
    pull_of_next?_none ended]
  rfl

def Names (exchange : Exchange) (service : Service) : Prop :=
  ∃ rest, exchange.incoming.flatten = service.code :: rest

theorem Names.unique {first second : Service} (one : exchange.Names first)
    (other : exchange.Names second) : first = second := by
  obtain ⟨_, one⟩ := one
  obtain ⟨_, other⟩ := other
  have same := (List.cons.inj (one.symm.trans other)).1
  have codes := Service.ofCode?_code first
  rw [same, Service.ofCode?_code] at codes
  exact (Option.some.inj codes).symm

/-- What is read of a client that names a service: one byte, and nothing of what stands behind. -/
theorem of_read_opening_ok {service : Service} {later : Exchange}
    (read : exchange.read Endpoint.opening = (.ok service, later)) :
    exchange.incoming.flatten = service.code :: later.incoming.flatten ∧
      later.received = exchange.received + 1 ∧ later.sent = exchange.sent := by
  cases found : exchange.incoming.next? with
  | none =>
      rw [read_opening_of_end found] at read
      cases read
  | some taken =>
      obtain ⟨value, rest⟩ := taken
      rw [read_opening_of_byte found, opened] at read
      cases known : Service.ofCode? value with
      | none =>
          rw [known] at read
          cases read
      | some named =>
          rw [known] at read
          cases read
          rw [Service.code_of_ofCode? known]
          exact ⟨Pieces.flatten_of_next?_some found, rfl, rfl⟩

theorem not_names_of_end (ended : exchange.incoming.next? = none) (service : Service) :
    ¬ exchange.Names service := by
  rintro ⟨rest, named⟩
  rw [Pieces.flatten_of_next?_none ended] at named
  cases named

theorem of_read_opening_error {fault : Fault} {later : Exchange}
    (read : exchange.read Endpoint.opening = (.error fault, later)) :
    (∀ service, ¬ exchange.Names service) ∧ later.sent = exchange.sent := by
  cases found : exchange.incoming.next? with
  | none =>
      rw [read_opening_of_end found] at read
      cases read
      exact ⟨not_names_of_end found, rfl⟩
  | some taken =>
      obtain ⟨value, rest⟩ := taken
      rw [read_opening_of_byte found, opened] at read
      cases known : Service.ofCode? value with
      | some named =>
          rw [known] at read
          cases read
      | none =>
          rw [known] at read
          cases read
          refine ⟨?_, rfl⟩
          rintro service ⟨more, named⟩
          rw [Pieces.flatten_of_next?_some found] at named
          rw [(List.cons.inj named).1, Service.ofCode?_code] at known
          cases known

end DesktopGateway.Serving.Exchange

namespace DesktopGateway.Serving.Attendance

open DesktopGateway.Link
open DesktopGateway.Monitoring
open DesktopGateway.Wire

variable {ν : Type} {roster : Roster ν} {client next : Attendance ν} {marks : List Mark}

/-! ## What a step does -/

inductive Moves (roster : Roster ν) (client : Attendance ν) :
    Attendance ν → List Mark → Prop where
  | secured (stage : client.stage = .securing) : Moves roster client (client.proceed .greeting) []
  | distrusted (stage : client.stage = .securing) :
      Moves roster client (client.proceed .insecure) [.handshakeFailed]
  | lost (stage : client.stage = .greeting) (dry : client.exchange.incoming.next? = none)
      (fault : Fault) :
      Moves roster client (client.proceed (.gone (.unopened fault))) [.handshakeFailed]
  | greeted {service : Service} {exchange : Exchange} (stage : client.stage = .greeting)
      (read : client.exchange.read Endpoint.opening = (.ok service, exchange)) :
      Moves roster client ((client.setExchange { exchange with service := service }).proceed
        (.seeking service)) []
  | unopened {fault : Fault} {exchange : Exchange} (stage : client.stage = .greeting)
      (read : client.exchange.read Endpoint.opening = (.error fault, exchange)) :
      Moves roster client ((client.setExchange exchange).proceed (.gone (.unopened fault)))
        [.handshakeFailed]
  | unserved {service : Service} (stage : client.stage = .seeking service)
      (missing : roster.find? service = none) :
      Moves roster client (client.proceed (.gone (.unserved service))) []
  | found {service : Service} {server : ν} (stage : client.stage = .seeking service)
      (serves : roster.find? service = some server) :
      Moves roster client (client.proceed (.calling service server)) [.opened service.name]
  | called {service : Service} {server : ν} (stage : client.stage = .calling service server) :
      Moves roster client
        ((client.record (.called server client.exchange)).proceed (.serving service)) []
  | acted {service : Service} (stage : client.stage = .serving service) (exchange : Exchange) :
      Moves roster client (client.setExchange exchange) []
  | returned {service : Service} (stage : client.stage = .serving service)
      (result : Except Failure Unit) :
      Moves roster client ((client.record (.returned result)).proceed (.parting service result)) []
  | ended {service : Service} {result : Except Failure Unit}
      (stage : client.stage = .parting service result) :
      Moves roster client ((client.record .ended).proceed (.leaving service result)) []
  | left {service : Service} {result : Except Failure Unit}
      (stage : client.stage = .leaving service result) :
      Moves roster client (client.proceed (.gone (.served service result)))
        [closing service client.exchange]

theorem moves_greet (stage : client.stage = .greeting) :
    Moves roster client client.greet.1 client.greet.2 := by
  unfold greet
  split
  · rename_i service exchange read
    exact .greeted stage read
  · rename_i fault exchange read
    exact .unopened stage read

theorem moves_seek {service : Service} (stage : client.stage = .seeking service) :
    Moves roster client (client.seek roster service).1 (client.seek roster service).2 := by
  unfold seek
  split
  · rename_i missing
    exact .unserved stage missing
  · rename_i server serves
    exact .found stage serves

theorem moves_of_step {turn : Turn} (done : client.step roster turn = some (next, marks)) :
    Moves roster client next marks := by
  cases turn with
  | secured trusted =>
      simp only [step] at done
      split at done
      · rename_i stage
        cases trusted with
        | false =>
            cases done
            exact .distrusted stage
        | true =>
            cases done
            exact .secured stage
      · cases done
  | lost failure =>
      simp only [step] at done
      split at done
      · rename_i stage
        split at done
        · rename_i dry
          cases done
          exact .lost stage (Option.isNone_iff_eq_none.mp dry) _
        · cases done
      · cases done
  | proceed =>
      simp only [step] at done
      split at done
      · rename_i stage
        have whole := Option.some.inj done
        have moves : Moves roster client _ _ := moves_greet stage
        rwa [whole] at moves
      · rename_i service stage
        have whole := Option.some.inj done
        have moves : Moves roster client _ _ := moves_seek stage
        rwa [whole] at moves
      · rename_i service server stage
        cases done
        exact .called stage
      · rename_i service result stage
        cases done
        exact .left stage
      · cases done
  | acted exchange =>
      simp only [step] at done
      split at done
      · rename_i service stage
        cases done
        exact .acted stage exchange
      · cases done
  | returned result =>
      simp only [step] at done
      split at done
      · rename_i service stage
        cases done
        exact .returned stage result
      · cases done
  | ended result =>
      simp only [step] at done
      split at done
      · rename_i service result stage
        cases done
        exact .ended stage
      · cases done

/-- A client that is not gone can be attended to. -/
theorem exists_turn (waits : client.isGone = false) :
    ∃ turn, (client.step roster turn).isSome := by
  cases stage : client.stage with
  | securing => exact ⟨.secured true, by simp [step, stage]⟩
  | greeting => exact ⟨.proceed, by simp [step, stage]⟩
  | seeking service => exact ⟨.proceed, by simp [step, stage]⟩
  | calling service server => exact ⟨.proceed, by simp [step, stage]⟩
  | serving service => exact ⟨.returned (.ok ()), by simp [step, stage]⟩
  | parting service result => exact ⟨.ended (.ok ()), by simp [step, stage]⟩
  | leaving service result => exact ⟨.proceed, by simp [step, stage]⟩
  | insecure => simp [isGone, stage] at waits
  | gone visit => simp [isGone, stage] at waits

/-! ## How a client stands -/

/-- Where a client that names its service stands when its server is called: with everything behind
the first byte, and nothing said to it. -/
structure Opens (arrival : Exchange) (service : Service) (exchange : Exchange) : Prop where
  service_eq : exchange.service = service
  rest : arrival.incoming.flatten = service.code :: exchange.incoming.flatten
  received : exchange.received = arrival.received + 1
  silent : exchange.sent = arrival.sent

theorem Opens.names {arrival exchange : Exchange} {service : Service}
    (opens : Opens arrival service exchange) : arrival.Names service :=
  ⟨_, opens.rest⟩

/-- The server of the service was called, and after this so much was done. -/
def Attended (roster : Roster ν) (arrival : Exchange) (service : Service)
    (deeds behind : List (Deed ν)) : Prop :=
  ∃ server exchange, roster.find? service = some server ∧ Opens arrival service exchange ∧
    deeds = .called server exchange :: behind

/-- What holds at each stage of a client whose stream is secured and who came with this exchange. -/
def Stage.Fits (roster : Roster ν) (arrival exchange : Exchange) (deeds : List (Deed ν)) :
    Stage ν → Prop
  | .securing | .insecure => False
  | .greeting => exchange = arrival ∧ deeds = []
  | .seeking service => Opens arrival service exchange ∧ deeds = []
  | .calling service server =>
      roster.find? service = some server ∧ Opens arrival service exchange ∧ deeds = []
  | .serving service => Attended roster arrival service deeds []
  | .parting service result => Attended roster arrival service deeds [.returned result]
  | .leaving service result | .gone (.served service result) =>
      Attended roster arrival service deeds [.returned result, .ended]
  | .gone (.unserved service) =>
      roster.find? service = none ∧ arrival.Names service ∧ exchange.sent = arrival.sent ∧
        deeds = []
  | .gone (.unopened _) =>
      (∀ service, ¬ arrival.Names service) ∧ exchange.sent = arrival.sent ∧ deeds = []

def Sound (roster : Roster ν) (arrival : Exchange) (client : Attendance ν) : Prop :=
  client.stage.Fits roster arrival client.exchange client.deeds

variable {arrival : Exchange}

theorem Sound.fits {stage : Stage ν} (sound : client.Sound roster arrival)
    (here : client.stage = stage) : stage.Fits roster arrival client.exchange client.deeds :=
  here ▸ sound

theorem Sound.moves (sound : client.Sound roster arrival)
    (moves : Moves roster client next marks) : next.Sound roster arrival := by
  cases moves with
  | secured stage => exact (sound.fits stage).elim
  | distrusted stage => exact (sound.fits stage).elim
  | lost stage dry fault =>
      obtain ⟨same, none⟩ := sound.fits stage
      rw [same] at dry
      exact ⟨Exchange.not_names_of_end dry, congrArg (·.sent) same, none⟩
  | greeted stage read =>
      obtain ⟨same, none⟩ := sound.fits stage
      rw [same] at read
      obtain ⟨rest, received, silent⟩ := Exchange.of_read_opening_ok read
      exact ⟨⟨rfl, rest, received, silent⟩, none⟩
  | unopened stage read =>
      obtain ⟨same, none⟩ := sound.fits stage
      rw [same] at read
      obtain ⟨nameless, silent⟩ := Exchange.of_read_opening_error read
      exact ⟨nameless, silent, none⟩
  | unserved stage missing =>
      obtain ⟨opens, none⟩ := sound.fits stage
      exact ⟨missing, opens.names, opens.silent, none⟩
  | found stage serves =>
      obtain ⟨opens, none⟩ := sound.fits stage
      exact ⟨serves, opens, none⟩
  | called stage =>
      obtain ⟨serves, opens, none⟩ := sound.fits stage
      exact ⟨_, _, serves, opens, by rw [record, none]; rfl⟩
  | acted stage exchange =>
      have fits := sound.fits stage
      rw [Sound, setExchange, stage]
      exact fits
  | returned stage result =>
      obtain ⟨server, exchange, serves, opens, deeds⟩ := sound.fits stage
      exact ⟨server, exchange, serves, opens, by rw [record, deeds]; rfl⟩
  | ended stage =>
      obtain ⟨server, exchange, serves, opens, deeds⟩ := sound.fits stage
      exact ⟨server, exchange, serves, opens, by rw [record, deeds]; rfl⟩
  | left stage =>
      have fits := sound.fits stage
      exact fits

/-! ## How soon a server is called -/

/-- How many steps are left before a server is called, if one is. -/
def Stage.delay : Stage ν → Nat
  | .securing => 4
  | .greeting => 3
  | .seeking _ => 2
  | .calling .. => 1
  | _ => 0

theorem delay_moves (moves : Moves roster client next marks) :
    next.stage.delay ≤ client.stage.delay - 1 := by
  cases moves with
  | acted stage exchange => simp [setExchange, stage, Stage.delay]
  | secured stage | distrusted stage | greeted stage _ | unopened stage _ | lost stage _ _
  | unserved stage _ | found stage _ | called stage | returned stage _ | ended stage
  | left stage =>
      simp [proceed, stage, Stage.delay]

/-! ## A whole run -/

theorem follow_cons {turn : Turn} {later : List Turn} {last : Attendance ν}
    (followed : client.follow roster (turn :: later) = some (last, marks)) :
    ∃ next first more, client.step roster turn = some (next, first) ∧
      next.follow roster later = some (last, more) ∧ marks = first ++ more := by
  rw [follow, Option.bind_eq_some_iff] at followed
  obtain ⟨⟨next, first⟩, done, rest⟩ := followed
  obtain ⟨⟨final, more⟩, after, same⟩ := Option.map_eq_some_iff.mp rest
  cases same
  exact ⟨next, first, more, done, after, rfl⟩

theorem Sound.follow {turns : List Turn} {last : Attendance ν}
    (sound : client.Sound roster arrival)
    (followed : client.follow roster turns = some (last, marks)) :
    last.Sound roster arrival ∧ last.stage.delay ≤ client.stage.delay - turns.length := by
  induction turns generalizing client marks with
  | nil =>
      cases followed
      exact ⟨sound, Nat.le_refl _⟩
  | cons turn later ih =>
      obtain ⟨next, first, more, done, after, -⟩ := follow_cons followed
      have moves := moves_of_step done
      obtain ⟨still, sooner⟩ := ih (sound.moves moves) after
      have less := delay_moves moves
      rw [List.length_cons]
      exact ⟨still, by omega⟩

def secured (incoming : Pieces) (reachable : Bool) : Attendance ν :=
  (start incoming reachable).proceed .greeting

theorem sound_secured (roster : Roster ν) (incoming : Pieces) (reachable : Bool) :
    (secured incoming reachable).Sound roster (.new .display incoming reachable) :=
  ⟨rfl, rfl⟩

/-- The server was called with this exchange. It returns once, and then the stream is ended. -/
def GivenTo (server : ν) (exchange : Exchange) (client : Attendance ν) : Prop :=
  ∃ behind result, client.deeds = .called server exchange :: behind ∧
    behind <+: [.returned result, .ended] ∧
    (client.isGone = true → behind = [.returned result, .ended])

/-- Who a client is given to, seen from outside: it still waits, it has its server, or there is none
for it. -/
inductive Situation (roster : Roster ν) (arrival : Exchange) (client : Attendance ν) : Prop where
  | waits (early : client.stage.delay ≠ 0) (idle : client.deeds = [])
      (silent : client.exchange.sent = arrival.sent)
  | given {service : Service} {server : ν} {exchange : Exchange}
      (serves : roster.find? service = some server) (opens : Opens arrival service exchange)
      (given : client.GivenTo server exchange)
  | dismissed (unserved : ∀ service server, arrival.Names service →
        roster.find? service ≠ some server)
      (idle : client.deeds = []) (silent : client.exchange.sent = arrival.sent)
      (finished : client.isGone = true)

theorem Attended.situation {service : Service} {behind : List (Deed ν)}
    (attended : Attended roster arrival service client.deeds behind)
    (result : Except Failure Unit) (course : behind <+: [.returned result, .ended])
    (whole : client.isGone = true → behind = [.returned result, .ended]) :
    client.Situation roster arrival := by
  obtain ⟨server, exchange, serves, opens, deeds⟩ := attended
  exact .given serves opens ⟨behind, result, deeds, course, whole⟩

theorem Sound.situation (sound : client.Sound roster arrival) :
    client.Situation roster arrival := by
  cases stage : client.stage with
  | securing | insecure => exact (sound.fits stage).elim
  | greeting =>
      obtain ⟨same, idle⟩ := sound.fits stage
      exact .waits (by simp [stage, Stage.delay]) idle (congrArg (·.sent) same)
  | seeking service =>
      obtain ⟨opens, idle⟩ := sound.fits stage
      exact .waits (by simp [stage, Stage.delay]) idle opens.silent
  | calling service server =>
      obtain ⟨-, opens, idle⟩ := sound.fits stage
      exact .waits (by simp [stage, Stage.delay]) idle opens.silent
  | serving service =>
      exact (sound.fits stage).situation (.ok ()) List.nil_prefix (by simp [isGone, stage])
  | parting service result =>
      exact (sound.fits stage).situation result ⟨[.ended], rfl⟩ (by simp [isGone, stage])
  | leaving service result => exact (sound.fits stage).situation result List.prefix_rfl fun _ => rfl
  | gone visit =>
      have finished : client.isGone = true := by rw [isGone, stage]
      cases visit with
      | served service result =>
          exact (sound.fits stage).situation result List.prefix_rfl fun _ => rfl
      | unserved service =>
          obtain ⟨missing, names, silent, idle⟩ := sound.fits stage
          refine .dismissed ?_ idle silent finished
          intro other server named serves
          obtain rfl := names.unique named
          cases serves.symm.trans missing
      | unopened fault =>
          obtain ⟨nameless, silent, idle⟩ := sound.fits stage
          exact .dismissed (fun service _ named => absurd named (nameless service)) idle silent
            finished

/-! ## The reception of one client -/

/-- A reception is an attendance in which the server acts at once. -/
theorem exists_follow_receive {σ : Type} (roster : Roster (Server σ)) (incoming : Pieces)
    (reachable : Bool) (state : σ) :
    let reception := Reception.receive roster (.new .display incoming reachable) state
    ∃ turns client, (secured incoming reachable).follow roster turns =
        some (client, reception.marks) ∧
      client.stage = .gone reception.visit ∧
      client.exchange.sent = reception.exchange.sent ∧
      client.exchange.received = reception.exchange.received ∧
      (reception.finished = true ↔ ∃ server exchange result,
        client.deeds = [.called server exchange, .returned result, .ended] ∧
        server exchange state = (result, reception.exchange, reception.state)) := by
  cases read : (Exchange.new .display incoming reachable).read Endpoint.opening with
  | mk outcome exchange =>
      cases outcome with
      | error fault =>
          refine ⟨[.proceed], ⟨.gone (.unopened fault), exchange, []⟩, ?_⟩
          simp [follow, step, secured, start, proceed, setExchange, greet, Reception.receive,
            Reception.marks, read]
      | ok service =>
          cases serves : roster.find? service with
          | none =>
              refine ⟨[.proceed, .proceed],
                ⟨.gone (.unserved service), { exchange with service := service }, []⟩, ?_⟩
              simp [follow, step, secured, start, proceed, setExchange, greet, seek,
                Reception.receive, Reception.attend, Reception.marks, read, serves]
          | some server =>
              let opened := { exchange with service := service }
              refine ⟨[.proceed, .proceed, .proceed, .acted (server opened state).2.1,
                .returned (server opened state).1, .ended (.ok ()), .proceed],
                ⟨.gone (.served service (server opened state).1), (server opened state).2.1,
                  [.called server opened, .returned (server opened state).1, .ended]⟩, ?_⟩
              simp [follow, step, secured, start, proceed, setExchange, greet, seek, record,
                closing, Reception.receive, Reception.attend, Reception.marks, read, serves,
                opened]

/-- For all calls that made the roster and for everything a client sends: when its first byte names
a service that has a server, then the one that was put in last is called once, with this service and
with one byte read, and when it has returned, whatever its result, the stream of the client is
ended. Otherwise nobody is called and the client is sent nothing. Before the third step nobody is
called yet. No client is left standing. The services of the roster are those with a server, each
once, in the order of their codes. A reception is such a run. -/
theorem given_to_latest {σ : Type} (changes : List (Roster.Change (Server σ))) (incoming : Pieces)
    (reachable : Bool) :
    (∀ turns client marks, (secured incoming reachable).follow (.ofChanges changes) turns =
        some (client, marks) →
      (∀ service server rest, incoming.flatten = service.code :: rest →
        Roster.Latest changes service server →
        (turns.length < 3 ∧ client.deeds = [] ∧ client.exchange.sent = []) ∨
        ∃ exchange, exchange.service = service ∧ exchange.received = 1 ∧
          exchange.incoming.flatten = rest ∧ exchange.sent = [] ∧
          client.GivenTo server exchange) ∧
      ((∀ service server rest, incoming.flatten = service.code :: rest →
        ¬ Roster.Latest changes service server) →
        client.deeds = [] ∧ client.exchange.sent = [] ∧
          (3 ≤ turns.length → client.isGone = true)) ∧
      (client.isGone = false → ∃ turn, (client.step (.ofChanges changes) turn).isSome)) ∧
    ((Roster.ofChanges changes).services.Pairwise (fun first second => first.code < second.code) ∧
      ∀ service, service ∈ (Roster.ofChanges changes).services ↔
        ∃ server, Roster.Latest changes service server) ∧
    ∀ state,
      let reception := Reception.receive (.ofChanges changes) (.new .display incoming reachable)
        state
      ∃ turns client, (secured incoming reachable).follow (.ofChanges changes) turns =
          some (client, reception.marks) ∧
        client.stage = .gone reception.visit ∧
        client.exchange.sent = reception.exchange.sent ∧
        client.exchange.received = reception.exchange.received ∧
        (reception.finished = true ↔ ∃ server exchange result,
          client.deeds = [.called server exchange, .returned result, .ended] ∧
          server exchange state = (result, reception.exchange, reception.state)) := by
  refine ⟨?_, ⟨Roster.services_pairwise _, fun service => Roster.mem_services_ofChanges⟩,
    exists_follow_receive _ incoming reachable⟩
  intro turns client marks followed
  obtain ⟨sound, soon⟩ := (sound_secured (.ofChanges changes) incoming reachable).follow followed
  have start : (secured incoming reachable : Attendance (Server σ)).stage.delay = 3 := rfl
  refine ⟨?_, ?_, exists_turn⟩
  · intro service server rest named latest
    have serves := Roster.find?_ofChanges_iff.mpr latest
    cases sound.situation with
    | waits early idle silent => exact .inl ⟨by omega, idle, silent⟩
    | given known opens given =>
        obtain rfl := Exchange.Names.unique ⟨rest, named⟩ opens.names
        cases serves.symm.trans known
        have whole := (List.cons.inj (named.symm.trans opens.rest)).2
        exact .inr ⟨_, opens.service_eq, opens.received, whole.symm, opens.silent, given⟩
    | dismissed unserved idle silent finished =>
        exact absurd serves (unserved service server ⟨rest, named⟩)
  · intro nobody
    cases sound.situation with
    | waits early idle silent => exact ⟨idle, silent, fun late => absurd early (by omega)⟩
    | given known opens given =>
        exact absurd (Roster.find?_ofChanges_iff.mp known) (nobody _ _ _ opens.rest)
    | dismissed unserved idle silent finished => exact ⟨idle, silent, fun _ => finished⟩

/-- Two servers are put in for one service and another service is taken out: a client of this
service gets the second server, with the byte that it sent behind the name. -/
theorem display_given_to_second :
    let first : Server Unit := fun exchange state => (.ok (), exchange, state)
    let second : Server Unit := fun exchange state => (.error (.tooLarge 0), exchange, state)
    ∃ client marks exchange, (secured [[], [1, 7]] true).follow
        (.ofChanges [.insert .display first, .insert .display second, .erase .audio])
        [.proceed, .proceed, .proceed] = some (client, marks) ∧
      exchange.received = 1 ∧ exchange.incoming.flatten = [7] ∧
      client.GivenTo second exchange := by
  intro first second
  obtain ⟨runs, -⟩ := given_to_latest
    [.insert .display first, .insert .display second, .erase .audio] [[], [1, 7]] true
  obtain ⟨given, -⟩ := runs [.proceed, .proceed, .proceed] _ _ rfl
  have latest : Roster.Latest
      [.insert .display first, .insert .display second, .erase .audio] .display second :=
    ⟨[.insert .display first], [.erase .audio], rfl, by simp [Roster.Change.service]⟩
  obtain ⟨few, -⟩ | ⟨exchange, -, received, rest, -, given⟩ := given .display second [7] rfl latest
  · exact absurd few (by decide)
  · exact ⟨_, _, exchange, rfl, received, rest, given⟩

end DesktopGateway.Serving.Attendance
