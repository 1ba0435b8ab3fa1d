import DesktopGateway.Serving.Forwarding

/-!
# Nothing is lost between a client and its target

Each way of a forwarding keeps its bytes in order: what its sink has taken comes first, then what it
holds, and then what its source has still to give. Every answer moves bytes from one of these parts
to the next one, and the answers on one way leave the other way alone. So the order of the answers
does not matter, and a way that has closed its sink has delivered everything.
-/

namespace DesktopGateway.Serving

open DesktopGateway.Link

namespace Block

theorem spent_le (block : Block) : block.spent ≤ block.bytes.length := by
  rcases block.fits with fresh | less
  · rw [fresh]
    exact Nat.zero_le _
  · exact Nat.le_of_lt less

theorem held_eq_nil_iff (block : Block) : block.held = [] ↔ block.bytes = [] := by
  constructor
  · intro empty
    rcases block.fits with fresh | less
    · rwa [held, fresh, List.drop_zero] at empty
    · exact absurd less (Nat.not_lt.mpr (List.drop_eq_nil_iff.mp empty))
  · intro empty
    rw [held, empty, List.drop_nil]

@[simp] theorem held_append (more : List UInt8) (block : Block) :
    (block.append more).held = block.held ++ more :=
  List.drop_append_of_le_length block.spent_le

@[simp] theorem held_spend (count : Nat) (block : Block) :
    (block.spend count).held = block.held.drop count := by
  unfold spend held
  split
  · rw [List.drop_drop]
  · rename_i all
    rw [List.drop_drop, List.drop_eq_nil_of_le (Nat.le_of_not_lt all)]
    rfl

end Block

/-! ## One way -/

/-- One way with all that belongs to it. -/
structure Transit where
  coming : List UInt8
  held : List UInt8
  delivered : List UInt8
  counted : UInt64
  phase : Phase

namespace Transit

variable {transit next : Transit} {source : List UInt8} {counted : UInt64}

def proceed (phase : Phase) (transit : Transit) : Transit :=
  { transit with phase := phase }

def gain (count : Nat) (transit : Transit) : Transit :=
  { transit with
    coming := transit.coming.drop count
    held := transit.held ++ transit.coming.take count }

def spend (count : Nat) (transit : Transit) : Transit :=
  { transit with
    held := transit.held.drop count
    delivered := transit.delivered ++ transit.held.take count
    counted := transit.counted + .ofNat count }

def lane (transit : Transit) : Lane :=
  ⟨transit.delivered, transit.held⟩

/-- What an answer that does not end a way can do to it. -/
inductive Moves (transit : Transit) : Transit → Prop where
  | gained (count : Nat) (copying : transit.phase = .copying) : Moves transit (transit.gain count)
  | drained (dry : transit.coming = []) (copying : transit.phase = .copying) :
      Moves transit (transit.proceed .flushing)
  | spent (count : Nat) (fits : count ≤ transit.held.length) : Moves transit (transit.spend count)
  | flushed (empty : transit.held = []) (flushing : transit.phase = .flushing) :
      Moves transit (transit.proceed .closing)

/-- The bytes of the source in their order, as far as they have come, and the number of those that
were delivered on top of an earlier number. -/
structure Sound (source : List UInt8) (counted : UInt64) (transit : Transit) : Prop where
  conserved : transit.delivered ++ transit.held ++ transit.coming = source
  tallied : transit.counted = counted + .ofNat transit.delivered.length
  dry : transit.phase ≠ .copying → transit.coming = []
  empty : transit.phase = .closing → transit.held = []

theorem Sound.moves (sound : transit.Sound source counted) (moves : transit.Moves next) :
    next.Sound source counted := by
  cases moves with
  | gained count copying =>
      constructor
      case conserved => simp [gain, ← sound.conserved]
      case tallied => exact sound.tallied
      case dry => exact fun left => absurd copying left
      case empty => exact fun closing => by simp [gain, copying] at closing
  | drained dry copying =>
      constructor
      case conserved => exact sound.conserved
      case tallied => exact sound.tallied
      case dry => exact fun _ => dry
      case empty => exact fun closing => by simp [proceed] at closing
  | spent count fits =>
      constructor
      case conserved => simp [spend, ← sound.conserved]
      case tallied =>
        simp [spend, sound.tallied, Nat.min_eq_left fits, UInt64.ofNat_add, UInt64.add_assoc]
      case dry => exact sound.dry
      case empty => exact fun closing => by simp [spend, sound.empty closing]
  | flushed empty flushing =>
      constructor
      case conserved => exact sound.conserved
      case tallied => exact sound.tallied
      case dry => exact fun _ => sound.dry (by simp [flushing])
      case empty => exact fun _ => empty

/-- What was delivered is at the front of what the source has given. -/
theorem Sound.delivered_first (sound : transit.Sound source counted) :
    ∃ heard, source = heard ++ transit.coming ∧ transit.delivered <+: heard :=
  ⟨transit.delivered ++ transit.held, sound.conserved.symm, List.prefix_append ..⟩

theorem Sound.shown (sound : transit.Sound source counted) :
    transit.counted.toNat = (counted.toNat + transit.delivered.length) % UInt64.size := by
  rw [sound.tallied]
  simp

theorem Sound.delivered_of_closing (sound : transit.Sound source counted)
    (closing : transit.phase = .closing) : transit.delivered = source := by
  have conserved := sound.conserved
  rwa [sound.empty closing, sound.dry (by simp [closing]), List.append_nil, List.append_nil]
    at conserved

/-- The relay sees a way taking bytes or handing them on, and nothing of its flushing. -/
theorem Moves.lane (moves : transit.Moves next) :
    next.lane = transit.lane ∨ ∃ event, transit.lane.step event = (next.lane, none) := by
  cases moves with
  | gained count => exact .inr ⟨.taken (transit.coming.take count), rfl⟩
  | drained => exact .inl rfl
  | spent count => exact .inr ⟨.accepted count, rfl⟩
  | flushed => exact .inl rfl

end Transit

namespace Forwarding

variable {forwarding first next last : Forwarding} {course : Course} {answer : Answer}

def transit (forwarding : Forwarding) : Course → Transit
  | .toTarget => ⟨forwarding.upward.coming, forwarding.client.ahead, forwarding.upward.delivered,
      forwarding.client.counters.received, forwarding.upward.phase⟩
  | .toClient => ⟨forwarding.downward.coming, forwarding.block.held, forwarding.downward.delivered,
      forwarding.client.counters.sent, forwarding.downward.phase⟩

theorem held_transit (forwarding : Forwarding) (course : Course) :
    (forwarding.transit course).held = forwarding.held course := by
  cases course <;> rfl

theorem coming_transit (forwarding : Forwarding) (course : Course) :
    (forwarding.transit course).coming = (forwarding.way course).coming := by
  cases course <;> rfl

theorem phase_transit (forwarding : Forwarding) (course : Course) :
    (forwarding.transit course).phase = (forwarding.way course).phase := by
  cases course <;> rfl

/-! ## What an answer does to both ways -/

theorem transit_proceed (forwarding : Forwarding) (course other : Course) (phase : Phase) :
    (forwarding.proceed course phase).transit other =
      if other = course then (forwarding.transit course).proceed phase
      else forwarding.transit other := by
  cases course <;> cases other <;> rfl

theorem transit_gain (forwarding : Forwarding) (course other : Course) (count : Nat) :
    (forwarding.gain course count).transit other =
      if other = course then (forwarding.transit course).gain count
      else forwarding.transit other := by
  cases course <;> cases other <;>
    simp [gain, transit, setWay, way, Transit.gain, Endpoint.fill]

theorem transit_spend (forwarding : Forwarding) (course other : Course) (count : Nat) :
    (forwarding.spend course count).transit other =
      if other = course then (forwarding.transit course).spend count
      else forwarding.transit other := by
  cases course <;> cases other <;>
    simp [spend, transit, setWay, way, held, Transit.spend, Endpoint.consume, Endpoint.credit]

/-- An answer moves bytes on its own way, or it ends this way and with it the forwarding. -/
inductive Moves (forwarding : Forwarding) (course : Course) (answer : Answer) :
    Forwarding → Prop where
  | heard {next : Forwarding} (on : answer.ending? course = none) (running : next.ending = none)
      (moves : (forwarding.transit course).Moves (next.transit course))
      (frame : ∀ other, other ≠ course → next.transit other = forwarding.transit other) :
      Moves forwarding course answer next
  | ended {result : Except Host.Failure Unit} (finished : answer.ending? course = some result)
      (closing : result = .ok () → (forwarding.transit course).phase = .closing) :
      Moves forwarding course answer { forwarding with ending := some (course, result) }

theorem Moves.of_transit {change : Transit → Transit} (on : answer.ending? course = none)
    (running : next.ending = none)
    (shape : ∀ other, next.transit other =
      if other = course then change (forwarding.transit course) else forwarding.transit other)
    (moves : (forwarding.transit course).Moves (change (forwarding.transit course))) :
    forwarding.Moves course answer next := by
  apply Moves.heard on running
  · rwa [shape, if_pos rfl]
  · intro other differs
    rw [shape, if_neg differs]

theorem ending_hear (forwarding : Forwarding) (course : Course) (answer : Answer) :
    (forwarding.hear course answer).ending = forwarding.ending := by
  unfold hear
  split <;> cases course <;> rfl

theorem moves_hear (on : answer.ending? course = none) (running : forwarding.ending = none)
    (allowed : forwarding.allows course answer = true) :
    forwarding.Moves course answer (forwarding.hear course answer) := by
  have still := (ending_hear forwarding course answer).trans running
  cases answer with
  | given count =>
      simp only [allows, Bool.and_eq_true, Bool.or_eq_true, decide_eq_true_eq, List.isEmpty_iff,
        ← phase_transit, ← coming_transit] at allowed
      obtain ⟨⟨⟨⟨copying, -⟩, -⟩, -⟩, ends⟩ := allowed
      cases count with
      | zero =>
          -- A source that gives nothing has nothing left to give.
          have dry := ends.resolve_left (fun differs => differs rfl)
          exact .of_transit on still (transit_proceed forwarding course · .flushing)
            (.drained dry copying)
      | succ count =>
          exact .of_transit on still (transit_gain forwarding course · (count + 1))
            (.gained (count + 1) copying)
  | accepted count =>
      simp only [allows, Bool.and_eq_true, decide_eq_true_eq, ← held_transit] at allowed
      cases count with
      | zero => cases on
      | succ count =>
          exact .of_transit on still (transit_spend forwarding course · (count + 1))
            (.spent (count + 1) allowed.2)
  | flushed =>
      simp only [allows, Bool.and_eq_true, decide_eq_true_eq, List.isEmpty_iff, ← phase_transit,
        ← held_transit] at allowed
      exact .of_transit on still (transit_proceed forwarding course · .closing)
        (.flushed allowed.2 allowed.1)
  | closed => cases on
  | failed failure => cases on

theorem closing_of_ok (allowed : forwarding.allows course answer = true)
    (finished : answer.ending? course = some (.ok ())) :
    (forwarding.transit course).phase = .closing := by
  unfold Answer.ending? at finished
  split at finished
  · cases finished
  · simpa only [allows, decide_eq_true_eq, ← phase_transit] using allowed
  · cases finished
  · cases finished
  · cases finished
  · cases finished

/-- Every answer is heard while nothing has ended, and does one of these. -/
theorem moves_of_poll (done : forwarding.poll course answer = some next) :
    forwarding.ending = none ∧ forwarding.Moves course answer next := by
  unfold poll at done
  split at done
  · rename_i possible
    simp only [Bool.and_eq_true, Option.isNone_iff_eq_none] at possible
    obtain ⟨running, allowed⟩ := possible
    refine ⟨running, ?_⟩
    split at done
    · rename_i result finished
      cases done
      refine .ended finished ?_
      rintro rfl
      exact closing_of_ok allowed finished
    · rename_i on
      cases done
      exact moves_hear on running allowed
  · cases done

theorem isSome_poll (forwarding : Forwarding) (course : Course) (answer : Answer) :
    (forwarding.poll course answer).isSome =
      (forwarding.ending.isNone && forwarding.allows course answer) := by
  unfold poll
  split
  · rename_i possible
    rw [possible]
    split <;> rfl
  · rename_i impossible
    exact (Bool.eq_false_iff.mpr impossible).symm

theorem room_pos (empty : forwarding.held course = []) : 0 < forwarding.room course := by
  cases course with
  | toTarget =>
      have ahead : forwarding.client.ahead = [] := empty
      simp [room, ahead, readAhead]
  | toClient =>
      have bytes : forwarding.block.bytes = [] := forwarding.block.held_eq_nil_iff.mp empty
      simp [room, bytes, Block.capacity]

/-! ## A whole run -/

/-- Both ways are sound, and one that ended without a failure had come to its end. -/
structure Sound (sources : Course → List UInt8) (counts : Course → UInt64)
    (forwarding : Forwarding) : Prop where
  ways : ∀ course, (forwarding.transit course).Sound (sources course) (counts course)
  closed : ∀ course, forwarding.ending = some (course, .ok ()) →
    (forwarding.transit course).phase = .closing

variable {sources : Course → List UInt8} {counts : Course → UInt64} {polls : List (Course × Answer)}

theorem Sound.moves (sound : forwarding.Sound sources counts)
    (moves : forwarding.Moves course answer next) : next.Sound sources counts := by
  cases moves with
  | heard on running moves frame =>
      constructor
      case ways =>
        intro other
        by_cases same : other = course
        · subst same
          exact (sound.ways other).moves moves
        · rw [frame other same]
          exact sound.ways other
      case closed =>
        intro other finished
        rw [running] at finished
        cases finished
  | ended finished closing =>
      constructor
      case ways => exact sound.ways
      case closed =>
        intro other ended
        cases ended
        exact closing rfl

theorem Sound.follow (sound : forwarding.Sound sources counts)
    (followed : forwarding.follow polls = some last) : last.Sound sources counts := by
  induction polls generalizing forwarding with
  | nil =>
      cases followed
      exact sound
  | cons poll polls ih =>
      obtain ⟨next, done, rest⟩ := Option.bind_eq_some_iff.mp followed
      exact ih (sound.moves (moves_of_poll done).2) rest

/-- Behind the end there is no answer any more. -/
theorem follow_of_ended {ending : Course × Except Host.Failure Unit}
    (ended : forwarding.ending = some ending) (followed : forwarding.follow polls = some last) :
    last = forwarding ∧ polls = [] := by
  cases polls with
  | nil =>
      cases followed
      exact ⟨rfl, rfl⟩
  | cons poll polls =>
      obtain ⟨next, done, -⟩ := Option.bind_eq_some_iff.mp followed
      have running := (moves_of_poll done).1
      rw [ended] at running
      cases running

/-- A forwarding ends with the answer that ends one of its ways, and with no other one. -/
theorem ending_iff_of_follow (running : forwarding.ending = none)
    (followed : forwarding.follow polls = some last) (result : Except Host.Failure Unit) :
    last.ending = some (course, result) ↔
      ∃ answer, (course, answer) ∈ polls ∧ answer.ending? course = some result := by
  induction polls generalizing forwarding with
  | nil =>
      cases followed
      simp [running]
  | cons poll polls ih =>
      obtain ⟨way, answer⟩ := poll
      obtain ⟨next, done, rest⟩ := Option.bind_eq_some_iff.mp followed
      cases (moves_of_poll done).2 with
      | heard on still moves frame =>
          rw [ih still rest]
          constructor
          · rintro ⟨said, among, finished⟩
            exact ⟨said, .tail _ among, finished⟩
          · rintro ⟨said, among, finished⟩
            cases among with
            | head => exact absurd finished (by simp [on])
            | tail _ among => exact ⟨said, among, finished⟩
      | ended finished closing =>
          -- This answer was the last one.
          obtain ⟨rfl, rfl⟩ := follow_of_ended rfl rest
          simp only [List.mem_singleton, Option.some.injEq, Prod.mk.injEq]
          constructor
          · rintro ⟨rfl, rfl⟩
            exact ⟨answer, ⟨rfl, rfl⟩, finished⟩
          · rintro ⟨said, ⟨rfl, rfl⟩, told⟩
            exact ⟨rfl, Option.some.inj (finished.symm.trans told)⟩

/-- While nothing has ended, each way can go on: its sink can take what is held, and when nothing
is held its source has room to give. -/
theorem canGo (running : forwarding.ending = none) (course : Course) :
    ∃ answer, (forwarding.poll course answer).isSome ∧
      ∀ failure, answer.ending? course ≠ some (.error failure) := by
  by_cases empty : forwarding.held course = []
  · have room := room_pos empty
    cases phase : (forwarding.way course).phase with
    | copying =>
        cases coming : (forwarding.way course).coming with
        | nil =>
            refine ⟨.given 0, ?_, fun failure same => by cases same⟩
            simp [isSome_poll, running, allows, phase, coming, room]
        | cons byte rest =>
            refine ⟨.given 1, ?_, fun failure same => by cases same⟩
            simp [isSome_poll, running, allows, phase, coming, room, Nat.succ_le_iff]
    | flushing =>
        refine ⟨.flushed, ?_, fun failure same => by cases same⟩
        simp [isSome_poll, running, allows, phase, empty]
    | closing =>
        refine ⟨.closed, ?_, fun failure same => by cases same⟩
        simp [isSome_poll, running, allows, phase]
  · have some : 0 < (forwarding.held course).length := List.length_pos_iff.mpr empty
    refine ⟨.accepted 1, ?_, fun failure same => by cases same⟩
    simp [isSome_poll, running, allows, empty, Nat.succ_le_iff, some]

/-! ## The relay of a run -/

theorem relay_of_running (running : forwarding.ending = none) :
    forwarding.relay =
      ⟨(forwarding.transit .toTarget).lane, (forwarding.transit .toClient).lane, none⟩ := by
  rw [relay, running]
  rfl

theorem relay_step (next : Forwarding) {event : LaneEvent}
    {ended : Option (Except Host.Failure Unit)} (running : forwarding.ending = none)
    (stepped : (forwarding.transit course).lane.step event = ((next.transit course).lane, ended))
    (frame : ∀ other, other ≠ course → next.transit other = forwarding.transit other)
    (finished : next.relay.outcome = ended.map Relay.settle) :
    forwarding.relay.step course event = next.relay := by
  have shown : next.relay = ⟨(next.transit .toTarget).lane, (next.transit .toClient).lane,
      ended.map Relay.settle⟩ := by
    rw [← finished]
    rfl
  cases course with
  | toTarget =>
      rw [shown, frame .toClient (by decide), relay_of_running running]
      simp [Relay.step, stepped]
  | toClient =>
      rw [shown, frame .toTarget (by decide), relay_of_running running]
      simp [Relay.step, stepped]

/-- What an answer does is an event of the relay, or the relay sees nothing of it. -/
theorem Moves.relay (sound : forwarding.Sound sources counts) (running : forwarding.ending = none)
    (moves : forwarding.Moves course answer next) :
    ∃ events, forwarding.relay.run events = next.relay := by
  cases moves with
  | heard on still moves frame =>
      obtain same | ⟨event, stepped⟩ := moves.lane
      · have lanes (other : Course) :
            (next.transit other).lane = (forwarding.transit other).lane := by
          by_cases own : other = course
          · rw [own, same]
          · rw [frame other own]
        refine ⟨[], ?_⟩
        rw [relay_of_running still, lanes, lanes, ← relay_of_running running]
        rfl
      · refine ⟨[(course, event)], relay_step next running stepped frame ?_⟩
        rw [relay_of_running still]
        rfl
  | @ended result finished closing =>
      have stepped : ∃ event, (forwarding.transit course).lane.step event =
          ((forwarding.transit course).lane, some result) := by
        cases result with
        | ok =>
            -- The relay sees the end of a way only when nothing is held.
            have empty := (sound.ways course).empty (closing rfl)
            exact ⟨.ended, by simp [Lane.step, Transit.lane, empty]⟩
        | error failure => exact ⟨.failed failure, rfl⟩
      obtain ⟨event, stepped⟩ := stepped
      exact ⟨[(course, event)], relay_step { forwarding with ending := some (course, result) }
        running stepped (fun _ _ => rfl) rfl⟩

theorem relay_of_follow (sound : forwarding.Sound sources counts)
    (followed : forwarding.follow polls = some last) :
    ∃ events, forwarding.relay.run events = last.relay := by
  induction polls generalizing forwarding with
  | nil =>
      cases followed
      exact ⟨[], rfl⟩
  | cons poll polls ih =>
      obtain ⟨next, done, rest⟩ := Option.bind_eq_some_iff.mp followed
      obtain ⟨running, moves⟩ := moves_of_poll done
      obtain ⟨first, begun⟩ := moves.relay sound running
      obtain ⟨later, gone⟩ := ih (sound.moves moves) rest
      refine ⟨first ++ later, ?_⟩
      rw [Relay.run, List.foldl_append]
      exact (congrArg (Relay.run · later) begun).trans gone

theorem sound_start (client : Endpoint) (fromClient fromTarget : List UInt8) :
    (start client fromClient fromTarget).Sound
      (fun course => match course with
        | .toTarget => client.ahead ++ fromClient
        | .toClient => fromTarget)
      (fun course => match course with
        | .toTarget => client.counters.received
        | .toClient => client.counters.sent) := by
  constructor
  case ways =>
    intro course
    cases course <;>
      exact ⟨rfl, (UInt64.add_zero _).symm, fun left => absurd rfl left, nofun⟩
  case closed =>
    intro course ended
    cases ended

theorem stalled_not_brokenPipe (course : Course) : (stalled course).isBrokenPipe = false := by
  cases course <;> decide

theorem result?_of_ok (finished : last.ending = some (course, .ok ())) :
    last.result? = some (.ok ()) := by
  rw [result?, finished]
  rfl

theorem result?_of_error {failure : Host.Failure}
    (finished : last.ending = some (course, .error failure)) :
    last.result? = some (if failure.isBrokenPipe then .ok () else .error (.stream failure)) := by
  rw [result?, finished]
  unfold Relay.settle
  dsimp only [Option.map_some]
  split <;> rfl

/-- Whatever the ends answer and in whatever order: the target has got the first of the client's
bytes, those that the connection had read ahead among them, and the client the first of those that
the target gave; the connection counts exactly these bytes, modulo 2^64. When a way ends with its
sink closed, it has delivered everything, and until one of them ends none is stuck. The relay of the
services is at every moment what the answers make of it. -/
theorem forwards_exactly (client : Endpoint) (fromClient fromTarget : List UInt8)
    (followed : (start client fromClient fromTarget).follow polls = some last) :
    last.upward.delivered <+: client.ahead ++ fromClient ∧
    (∃ heard, fromTarget = heard ++ last.downward.coming ∧ last.downward.delivered <+: heard) ∧
    last.client.received = (client.received + last.upward.delivered.length) % UInt64.size ∧
    last.client.sent = (client.sent + last.downward.delivered.length) % UInt64.size ∧
    ((.toTarget, .closed) ∈ polls →
      last.upward.delivered = client.ahead ++ fromClient ∧ last.result? = some (.ok ())) ∧
    ((.toClient, .closed) ∈ polls →
      last.downward.delivered = fromTarget ∧ last.result? = some (.ok ())) ∧
    (∀ course failure, (course, .failed failure) ∈ polls →
      last.result? = some (if failure.isBrokenPipe then .ok () else .error (.stream failure))) ∧
    (∀ course, (course, .accepted 0) ∈ polls →
      last.result? = some (.error (.stream (stalled course)))) ∧
    (∀ result, last.result? = some result →
      ∃ course answer, (course, answer) ∈ polls ∧ (answer.ending? course).isSome) ∧
    (last.result? = none → ∀ course, ∃ answer, (last.poll course answer).isSome ∧
      ∀ failure, answer.ending? course ≠ some (.error failure)) ∧
    ∃ events, (Relay.start client.ahead).run events = last.relay := by
  have sound := (sound_start client fromClient fromTarget).follow followed
  have ends {course : Course} {answer : Answer} {result : Except Host.Failure Unit}
      (told : (course, answer) ∈ polls) (finished : answer.ending? course = some result) :
      last.ending = some (course, result) :=
    (ending_iff_of_follow rfl followed result).mpr ⟨answer, told, finished⟩
  refine ⟨?_, (sound.ways .toClient).delivered_first, (sound.ways .toTarget).shown,
    (sound.ways .toClient).shown, ?_, ?_, ?_, ?_, ?_, ?_,
    relay_of_follow (sound_start client fromClient fromTarget) followed⟩
  · obtain ⟨heard, whole, delivered⟩ := (sound.ways .toTarget).delivered_first
    exact delivered.trans ⟨last.upward.coming, whole.symm⟩
  · intro told
    have finished := ends told rfl
    exact ⟨(sound.ways .toTarget).delivered_of_closing (sound.closed .toTarget finished),
      result?_of_ok finished⟩
  · intro told
    have finished := ends told rfl
    exact ⟨(sound.ways .toClient).delivered_of_closing (sound.closed .toClient finished),
      result?_of_ok finished⟩
  · intro course failure told
    exact result?_of_error (ends told rfl)
  · intro course told
    rw [result?_of_error (ends told rfl), stalled_not_brokenPipe]
    rfl
  · intro result returned
    obtain ⟨⟨course, ended⟩, finished, -⟩ := Option.map_eq_some_iff.mp returned
    obtain ⟨answer, told, ending⟩ := (ending_iff_of_follow rfl followed ended).mp finished
    exact ⟨course, answer, told, by rw [ending]; rfl⟩
  · intro still
    exact canGo (Option.map_eq_none_iff.mp still)

/-- Two bytes are read ahead and one comes later. The target takes them one by one while bytes go
the other way, and then the client's stream has ended. -/
theorem forwards_exactly_mixed :
    let client : Endpoint := ⟨.display, "", [1, 2], ⟨5, 7⟩⟩
    let polls : List (Course × Answer) :=
      [(.toTarget, .accepted 1), (.toClient, .given 2), (.toTarget, .accepted 1),
        (.toClient, .accepted 1), (.toTarget, .given 1), (.toTarget, .accepted 1),
        (.toTarget, .given 0), (.toTarget, .flushed), (.toTarget, .closed)]
    ∃ last, (start client [3] [8, 9]).follow polls = some last ∧
      last.upward.delivered = [1, 2, 3] ∧ last.result? = some (.ok ()) ∧
      last.client.received = 10 := by
  intro client polls
  let last : Forwarding := ⟨⟨.display, "", [], ⟨6, 10⟩⟩, ⟨[8, 9], 1, .inr (by decide)⟩,
    ⟨[], [1, 2, 3], .closing⟩, ⟨[], [8], .copying⟩, some (.toTarget, .ok ())⟩
  have followed : (start client [3] [8, 9]).follow polls = some last := rfl
  obtain ⟨-, -, received, -, closed, -⟩ := forwards_exactly client [3] [8, 9] followed
  obtain ⟨delivered, result⟩ := closed (by simp [polls])
  exact ⟨last, followed, delivered, result, received⟩

end Forwarding

end DesktopGateway.Serving
