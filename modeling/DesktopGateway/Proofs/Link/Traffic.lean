import DesktopGateway.Proofs.Link.Handing

/-!
# Nothing is lost on a link

In each direction what the reading side has taken, what it has read ahead and what is in the pipe
make up what the stream has accepted from the writing side. A connection counts as sent what the
stream has accepted from it and as received what it has handed out; its halves go on counting in the
same place. Every poll of one side keeps this account, so that it holds however the polls of the two
sides are interleaved.
-/

namespace DesktopGateway.Link

open DesktopGateway.Wire

theorem Pipe.accepted_le (pipe : Pipe) (bytes : List UInt8) :
    (pipe.write bytes).1.accepted ≤ bytes.length := by
  unfold write
  split
  · exact Nat.zero_le _
  · split
    · exact Nat.zero_le _
    · exact List.length_take_le' ..

theorem Traffic.shown_of_count {traffic : Traffic} {endpoint : Endpoint}
    (counted : endpoint.counters = traffic.count .zero) :
    endpoint.sent = traffic.given.length % UInt64.size ∧
      endpoint.received = traffic.taken.length % UInt64.size := by
  rw [Endpoint.sent, Endpoint.received, counted]
  simp [count, Counters.send, Counters.receive, Counters.zero]

/-! ## One side -/

namespace Post

/-- The bytes on their way to this side that it has not taken. -/
def stock (post : Post) : List UInt8 :=
  match post.side.endpoint? with
  | some endpoint => Endpoint.unread (endpoint, post.incoming)
  | none => post.incoming.held

theorem isRaw_iff {post : Post} : post.isRaw = true ↔ post.side = .raw :=
  decide_eq_true_iff

theorem endpoint?_of_reader {post : Post} {endpoint : Endpoint}
    (reads : post.reader? = some endpoint) : post.side.endpoint? = some endpoint := by
  obtain ⟨side, incoming, outgoing⟩ := post
  cases side with
  | whole held => exact reads
  | halves held reader writer =>
      cases reader with
      | true => exact reads
      | false => cases reads
  | raw => cases reads
  | gone => cases reads

theorem endpoint?_of_writer {post : Post} {endpoint : Endpoint}
    (writes : post.writer? = some endpoint) : post.side.endpoint? = some endpoint := by
  obtain ⟨side, incoming, outgoing⟩ := post
  cases side with
  | whole held => exact writes
  | halves held reader writer =>
      cases writer with
      | true => exact writes
      | false => cases writes
  | raw => cases writes
  | gone => cases writes

theorem side_of_whole {post : Post} {endpoint : Endpoint} (whole : post.whole? = some endpoint) :
    post.side = .whole endpoint := by
  obtain ⟨side, incoming, outgoing⟩ := post
  cases side with
  | whole held =>
      cases whole
      rfl
  | halves held reader writer => cases whole
  | raw => cases whole
  | gone => cases whole

theorem endpoint?_setEndpoint (post : Post) (endpoint : Endpoint) :
    (post.setEndpoint endpoint).side.endpoint? = some endpoint := by
  unfold setEndpoint
  split <;> rfl

theorem pipes_setEndpoint (post : Post) (endpoint : Endpoint) :
    (post.setEndpoint endpoint).incoming = post.incoming ∧
      (post.setEndpoint endpoint).outgoing = post.outgoing := by
  unfold setEndpoint
  split <;> exact ⟨rfl, rfl⟩

/-- What a poll of a side does to what is on its way and to the counters. -/
structure Passes (post : Post) (traffic : Traffic) (later : Post) : Prop where
  incoming : ∃ lost, post.stock = traffic.taken ++ lost ++ later.stock ∧
    (later.side ≠ .gone → lost = [])
  outgoing : later.outgoing.held = post.outgoing.held ++ traffic.given
  counted : ∀ before endpoint, post.side.endpoint? = some before →
    later.side.endpoint? = some endpoint → endpoint.counters = traffic.count before.counters
  turned : ∀ endpoint, post.side.endpoint? = none → later.side.endpoint? = some endpoint →
    post.side = .raw ∧ endpoint.counters = .zero
  gone : post.side = .gone → later.side = .gone ∧ traffic.taken = []
  raw : later.side = .raw → post.side = .raw

theorem raw_ne_endpoint {side : Side} {endpoint : Endpoint}
    (held : side.endpoint? = some endpoint) : side ≠ .raw ∧ side ≠ .gone := by
  constructor
  · rintro rfl
    cases held
  · rintro rfl
    cases held

namespace Passes

variable {post later : Post} {traffic : Traffic}

/-- What a connection does to its pipes and its counters. -/
theorem of_endpoint {before endpoint : Endpoint} (held : post.side.endpoint? = some before)
    (after : later.side.endpoint? = some endpoint)
    (incoming : post.stock = traffic.taken ++ later.stock)
    (outgoing : later.outgoing.held = post.outgoing.held ++ traffic.given)
    (counted : endpoint.counters = traffic.count before.counters) :
    post.Passes traffic later where
  incoming := ⟨[], by rwa [List.append_nil], fun _ => rfl⟩
  outgoing := outgoing
  counted := by
    intro old new earlier found
    cases held.symm.trans earlier
    cases after.symm.trans found
    exact counted
  turned := by
    intro new earlier
    cases held.symm.trans earlier
  gone gone := absurd gone (raw_ne_endpoint held).2
  raw raw := absurd raw (raw_ne_endpoint after).1

/-- What happens on the bare stream. -/
theorem of_raw (raw : post.side = .raw) (still : later.side = .raw)
    (incoming : post.incoming.held = traffic.taken ++ later.incoming.held)
    (outgoing : later.outgoing.held = post.outgoing.held ++ traffic.given) :
    post.Passes traffic later where
  incoming := by
    refine ⟨[], ?_, fun _ => rfl⟩
    rw [stock, stock, raw, still, List.append_nil]
    exact incoming
  outgoing := outgoing
  counted := by
    intro before endpoint earlier
    rw [raw] at earlier
    cases earlier
  turned := by
    intro endpoint _ found
    rw [still] at found
    cases found
  gone gone := by
    rw [raw] at gone
    cases gone
  raw _ := raw

/-- A side that keeps what it is passes nothing. -/
theorem of_same (side : later.side = post.side) (incoming : later.incoming = post.incoming)
    (outgoing : later.outgoing.held = post.outgoing.held) : post.Passes .none later where
  incoming := ⟨[], by rw [stock, stock, side, incoming]; rfl, fun _ => rfl⟩
  outgoing := by rw [outgoing]; exact (List.append_nil _).symm
  counted := by
    intro before endpoint earlier found
    rw [side] at found
    cases earlier.symm.trans found
    exact (Traffic.count_none _).symm
  turned := by
    intro endpoint earlier found
    rw [side] at found
    cases earlier.symm.trans found
  gone gone := ⟨side.trans gone, rfl⟩
  raw raw := side.symm.trans raw

theorem of_abandon (post : Post) : post.Passes .none post.abandon where
  incoming := by
    cases held : post.side.endpoint? with
    | none =>
        refine ⟨[], ?_, fun _ => rfl⟩
        rw [stock, held]
        rfl
    | some endpoint =>
        refine ⟨endpoint.ahead, ?_, fun there => absurd rfl there⟩
        rw [stock, held]
        rfl
  outgoing := (List.append_nil _).symm
  counted := nofun
  turned := nofun
  gone _ := ⟨rfl, rfl⟩
  raw := nofun

theorem refl (post : Post) : post.Passes .none post :=
  of_same rfl rfl rfl

end Passes

/-! ### Reading and writing -/

theorem held_poll (pipe : Pipe) (poll : ReadPoll) :
    (pipe.poll poll).1 ++ (pipe.poll poll).2.held = pipe.held := by
  have cut (count : Nat) : pipe.held.take count ++ (rawExactly count pipe).2.held = pipe.held := by
    have rest : (rawExactly count pipe).2.held = pipe.held.drop count := by
      unfold rawExactly
      dsimp only
      split
      · exact List.append_nil _
      · split <;> exact List.append_nil _
    rw [rest, List.take_append_drop]
  cases poll with
  | byte => exact cut 1
  | upTo room => exact cut room
  | rest => exact List.append_nil _

theorem stock_of_endpoint {post : Post} {endpoint : Endpoint}
    (held : post.side.endpoint? = some endpoint) :
    post.stock = Endpoint.unread (endpoint, post.incoming) := by
  rw [stock, held]

theorem pollRead_passes (post : Post) (poll : ReadPoll) :
    post.Passes (post.pollRead poll).1 (post.pollRead poll).2 := by
  unfold pollRead
  split
  · rename_i raw
    have side := isRaw_iff.mp raw
    exact .of_raw side side (held_poll post.incoming poll).symm (List.append_nil _).symm
  · cases reads : post.reader? with
    | none => exact .refl post
    | some endpoint =>
        have before := endpoint?_of_reader reads
        have handed := Endpoint.poll_handsOut poll (endpoint, post.incoming)
        dsimp only
        cases polled : Endpoint.poll (endpoint, post.incoming) poll with
        | mk taken source =>
            obtain ⟨later, pipe⟩ := source
            rw [polled] at handed
            have after : ({ post.setEndpoint later with incoming := pipe } : Post).side.endpoint? =
                some later := endpoint?_setEndpoint post later
            have counters := handed.endpoint
            dsimp only at counters
            refine .of_endpoint before after ?_ ?_ ?_
            · rw [stock_of_endpoint before, stock_of_endpoint after]
              exact handed.conserved.symm
            · rw [List.append_nil]
              exact congrArg Pipe.held (pipes_setEndpoint post later).2
            · rw [counters, Traffic.count, List.length_nil, Counters.send_zero]

theorem pollWrite_passes (post : Post) (bytes : List UInt8) :
    post.Passes (post.pollWrite bytes).1 (post.pollWrite bytes).2 := by
  have held := Pipe.held_write post.outgoing bytes
  unfold pollWrite
  split
  · rename_i raw
    have side := isRaw_iff.mp raw
    exact .of_raw side side rfl held
  · cases writes : post.writer? with
    | none => exact .refl post
    | some endpoint =>
        have before := endpoint?_of_writer writes
        dsimp only
        have written := endpoint?_setEndpoint post
          (Endpoint.write bytes (endpoint, post.outgoing)).2.1
        refine .of_endpoint before written ?_ held ?_
        · rw [stock_of_endpoint before, stock, written, List.nil_append]
          exact congrArg (endpoint.ahead ++ ·)
            (congrArg Pipe.held (pipes_setEndpoint post _).1).symm
        · have accepted := List.length_take_of_le (Pipe.accepted_le post.outgoing bytes)
          rw [Traffic.count, List.length_nil, Counters.receive_zero, accepted]
          rfl

/-! ### Changes of a side -/

theorem dropHalf_passes (post : Post) (keepReader keepWriter : Bool) :
    post.Passes .none (post.dropHalf keepReader keepWriter).2 := by
  unfold dropHalf
  split
  · rename_i endpoint reads writes side
    have before : post.side.endpoint? = some endpoint := by rw [side]; rfl
    dsimp only
    split
    · refine .of_endpoint before rfl ?_ (List.append_nil _).symm (Traffic.count_none _).symm
      rw [stock_of_endpoint before]
      rfl
    · exact .of_abandon post
  · exact .refl post

theorem change_passes (post : Post) (change : Change) :
    post.Passes .none (post.change change) := by
  cases change with
  | finish => exact .of_same rfl rfl rfl
  | abandon => exact .of_abandon post
  | turn service peer =>
      unfold Post.change
      dsimp only
      split
      · rename_i raw
        have side := isRaw_iff.mp raw
        refine ⟨⟨[], ?_, fun _ => rfl⟩, (List.append_nil _).symm, ?_, ?_, ?_, fun _ => side⟩
        · rw [stock, side]
          rfl
        · intro before endpoint earlier
          rw [side] at earlier
          cases earlier
        · rintro endpoint _ ⟨⟩
          exact ⟨side, rfl⟩
        · intro gone
          rw [side] at gone
          cases gone
      · exact .refl post
  | name service =>
      unfold Post.change
      dsimp only
      split
      · rename_i endpoint whole
        have side := side_of_whole whole
        have before : post.side.endpoint? = some endpoint := by rw [side]; rfl
        have after := endpoint?_setEndpoint post { endpoint with service := service }
        obtain ⟨incoming, outgoing⟩ := pipes_setEndpoint post { endpoint with service := service }
        refine .of_endpoint before after ?_ ?_ (Traffic.count_none _).symm
        · rw [stock_of_endpoint before, stock_of_endpoint after, incoming]
          rfl
        · rw [outgoing]
          exact (List.append_nil _).symm
      · exact .refl post
  | part =>
      unfold Post.change
      dsimp only
      split
      · rename_i endpoint whole
        have side := side_of_whole whole
        have before : post.side.endpoint? = some endpoint := by rw [side]; rfl
        refine .of_endpoint before rfl ?_ (List.append_nil _).symm (Traffic.count_none _).symm
        rw [stock_of_endpoint before]
        rfl
      · exact .refl post
  | dropReader => exact dropHalf_passes post false true
  | dropWriter => exact dropHalf_passes post true false

/-- A poll of a side takes from its incoming pipe, gives to its outgoing pipe and counts both. -/
theorem poll_passes (post : Post) (poll : Poll) :
    post.Passes (post.poll poll).1 (post.poll poll).2 := by
  cases poll with
  | read poll => exact pollRead_passes post poll
  | write bytes => exact pollWrite_passes post bytes
  | change change => exact change_passes post change

end Post

/-! ## The whole link -/

namespace Passage

/-- What the two sides have moved accounts for all bytes and for all counters. A side that is gone
has lost what it had read ahead. -/
structure Conserved (passage : Passage) : Prop where
  order : ∀ party, ∃ lost,
    (passage.ledger party.other).given =
        (passage.ledger party).taken ++ lost ++ (passage.duplex.post party).stock ∧
      ((passage.duplex.post party).side ≠ .gone → lost = [])
  counted : ∀ party endpoint, (passage.duplex.post party).side.endpoint? = some endpoint →
    endpoint.counters = (passage.ledger party).connected.count .zero
  bare : ∀ party, (passage.duplex.post party).side = .raw →
    (passage.ledger party).connected = .none

theorem start_conserved (capacity : Nat) : (start capacity).Conserved := by
  refine ⟨?_, ?_, ?_⟩
  · intro party
    cases party <;> exact ⟨[], rfl, fun _ => rfl⟩
  · intro party endpoint impossible
    cases party <;> cases impossible
  · intro party _
    cases party <;> rfl

section Poll

variable (passage : Passage) (party : Party) (poll : Poll)

theorem ledger_poll : (passage.poll party poll).ledger party =
    (passage.ledger party).note (passage.duplex.post party).isRaw
      ((passage.duplex.post party).poll poll).1 := by
  cases party <;> rfl

theorem ledger_poll_other :
    (passage.poll party poll).ledger party.other = passage.ledger party.other := by
  cases party <;> rfl

theorem post_poll : (passage.poll party poll).duplex.post party =
    ((passage.duplex.post party).poll poll).2 := by
  cases party <;> rfl

theorem post_poll_other : (passage.poll party poll).duplex.post party.other =
    ⟨(passage.duplex.post party.other).side, ((passage.duplex.post party).poll poll).2.outgoing,
      ((passage.duplex.post party).poll poll).2.incoming⟩ := by
  cases party <;> rfl

end Poll

theorem other_other (party : Party) : party.other.other = party := by
  cases party <;> rfl

/-- Of two parties one is polled. -/
theorem eq_or_other (party polled : Party) : party = polled ∨ party = polled.other := by
  cases party <;> cases polled <;> simp [Party.other]

theorem post_other (duplex : Duplex) (party : Party) :
    (duplex.post party.other).incoming = (duplex.post party).outgoing := by
  cases party <;> rfl

theorem given_note (ledger : Ledger) (raw : Bool) (traffic : Traffic)
    (bare : raw = true → ledger.connected = .none) :
    (ledger.note raw traffic).given = ledger.given ++ traffic.given := by
  unfold Ledger.note Ledger.given
  split
  · rename_i set
    rw [bare set]
    simp [Traffic.append, Traffic.none]
  · simp [Traffic.append]

theorem taken_note (ledger : Ledger) (raw : Bool) (traffic : Traffic)
    (bare : raw = true → ledger.connected = .none) :
    (ledger.note raw traffic).taken = ledger.taken ++ traffic.taken := by
  unfold Ledger.note Ledger.taken
  split
  · rename_i set
    rw [bare set]
    simp [Traffic.append, Traffic.none]
  · simp [Traffic.append]

/-- Bytes that are put into the incoming pipe of a side are on their way to it. -/
theorem stock_append {first second : Post} {bytes : List UInt8} (side : second.side = first.side)
    (more : second.incoming.held = first.incoming.held ++ bytes) :
    second.stock = first.stock ++ bytes := by
  unfold Post.stock
  rw [side]
  split
  · rw [Endpoint.unread, more, Endpoint.unread, List.append_assoc]
  · exact more

section Conserved

variable {passage : Passage} (conserved : passage.Conserved) (party : Party) (poll : Poll)

include conserved

theorem connected_of_isRaw (raw : (passage.duplex.post party).isRaw = true) :
    (passage.ledger party).connected = .none :=
  conserved.bare party (Post.isRaw_iff.mp raw)

/-- The side that is polled takes from what is on its way to it. -/
theorem order_poll : ∃ lost,
    ((passage.poll party poll).ledger party.other).given =
        ((passage.poll party poll).ledger party).taken ++ lost ++
          ((passage.poll party poll).duplex.post party).stock ∧
      (((passage.poll party poll).duplex.post party).side ≠ .gone → lost = []) := by
  obtain ⟨lost, whole, kept⟩ := conserved.order party
  have passes := (passage.duplex.post party).poll_passes poll
  obtain ⟨dropped, stock, still⟩ := passes.incoming
  refine ⟨lost ++ dropped, ?_, ?_⟩
  · rw [ledger_poll_other, ledger_poll, post_poll,
      taken_note _ _ _ (connected_of_isRaw conserved party), whole, stock]
    by_cases gone : (passage.duplex.post party).side = .gone
    · simp [(passes.gone gone).2]
    · simp [kept gone]
  · rw [post_poll]
    intro there
    have before : (passage.duplex.post party).side ≠ .gone :=
      fun gone => there (passes.gone gone).1
    rw [kept before, still there]
    rfl

/-- What the side that is polled gives is on its way to the other side. -/
theorem order_poll_other : ∃ lost,
    ((passage.poll party poll).ledger party).given =
        ((passage.poll party poll).ledger party.other).taken ++ lost ++
          ((passage.poll party poll).duplex.post party.other).stock ∧
      (((passage.poll party poll).duplex.post party.other).side ≠ .gone → lost = []) := by
  obtain ⟨lost, whole, kept⟩ := conserved.order party.other
  rw [other_other] at whole
  have more : ((passage.poll party poll).duplex.post party.other).stock =
      (passage.duplex.post party.other).stock ++
        ((passage.duplex.post party).poll poll).1.given := by
    refine stock_append (by rw [post_poll_other]) ?_
    rw [post_poll_other, post_other]
    exact ((passage.duplex.post party).poll_passes poll).outgoing
  refine ⟨lost, ?_, ?_⟩
  · rw [ledger_poll, ledger_poll_other, given_note _ _ _ (connected_of_isRaw conserved party),
      whole, more]
    simp
  · rw [post_poll_other]
    exact kept

/-- The counters of the side that is polled go on with the ledger, and start with it. -/
theorem counted_poll {endpoint : Endpoint}
    (found : ((passage.poll party poll).duplex.post party).side.endpoint? = some endpoint) :
    endpoint.counters = ((passage.poll party poll).ledger party).connected.count .zero := by
  have passes := (passage.duplex.post party).poll_passes poll
  rw [post_poll] at found
  rw [ledger_poll]
  cases before : (passage.duplex.post party).side.endpoint? with
  | some old =>
      have connected : ¬ (passage.duplex.post party).isRaw = true :=
        fun raw => (Post.raw_ne_endpoint before).1 (Post.isRaw_iff.mp raw)
      rw [Ledger.note, if_neg connected, passes.counted old endpoint before found,
        conserved.counted party old before, ← Traffic.count_append]
  | none =>
      obtain ⟨raw, fresh⟩ := passes.turned endpoint before found
      rw [Ledger.note, if_pos (Post.isRaw_iff.mpr raw), fresh]
      dsimp only
      rw [conserved.bare party raw, Traffic.count_none]

theorem bare_poll (raw : ((passage.poll party poll).duplex.post party).side = .raw) :
    ((passage.poll party poll).ledger party).connected = .none := by
  rw [post_poll] at raw
  have before := ((passage.duplex.post party).poll_passes poll).raw raw
  rw [ledger_poll, Ledger.note, if_pos (Post.isRaw_iff.mpr before)]
  exact conserved.bare party before

/-- A poll of one side keeps the account of the whole link. -/
theorem poll_conserved : (passage.poll party poll).Conserved := by
  refine ⟨?_, ?_, ?_⟩
  · intro reader
    rcases eq_or_other reader party with rfl | rfl
    · exact order_poll conserved reader poll
    · rw [other_other]
      exact order_poll_other conserved party poll
  · intro other endpoint found
    rcases eq_or_other other party with rfl | rfl
    · exact counted_poll conserved other poll found
    · rw [post_poll_other] at found
      rw [ledger_poll_other]
      exact conserved.counted party.other endpoint found
  · intro other raw
    rcases eq_or_other other party with rfl | rfl
    · exact bare_poll conserved other poll raw
    · rw [post_poll_other] at raw
      rw [ledger_poll_other]
      exact conserved.bare party.other raw

end Conserved

/-- However the two sides are polled, nothing is lost, doubled or put out of order. -/
theorem follow_conserved {passage : Passage} (conserved : passage.Conserved)
    (polls : List (Party × Poll)) : (passage.follow polls).Conserved := by
  induction polls generalizing passage with
  | nil => exact conserved
  | cons step polls ih => exact ih (poll_conserved conserved step.1 step.2)

end Passage

end DesktopGateway.Link
