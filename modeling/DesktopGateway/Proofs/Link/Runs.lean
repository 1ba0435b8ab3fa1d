import DesktopGateway.Proofs.Link.Operations

/-!
# Runs of operations

What is true of all runs of polls is true of all runs of operations, one after the other or
interleaved: no operation loses, doubles or reorders the bytes that its outcome shows.
-/

namespace DesktopGateway.Link

namespace Passage

theorem duplex_poll (passage : Passage) (party : Party) (poll : Poll) :
    (passage.poll party poll).duplex =
      passage.duplex.setPost ((passage.duplex.post party).poll poll).2 party := by
  cases party <;> rfl

theorem post_setPost (duplex : Duplex) (post : Post) (party : Party) :
    (duplex.setPost post party).post party = post := by
  cases party <;> rfl

theorem setPost_post (duplex : Duplex) (party : Party) :
    duplex.setPost (duplex.post party) party = duplex := by
  cases party <;> rfl

theorem setPost_setPost (duplex : Duplex) (first second : Post) (party : Party) :
    (duplex.setPost first party).setPost second party = duplex.setPost second party := by
  cases party <;> rfl

theorem follow_append (passage : Passage) (first second : List (Party × Poll)) :
    passage.follow (first ++ second) = (passage.follow first).follow second :=
  List.foldl_append

/-- What polls of a side lead to, the same polls of the link lead to. -/
theorem duplex_follow (passage : Passage) (party : Party) (polls : List Poll) :
    (passage.follow (polls.map (party, ·))).duplex =
      passage.duplex.setPost ((passage.duplex.post party).polled polls) party := by
  induction polls generalizing passage with
  | nil => exact (setPost_post passage.duplex party).symm
  | cons poll polls ih =>
      change ((passage.poll party poll).follow (polls.map (party, ·))).duplex = _
      rw [ih, duplex_poll, post_setPost, setPost_setPost]
      rfl

/-- What polls of a side note is noted for its party alone. -/
theorem ledger_follow (passage : Passage) (party : Party) (polls : List Poll) :
    (passage.follow (polls.map (party, ·))).ledger party =
        (passage.duplex.post party).noted (passage.ledger party) polls ∧
      (passage.follow (polls.map (party, ·))).ledger party.other = passage.ledger party.other := by
  induction polls generalizing passage with
  | nil => exact ⟨rfl, rfl⟩
  | cons poll polls ih =>
      obtain ⟨own, other⟩ := ih (passage.poll party poll)
      rw [ledger_poll, post_poll] at own
      rw [ledger_poll_other] at other
      exact ⟨own, other⟩

/-- An operation of a party has led to its link, and the bytes that its outcome shows have been
noted, for its party alone: as moved on the bare stream before that is a connection, else as moved
with the connection. -/
structure Performs (passage : Passage) (party : Party) (act : Act) (later : Passage) : Prop where
  duplex : later.duplex = (passage.duplex.act party act).2
  moved : ∃ traffic,
    (passage.duplex.post party).Shows (later.duplex.post party).left act traffic
        (passage.duplex.act party act).1 ∧
      later.ledger party = (passage.ledger party).note
        ((passage.duplex.post party).isRaw && !act.connects) traffic
  other : later.ledger party.other = passage.ledger party.other

/-- Operations of the two sides, one after the other, each performed by polls of its party. -/
inductive Performed : Passage → List (Party × Act) → List (Party × Poll) → Prop where
  | none (passage : Passage) : Performed passage [] []
  | step {passage later : Passage} {party : Party} {act : Act} {steps : List (Party × Act)}
      {rest : List (Party × Poll)} (polls : List Poll)
      (leads : passage.follow (polls.map (party, ·)) = later)
      (first : passage.Performs party act later) (others : Performed later steps rest) :
      Performed passage ((party, act) :: steps) (polls.map (party, ·) ++ rest)

theorem exists_performs (passage : Passage) (party : Party) (act : Act) :
    ∃ polls : List Poll, passage.Performs party act (passage.follow (polls.map (party, ·))) := by
  obtain ⟨traffic, ⟨polls, same, noted⟩, shown⟩ := (passage.duplex.post party).act_carries act
  obtain ⟨own, other⟩ := ledger_follow passage party polls
  have link : (passage.follow (polls.map (party, ·))).duplex =
      (passage.duplex.act party act).2 := by
    rw [duplex_follow, same]
    rfl
  refine ⟨polls, link, ⟨traffic, ?_, own.trans (noted _)⟩, other⟩
  rw [link]
  unfold Duplex.act
  rw [post_setPost]
  exact shown

/-- Operations of the two sides, one after the other, are a run of polls. -/
theorem exists_performed (passage : Passage) (steps : List (Party × Act)) :
    ∃ polls, passage.Performed steps polls ∧
      (passage.follow polls).duplex = passage.duplex.after steps := by
  induction steps generalizing passage with
  | nil => exact ⟨[], .none passage, rfl⟩
  | cons step steps ih =>
      obtain ⟨party, act⟩ := step
      obtain ⟨first, performs⟩ := passage.exists_performs party act
      obtain ⟨second, performed, same⟩ := ih (passage.follow (first.map (party, ·)))
      refine ⟨first.map (party, ·) ++ second, .step first rfl performs performed, ?_⟩
      rw [follow_append, same, performs.duplex]
      rfl

/-- Of what the writing side gave the reading side has taken the first bytes. -/
theorem taken_prefix {passage : Passage} (conserved : passage.Conserved) (reader : Party) :
    (passage.ledger reader).taken <+: (passage.ledger reader.other).given := by
  obtain ⟨lost, whole, -⟩ := conserved.order reader
  exact ⟨lost ++ (passage.duplex.post reader).stock, by rw [whole, List.append_assoc]⟩

/-- Connections that both sides made at the same place of the stream share what follows. -/
theorem connected_prefix {passage : Passage} (conserved : passage.Conserved) (reader : Party)
    (aligned : (passage.ledger reader).bare.taken = (passage.ledger reader.other).bare.given) :
    (passage.ledger reader).connected.taken <+: (passage.ledger reader.other).connected.given := by
  have whole := taken_prefix conserved reader
  rw [Ledger.taken, Ledger.given, aligned] at whole
  exact (List.prefix_append_right_inj _).mp whole

end Passage

/-- On a link of any capacity, however the operations of the two sides go, fail and interleave: the
bytes that a side has taken are the first of those that the stream accepted from the other side, of
the connections alone when both were made at one place of the stream. A connection, whole or parted,
has counted as sent what the stream accepted from it, and as received what it handed out, modulo
2^64. Operations one after the other are one such run, in which each operation moves exactly the
bytes that its outcome shows. -/
theorem traffic_of_link (capacity : Nat) :
    (∀ (polls : List (Party × Poll)) (party : Party),
      let passage := (Passage.start capacity).follow polls
      let own := passage.ledger party
      let other := passage.ledger party.other
      own.taken <+: other.given ∧
        (own.bare.taken = other.bare.given → own.connected.taken <+: other.connected.given) ∧
        ∀ endpoint, (passage.duplex.post party).side.endpoint? = some endpoint →
          endpoint.sent = own.connected.given.length % UInt64.size ∧
            endpoint.received = own.connected.taken.length % UInt64.size) ∧
      ∀ steps : List (Party × Act), ∃ polls, (Passage.start capacity).Performed steps polls ∧
        ((Passage.start capacity).follow polls).duplex = (Duplex.new capacity).after steps := by
  refine ⟨fun polls party => ?_, Passage.exists_performed (Passage.start capacity)⟩
  have conserved := Passage.follow_conserved (Passage.start_conserved capacity) polls
  exact ⟨Passage.taken_prefix conserved party, Passage.connected_prefix conserved party,
    fun endpoint found => Traffic.shown_of_count (conserved.counted party endpoint found)⟩

/-- A handshake byte and an announced size are counted on both sides, what is only read ahead on
none. -/
theorem traffic_of_greeting :
    let greeted := (Duplex.new 16).after [(.client, .dial .store "desktop"),
      (.client, .writeField (.size 7)), (.server, .accept "caller"),
      (.client, .finish), (.server, .readField .byte)]
    (greeted.client.endpoint?.map Endpoint.sent = some 9 ∧
      greeted.server.endpoint?.map Endpoint.received = some 2) ∧
      ∃ polls, ((Passage.start 16).follow polls).duplex = greeted := by
  intro greeted
  obtain ⟨polls, -, same⟩ := (traffic_of_link 16).2 _
  exact ⟨by decide, polls, same⟩

end DesktopGateway.Link
