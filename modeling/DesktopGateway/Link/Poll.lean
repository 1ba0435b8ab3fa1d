import DesktopGateway.Link.Duplex

/-!
# Polls

An operation on a side of a link is carried out poll by poll. A poll hands bytes to the reader, or
it gives bytes of the writer to the stream, as many as that takes. Between two polls of one side the
other side may be polled, and the two halves of one side take turns as they like, so that a sequence
of polls is a run of operations that are under way at the same time.
-/

namespace DesktopGateway.Wire

namespace Pulled

def taken : Pulled → List UInt8
  | byte value => [value]
  | ended | waiting => []

/-- The same answer to one who has room for some bytes. -/
def delivery : Pulled → Link.Delivery
  | byte value => .bytes [value]
  | ended => .ended
  | waiting => .waiting

theorem taken_delivery (pulled : Pulled) : pulled.delivery.taken = pulled.taken := by
  cases pulled <;> rfl

end Pulled

end DesktopGateway.Wire

namespace DesktopGateway.Link

open DesktopGateway.Wire

/-- How a reader asks for bytes: for one, for as many as there is room for, or for all there are. -/
inductive ReadPoll where
  | byte
  | upTo (room : Nat)
  | rest
  deriving DecidableEq, Repr

namespace Endpoint

def poll (source : Endpoint × Pipe) : ReadPoll → List UInt8 × Endpoint × Pipe
  | .byte => let pulled := pull source; (pulled.1.taken, pulled.2)
  | .upTo room => let delivered := take room source; (delivered.1.taken, delivered.2)
  | .rest => (source.1.ahead ++ source.2.held, (readToEnd source).2)

end Endpoint

namespace Pipe

def poll (pipe : Pipe) : ReadPoll → List UInt8 × Pipe
  | .byte => (pipe.held.take 1, (Post.rawExactly 1 pipe).2)
  | .upTo room => (pipe.held.take room, (Post.rawExactly room pipe).2)
  | .rest => (pipe.held, (Post.rawToEnd pipe).2)

end Pipe

/-- What a side can become without a byte being moved. -/
inductive Change where
  | turn (service : Service) (peer : String)
  | name (service : Service)
  | part
  | dropReader
  | dropWriter
  | finish
  | abandon

inductive Poll where
  | read (poll : ReadPoll)
  | write (bytes : List UInt8)
  | change (change : Change)

/-- The bytes that a side has taken from its incoming pipe and those that its outgoing pipe has
taken from it. -/
structure Traffic where
  taken : List UInt8
  given : List UInt8
  deriving DecidableEq, Repr

namespace Traffic

def none : Traffic := ⟨[], []⟩

def append (earlier later : Traffic) : Traffic :=
  ⟨earlier.taken ++ later.taken, earlier.given ++ later.given⟩

@[simp] theorem none_append (traffic : Traffic) : none.append traffic = traffic := rfl

@[simp] theorem append_none (traffic : Traffic) : traffic.append none = traffic := by
  simp [append, none]

theorem append_assoc (first second third : Traffic) :
    (first.append second).append third = first.append (second.append third) := by
  simp [append]

def count (traffic : Traffic) (counters : Counters) : Counters :=
  (counters.send traffic.given.length).receive traffic.taken.length

@[simp] theorem count_none (counters : Counters) : none.count counters = counters := by
  simp [count, none]

theorem count_append (earlier later : Traffic) (counters : Counters) :
    (earlier.append later).count counters = later.count (earlier.count counters) := by
  simp only [count, append, List.length_append, ← Counters.send_send, ← Counters.receive_receive]
  rfl

end Traffic

namespace Post

def pollRead (post : Post) (poll : ReadPoll) : Traffic × Post :=
  if post.isRaw then
    let polled := post.incoming.poll poll
    (⟨polled.1, []⟩, { post with incoming := polled.2 })
  else
    match post.reader? with
    | none => (.none, post)
    | some endpoint =>
        let polled := Endpoint.poll (endpoint, post.incoming) poll
        (⟨polled.1, []⟩, { post.setEndpoint polled.2.1 with incoming := polled.2.2 })

def pollWrite (post : Post) (bytes : List UInt8) : Traffic × Post :=
  let written := post.outgoing.write bytes
  let traffic : Traffic := ⟨[], bytes.take written.1.accepted⟩
  if post.isRaw then (traffic, { post with outgoing := written.2 })
  else
    match post.writer? with
    | none => (.none, post)
    | some endpoint =>
        (traffic, { post.setEndpoint (Endpoint.write bytes (endpoint, post.outgoing)).2.1 with
          outgoing := written.2 })

def change (post : Post) : Change → Post
  | .turn service peer =>
      if post.isRaw then { post with side := .whole (.new service peer) } else post
  | .name service =>
      match post.whole? with
      | some endpoint => post.setEndpoint { endpoint with service := service }
      | none => post
  | .part =>
      match post.whole? with
      | some endpoint => { post with side := .halves endpoint true true }
      | none => post
  | .dropReader => (post.dropHalf false true).2
  | .dropWriter => (post.dropHalf true false).2
  | .finish => post.finish
  | .abandon => post.abandon

def poll (post : Post) : Poll → Traffic × Post
  | .read poll => post.pollRead poll
  | .write bytes => post.pollWrite bytes
  | .change change => (.none, post.change change)

end Post

def Party.other : Party → Party
  | .client => .server
  | .server => .client

/-- What one party has moved: on the bare stream, and then with the connection made of it. -/
structure Ledger where
  bare : Traffic
  connected : Traffic
  deriving DecidableEq, Repr

namespace Ledger

def empty : Ledger := ⟨.none, .none⟩

def taken (ledger : Ledger) : List UInt8 :=
  ledger.bare.taken ++ ledger.connected.taken

def given (ledger : Ledger) : List UInt8 :=
  ledger.bare.given ++ ledger.connected.given

def note (ledger : Ledger) (raw : Bool) (traffic : Traffic) : Ledger :=
  if raw then { ledger with bare := ledger.bare.append traffic }
  else { ledger with connected := ledger.connected.append traffic }

@[simp] theorem note_none (ledger : Ledger) (raw : Bool) : ledger.note raw .none = ledger := by
  cases raw <;> simp [note]

theorem note_note (ledger : Ledger) (raw : Bool) (first second : Traffic) :
    (ledger.note raw first).note raw second = ledger.note raw (first.append second) := by
  cases raw <;> simp [note, Traffic.append_assoc]

end Ledger

/-- A link and what has passed on it. -/
structure Passage where
  duplex : Duplex
  client : Ledger
  server : Ledger

namespace Passage

def start (capacity : Nat) : Passage :=
  ⟨.new capacity, .empty, .empty⟩

def ledger (passage : Passage) : Party → Ledger
  | .client => passage.client
  | .server => passage.server

def poll (passage : Passage) (party : Party) (poll : Poll) : Passage :=
  let post := passage.duplex.post party
  let polled := post.poll poll
  let ledger := (passage.ledger party).note post.isRaw polled.1
  let duplex := passage.duplex.setPost polled.2 party
  match party with
  | .client => ⟨duplex, ledger, passage.server⟩
  | .server => ⟨duplex, passage.client, ledger⟩

def follow (passage : Passage) (polls : List (Party × Poll)) : Passage :=
  polls.foldl (fun passage step => passage.poll step.1 step.2) passage

end Passage

namespace Duplex

def after (duplex : Duplex) (steps : List (Party × Act)) : Duplex :=
  steps.foldl (fun duplex step => (duplex.act step.1 step.2).2) duplex

end Duplex

end DesktopGateway.Link
