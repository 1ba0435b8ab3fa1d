import DesktopGateway.Link.Endpoint
import DesktopGateway.Text.Quoted

/-!
# Duplex links

Two sides joined by two pipes. A side starts raw, becomes an endpoint, may be parted into a reading
and a writing half, and is gone when it is dropped. What a side cannot do is impossible and, for
the steps that replace the side, loses it.
-/

namespace DesktopGateway.Link

open DesktopGateway.Host
open DesktopGateway.Wire

inductive Side where
  | raw
  | whole (endpoint : Endpoint)
  | halves (endpoint : Endpoint) (reads writes : Bool)
  | gone
  deriving DecidableEq, Repr

def Side.endpoint? : Side → Option Endpoint
  | whole endpoint => some endpoint
  | halves endpoint _ _ => some endpoint
  | raw | gone => none

inductive Act where
  | dial (service : Service) (peer : String)
  | accept (peer : String)
  | wrap (service : Service) (peer : String)
  | readField (kind : Field.Kind)
  | readVerdict
  | writeField (field : Field)
  | writeVerdict (code : UInt8)
  | writeAcceptance
  | writeRefusal (reason : String)
  | writeReply (parcel : Parcel (List UInt8))
  | send (parcel : Parcel (List UInt8))
  | receive (kind : Parcel.Kind)
  | receiveRequest
  | receiveRequestHeader
  | readExactly (count : Nat)
  | readToEnd
  | writeRaw (bytes : List UInt8)
  | flush
  | finish
  | part
  | dropReader
  | dropWriter
  | drop
  | describe

inductive Gain where
  | nothing
  | opened (service : Service) (peer : String)
  | field (value : Field)
  | parcel (received : Parcel Parcel.Content)
  | header (name : String)
  | bytes (taken : List UInt8)
  | text (shown : String)

inductive Outcome where
  | gain (value : Gain)
  | fault (reason : Fault)
  | failure (reason : Failure)
  | impossible
  | waiting

namespace Outcome

def ofFault {α : Type} (gained : α → Gain) : Option (Except Fault α) → Outcome
  | none => waiting
  | some (.error reason) => fault reason
  | some (.ok value) => gain (gained value)

def ofFailure {α : Type} (gained : α → Gain) : Option (Except Failure α) → Outcome
  | none => waiting
  | some (.error reason) => failure reason
  | some (.ok value) => gain (gained value)

end Outcome

/-- One side with the pipe it reads and the pipe it writes. -/
structure Post where
  side : Side
  incoming : Pipe
  outgoing : Pipe

namespace Post

/-- Without its side, both pipes are closed. -/
def abandon (post : Post) : Post :=
  ⟨.gone, post.incoming.close, post.outgoing.close⟩

def finish (post : Post) : Post :=
  { post with outgoing := post.outgoing.close }

def reader? (post : Post) : Option Endpoint :=
  match post.side with
  | .whole endpoint => some endpoint
  | .halves endpoint true _ => some endpoint
  | _ => none

def writer? (post : Post) : Option Endpoint :=
  match post.side with
  | .whole endpoint => some endpoint
  | .halves endpoint _ true => some endpoint
  | _ => none

def whole? (post : Post) : Option Endpoint :=
  match post.side with
  | .whole endpoint => some endpoint
  | _ => none

def setEndpoint (post : Post) (endpoint : Endpoint) : Post :=
  match post.side with
  | .halves _ reads writes => { post with side := .halves endpoint reads writes }
  | _ => { post with side := .whole endpoint }

def reading {α : Type} (post : Post) (endpoint : Endpoint)
    (read : Endpoint × Pipe → Option α × Endpoint × Pipe) : Option α × Post :=
  let result := read (endpoint, post.incoming)
  (result.1, { post.setEndpoint result.2.1 with incoming := result.2.2 })

def writing {α : Type} (post : Post) (endpoint : Endpoint)
    (write : Endpoint × Pipe → Option α × Endpoint × Pipe) : Option α × Post :=
  let result := write (endpoint, post.outgoing)
  (result.1, { post.setEndpoint result.2.1 with outgoing := result.2.2 })

def readingFault {α : Type} (post : Post) (source : Option Endpoint) (gained : α → Gain)
    (read : Endpoint × Pipe → Option (Except Fault α) × Endpoint × Pipe) : Outcome × Post :=
  match source with
  | none => (.impossible, post)
  | some endpoint =>
      let result := post.reading endpoint read
      (.ofFault gained result.1, result.2)

def emitting (post : Post) (sink : Option Endpoint) (emission : Parcel.Emission) : Outcome × Post :=
  match sink with
  | none => (.impossible, post)
  | some endpoint =>
      let result := post.writing endpoint (Endpoint.emit emission)
      (.ofFault (fun _ => .nothing) result.1, result.2)

def fieldEmission (field : Field) : Parcel.Emission :=
  match field.write with
  | .ok bytes => ⟨bytes, none⟩
  | .error fault => ⟨[], some fault⟩

/-- Open the connection: the byte of the service goes out first. -/
def dial (post : Post) (service : Service) (peer : String) : Outcome × Post :=
  let result := { post with side := .whole (.new service peer) }.emitting
    (some (.new service peer)) ⟨[service.code], none⟩
  match result with
  | (.gain _, post) => (.gain (.opened service peer), post)
  | (.fault reason, post) => (.fault reason, post.abandon)
  | other => other

/-- Accept a connection: one byte names the service. -/
def accept (post : Post) (peer : String) : Outcome × Post :=
  let endpoint := Endpoint.new .display peer
  match { post with side := .whole endpoint }.reading endpoint (Endpoint.read Endpoint.opening) with
  | (none, post) => (.waiting, post)
  | (some (.error reason), post) => (.fault reason, post.abandon)
  | (some (.ok service), post) =>
      match post.whole? with
      | some endpoint =>
          (.gain (.opened service peer), post.setEndpoint { endpoint with service := service })
      | none => (.impossible, post)

/-- Read a verdict. An endpoint in one piece also ends its own writing after a refusal. -/
def readVerdict (post : Post) : Outcome × Post :=
  let result := post.readingFault post.reader? (fun _ => .nothing) (Endpoint.read Endpoint.verdict)
  match result.1, post.whole? with
  | .fault (.remote reason), some _ => (.fault (.remote reason), result.2.finish)
  | outcome, _ => (outcome, result.2)

/-- Read the request that belongs to the service of this endpoint. -/
def requestKind (post : Post) : Except Outcome (Endpoint × Parcel.Kind) :=
  match post.whole? with
  | none => .error .impossible
  | some endpoint =>
      match endpoint.service.request? with
      | none => .error (.fault (.noMessage endpoint.service.name))
      | some kind => .ok (endpoint, kind)

/-- Read bytes from a pipe that no endpoint stands in front of. -/
def rawExactly (count : Nat) (pipe : Pipe) : Outcome × Pipe :=
  let held := pipe.held
  let rest := { pipe with pieces := [held.drop count] }
  if count ≤ held.length then (.gain (.bytes (held.take count)), rest)
  else if pipe.closed then (.failure Window.exhausted, rest)
  else (.waiting, rest)

def rawToEnd (pipe : Pipe) : Outcome × Pipe :=
  (if pipe.closed then .gain (.bytes pipe.held) else .waiting, { pipe with pieces := [] })

def isRaw (post : Post) : Bool :=
  post.side = .raw

def replacing (post : Post) (further : Post → Outcome × Post) : Outcome × Post :=
  if post.isRaw then further post else (.impossible, post.abandon)

/-- Drop one half; with the other half goes the side. -/
def dropHalf (post : Post) (keepReader keepWriter : Bool) : Outcome × Post :=
  match post.side with
  | .halves endpoint reads writes =>
      let reads := reads && keepReader
      let writes := writes && keepWriter
      if reads || writes then (.gain .nothing, { post with side := .halves endpoint reads writes })
      else (.gain .nothing, post.abandon)
  | _ => (.impossible, post)

def act (post : Post) : Act → Outcome × Post
  | .dial service peer => post.replacing fun post => post.dial service peer
  | .accept peer => post.replacing fun post => post.accept peer
  | .wrap service peer =>
      post.replacing fun post =>
        (.gain (.opened service peer), { post with side := .whole (.new service peer) })
  | .readField kind => post.readingFault post.reader? .field (Endpoint.read kind.read)
  | .readVerdict => post.readVerdict
  | .writeField field => post.emitting post.writer? (fieldEmission field)
  | .writeVerdict code => post.emitting post.writer? ⟨[code], none⟩
  | .writeAcceptance => post.emitting post.whole? Endpoint.acceptance
  | .writeRefusal reason => post.emitting post.whole? (Endpoint.refusal reason)
  | .writeReply parcel => post.emitting post.whole? (Endpoint.reply parcel)
  | .send parcel => post.emitting post.writer? parcel.encode
  | .receive kind => post.readingFault post.reader? .parcel (Endpoint.readParcel kind)
  | .receiveRequest =>
      match post.requestKind with
      | .error outcome => (outcome, post)
      | .ok (endpoint, kind) =>
          post.readingFault (some endpoint) .parcel (Endpoint.readParcel kind)
  | .receiveRequestHeader =>
      match post.requestKind with
      | .error outcome => (outcome, post)
      | .ok (endpoint, kind) =>
          post.readingFault (some endpoint) (fun parcel => .header parcel.kind.name)
            (Endpoint.read (Parcel.decode kind))
  | .readExactly count =>
      if post.isRaw then
        let result := rawExactly count post.incoming
        (result.1, { post with incoming := result.2 })
      else
        match post.reader? with
        | none => (.impossible, post)
        | some endpoint =>
            let result := post.reading endpoint (Endpoint.readExactly count [])
            (.ofFailure .bytes result.1, result.2)
  | .readToEnd =>
      if post.isRaw then
        let result := rawToEnd post.incoming
        (result.1, { post with incoming := result.2 })
      else
        match post.reader? with
        | none => (.impossible, post)
        | some endpoint =>
            let result := post.reading endpoint Endpoint.readToEnd
            (.ofFailure .bytes (result.1.map .ok), result.2)
  | .writeRaw bytes =>
      if post.isRaw then
        let written := post.outgoing.write bytes
        (.ofFailure (fun _ => .nothing) written.1.outcome, { post with outgoing := written.2 })
      else
        match post.writer? with
        | none => (.impossible, post)
        | some endpoint =>
            let result := post.writing endpoint (Endpoint.write bytes)
            (.ofFailure (fun _ => .nothing) result.1, result.2)
  | .flush => if post.writer?.isSome then (.gain .nothing, post) else (.impossible, post)
  | .finish =>
      if post.isRaw || post.writer?.isSome then (.gain .nothing, post.finish)
      else (.impossible, post)
  | .part =>
      match post.whole? with
      | some endpoint => (.gain .nothing, { post with side := .halves endpoint true true })
      | none => (.impossible, post.abandon)
  | .dropReader => post.dropHalf false true
  | .dropWriter => post.dropHalf true false
  | .drop => (.gain .nothing, post.abandon)
  | .describe =>
      match post.whole? with
      | some endpoint => (.gain (.text (endpoint.summary Text.Quoted.quote)), post)
      | none => (.impossible, post)

end Post

inductive Party where
  | client
  | server
  deriving DecidableEq, Repr

structure Duplex where
  upward : Pipe
  downward : Pipe
  client : Side
  server : Side

namespace Duplex

def new (capacity : Nat) : Duplex :=
  ⟨.empty capacity, .empty capacity, .raw, .raw⟩

def post (duplex : Duplex) : Party → Post
  | .client => ⟨duplex.client, duplex.downward, duplex.upward⟩
  | .server => ⟨duplex.server, duplex.upward, duplex.downward⟩

def setPost (duplex : Duplex) (post : Post) : Party → Duplex
  | .client => ⟨post.outgoing, post.incoming, post.side, duplex.server⟩
  | .server => ⟨post.incoming, post.outgoing, duplex.client, post.side⟩

def act (duplex : Duplex) (party : Party) (act : Act) : Outcome × Duplex :=
  let result := (duplex.post party).act act
  (result.1, duplex.setPost result.2 party)

/-- The outcomes of the steps in their order, each with the link after it. A step that waits for
ever is the last. -/
def run (duplex : Duplex) : List (Party × Act) → List (Outcome × Duplex)
  | [] => []
  | (party, act) :: steps =>
      match duplex.act party act with
      | (.waiting, duplex) => [(.waiting, duplex)]
      | (outcome, duplex) => (outcome, duplex) :: run duplex steps

end Duplex

end DesktopGateway.Link
