import DesktopGateway.Proofs.Link.Taking
import DesktopGateway.Proofs.Link.Traffic

/-!
# Operations are polls

What an operation of a side does to the link, polls of that side do, also when it fails or waits,
and the bytes that these polls move tell its outcome.
-/

namespace DesktopGateway.Link

open DesktopGateway.Host
open DesktopGateway.Wire

/-! ## What an outcome shows -/

/-- How much of some bytes a pipe has accepted when their writing is over or waits. -/
inductive Accepts (pipe : Pipe) (bytes : List UInt8) :
    List UInt8 → Option (Except Failure Unit) → Prop where
  | all (openly : bytes ≠ [] → pipe.closed = false) : Accepts pipe bytes bytes (some (.ok ()))
  | refused (closed : pipe.closed = true) :
      Accepts pipe bytes [] (some (.error (Failure.ofKind .brokenPipe)))
  | waiting {given rest : List UInt8} (whole : bytes = given ++ rest) (more : rest ≠ [])
      (full : pipe.capacity ≤ pipe.held.length + given.length) : Accepts pipe bytes given none

/-- What the writer of an emission learns: of a stream that fails, else of the emission's fault. -/
def learned (emission : Parcel.Emission) :
    Option (Except Failure Unit) → Option (Except Fault Unit)
  | none => none
  | some (.error failure) => some (.error (.stream failure))
  | some (.ok ()) => some (match emission.fault with | some fault => .error fault | none => .ok ())

namespace Act

def emission? : Act → Option Parcel.Emission
  | writeField field => some (Post.fieldEmission field)
  | writeVerdict code => some ⟨[code], none⟩
  | writeAcceptance => some Endpoint.acceptance
  | writeRefusal reason => some (Endpoint.refusal reason)
  | writeReply parcel => some (Endpoint.reply parcel)
  | send parcel => some parcel.encode
  | _ => none

def isQuiet : Act → Bool
  | flush | finish | part | dropReader | dropWriter | drop => true
  | _ => false

/-- Operations that make a connection of a bare stream, which moves the bytes then. -/
def connects : Act → Bool
  | dial .. | accept .. | wrap .. => true
  | _ => false

end Act

namespace Post

/-- Whether a side can do an operation at all. -/
def able (post : Post) : Act → Bool
  | .dial .. | .accept .. | .wrap .. => post.isRaw
  | .readField _ | .readVerdict | .receive _ => post.reader?.isSome
  | .readExactly _ | .readToEnd => post.isRaw || post.reader?.isSome
  | .writeField _ | .writeVerdict _ | .send _ | .flush => post.writer?.isSome
  | .writeRaw _ | .finish => post.isRaw || post.writer?.isSome
  | .writeAcceptance | .writeRefusal _ | .writeReply _ | .part | .describe => post.whole?.isSome
  | .receiveRequest | .receiveRequestHeader => post.whole?.isSome
  | .dropReader | .dropWriter =>
      match post.side with
      | .halves .. => true
      | _ => false
  | .drop => true

def left (post : Post) : Left :=
  .of post.stock post.incoming.closed

/-- The outcome of an operation, told by the bytes that it moves and by what is left to read. -/
inductive Shows (post : Post) (left : Left) : Act → Traffic → Outcome → Prop where
  | unable (act : Act) (unable : post.able act = false) : Shows post left act .none .impossible
  | quiet (act : Act) (quiet : act.isQuiet = true) : Shows post left act .none (.gain .nothing)
  | dial {service : Service} {peer : String} {given : List UInt8}
      {answer : Option (Except Failure Unit)}
      (accepts : Accepts post.outgoing [service.code] given answer) :
      Shows post left (.dial service peer) ⟨[], given⟩
        (.ofFault (fun _ => .opened service peer) (learned ⟨[service.code], none⟩ answer))
  | accept {peer : String} {taken : List UInt8} {answer : Option (Except Fault Service)}
      (reads : Demand.Answers left Endpoint.opening taken answer) :
      Shows post left (.accept peer) ⟨taken, []⟩ (.ofFault (.opened · peer) answer)
  | wrap (service : Service) (peer : String) :
      Shows post left (.wrap service peer) .none (.gain (.opened service peer))
  | readField {kind : Field.Kind} {taken : List UInt8} {answer : Option (Except Fault Field)}
      (reads : Demand.Answers left kind.read taken answer) :
      Shows post left (.readField kind) ⟨taken, []⟩ (.ofFault .field answer)
  | readVerdict {taken : List UInt8} {answer : Option (Except Fault Unit)}
      (reads : Demand.Answers left Endpoint.verdict taken answer) :
      Shows post left .readVerdict ⟨taken, []⟩ (.ofFault (fun _ => .nothing) answer)
  | receive {kind : Parcel.Kind} {taken : List UInt8}
      {answer : Option (Except Fault (Parcel Parcel.Content))}
      (reads : Receives left kind taken answer) :
      Shows post left (.receive kind) ⟨taken, []⟩ (.ofFault .parcel answer)
  | unasked (act : Act) {outcome : Outcome} (request : act = .receiveRequest ∨
      act = .receiveRequestHeader) (none : post.requestKind = .error outcome) :
      Shows post left act .none outcome
  | receiveRequest {endpoint : Endpoint} {kind : Parcel.Kind} {taken : List UInt8}
      {answer : Option (Except Fault (Parcel Parcel.Content))}
      (due : post.requestKind = .ok (endpoint, kind)) (reads : Receives left kind taken answer) :
      Shows post left .receiveRequest ⟨taken, []⟩ (.ofFault .parcel answer)
  | receiveRequestHeader {endpoint : Endpoint} {kind : Parcel.Kind} {taken : List UInt8}
      {answer : Option (Except Fault (Parcel Unit))}
      (due : post.requestKind = .ok (endpoint, kind))
      (reads : Demand.Answers left (Parcel.decode kind) taken answer) :
      Shows post left .receiveRequestHeader ⟨taken, []⟩
        (.ofFault (fun parcel => .header parcel.kind.name) answer)
  | readExactly {count : Nat} {taken : List UInt8} {answer : Option (Except Failure (List UInt8))}
      (reads : Exactly left count taken answer) :
      Shows post left (.readExactly count) ⟨taken, []⟩ (.ofFailure .bytes answer)
  | readToEnd {taken : List UInt8} {answer : Option (List UInt8)}
      (reads : ToEnd left taken answer) :
      Shows post left .readToEnd ⟨taken, []⟩ (.ofFailure .bytes (answer.map .ok))
  | write {act : Act} {emission : Parcel.Emission} {given : List UInt8}
      {answer : Option (Except Failure Unit)} (writes : act.emission? = some emission)
      (accepts : Accepts post.outgoing emission.bytes given answer) :
      Shows post left act ⟨[], given⟩ (.ofFault (fun _ => .nothing) (learned emission answer))
  | writeRaw {bytes given : List UInt8} {answer : Option (Except Failure Unit)}
      (accepts : Accepts post.outgoing bytes given answer) :
      Shows post left (.writeRaw bytes) ⟨[], given⟩ (.ofFailure (fun _ => .nothing) answer)
  | describe {endpoint : Endpoint} (whole : post.whole? = some endpoint) :
      Shows post left .describe .none (.gain (.text (endpoint.summary Text.Quoted.quote)))

/-! ## Polls of a side -/

def polled (post : Post) (polls : List Poll) : Post :=
  polls.foldl (fun post poll => (post.poll poll).2) post

def noted (post : Post) (ledger : Ledger) : List Poll → Ledger
  | [] => ledger
  | poll :: polls => (post.poll poll).2.noted (ledger.note post.isRaw (post.poll poll).1) polls

/-- Polls of a side move these bytes, all on the bare stream or all with the connection, and lead
there. -/
def Leads (post : Post) (raw : Bool) (traffic : Traffic) (later : Post) : Prop :=
  ∃ polls, post.polled polls = later ∧
    ∀ ledger, post.noted ledger polls = ledger.note raw traffic

theorem noted_append (post : Post) (ledger : Ledger) (first second : List Poll) :
    post.noted ledger (first ++ second) =
      (post.polled first).noted (post.noted ledger first) second := by
  induction first generalizing post ledger with
  | nil => rfl
  | cons poll first ih => exact ih _ _

namespace Leads

variable {post later last : Post} {raw : Bool} {traffic further : Traffic}

theorem refl (post : Post) (raw : Bool) : post.Leads raw .none post :=
  ⟨[], rfl, fun ledger => (ledger.note_none raw).symm⟩

theorem one (post : Post) (poll : Poll) : post.Leads post.isRaw (post.poll poll).1
    (post.poll poll).2 :=
  ⟨[poll], rfl, fun _ => rfl⟩

theorem trans (earlier : post.Leads raw traffic later) (rest : later.Leads raw further last) :
    post.Leads raw (traffic.append further) last := by
  obtain ⟨front, rfl, first⟩ := earlier
  obtain ⟨back, rfl, second⟩ := rest
  refine ⟨front ++ back, List.foldl_append, fun ledger => ?_⟩
  rw [noted_append, first, second, Ledger.note_note]

/-- Where nothing is moved it does not matter who would have moved it. -/
theorem of_still (still : post.Leads raw .none later) (other : Bool) :
    post.Leads other .none later := by
  obtain ⟨polls, same, noted⟩ := still
  refine ⟨polls, same, fun ledger => ?_⟩
  rw [noted, Ledger.note_none, Ledger.note_none]

theorem change (post : Post) (change : Change) (raw : Bool) :
    post.Leads raw .none (post.change change) :=
  (one post (.change change)).of_still raw

theorem trans_change (earlier : post.Leads raw traffic later) (change : Change) :
    post.Leads raw traffic (later.change change) := by
  have both := earlier.trans (.change later change raw)
  rwa [Traffic.append_none] at both

theorem after_change {change : Change} (rest : (post.change change).Leads raw traffic later) :
    post.Leads raw traffic later := by
  have both := (Leads.change post change raw).trans rest
  rwa [Traffic.none_append] at both

end Leads

/-! ## Readings -/

theorem setEndpoint_reader {post : Post} {endpoint : Endpoint}
    (reads : post.reader? = some endpoint) : post.setEndpoint endpoint = post := by
  obtain ⟨side, incoming, outgoing⟩ := post
  cases side with
  | whole held =>
      cases reads
      rfl
  | halves held reader writer =>
      cases reader with
      | true =>
          cases reads
          rfl
      | false => cases reads
  | raw => cases reads
  | gone => cases reads

/-- A side that can read reads on with what became of its endpoint. -/
theorem setEndpoint_setEndpoint {post : Post} {endpoint : Endpoint}
    (reads : post.reader? = some endpoint) (second third : Endpoint) (pipe : Pipe) :
    ({ post.setEndpoint second with incoming := pipe } : Post).reader? = some second ∧
      ({ post.setEndpoint second with incoming := pipe } : Post).setEndpoint third =
        { post.setEndpoint third with incoming := pipe } := by
  obtain ⟨side, incoming, outgoing⟩ := post
  cases side with
  | whole held => exact ⟨rfl, rfl⟩
  | halves held reader writer =>
      cases reader with
      | true => exact ⟨rfl, rfl⟩
      | false => cases reads
  | raw => cases reads
  | gone => cases reads

theorem isRaw_of_endpoint {post : Post} {endpoint : Endpoint}
    (held : post.side.endpoint? = some endpoint) : post.isRaw = false :=
  Bool.eq_false_iff.mpr fun raw => (raw_ne_endpoint held).1 (isRaw_iff.mp raw)

theorem isRaw_of_reader {post : Post} {endpoint : Endpoint}
    (reads : post.reader? = some endpoint) : post.isRaw = false :=
  isRaw_of_endpoint (endpoint?_of_reader reads)

theorem isRaw_of_writer {post : Post} {endpoint : Endpoint}
    (writes : post.writer? = some endpoint) : post.isRaw = false :=
  isRaw_of_endpoint (endpoint?_of_writer writes)

theorem poll_read {post : Post} {endpoint : Endpoint} (reads : post.reader? = some endpoint)
    (poll : ReadPoll) :
    post.poll (.read poll) = (⟨(Endpoint.poll (endpoint, post.incoming) poll).1, []⟩,
      { post.setEndpoint (Endpoint.poll (endpoint, post.incoming) poll).2.1 with
        incoming := (Endpoint.poll (endpoint, post.incoming) poll).2.2 }) := by
  rw [Post.poll, pollRead, isRaw_of_reader reads, reads]
  rfl

/-- What a source hands out in polls, the side that reads it takes in polls. -/
theorem leads_takes {post : Post} {endpoint : Endpoint} {later : Endpoint × Pipe}
    {taken : List UInt8} (reads : post.reader? = some endpoint)
    (takes : Endpoint.Takes (endpoint, post.incoming) taken later) :
    post.Leads false ⟨taken, []⟩ { post.setEndpoint later.1 with incoming := later.2 } := by
  generalize start : (endpoint, post.incoming) = source at takes
  induction takes generalizing post endpoint with
  | refl source =>
      subst start
      change post.Leads false .none { post.setEndpoint endpoint with incoming := post.incoming }
      rw [setEndpoint_reader reads]
      exact .refl post false
  | @poll source later last front back poll first _ ih =>
      subst start
      obtain ⟨again, kept⟩ := setEndpoint_setEndpoint reads later.1 last.1 later.2
      have one := Leads.one post (.read poll)
      rw [poll_read reads, first, isRaw_of_reader reads] at one
      have both := one.trans (ih again rfl)
      rw [kept] at both
      exact both

theorem left_of_endpoint {post : Post} {endpoint : Endpoint}
    (held : post.side.endpoint? = some endpoint) :
    post.left = Endpoint.left (endpoint, post.incoming) := by
  rw [left, Endpoint.left, stock_of_endpoint held]

theorem leads_reading {α : Type} {post : Post} {endpoint : Endpoint}
    {read : Endpoint × Pipe → Option α × Endpoint × Pipe}
    {answers : Left → List UInt8 → Option α → Prop} (reads : post.reader? = some endpoint)
    (takes : Endpoint.Reads read answers) :
    ∃ taken, post.Leads false ⟨taken, []⟩ (post.reading endpoint read).2 ∧
      answers (post.reading endpoint read).2.left taken (post.reading endpoint read).1 := by
  obtain ⟨taken, handed, answered⟩ := takes (endpoint, post.incoming)
  refine ⟨taken, leads_takes reads handed, ?_⟩
  have held : (post.reading endpoint read).2.side.endpoint? = some _ := endpoint?_setEndpoint post _
  rw [left_of_endpoint held]
  exact answered

/-! ## Writings -/

theorem Accepts.of_write (pipe : Pipe) (bytes : List UInt8) :
    Accepts pipe bytes (bytes.take (pipe.write bytes).1.accepted) (pipe.write bytes).1.outcome := by
  unfold Pipe.write
  split
  · rename_i empty
    rw [List.isEmpty_iff.mp empty]
    exact .all (absurd rfl)
  · split
    · rename_i closed
      exact .refused closed
    · rename_i openly
      dsimp only
      split
      · rename_i short
        rw [List.length_take] at short ⊢
        refine .waiting (List.take_append_drop _ bytes).symm ?_ ?_
        · rw [Ne, List.drop_eq_nil_iff]
          omega
        · rw [List.length_take]
          omega
      · rename_i whole
        rw [List.take_of_length_le (by omega)]
        exact .all fun _ => Bool.eq_false_iff.mpr openly

theorem reader_of_whole {post : Post} {endpoint : Endpoint} (whole : post.whole? = some endpoint) :
    post.reader? = some endpoint ∧ post.writer? = some endpoint := by
  rw [reader?, writer?, side_of_whole whole]
  exact ⟨rfl, rfl⟩

theorem emit_fst (emission : Parcel.Emission) (sink : Endpoint × Pipe) :
    (Endpoint.emit emission sink).1 = learned emission (Endpoint.write emission.bytes sink).1 := by
  unfold Endpoint.emit
  split <;> rename_i written <;> rw [written] <;> rfl

theorem emit_snd (emission : Parcel.Emission) (sink : Endpoint × Pipe) :
    (Endpoint.emit emission sink).2 = (Endpoint.write emission.bytes sink).2 := by
  unfold Endpoint.emit
  split <;> rename_i written <;> rw [written]

theorem leads_write {post : Post} {endpoint : Endpoint} (writes : post.writer? = some endpoint)
    (bytes : List UInt8) :
    post.Leads false ⟨[], bytes.take (post.outgoing.write bytes).1.accepted⟩
      (post.writing endpoint (Endpoint.write bytes)).2 := by
  have one := Leads.one post (.write bytes)
  rw [Post.poll, pollWrite, isRaw_of_writer writes, writes] at one
  exact one

/-! ## Every operation -/

/-- An operation of a side is carried out by polls that move what its outcome shows. -/
def Carries (post : Post) (act : Act) (result : Outcome × Post) : Prop :=
  ∃ traffic, post.Leads (post.isRaw && !act.connects) traffic result.2 ∧
    post.Shows result.2.left act traffic result.1

variable {post : Post} {act : Act}

theorem carries_unable (unable : post.able act = false) :
    post.Carries act (.impossible, post) :=
  ⟨.none, .refl post _, .unable act unable⟩

/-- An operation that replaces the side loses one that cannot do it. -/
theorem carries_lost (unable : post.able act = false) :
    post.Carries act (.impossible, post.abandon) :=
  ⟨.none, .change post .abandon _, .unable act unable⟩

theorem carries_quiet (quiet : act.isQuiet = true) (change : Change) :
    post.Carries act (.gain .nothing, post.change change) :=
  ⟨.none, .change post change _, .quiet act quiet⟩

/-- What a connection moves is not moved on the bare stream. -/
theorem carries_of_connected {traffic : Traffic} {result : Outcome × Post}
    (connected : post.isRaw = false) (leads : post.Leads false traffic result.2)
    (shown : post.Shows result.2.left act traffic result.1) : post.Carries act result := by
  refine ⟨traffic, ?_, shown⟩
  rwa [connected]

theorem carries_readingFault {α : Type} {source : Option Endpoint} {gained : α → Gain}
    {read : Endpoint × Pipe → Option (Except Fault α) × Endpoint × Pipe}
    {answers : Left → List UInt8 → Option (Except Fault α) → Prop}
    (able : source = none → post.able act = false)
    (reader : ∀ endpoint, source = some endpoint → post.reader? = some endpoint)
    (takes : Endpoint.Reads read answers)
    (shown : ∀ {left taken answer}, answers left taken answer →
      post.Shows left act ⟨taken, []⟩ (.ofFault gained answer)) :
    post.Carries act (post.readingFault source gained read) := by
  unfold readingFault
  split
  · exact carries_unable (able rfl)
  · rename_i endpoint
    have reads := reader endpoint rfl
    obtain ⟨taken, leads, answered⟩ := leads_reading reads takes
    exact carries_of_connected (isRaw_of_reader reads) leads (shown answered)

theorem carries_emitting {sink : Option Endpoint} {emission : Parcel.Emission}
    (able : sink = none → post.able act = false)
    (writer : ∀ endpoint, sink = some endpoint → post.writer? = some endpoint)
    (writes : act.emission? = some emission) :
    post.Carries act (post.emitting sink emission) := by
  unfold emitting
  split
  · exact carries_unable (able rfl)
  · rename_i endpoint
    have sinks := writer endpoint rfl
    have leads := leads_write sinks emission.bytes
    rw [writing, ← emit_snd] at leads
    refine carries_of_connected (isRaw_of_writer sinks) leads ?_
    rw [writing, emit_fst]
    exact .write writes (Accepts.of_write post.outgoing emission.bytes)

theorem carries_replacing {further : Post → Outcome × Post}
    (unable : post.isRaw = false → post.able act = false)
    (raw : post.side = .raw → post.Carries act (further post)) :
    post.Carries act (post.replacing further) := by
  unfold replacing
  split
  · rename_i set
    exact raw (isRaw_iff.mp set)
  · rename_i connected
    exact carries_lost (unable (Bool.eq_false_iff.mpr connected))

def turned (post : Post) (service : Service) (peer : String) : Post :=
  { post with side := .whole (.new service peer) }

theorem turned_leads {service : Service} {peer : String} {traffic : Traffic} {later : Post}
    (raw : post.side = .raw) (leads : (post.turned service peer).Leads false traffic later) :
    post.Leads false traffic later := by
  have same : post.change (.turn service peer) = post.turned service peer :=
    if_pos (isRaw_iff.mpr raw)
  rw [← same] at leads
  exact leads.after_change

theorem carries_of_raw {traffic : Traffic} {result : Outcome × Post}
    (own : act.connects = false) (leads : post.Leads post.isRaw traffic result.2)
    (shown : post.Shows result.2.left act traffic result.1) : post.Carries act result := by
  refine ⟨traffic, ?_, shown⟩
  rwa [own, Bool.not_false, Bool.and_true]

theorem carries_of_connects {traffic : Traffic} {result : Outcome × Post}
    (connects : act.connects = true) (leads : post.Leads false traffic result.2)
    (shown : post.Shows result.2.left act traffic result.1) : post.Carries act result := by
  refine ⟨traffic, ?_, shown⟩
  rwa [connects, Bool.not_true, Bool.and_false]

theorem carries_dial (raw : post.side = .raw) (service : Service) (peer : String) :
    post.Carries (.dial service peer) (post.dial service peer) := by
  have writes : (post.turned service peer).writer? = some (.new service peer) := rfl
  have leads := turned_leads raw (leads_write writes [service.code])
  have accepts := Accepts.of_write post.outgoing [service.code]
  have emitted : (post.turned service peer).emitting (some (.new service peer))
      ⟨[service.code], none⟩ =
        (.ofFault (fun _ => .nothing)
          (learned ⟨[service.code], none⟩ (post.outgoing.write [service.code]).1.outcome),
          ((post.turned service peer).writing (.new service peer)
            (Endpoint.write [service.code])).2) := by
    rw [emitting, writing, emit_fst, emit_snd]
    rfl
  unfold dial
  rw [← turned, emitted]
  generalize (post.outgoing.write [service.code]).1.outcome = answer at accepts
  rcases answer with _ | failure | _
  · exact carries_of_connects rfl leads (.dial accepts)
  · exact carries_of_connects rfl (leads.trans_change .abandon) (.dial accepts)
  · exact carries_of_connects rfl leads (.dial accepts)

/-- Where a side has met the end of its stream nothing that it has read ahead is lost with it. -/
theorem left_abandon (ended : post.left = .ended) : post.abandon.left = .ended := by
  have empty : post.incoming.held = [] := by
    obtain ⟨stock_empty, -⟩ := Left.of_eq_ended_iff.mp ended
    unfold stock at stock_empty
    split at stock_empty
    · exact (List.append_eq_nil_iff.mp stock_empty).2
    · exact stock_empty
  exact Left.of_eq_ended_iff.mpr ⟨empty, rfl⟩

/-- The name of its service does not change what a connection has left. -/
theorem left_named {endpoint : Endpoint} (whole : post.whole? = some endpoint) (service : Service) :
    (post.setEndpoint { endpoint with service := service }).left = post.left := by
  obtain ⟨side, incoming, outgoing⟩ := post
  obtain rfl : side = .whole endpoint := side_of_whole whole
  rfl

theorem whole?_reading {α : Type} {endpoint : Endpoint} (whole : post.whole? = some endpoint)
    (read : Endpoint × Pipe → Option α × Endpoint × Pipe) :
    (post.reading endpoint read).2.whole? = some (read (endpoint, post.incoming)).2.1 := by
  obtain ⟨side, incoming, outgoing⟩ := post
  obtain rfl : side = .whole endpoint := side_of_whole whole
  rfl

/-- The handshake is read by the connection that it makes. -/
theorem turned_leads_accept (post : Post) (peer : String) :
    ∃ taken, (post.turned .display peer).Leads false ⟨taken, []⟩ (post.accept peer).2 ∧
      post.Shows (post.accept peer).2.left (.accept peer) ⟨taken, []⟩ (post.accept peer).1 := by
  have whole : ({ post with side := .whole (.new .display peer) } : Post).whole? =
    some (.new .display peer) := rfl
  obtain ⟨taken, leads, answers⟩ :=
    leads_reading (reader_of_whole whole).1 (Endpoint.read_reads Endpoint.opening)
  have held := whole?_reading whole (Endpoint.read Endpoint.opening)
  refine ⟨taken, ?_⟩
  unfold accept
  dsimp only
  split <;> rename_i later result <;> rw [result] at leads answers
  · exact ⟨leads, .accept answers⟩
  · exact ⟨leads.trans_change .abandon, .accept (answers.of_ended left_abandon)⟩
  · rename_i service
    rw [result] at held
    have named := leads.trans_change (.name service)
    rw [change, held] at named
    rw [held]
    refine ⟨named, .accept (answers.of_ended ?_)⟩
    intro ended
    exact (left_named held service).trans ended

theorem carries_accept (raw : post.side = .raw) (peer : String) :
    post.Carries (.accept peer) (post.accept peer) := by
  obtain ⟨taken, leads, shown⟩ := turned_leads_accept post peer
  exact carries_of_connects rfl (turned_leads raw leads) shown

theorem carries_readVerdict (post : Post) : post.Carries .readVerdict post.readVerdict := by
  obtain ⟨traffic, leads, shown⟩ : post.Carries .readVerdict (post.readingFault post.reader?
      (fun _ => .nothing) (Endpoint.read Endpoint.verdict)) :=
    carries_readingFault (fun none => by rw [able, none]; rfl) (fun _ same => same)
      (Endpoint.read_reads Endpoint.verdict) .readVerdict
  unfold readVerdict
  dsimp only
  split
  · rename_i outcome _
    rw [outcome] at shown
    exact ⟨traffic, leads.trans_change .finish, shown⟩
  · exact ⟨traffic, leads, shown⟩

theorem reader_of_requestKind {endpoint : Endpoint} {kind : Parcel.Kind}
    (requested : post.requestKind = .ok (endpoint, kind)) : post.reader? = some endpoint := by
  unfold requestKind at requested
  split at requested
  · cases requested
  · rename_i held whole
    split at requested
    · cases requested
    · cases requested
      exact (reader_of_whole whole).1

/-- A message of the service of the endpoint is read like any other. -/
theorem carries_request {α : Type} {gained : α → Gain}
    {read : Parcel.Kind → Endpoint × Pipe → Option (Except Fault α) × Endpoint × Pipe}
    {answers : Parcel.Kind → Left → List UInt8 → Option (Except Fault α) → Prop}
    (request : act = .receiveRequest ∨ act = .receiveRequestHeader)
    (takes : ∀ kind, Endpoint.Reads (read kind) (answers kind))
    (shown : ∀ {endpoint kind left taken answer}, post.requestKind = .ok (endpoint, kind) →
      answers kind left taken answer → post.Shows left act ⟨taken, []⟩ (.ofFault gained answer)) :
    post.Carries act (match post.requestKind with
      | .error outcome => (outcome, post)
      | .ok (endpoint, kind) => post.readingFault (some endpoint) gained (read kind)) := by
  split
  · rename_i none
    exact ⟨.none, .refl post _, .unasked act request none⟩
  · rename_i endpoint kind due
    refine carries_readingFault nofun (fun other same => ?_) (takes kind) (shown due)
    cases same
    exact reader_of_requestKind due

/-- Raw bytes come from the bare stream or from the connection that it became. -/
theorem carries_raw {α : Type} {bare : Outcome × Pipe} {outcome : Option α → Outcome}
    {read : Endpoint × Pipe → Option α × Endpoint × Pipe}
    {answers : Left → List UInt8 → Option α → Prop} (poll : ReadPoll)
    (unable : post.isRaw = false → post.reader? = none → post.able act = false)
    (own : act.connects = false) (polled : bare.2 = (post.incoming.poll poll).2)
    (barely : ∃ answer, bare.1 = outcome answer ∧
      answers (.of bare.2.held bare.2.closed) (post.incoming.poll poll).1 answer)
    (takes : Endpoint.Reads read answers)
    (shown : ∀ {left taken answer}, answers left taken answer →
      post.Shows left act ⟨taken, []⟩ (outcome answer)) :
    post.Carries act (if post.isRaw then (bare.1, { post with incoming := bare.2 })
      else match post.reader? with
        | none => (.impossible, post)
        | some endpoint =>
            let result := post.reading endpoint read
            (outcome result.1, result.2)) := by
  split
  · rename_i raw
    obtain ⟨answer, same, answered⟩ := barely
    have one := Leads.one post (.read poll)
    rw [Post.poll, pollRead, if_pos raw] at one
    dsimp only at one
    rw [← polled] at one
    refine carries_of_raw own one ?_
    rw [same]
    refine shown ?_
    rw [left, stock, isRaw_iff.mp raw]
    exact answered
  · rename_i connected
    have connected := Bool.eq_false_iff.mpr connected
    split
    · rename_i none
      exact carries_unable (unable connected none)
    · rename_i reads
      obtain ⟨taken, leads, answered⟩ := leads_reading reads takes
      exact carries_of_connected connected leads (shown answered)

theorem held_rawExactly (count : Nat) (pipe : Pipe) :
    (rawExactly count pipe).2.held = pipe.held.drop count ∧
      (rawExactly count pipe).2.closed = pipe.closed := by
  have rest : ({ pipe with pieces := [pipe.held.drop count] } : Pipe).held =
      pipe.held.drop count := List.append_nil _
  unfold rawExactly
  dsimp only
  split
  · exact ⟨rest, rfl⟩
  · split <;> exact ⟨rest, rfl⟩

theorem rawExactly_exactly (count : Nat) (pipe : Pipe) :
    ∃ answer, (rawExactly count pipe).1 = .ofFailure .bytes answer ∧
      Exactly (.of (rawExactly count pipe).2.held (rawExactly count pipe).2.closed) count
        (pipe.poll (.upTo count)).1 answer := by
  rw [(held_rawExactly count pipe).1, (held_rawExactly count pipe).2]
  change ∃ answer, _ ∧ Exactly _ count (pipe.held.take count) answer
  unfold rawExactly
  dsimp only
  split
  · rename_i enough
    exact ⟨_, rfl, .all (List.length_take_of_le enough)⟩
  · rename_i few
    have short : (pipe.held.take count).length < count := by
      rw [List.length_take]
      omega
    have empty : pipe.held.drop count = [] := List.drop_eq_nil_of_le (by omega)
    split
    · rename_i closed
      exact ⟨some (.error _), rfl, .ended short (Left.of_eq_ended_iff.mpr ⟨empty, closed⟩)⟩
    · rename_i openly
      exact ⟨none, rfl, .waiting short
        (Left.of_eq_waiting_iff.mpr ⟨empty, Bool.eq_false_iff.mpr openly⟩)⟩

theorem rawToEnd_toEnd (pipe : Pipe) :
    ∃ answer, (rawToEnd pipe).1 = .ofFailure .bytes (answer.map .ok) ∧
      ToEnd (.of (rawToEnd pipe).2.held (rawToEnd pipe).2.closed) (pipe.poll .rest).1 answer := by
  change ∃ answer, _ ∧ ToEnd (.of [] pipe.closed) pipe.held answer
  unfold rawToEnd
  dsimp only
  split
  · rename_i closed
    exact ⟨some pipe.held, rfl, .ended (Left.of_eq_ended_iff.mpr ⟨rfl, closed⟩)⟩
  · rename_i openly
    exact ⟨none, rfl, .waiting (Left.of_eq_waiting_iff.mpr ⟨rfl, Bool.eq_false_iff.mpr openly⟩)⟩

theorem carries_writeRaw (post : Post) (bytes : List UInt8) :
    post.Carries (.writeRaw bytes) (post.act (.writeRaw bytes)) := by
  have accepts := Accepts.of_write post.outgoing bytes
  rw [Post.act]
  split
  · rename_i raw
    have one := Leads.one post (.write bytes)
    rw [Post.poll, pollWrite, if_pos raw] at one
    exact carries_of_raw rfl one (.writeRaw accepts)
  · rename_i connected
    have connected := Bool.eq_false_iff.mpr connected
    split
    · rename_i none
      exact carries_unable (by rw [able, connected, none]; rfl)
    · rename_i writes
      exact carries_of_connected connected (leads_write writes bytes) (.writeRaw accepts)

/-- A half can be dropped of a side that has been parted. -/
theorem shows_dropHalf {left : Left} (post : Post) (act : Act) (quiet : act.isQuiet = true)
    (half : post.able act = post.able .dropReader) (keepReader keepWriter : Bool) :
    post.Shows left act .none (post.dropHalf keepReader keepWriter).1 := by
  unfold dropHalf
  split
  · dsimp only
    split <;> exact .quiet act quiet
  · rename_i other
    refine .unable act (half.trans ?_)
    rw [able]
    split
    · rename_i side
      exact absurd side (other _ _ _)
    · rfl

/-- Every operation is carried out by polls that move what its outcome shows, one that fails or
waits included. -/
theorem act_carries (post : Post) (act : Act) : post.Carries act (post.act act) := by
  have reader (endpoint : Endpoint) (reads : post.reader? = some endpoint) :
      post.reader? = some endpoint := reads
  cases act with
  | dial service peer => exact carries_replacing id (carries_dial · service peer)
  | accept peer => exact carries_replacing id (carries_accept · peer)
  | wrap service peer =>
      refine carries_replacing id fun raw => ?_
      exact carries_of_connects rfl (turned_leads raw (.refl _ false)) (.wrap service peer)
  | readField kind =>
      exact carries_readingFault (fun none => by rw [able, none]; rfl) reader
        (Endpoint.read_reads kind.read) .readField
  | readVerdict => exact carries_readVerdict post
  | writeField field =>
      exact carries_emitting (fun none => by rw [able, none]; rfl) (fun _ same => same) rfl
  | writeVerdict code =>
      exact carries_emitting (fun none => by rw [able, none]; rfl) (fun _ same => same) rfl
  | writeAcceptance =>
      exact carries_emitting (fun none => by rw [able, none]; rfl)
        (fun _ whole => (reader_of_whole whole).2) rfl
  | writeRefusal reason =>
      exact carries_emitting (fun none => by rw [able, none]; rfl)
        (fun _ whole => (reader_of_whole whole).2) rfl
  | writeReply parcel =>
      exact carries_emitting (fun none => by rw [able, none]; rfl)
        (fun _ whole => (reader_of_whole whole).2) rfl
  | send parcel =>
      exact carries_emitting (fun none => by rw [able, none]; rfl) (fun _ same => same) rfl
  | receive kind =>
      exact carries_readingFault (fun none => by rw [able, none]; rfl) reader
        (Endpoint.readParcel_reads kind) .receive
  | receiveRequest =>
      exact carries_request (.inl rfl) Endpoint.readParcel_reads .receiveRequest
  | receiveRequestHeader =>
      exact carries_request (.inr rfl) (fun kind => Endpoint.read_reads (Parcel.decode kind))
        .receiveRequestHeader
  | readExactly count =>
      exact carries_raw (.upTo count) (fun raw none => by rw [able, raw, none]; rfl) rfl rfl
        (rawExactly_exactly count post.incoming) (Endpoint.readExactly_reads count) .readExactly
  | readToEnd =>
      exact carries_raw .rest (fun raw none => by rw [able, raw, none]; rfl) rfl rfl
        (rawToEnd_toEnd post.incoming) Endpoint.readToEnd_reads .readToEnd
  | writeRaw bytes => exact carries_writeRaw post bytes
  | flush =>
      rw [act]
      split
      · exact ⟨.none, .refl post _, .quiet .flush rfl⟩
      · rename_i none
        exact carries_unable (Bool.eq_false_iff.mpr none)
  | finish =>
      rw [act]
      split
      · exact carries_quiet rfl .finish
      · rename_i none
        exact carries_unable (Bool.eq_false_iff.mpr none)
  | part =>
      have parted : post.Carries .part (.gain .nothing, post.change .part) :=
        carries_quiet rfl .part
      rw [change] at parted
      rw [act]
      split <;> rename_i whole <;> rw [whole] at parted
      · exact parted
      · exact carries_lost (by rw [able, whole]; rfl)
  | dropReader =>
      exact ⟨.none, .change post .dropReader _,
        post.shows_dropHalf .dropReader rfl rfl false true⟩
  | dropWriter =>
      exact ⟨.none, .change post .dropWriter _,
        post.shows_dropHalf .dropWriter rfl rfl true false⟩
  | drop => exact carries_quiet rfl .abandon
  | describe =>
      rw [act]
      split
      · rename_i whole
        exact ⟨.none, .refl post _, .describe whole⟩
      · rename_i none
        exact carries_unable (by rw [able, none]; rfl)

end Post

end DesktopGateway.Link
