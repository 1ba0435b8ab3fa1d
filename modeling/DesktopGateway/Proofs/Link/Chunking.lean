import DesktopGateway.Proofs.Link.Draining
import DesktopGateway.Proofs.Link.Operations

/-!
# Chunking is invisible

How the transport cuts a stream that ends into pieces makes no difference to the side that reads it.
Two sides with the same bytes unread go on alike, whatever they have read ahead, and what has not
been counted as received is what the next reading gets.
-/

namespace DesktopGateway.Link

open DesktopGateway.Host
open DesktopGateway.Wire

/-! ## Two sources of the same stream -/

namespace Endpoint

/-- Two sources with the same bytes unread before the end; how much of them is read ahead and how
the rest is cut may differ. -/
structure Alike (first second : Endpoint × Pipe) : Prop where
  unread : unread first = unread second
  endpoint : second.1 = { first.1 with ahead := second.1.ahead }
  closed : first.2.closed = true ∧ second.2.closed = true

theorem Alike.received {first second : Endpoint × Pipe} (alike : Alike first second) :
    first.1.received = second.1.received := by
  rw [alike.endpoint]
  rfl

theorem Alike.send {first second : Endpoint × Pipe} (alike : Alike first second) (count : Nat) :
    Alike ({ first.1 with counters := first.1.counters.send count }, first.2)
      ({ second.1 with counters := second.1.counters.send count }, second.2) :=
  ⟨alike.unread, by rw [alike.endpoint], alike.closed⟩

theorem Computes.alike {α : Type} {read : Endpoint × Pipe → Option α × Endpoint × Pipe}
    {result : List UInt8 → α × List UInt8} (computes : Computes read result)
    (takes : OnlyTakes read) {first second : Endpoint × Pipe} (alike : Alike first second) :
    (read first).1 = (read second).1 ∧ Alike (read first).2 (read second).2 := by
  obtain ⟨firstResult, firstRest⟩ := computes first alike.closed.1
  obtain ⟨secondResult, secondRest⟩ := computes second alike.closed.2
  obtain ⟨front, firstHanded⟩ := takes first
  obtain ⟨other, secondHanded⟩ := takes second
  rw [← alike.unread] at secondResult secondRest
  have same : front.length = other.length := by
    have whole := firstHanded.conserved.trans (alike.unread.trans secondHanded.conserved.symm)
    have lengths := congrArg List.length whole
    rw [firstRest, secondRest, List.length_append, List.length_append] at lengths
    exact Nat.add_right_cancel lengths
  refine ⟨firstResult.trans secondResult.symm, firstRest.trans secondRest.symm, ?_,
    firstHanded.closed.trans alike.closed.1, secondHanded.closed.trans alike.closed.2⟩
  rw [secondHanded.endpoint, firstHanded.endpoint, alike.endpoint, same]

/-- A writing looks at the pipe only, and counts. -/
def OnlySends {α : Type} (write : Endpoint × Pipe → Option α × Endpoint × Pipe) : Prop :=
  ∀ pipe, ∃ answer count later, ∀ endpoint,
    write (endpoint, pipe) =
      (answer, { endpoint with counters := endpoint.counters.send count }, later)

theorem write_onlySends (bytes : List UInt8) : OnlySends (write bytes) :=
  fun _ => ⟨_, _, _, fun _ => rfl⟩

theorem emit_onlySends (emission : Parcel.Emission) : OnlySends (emit emission) := by
  intro pipe
  obtain ⟨answer, count, later, same⟩ := write_onlySends emission.bytes pipe
  unfold emit
  cases answer with
  | none => exact ⟨none, count, later, fun endpoint => by rw [same]⟩
  | some outcome =>
      cases outcome with
      | error failure => exact ⟨_, count, later, fun endpoint => by rw [same]⟩
      | ok done => exact ⟨_, count, later, fun endpoint => by rw [same]⟩

end Endpoint

/-! ## Two sides of the same stream -/

structure Pipe.Alike (first second : Pipe) : Prop where
  held : first.held = second.held
  closed : first.closed = true ∧ second.closed = true

namespace Post

/-- Two sides before the same bytes and the end of the stream, in the same state but for what is
read ahead. -/
inductive Alike : Post → Post → Prop where
  | raw {first second : Pipe} (outgoing : Pipe) (alike : Pipe.Alike first second) :
      Alike ⟨.raw, first, outgoing⟩ ⟨.raw, second, outgoing⟩
  | whole {first second : Endpoint × Pipe} (outgoing : Pipe)
      (alike : Endpoint.Alike first second) :
      Alike ⟨.whole first.1, first.2, outgoing⟩ ⟨.whole second.1, second.2, outgoing⟩
  | halves {first second : Endpoint × Pipe} (reads writes : Bool) (outgoing : Pipe)
      (alike : Endpoint.Alike first second) :
      Alike ⟨.halves first.1 reads writes, first.2, outgoing⟩
        ⟨.halves second.1 reads writes, second.2, outgoing⟩
  | gone (first second outgoing : Pipe) : Alike ⟨.gone, first, outgoing⟩ ⟨.gone, second, outgoing⟩

def Agree {α : Type} (first second : α × Post) : Prop :=
  first.1 = second.1 ∧ Alike first.2 second.2

theorem rawExactly_alike (count : Nat) {front back : Pipe} (alike : Pipe.Alike front back) :
    (rawExactly count front).1 = (rawExactly count back).1 ∧
      Pipe.Alike (rawExactly count front).2 (rawExactly count back).2 := by
  unfold rawExactly
  rw [alike.held, alike.closed.1, alike.closed.2]
  dsimp only
  split
  · exact ⟨rfl, rfl, rfl, rfl⟩
  · exact ⟨rfl, rfl, rfl, rfl⟩

theorem rawToEnd_alike {front back : Pipe} (alike : Pipe.Alike front back) :
    (rawToEnd front).1 = (rawToEnd back).1 ∧ Pipe.Alike (rawToEnd front).2 (rawToEnd back).2 := by
  refine ⟨?_, rfl, alike.closed⟩
  unfold rawToEnd
  rw [alike.held, alike.closed.1, alike.closed.2]

section Alike

variable {first second : Post} (alike : Alike first second)

include alike

theorem Alike.isRaw : first.isRaw = second.isRaw := by
  cases alike <;> rfl

theorem Alike.abandon : Alike first.abandon second.abandon := by
  cases alike <;> exact .gone ..

theorem Alike.finish : Alike first.finish second.finish := by
  cases alike with
  | raw outgoing same => exact .raw _ same
  | whole outgoing same => exact .whole _ same
  | halves reads writes outgoing same => exact .halves _ _ _ same
  | gone => exact .gone ..

theorem Alike.reader : first.reader? = none ∧ second.reader? = none ∨
    ∃ front back, first.reader? = some front ∧ second.reader? = some back := by
  cases alike with
  | raw => exact .inl ⟨rfl, rfl⟩
  | whole => exact .inr ⟨_, _, rfl, rfl⟩
  | halves reads => cases reads <;> simp [reader?]
  | gone => exact .inl ⟨rfl, rfl⟩

theorem Alike.writer : first.writer? = none ∧ second.writer? = none ∨
    ∃ front back, first.writer? = some front ∧ second.writer? = some back := by
  cases alike with
  | raw => exact .inl ⟨rfl, rfl⟩
  | whole => exact .inr ⟨_, _, rfl, rfl⟩
  | halves reads writes => cases writes <;> simp [writer?]
  | gone => exact .inl ⟨rfl, rfl⟩

theorem Alike.isSome_writer : first.writer?.isSome = second.writer?.isSome := by
  rcases alike.writer with ⟨unable, also⟩ | ⟨front, back, writes, also⟩
  · rw [unable, also]
  · rw [writes, also]
    rfl

theorem Alike.whole? : first.whole? = none ∧ second.whole? = none ∨
    ∃ front back, first.whole? = some front ∧ second.whole? = some back ∧
      back = { front with ahead := back.ahead } := by
  cases alike with
  | raw => exact .inl ⟨rfl, rfl⟩
  | whole outgoing same => exact .inr ⟨_, _, rfl, rfl, same.endpoint⟩
  | halves => exact .inl ⟨rfl, rfl⟩
  | gone => exact .inl ⟨rfl, rfl⟩

/-- A reading agrees on two sides that can read. -/
theorem Alike.reading {α : Type} {front back : Endpoint}
    {read : Endpoint × Pipe → Option α × Endpoint × Pipe} {result : List UInt8 → α × List UInt8}
    (computes : Endpoint.Computes read result) (takes : Endpoint.OnlyTakes read)
    (reads : first.reader? = some front) (also : second.reader? = some back) :
    Agree (first.reading front read) (second.reading back read) := by
  cases alike with
  | raw => cases reads
  | whole outgoing same =>
      cases reads
      cases also
      obtain ⟨results, later⟩ := computes.alike takes same
      exact ⟨results, .whole _ later⟩
  | halves able writes outgoing same =>
      cases able with
      | false => cases reads
      | true =>
          cases reads
          cases also
          obtain ⟨results, later⟩ := computes.alike takes same
          exact ⟨results, .halves _ _ _ later⟩
  | gone => cases reads

theorem Alike.writing {α : Type} {front back : Endpoint}
    {write : Endpoint × Pipe → Option α × Endpoint × Pipe} (sends : Endpoint.OnlySends write)
    (writes : first.writer? = some front) (also : second.writer? = some back) :
    Agree (first.writing front write) (second.writing back write) := by
  obtain ⟨answer, count, later, written⟩ := sends first.outgoing
  cases alike with
  | raw => cases writes
  | whole outgoing same =>
      cases writes
      cases also
      rw [Post.writing, Post.writing, written, written]
      exact ⟨rfl, .whole later (same.send count)⟩
  | halves reads able outgoing same =>
      cases able with
      | false => cases writes
      | true =>
          cases writes
          cases also
          rw [Post.writing, Post.writing, written, written]
          exact ⟨rfl, .halves reads true later (same.send count)⟩
  | gone => cases writes

theorem Alike.readingFault {α : Type} {gained : α → Gain}
    {read : Endpoint × Pipe → Option (Except Fault α) × Endpoint × Pipe}
    {result : List UInt8 → Except Fault α × List UInt8}
    (computes : Endpoint.Computes read result) (takes : Endpoint.OnlyTakes read) :
    Agree (first.readingFault first.reader? gained read)
      (second.readingFault second.reader? gained read) := by
  rcases alike.reader with ⟨unable, also⟩ | ⟨front, back, reads, also⟩
  · rw [unable, also]
    exact ⟨rfl, alike⟩
  · obtain ⟨results, later⟩ := alike.reading computes takes reads also
    rw [reads, also]
    exact ⟨congrArg (Outcome.ofFault gained) results, later⟩

theorem Alike.emitting (emission : Parcel.Emission) :
    Agree (first.emitting first.writer? emission) (second.emitting second.writer? emission) := by
  rcases alike.writer with ⟨unable, also⟩ | ⟨front, back, writes, also⟩
  · rw [unable, also]
    exact ⟨rfl, alike⟩
  · obtain ⟨results, later⟩ := alike.writing (Endpoint.emit_onlySends emission) writes also
    rw [writes, also]
    exact ⟨congrArg (Outcome.ofFault fun _ => .nothing) results, later⟩

theorem Alike.emittingWhole (emission : Parcel.Emission) :
    Agree (first.emitting first.whole? emission) (second.emitting second.whole? emission) := by
  rcases alike.whole? with ⟨unable, also⟩ | ⟨front, back, whole, also, -⟩
  · rw [unable, also]
    exact ⟨rfl, alike⟩
  · have emitted := alike.emitting emission
    rw [whole, also]
    rwa [(reader_of_whole whole).2, (reader_of_whole also).2] at emitted

theorem Alike.replacing {further : Post → Outcome × Post}
    (raw : first.side = .raw → second.side = .raw → Agree (further first) (further second)) :
    Agree (first.replacing further) (second.replacing further) := by
  unfold Post.replacing
  rw [alike.isRaw]
  split <;> rename_i set
  · exact raw (isRaw_iff.mp (alike.isRaw.trans set)) (isRaw_iff.mp set)
  · exact ⟨rfl, alike.abandon⟩

theorem Alike.turn (raw : first.side = .raw) (service : Service) (peer : String) :
    Alike { first with side := .whole (.new service peer) }
      { second with side := .whole (.new service peer) } := by
  cases alike with
  | @raw front back outgoing same =>
      have turned : Endpoint.Alike (.new service peer, front) (.new service peer, back) :=
        ⟨same.held, rfl, same.closed⟩
      exact .whole outgoing turned
  | whole => cases raw
  | halves => cases raw
  | gone => cases raw

theorem Alike.dial (raw : first.side = .raw) (service : Service) (peer : String) :
    Agree (first.dial service peer) (second.dial service peer) := by
  have emitted : Agree
      ({ first with side := .whole (.new service peer) }.emitting (some (.new service peer))
        ⟨[service.code], none⟩)
      ({ second with side := .whole (.new service peer) }.emitting (some (.new service peer))
        ⟨[service.code], none⟩) := (alike.turn raw service peer).emitting ⟨[service.code], none⟩
  unfold Post.dial
  revert emitted
  generalize Post.emitting { first with side := .whole (.new service peer) } _ _ = front
  generalize Post.emitting { second with side := .whole (.new service peer) } _ _ = back
  rintro ⟨same, later⟩
  obtain ⟨outcome, front⟩ := front
  obtain ⟨_, back⟩ := back
  cases same
  cases outcome with
  | gain value => exact ⟨rfl, later⟩
  | fault reason => exact ⟨rfl, later.abandon⟩
  | failure reason => exact ⟨rfl, later⟩
  | impossible => exact ⟨rfl, later⟩
  | waiting => exact ⟨rfl, later⟩

theorem Alike.name {front back : Endpoint} (whole : first.whole? = some front)
    (also : second.whole? = some back) (service : Service) :
    Alike (first.setEndpoint { front with service := service })
      (second.setEndpoint { back with service := service }) := by
  cases alike with
  | raw => cases whole
  | @whole front back outgoing same =>
      cases whole
      cases also
      have named : Endpoint.Alike ({ front.1 with service := service }, front.2)
          ({ back.1 with service := service }, back.2) :=
        ⟨same.unread, by rw [same.endpoint], same.closed⟩
      exact .whole outgoing named
  | halves => cases whole
  | gone => cases whole

theorem Alike.accept (raw : first.side = .raw) (peer : String) :
    Agree (first.accept peer) (second.accept peer) := by
  have opened : Agree
      ({ first with side := .whole (.new .display peer) }.reading (.new .display peer)
        (Endpoint.read Endpoint.opening))
      ({ second with side := .whole (.new .display peer) }.reading (.new .display peer)
        (Endpoint.read Endpoint.opening)) :=
    (alike.turn raw .display peer).reading (Endpoint.read_computes Endpoint.opening)
      (Endpoint.read_reads Endpoint.opening).onlyTakes rfl rfl
  unfold Post.accept
  dsimp only
  revert opened
  generalize Post.reading { first with side := .whole (.new .display peer) } _ _ = front
  generalize Post.reading { second with side := .whole (.new .display peer) } _ _ = back
  rintro ⟨same, later⟩
  obtain ⟨outcome, front⟩ := front
  obtain ⟨_, back⟩ := back
  cases same
  rcases outcome with _ | reason | service
  · exact ⟨rfl, later⟩
  · exact ⟨rfl, later.abandon⟩
  · dsimp only at later ⊢
    rcases later.whole? with ⟨unable, also⟩ | ⟨one, other, whole, also, -⟩
    · rw [unable, also]
      exact ⟨rfl, later⟩
    · rw [whole, also]
      exact ⟨rfl, later.name whole also service⟩

theorem Alike.readVerdict : Agree first.readVerdict second.readVerdict := by
  have read : Agree
      (first.readingFault first.reader? (fun _ => .nothing) (Endpoint.read Endpoint.verdict))
      (second.readingFault second.reader? (fun _ => .nothing) (Endpoint.read Endpoint.verdict)) :=
    alike.readingFault (Endpoint.read_computes Endpoint.verdict)
      (Endpoint.read_reads Endpoint.verdict).onlyTakes
  unfold Post.readVerdict
  revert read
  generalize first.readingFault _ _ _ = front
  generalize second.readingFault _ _ _ = back
  rintro ⟨same, later⟩
  obtain ⟨outcome, front⟩ := front
  obtain ⟨_, back⟩ := back
  cases same
  dsimp only at later ⊢
  rcases alike.whole? with ⟨unable, also⟩ | ⟨one, other, whole, also, -⟩
  · rw [unable, also]
    cases outcome with
    | fault reason => cases reason <;> exact ⟨rfl, later⟩
    | gain value => exact ⟨rfl, later⟩
    | failure reason => exact ⟨rfl, later⟩
    | impossible => exact ⟨rfl, later⟩
    | waiting => exact ⟨rfl, later⟩
  · rw [whole, also]
    cases outcome with
    | fault reason =>
        cases reason with
        | remote reason => exact ⟨rfl, later.finish⟩
        | _ => exact ⟨rfl, later⟩
    | gain value => exact ⟨rfl, later⟩
    | failure reason => exact ⟨rfl, later⟩
    | impossible => exact ⟨rfl, later⟩
    | waiting => exact ⟨rfl, later⟩

/-- Which message is due is read off what is alike. -/
theorem Alike.requestKind :
    (∃ outcome, first.requestKind = .error outcome ∧ second.requestKind = .error outcome) ∨
      ∃ front back kind, first.requestKind = .ok (front, kind) ∧
        second.requestKind = .ok (back, kind) := by
  unfold Post.requestKind
  rcases alike.whole? with ⟨unable, also⟩ | ⟨front, back, whole, also, same⟩
  · rw [unable, also]
    exact .inl ⟨_, rfl, rfl⟩
  · rw [whole, also, same]
    dsimp only
    split
    · exact .inl ⟨_, rfl, rfl⟩
    · exact .inr ⟨_, _, _, rfl, rfl⟩

theorem Alike.request {α : Type} {gained : α → Gain}
    {read : Parcel.Kind → Endpoint × Pipe → Option (Except Fault α) × Endpoint × Pipe}
    {result : Parcel.Kind → List UInt8 → Except Fault α × List UInt8}
    (computes : ∀ kind, Endpoint.Computes (read kind) (result kind))
    (takes : ∀ kind, Endpoint.OnlyTakes (read kind)) :
    Agree
      (match first.requestKind with
        | .error outcome => (outcome, first)
        | .ok (endpoint, kind) => first.readingFault (some endpoint) gained (read kind))
      (match second.requestKind with
        | .error outcome => (outcome, second)
        | .ok (endpoint, kind) => second.readingFault (some endpoint) gained (read kind)) := by
  rcases alike.requestKind with ⟨outcome, none, also⟩ | ⟨front, back, kind, due, also⟩
  · rw [none, also]
    exact ⟨rfl, alike⟩
  · rw [due, also]
    dsimp only
    rw [← reader_of_requestKind due, ← reader_of_requestKind also]
    exact alike.readingFault (computes kind) (takes kind)

/-- Raw bytes agree on the bare stream and behind a connection. -/
theorem Alike.rawRead {α : Type} {bare : Pipe → Outcome × Pipe} (outcome : Option α → Outcome)
    {read : Endpoint × Pipe → Option α × Endpoint × Pipe} {result : List UInt8 → α × List UInt8}
    (agree : ∀ {front back : Pipe}, Pipe.Alike front back →
      (bare front).1 = (bare back).1 ∧ Pipe.Alike (bare front).2 (bare back).2)
    (computes : Endpoint.Computes read result) (takes : Endpoint.OnlyTakes read) :
    Agree
      (if first.isRaw then
        ((bare first.incoming).1, { first with incoming := (bare first.incoming).2 })
        else match first.reader? with
          | none => (.impossible, first)
          | some endpoint =>
              (outcome (first.reading endpoint read).1, (first.reading endpoint read).2))
      (if second.isRaw then
        ((bare second.incoming).1, { second with incoming := (bare second.incoming).2 })
        else match second.reader? with
          | none => (.impossible, second)
          | some endpoint =>
              (outcome (second.reading endpoint read).1, (second.reading endpoint read).2)) := by
  rw [alike.isRaw]
  split
  · rename_i set
    have raw := isRaw_iff.mp (alike.isRaw.trans set)
    cases alike with
    | raw outgoing same =>
        obtain ⟨outcomes, later⟩ := agree same
        exact ⟨outcomes, .raw outgoing later⟩
    | whole => cases raw
    | halves => cases raw
    | gone => cases raw
  · rcases alike.reader with ⟨unable, also⟩ | ⟨front, back, reads, also⟩
    · rw [unable, also]
      exact ⟨rfl, alike⟩
    · obtain ⟨results, later⟩ := alike.reading computes takes reads also
      rw [reads, also]
      exact ⟨congrArg outcome results, later⟩

theorem Alike.writeRaw (bytes : List UInt8) :
    Agree (first.act (.writeRaw bytes)) (second.act (.writeRaw bytes)) := by
  rw [Post.act, Post.act, alike.isRaw]
  split
  · rename_i set
    have raw := isRaw_iff.mp (alike.isRaw.trans set)
    cases alike with
    | raw outgoing same => exact ⟨rfl, .raw _ same⟩
    | whole => cases raw
    | halves => cases raw
    | gone => cases raw
  · rcases alike.writer with ⟨unable, also⟩ | ⟨front, back, writes, also⟩
    · rw [unable, also]
      exact ⟨rfl, alike⟩
    · obtain ⟨results, later⟩ := alike.writing (Endpoint.write_onlySends bytes) writes also
      rw [writes, also]
      exact ⟨congrArg (Outcome.ofFailure fun _ => .nothing) results, later⟩

theorem Alike.dropHalf (keepReader keepWriter : Bool) :
    Agree (first.dropHalf keepReader keepWriter) (second.dropHalf keepReader keepWriter) := by
  cases alike with
  | raw outgoing same => exact ⟨rfl, .raw _ same⟩
  | whole outgoing same => exact ⟨rfl, .whole _ same⟩
  | halves reads writes outgoing same =>
      unfold Post.dropHalf
      dsimp only
      split
      · exact ⟨rfl, .halves _ _ _ same⟩
      · exact ⟨rfl, .gone ..⟩
  | gone => exact ⟨rfl, .gone ..⟩

theorem Alike.part : Agree (first.act .part) (second.act .part) := by
  cases alike with
  | raw outgoing same => exact ⟨rfl, .gone ..⟩
  | whole outgoing same => exact ⟨rfl, .halves _ _ _ same⟩
  | halves reads writes outgoing same => exact ⟨rfl, .gone ..⟩
  | gone => exact ⟨rfl, .gone ..⟩

theorem Alike.describe : Agree (first.act .describe) (second.act .describe) := by
  rw [Post.act, Post.act]
  rcases alike.whole? with ⟨unable, also⟩ | ⟨front, back, whole, also, same⟩
  · rw [unable, also]
    exact ⟨rfl, alike⟩
  · rw [whole, also, same]
    exact ⟨rfl, alike⟩

theorem Alike.act (act : Act) : Agree (first.act act) (second.act act) := by
  cases act with
  | dial service peer => exact alike.replacing fun raw _ => alike.dial raw service peer
  | accept peer => exact alike.replacing fun raw _ => alike.accept raw peer
  | wrap service peer =>
      exact alike.replacing fun raw _ => ⟨rfl, alike.turn raw service peer⟩
  | readField kind =>
      exact alike.readingFault (Endpoint.read_computes _) (Endpoint.read_reads _).onlyTakes
  | readVerdict => exact alike.readVerdict
  | writeField field => exact alike.emitting _
  | writeVerdict code => exact alike.emitting _
  | writeAcceptance => exact alike.emittingWhole _
  | writeRefusal reason => exact alike.emittingWhole _
  | writeReply parcel => exact alike.emittingWhole _
  | send parcel => exact alike.emitting _
  | receive kind =>
      exact alike.readingFault (Endpoint.readParcel_computes kind)
        (Endpoint.readParcel_reads kind).onlyTakes
  | receiveRequest => 
      exact alike.request Endpoint.readParcel_computes
        (fun kind => (Endpoint.readParcel_reads kind).onlyTakes)
  | receiveRequestHeader =>
      exact alike.request (fun kind => Endpoint.read_computes (Parcel.decode kind))
        (fun kind => (Endpoint.read_reads (Parcel.decode kind)).onlyTakes)
  | readExactly count =>
      exact alike.rawRead (.ofFailure .bytes) (rawExactly_alike count)
        (Endpoint.readExactly_computes count []) (Endpoint.readExactly_reads count).onlyTakes
  | readToEnd =>
      exact alike.rawRead (fun taken => .ofFailure .bytes (taken.map .ok)) rawToEnd_alike
        Endpoint.readToEnd_computes Endpoint.readToEnd_reads.onlyTakes
  | writeRaw bytes => exact alike.writeRaw bytes
  | flush =>
      rw [Post.act, Post.act, alike.isSome_writer]
      split <;> exact ⟨rfl, alike⟩
  | finish =>
      rw [Post.act, Post.act, alike.isRaw, alike.isSome_writer]
      split
      · exact ⟨rfl, alike.finish⟩
      · exact ⟨rfl, alike⟩
  | part => exact alike.part
  | dropReader => exact alike.dropHalf false true
  | dropWriter => exact alike.dropHalf true false
  | drop => exact ⟨rfl, alike.abandon⟩
  | describe => exact alike.describe

end Alike

/-! ## Sequences of operations -/

/-- The outcome of each operation, and the number of bytes received after it. The next operation
follows also when one has failed. -/
def observe (post : Post) : List Act → List (Outcome × Option Nat)
  | [] => []
  | act :: acts =>
      let result := post.act act
      (result.1, result.2.side.endpoint?.map Endpoint.received) :: result.2.observe acts

def after (post : Post) (acts : List Act) : Post :=
  acts.foldl (fun post act => (post.act act).2) post

theorem Alike.received {first second : Post} (alike : Alike first second) :
    first.side.endpoint?.map Endpoint.received = second.side.endpoint?.map Endpoint.received := by
  cases alike with
  | raw => rfl
  | whole outgoing same =>
      exact congrArg some same.received
  | halves reads writes outgoing same =>
      exact congrArg some same.received
  | gone => rfl

theorem Alike.observe {first second : Post} (alike : Alike first second) (acts : List Act) :
    first.observe acts = second.observe acts := by
  induction acts generalizing first second with
  | nil => rfl
  | cons act acts ih =>
      obtain ⟨outcomes, later⟩ := alike.act act
      rw [Post.observe, Post.observe, outcomes, later.received, ih later]

theorem Alike.after {first second : Post} (alike : Alike first second) (acts : List Act) :
    Alike (first.after acts) (second.after acts) := by
  induction acts generalizing first second with
  | nil => exact alike
  | cons act acts ih => exact ih (alike.act act).2

def receiving (pieces : Pieces) (capacity : Nat) (outgoing : Pipe) : Post :=
  ⟨.raw, ⟨capacity, pieces, true⟩, outgoing⟩

theorem receiving_alike {first second : Pieces} (same : first.flatten = second.flatten)
    (capacity : Nat) (outgoing : Pipe) :
    Alike (receiving first capacity outgoing) (receiving second capacity outgoing) :=
  .raw outgoing ⟨same, rfl, rfl⟩

/-- A connection has received the first bytes of a stream and has the others before it. -/
structure Follows (stream : List UInt8) (post : Post) : Prop where
  connected : post.side ≠ .raw
  rest : ∀ endpoint, post.side.endpoint? = some endpoint → ∃ count, count ≤ stream.length ∧
    endpoint.counters.received = .ofNat count ∧ post.stock = stream.drop count

theorem Follows.poll {stream : List UInt8} {post : Post} (follows : post.Follows stream)
    (poll : Poll) : (post.poll poll).2.Follows stream := by
  have passes := post.poll_passes poll
  refine ⟨mt passes.raw follows.connected, fun endpoint found => ?_⟩
  cases before : post.side.endpoint? with
  | none => exact absurd (passes.turned endpoint before found).1 follows.connected
  | some old =>
      obtain ⟨lost, stock, kept⟩ := passes.incoming
      obtain ⟨count, within, received, rest⟩ := follows.rest old before
      rw [rest, kept (raw_ne_endpoint found).2, List.append_nil] at stock
      have lengths := congrArg List.length stock
      rw [List.length_drop, List.length_append] at lengths
      refine ⟨count + (post.poll poll).1.taken.length, by omega, ?_, ?_⟩
      · rw [passes.counted old endpoint before found, UInt64.ofNat_add, ← received]
        rfl
      · rw [← List.drop_drop, stock, List.drop_left]

theorem Follows.leads {stream : List UInt8} {post later : Post} {raw : Bool} {traffic : Traffic}
    (follows : post.Follows stream) (leads : post.Leads raw traffic later) :
    later.Follows stream := by
  obtain ⟨polls, rfl, -⟩ := leads
  clear traffic raw
  induction polls generalizing post with
  | nil => exact follows
  | cons poll polls ih => exact ih (follows.poll poll)

theorem Follows.after {stream : List UInt8} {post : Post} (follows : post.Follows stream)
    (acts : List Act) : (post.after acts).Follows stream := by
  induction acts generalizing post with
  | nil => exact follows
  | cons act acts ih =>
      obtain ⟨traffic, leads, -⟩ := post.act_carries act
      exact ih (follows.leads leads)

/-- The handshake is where a connection begins to count. -/
theorem accept_follows (pieces : Pieces) (capacity : Nat) (outgoing : Pipe) (peer : String) :
    ((receiving pieces capacity outgoing).act (.accept peer)).2.Follows pieces.flatten := by
  have fresh : ({ receiving pieces capacity outgoing with
      side := .whole (.new .display peer) } : Post).Follows pieces.flatten :=
    ⟨Side.noConfusion, fun endpoint found => by cases found; exact ⟨0, Nat.zero_le _, rfl, rfl⟩⟩
  obtain ⟨taken, leads, -⟩ := turned_leads_accept (receiving pieces capacity outgoing) peer
  exact fresh.leads leads

/-- What a reading gives on a connection behind the end of whose stream nothing comes. -/
theorem reading_of_closed {α : Type} {post : Post} {endpoint : Endpoint}
    {read : Endpoint × Pipe → Option α × Endpoint × Pipe} {result : List UInt8 → α × List UInt8}
    (computes : Endpoint.Computes read result) (closed : post.incoming.closed = true)
    (reads : post.reader? = some endpoint) :
    (post.reading endpoint read).1 = some (result post.stock).1 := by
  rw [stock_of_endpoint (endpoint?_of_reader reads)]
  exact (computes (endpoint, post.incoming) closed).1

theorem Alike.closed {first second : Post} {endpoint : Endpoint} (alike : Alike first second)
    (reads : first.reader? = some endpoint) : first.incoming.closed = true := by
  cases alike with
  | raw => cases reads
  | whole outgoing same => exact same.closed.1
  | halves able writes outgoing same => exact same.closed.1
  | gone => cases reads

/-- The next reading of a connection begins with the first byte that was not counted as received,
be it a field, a message with its content or raw bytes. -/
structure Continues (post : Post) (rest : List UInt8) : Prop where
  field : ∀ kind, (post.act (.readField kind)).1 = .ofFault .field (some (kind.read.run rest).1)
  verdict : (post.act .readVerdict).1 =
    .ofFault (fun _ => .nothing) (some (Endpoint.verdict.run rest).1)
  parcel : ∀ kind, (post.act (.receive kind)).1 = .ofFault .parcel (some (Parcel.read kind rest).1)
  exactly : ∀ count, (post.act (.readExactly count)).1 =
    if count ≤ rest.length then .gain (.bytes (rest.take count)) else .failure Window.exhausted
  toEnd : (post.act .readToEnd).1 = .gain (.bytes rest)

theorem readVerdict_fst (post : Post) : post.readVerdict.1 =
    (post.readingFault post.reader? (fun _ => .nothing) (Endpoint.read Endpoint.verdict)).1 := by
  unfold readVerdict
  dsimp only
  split
  · rename_i outcome _
    exact outcome.symm
  · rfl

theorem not_isRaw_of_reader {post : Post} {endpoint : Endpoint}
    (reads : post.reader? = some endpoint) : ¬ post.isRaw = true :=
  fun raw => (raw_ne_endpoint (endpoint?_of_reader reads)).1 (isRaw_iff.mp raw)

theorem continues_of_reader {post : Post} {endpoint : Endpoint}
    (closed : post.incoming.closed = true) (reads : post.reader? = some endpoint) :
    post.Continues post.stock where
  field kind := by
    have result := reading_of_closed (Endpoint.read_computes kind.read) closed reads
    rw [act, reads]
    exact congrArg (Outcome.ofFault .field) result
  verdict := by
    have result := reading_of_closed (Endpoint.read_computes Endpoint.verdict) closed reads
    rw [act, readVerdict_fst, reads]
    exact congrArg (Outcome.ofFault fun _ => .nothing) result
  parcel kind := by
    have result := reading_of_closed (Endpoint.readParcel_computes kind) closed reads
    rw [act, reads]
    exact congrArg (Outcome.ofFault .parcel) result
  exactly count := by
    have result := reading_of_closed (Endpoint.readExactly_computes count []) closed reads
    rw [act, if_neg (not_isRaw_of_reader reads), reads]
    dsimp only at result ⊢
    rw [result]
    split <;> rfl
  toEnd := by
    have result := reading_of_closed Endpoint.readToEnd_computes closed reads
    rw [act, if_neg (not_isRaw_of_reader reads), reads]
    dsimp only at result ⊢
    rw [result]
    rfl

end Post

/-- On a stream that ends, operations of the receiving side have the same outcomes, faults included,
and count the same after each operation, however the stream was cut into pieces. On an accepted
connection the next reading goes on behind the bytes that were received, whatever was read before
and whatever of it failed; the counter wraps. -/
theorem observe_pieces {first second : Pieces} (same : first.flatten = second.flatten)
    (capacity : Nat) (outgoing : Pipe) (acts : List Act) :
    (Post.receiving first capacity outgoing).observe acts =
        (Post.receiving second capacity outgoing).observe acts ∧
      ∀ peer later endpoint,
        (Post.receiving first capacity outgoing).after (.accept peer :: acts) = later →
          later.reader? = some endpoint →
            ∃ count, count ≤ second.flatten.length ∧ endpoint.received = count % UInt64.size ∧
              later.Continues (second.flatten.drop count) := by
  have alike := Post.receiving_alike same capacity outgoing
  refine ⟨alike.observe acts, ?_⟩
  rintro peer _ endpoint rfl reads
  have follows := (Post.accept_follows first capacity outgoing peer).after acts
  obtain ⟨count, within, received, stock⟩ :=
    follows.rest endpoint (Post.endpoint?_of_reader reads)
  rw [← same]
  refine ⟨count, within, ?_, ?_⟩
  · rw [Endpoint.received, received, UInt64.toNat_ofNat']
  · rw [← stock]
    exact Post.continues_of_reader ((alike.after (.accept peer :: acts)).closed reads) reads

/-- A byte that arrived with the handshake is there for the next reading. -/
theorem observe_pieces_of_handshake :
    let cut : Pieces := [[5, 97], [], [10, 98]]
    let uncut : Pieces := [[5, 97, 10, 98]]
    (Post.receiving cut 4 (.empty 4)).observe [.accept "caller", .readField .line, .readToEnd] =
        (Post.receiving uncut 4 (.empty 4)).observe
          [.accept "caller", .readField .line, .readToEnd] ∧
      ((Post.receiving cut 4 (.empty 4)).after [.accept "caller"]).Continues [97, 10, 98] := by
  intro cut uncut
  have same : cut.flatten = uncut.flatten := rfl
  refine ⟨(observe_pieces same 4 (.empty 4) _).1, ?_⟩
  obtain ⟨count, within, received, continues⟩ :=
    (observe_pieces same 4 (.empty 4) []).2 "caller" _ ⟨.store, "caller", [97], ⟨0, 1⟩⟩ rfl rfl
  have four : uncut.flatten.length = 4 := rfl
  have one : Endpoint.received ⟨.store, "caller", [97], ⟨0, 1⟩⟩ = 1 := rfl
  rw [one, UInt64.size] at received
  obtain rfl : count = 1 := by omega
  exact continues

end DesktopGateway.Link
