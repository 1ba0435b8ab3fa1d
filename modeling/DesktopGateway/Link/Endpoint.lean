import DesktopGateway.Link.Pipe
import DesktopGateway.Wire.Parcel

/-!
# Endpoints

One side of a connection: the service it was opened for, what it has read ahead, and the numbers
of bytes that it sent and received. A byte counts as received when a caller gets it, not when it is
read ahead; it counts as sent when the pipe takes it.
-/

namespace DesktopGateway.Link

open DesktopGateway.Host
open DesktopGateway.Wire

def readAhead : Nat := 8192

/-- How many bytes were sent and received, modulo 2^64. -/
structure Counters where
  sent : UInt64
  received : UInt64
  deriving DecidableEq, Repr

namespace Counters

def zero : Counters := ⟨0, 0⟩

def send (counters : Counters) (count : Nat) : Counters :=
  { counters with sent := counters.sent + .ofNat count }

def receive (counters : Counters) (count : Nat) : Counters :=
  { counters with received := counters.received + .ofNat count }

@[simp] theorem send_zero (counters : Counters) : counters.send 0 = counters := by
  simp [send]

@[simp] theorem receive_zero (counters : Counters) : counters.receive 0 = counters := by
  simp [receive]

@[simp] theorem sent_send (counters : Counters) (count : Nat) :
    (counters.send count).sent = counters.sent + .ofNat count := rfl

@[simp] theorem received_send (counters : Counters) (count : Nat) :
    (counters.send count).received = counters.received := rfl

@[simp] theorem sent_receive (counters : Counters) (count : Nat) :
    (counters.receive count).sent = counters.sent := rfl

@[simp] theorem received_receive (counters : Counters) (count : Nat) :
    (counters.receive count).received = counters.received + .ofNat count := rfl

theorem send_send (counters : Counters) (first second : Nat) :
    (counters.send first).send second = counters.send (first + second) := by
  simp only [send, UInt64.ofNat_add, UInt64.add_assoc]

theorem receive_receive (counters : Counters) (first second : Nat) :
    (counters.receive first).receive second = counters.receive (first + second) := by
  simp only [receive, UInt64.ofNat_add, UInt64.add_assoc]

end Counters

structure Endpoint where
  service : Service
  peer : String
  ahead : List UInt8
  counters : Counters
  deriving DecidableEq, Repr

namespace Endpoint

def new (service : Service) (peer : String) : Endpoint :=
  ⟨service, peer, [], .zero⟩

/-- The counters as they are shown. -/
def sent (endpoint : Endpoint) : Nat :=
  endpoint.counters.sent.toNat

def received (endpoint : Endpoint) : Nat :=
  endpoint.counters.received.toNat

def summary (endpoint : Endpoint) (quote : String → String) : String :=
  s!"Connection \x7b art: {endpoint.service.title}, peer: {quote endpoint.peer}, " ++
    s!"bytes_gesendet: {endpoint.sent}, bytes_empfangen: {endpoint.received} \x7d"

/-- Take one byte, reading ahead when nothing is left. -/
def pull : Endpoint × Pipe → Pulled × Endpoint × Pipe
  | (endpoint, pipe) =>
      match endpoint.ahead with
      | first :: rest =>
          (.byte first,
            { endpoint with ahead := rest, counters := endpoint.counters.receive 1 }, pipe)
      | [] =>
          match pipe.take readAhead with
          | (.bytes (first :: rest), pipe) =>
              (.byte first,
                { endpoint with ahead := rest, counters := endpoint.counters.receive 1 }, pipe)
          | (.bytes [], pipe) => (.waiting, endpoint, pipe)
          | (.ended, pipe) => (.ended, endpoint, pipe)
          | (.waiting, pipe) => (.waiting, endpoint, pipe)

/-- Take up to `room` bytes. With nothing read ahead, large room is filled from the pipe at once. -/
def take (room : Nat) : Endpoint × Pipe → Delivery × Endpoint × Pipe
  | (endpoint, pipe) =>
      let count (endpoint : Endpoint) (taken rest : List UInt8) : Endpoint :=
        { endpoint with ahead := rest, counters := endpoint.counters.receive taken.length }
      match endpoint.ahead with
      | [] =>
          match pipe.take (max room readAhead) with
          | (.bytes bytes, pipe) =>
              (.bytes (bytes.take room), count endpoint (bytes.take room) (bytes.drop room), pipe)
          | (.ended, pipe) => (.ended, endpoint, pipe)
          | (.waiting, pipe) => (.waiting, endpoint, pipe)
      | ahead =>
          (.bytes (ahead.take room), count endpoint (ahead.take room) (ahead.drop room), pipe)

def read {α : Type} (demand : Demand α) (source : Endpoint × Pipe) : Option α × Endpoint × Pipe :=
  demand.drive pull source

def readExactly : (missing : Nat) → (taken : List UInt8) → Endpoint × Pipe →
    Option (Except Failure (List UInt8)) × Endpoint × Pipe
  | 0, taken, source => (some (.ok taken), source)
  | missing + 1, taken, source =>
      match take (missing + 1) source with
      | (.bytes [], source) => (none, source)
      | (.bytes (first :: more), source) =>
          readExactly (missing - more.length) (taken ++ first :: more) source
      | (.ended, source) => (some (.error Window.exhausted), source)
      | (.waiting, source) => (none, source)
  termination_by missing => missing

def readToEnd : Endpoint × Pipe → Option (List UInt8) × Endpoint × Pipe
  | (endpoint, pipe) =>
      let taken := endpoint.ahead ++ pipe.held
      let after := { endpoint with ahead := [], counters := endpoint.counters.receive taken.length }
      (if pipe.closed then some taken else none, after, { pipe with pieces := [] })

/-- Room for content that is collected in memory: at least 32 bytes, and the memory doubles when it
is full. -/
def collectingRoom (held memory : Nat) : Nat × Nat :=
  let memory := if memory - held < 32 then max (2 * memory) (held + 32) else memory
  (memory - held, memory)

/-- Read the `missing` last bytes of content into memory that holds `taken`. -/
def readContent : (missing : Nat) → (taken : List UInt8) → (memory : Nat) → Endpoint × Pipe →
    Option (List UInt8) × Endpoint × Pipe
  | 0, taken, _, source => (some taken, source)
  | missing + 1, taken, memory, source =>
      let room := collectingRoom taken.length memory
      match take (min room.1 (missing + 1)) source with
      | (.bytes [], source) => (none, source)
      | (.bytes (first :: more), source) =>
          readContent (missing - more.length) (taken ++ first :: more) room.2 source
      | (.ended, source) => (some taken, source)
      | (.waiting, source) => (none, source)
  termination_by missing => missing

def collect (announced : Nat) (source : Endpoint × Pipe) :
    Option Parcel.Content × Endpoint × Pipe :=
  match readContent announced [] 0 source with
  | (some taken, source) => (some ⟨announced, taken, announced - taken.length⟩, source)
  | (none, source) => (none, source)

def readParcel (kind : Parcel.Kind) (source : Endpoint × Pipe) :
    Option (Except Fault (Parcel Parcel.Content)) × Endpoint × Pipe :=
  match read (Parcel.decode kind) source with
  | (none, source) => (none, source)
  | (some (.error fault), source) => (some (.error fault), source)
  | (some (.ok (.statRequest path)), source) => (some (.ok (.statRequest path)), source)
  | (some (.ok (.fetchRequest path)), source) => (some (.ok (.fetchRequest path)), source)
  | (some (.ok (.storeRequest name size _)), source) =>
      let content := collect size.toNatClampNeg source
      (content.1.map fun content => .ok (.storeRequest name size content), content.2)
  | (some (.ok (.fetchedFile name contentType size _)), source) =>
      let content := collect size.toNatClampNeg source
      (content.1.map fun content => .ok (.fetchedFile name contentType size content), content.2)

/-- Read the verdict of a reply; a refusal is followed by its reason. -/
def verdict : Demand (Except Fault Unit) :=
  Field.readByte.andThen fun code =>
    match Verdict.ofCode? code with
    | some .accepted => .done (.ok ())
    | some .refused => Field.readLine.andThen fun reason => .done (.error (.remote reason))
    | none => .done (.error (.unknownVerdict code))

def opening : Demand (Except Fault Service) :=
  Field.readByte.andThen fun code =>
    match Service.ofCode? code with
    | some service => .done (.ok service)
    | none => .done (.error (.unknownService code))

def write (bytes : List UInt8) : Endpoint × Pipe → Option (Except Failure Unit) × Endpoint × Pipe
  | (endpoint, pipe) =>
      let written := pipe.write bytes
      (written.1.outcome,
        { endpoint with counters := endpoint.counters.send written.1.accepted }, written.2)

/-- Write an emission; a stream that fails hides the emission's own fault. -/
def emit (emission : Parcel.Emission) (sink : Endpoint × Pipe) :
    Option (Except Fault Unit) × Endpoint × Pipe :=
  match write emission.bytes sink with
  | (none, sink) => (none, sink)
  | (some (.error failure), sink) => (some (.error (.stream failure)), sink)
  | (some (.ok ()), sink) =>
      (some (match emission.fault with | some fault => .error fault | none => .ok ()), sink)

/-- The reason of a refusal as one line. -/
def reasonLine (reason : String) : String :=
  reason.map fun char => if char = '\n' then ' ' else char

def refusal (reason : String) : Parcel.Emission :=
  match Field.write (.line (reasonLine reason)) with
  | .ok line => ⟨Verdict.refused.code :: line, none⟩
  | .error fault => ⟨[Verdict.refused.code], some fault⟩

def reply (parcel : Parcel (List UInt8)) : Parcel.Emission :=
  let emission := parcel.encode
  { emission with bytes := Verdict.accepted.code :: emission.bytes }

def acceptance : Parcel.Emission :=
  ⟨[Verdict.accepted.code], none⟩

end Endpoint

end DesktopGateway.Link
