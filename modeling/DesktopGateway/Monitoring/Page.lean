import DesktopGateway.Monitoring.Metrics
import DesktopGateway.Text.Document

/-!
# The monitoring page

The state of the gateway for those who watch it: its metrics as text, and its health as a document.
-/

namespace DesktopGateway.Monitoring

open DesktopGateway.Text

def version : String := "0.1.0"

structure Health where
  ready : Bool
  active : Int
  deriving DecidableEq, Repr

namespace Health

def status (health : Health) : String :=
  if health.ready then "healthy" else "unhealthy"

/-- The health of a gateway that has run for some seconds. -/
def document (health : Health) (seconds : Nat) : Document :=
  .record [("status", .text health.status), ("version", .text version),
    ("uptime_seconds", .number seconds), ("aktive_verbindungen", .number health.active)]

end Health

structure Watched where
  metrics : Metrics
  ready : Bool
  deriving DecidableEq, Repr

namespace Watched

def new : Watched :=
  ⟨.new, true⟩

def health (watched : Watched) : Health :=
  ⟨watched.ready, watched.metrics.activeTotal⟩

end Watched

structure Response where
  status : Nat
  contentType : Option String
  body : String
  deriving DecidableEq, Repr

namespace Response

def notFound : Response :=
  ⟨404, none, ""⟩

def wrongMethod : Response :=
  ⟨405, none, ""⟩

/-- The answer to a request. A query behind the path does not matter, and one who asks for the head
alone gets no body. -/
def answer (watched : Watched) (seconds : Nat) (method path : String) : Response :=
  let page := String.ofList (path.toList.takeWhile (· ≠ '?'))
  let found? :=
    if page = "/metrics" then
      some ⟨200, some "text/plain; version=0.0.4", watched.metrics.exposition⟩
    else if page = "/health" then
      some ⟨if watched.ready then 200 else 503, some "application/json",
        (watched.health.document seconds).compact⟩
    else none
  match found? with
  | none => notFound
  | some response =>
      if method = "GET" then response
      else if method = "HEAD" then { response with body := "" }
      else wrongMethod

end Response

end DesktopGateway.Monitoring
