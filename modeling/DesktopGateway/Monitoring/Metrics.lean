import DesktopGateway.Monitoring.Series
import DesktopGateway.Text.Shortest

/-!
# Metrics

What the gateway counts for each kind of connection: connections, those that are open, bytes sent
and received, and failed handshakes for all kinds together. Counters go round at their end.
-/

namespace DesktopGateway.Monitoring

open DesktopGateway.Text

structure Metrics where
  opened : Series UInt64
  active : Series Int
  sent : Series UInt64
  received : Series UInt64
  failedHandshakes : UInt64
  deriving DecidableEq, Repr

structure Counters where
  opened : UInt64
  active : Int
  sent : UInt64
  received : UInt64
  failedHandshakes : UInt64
  deriving DecidableEq, Repr

namespace Metrics

def new : Metrics :=
  ⟨.empty, .empty, .empty, .empty, 0⟩

def connectionOpened (metrics : Metrics) (kind : String) : Metrics :=
  { metrics with
    opened := metrics.opened.modify kind 0 (· + 1)
    active := metrics.active.modify kind 0 (· + 1) }

def connectionClosed (metrics : Metrics) (kind : String) (sent received : UInt64) : Metrics :=
  { metrics with
    active := metrics.active.modify kind 0 (· - 1)
    sent := metrics.sent.modify kind 0 (· + sent)
    received := metrics.received.modify kind 0 (· + received) }

def handshakeFailed (metrics : Metrics) : Metrics :=
  { metrics with failedHandshakes := metrics.failedHandshakes + 1 }

def ask (metrics : Metrics) (kind : String) : Counters × Metrics :=
  let metrics := { metrics with
    opened := metrics.opened.modify kind 0 id
    active := metrics.active.modify kind 0 id
    sent := metrics.sent.modify kind 0 id
    received := metrics.received.modify kind 0 id }
  (⟨(metrics.opened.find? kind).getD 0, (metrics.active.find? kind).getD 0,
    (metrics.sent.find? kind).getD 0, (metrics.received.find? kind).getD 0,
    metrics.failedHandshakes⟩, metrics)

/-- How many connections of all kinds are open. -/
def activeTotal (metrics : Metrics) : Int :=
  metrics.active.values.foldr (· + ·) 0

/-- A label inside quotes. -/
def escape (char : Char) : List Char :=
  if char = '\\' then ['\\', '\\']
  else if char = '\n' then ['\\', 'n']
  else if char = '"' then ['\\', '"']
  else [char]

def sample (name label : String) (value : Int) : String :=
  let quoted := String.ofList (label.toList.flatMap escape)
  name ++ "\x7bart=\"" ++ quoted ++ "\"\x7d " ++ Shortest.text value ++ "\n"

def heading (name help type : String) : String :=
  s!"# HELP {name} {help}\n# TYPE {name} {type}\n"

/-- All samples of a family; one without samples is left out. -/
def family (name help type : String) (samples : List (String × Int)) : String :=
  if samples.isEmpty then ""
  else heading name help type ++
    String.join (samples.map fun entry => sample name entry.1 entry.2)

def counts (series : Series UInt64) : List (String × Int) :=
  series.entries.map fun entry => (entry.1, (entry.2.toNat : Int))

def failuresName : String := "deskproxy_handshake_fehler_total"

/-- The text that is read by those who collect the metrics, in the order of the names. -/
def exposition (metrics : Metrics) : String :=
  family "deskproxy_aktive_verbindungen" "Anzahl aktuell laufender Verbindungen" "gauge"
      metrics.active.entries ++
    family "deskproxy_bytes_empfangen_total" "Von Clients empfangene Bytes" "counter"
      (counts metrics.received) ++
    family "deskproxy_bytes_gesendet_total" "An Clients gesendete Bytes" "counter"
      (counts metrics.sent) ++
    heading failuresName "Fehlgeschlagene TLS- oder Protokoll-Handshakes" "counter" ++
    s!"{failuresName} {Shortest.text metrics.failedHandshakes.toNat}\n" ++
    family "deskproxy_verbindungen_total" "Gesamtanzahl angenommener Verbindungen" "counter"
      (counts metrics.opened)

end Metrics

end DesktopGateway.Monitoring
