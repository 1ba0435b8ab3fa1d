import DesktopGateway.Host.Failure
import DesktopGateway.Text.Utf8

/-!
# Faults of a dialogue

Why a field or a message could not be read or written.
-/

namespace DesktopGateway.Wire

open DesktopGateway.Host
open DesktopGateway.Text

/-- The longest text of a field, in bytes without its closing newline. -/
def longestLine : Nat := 65536

inductive Fault where
  | stream (failure : Failure)
  | remote (text : String)
  | unknownService (byte : UInt8)
  | unknownVerdict (byte : UInt8)
  | unfinishedLine
  | newlineInLine
  | lineTooLong
  | malformedText (flaw : Utf8.Flaw)
  | negativeSize (size : Int64)
  | shortContent (expected received : Nat)
  | noMessage (service : String)
  | unexpectedMessage (received expected : String)
  | secureChannel (text : String)
  deriving DecidableEq, Repr

namespace Fault

def message : Fault → String
  | stream failure => s!"IO-Fehler: {failure.message}"
  | remote text => text
  | unknownService byte => s!"Unbekannter Anfragetyp: {byte}"
  | unknownVerdict byte => s!"Unbekannter Status: {byte}"
  | unfinishedLine => "Verbindung wurde vor dem Zeilenende geschlossen"
  | newlineInLine => "Zeichenkette enthaelt einen Zeilenumbruch"
  | lineTooLong => s!"Zeichenkette ueberschreitet {longestLine} Bytes"
  | malformedText flaw => s!"Zeichenkette ist kein gueltiges UTF-8: {flaw.message}"
  | negativeSize size => s!"Ungueltige Groesse: {size}"
  | shortContent expected received => s!"Inhalt zu kurz: {received} von {expected} Bytes"
  | noMessage service => s!"Anfragetyp {service} traegt keine Nachricht"
  | unexpectedMessage received expected => s!"Unerwartete Nachricht: {received} statt {expected}"
  | secureChannel text => s!"TLS-Fehler: {text}"

def label : Fault → String
  | stream failure => s!"Io.{failure.kind.name}"
  | remote _ => "Remote"
  | unknownService _ => "UnbekannterAnfragetyp"
  | unknownVerdict _ => "UnbekannterStatus"
  | unfinishedLine => "UnvollstaendigeZeichenkette"
  | newlineInLine => "ZeilenumbruchImArgument"
  | lineTooLong => "ZeichenketteZuLang"
  | malformedText _ => "UngueltigesUtf8"
  | negativeSize _ => "UngueltigeGroesse"
  | shortContent _ _ => "UnvollstaendigerInhalt"
  | noMessage _ => "KeineNachricht"
  | unexpectedMessage _ _ => "UnerwarteteNachricht"
  | secureChannel _ => "Tls"

/-- The other side has gone. -/
def isBrokenPipe : Fault → Bool
  | stream failure => failure.isBrokenPipe
  | _ => false

def endOfStream : Fault :=
  stream (Failure.ofKind .unexpectedEnd)

end Fault

end DesktopGateway.Wire
