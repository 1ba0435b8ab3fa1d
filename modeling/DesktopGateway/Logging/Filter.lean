import DesktopGateway.Logging.Level
import DesktopGateway.Text.Blank
import DesktopGateway.Text.Parts

/-!
# Filters

A filter is a list of directives between commas. A directive lets the events of a target through up
to a threshold; the most specific one that covers a target decides.
-/

namespace DesktopGateway.Logging

open DesktopGateway.Text

/-- A directive without a target covers all of them. One for a span covers no event outside it. -/
structure Directive where
  target : Option String
  inSpan : Bool
  threshold : Threshold
  deriving DecidableEq, Repr

namespace Directive

/-- A threshold, or a target all of whose events are let through. -/
def ofWord (word : String) : Directive :=
  match Threshold.ofText? word with
  | some threshold => ⟨none, false, threshold⟩
  | none => ⟨some word, false, .upTo .trace⟩

def opens (char : Char) : Bool :=
  char = '-' || char = ':' || char = '_' || char.isAlphanum || 128 ≤ char.toNat

def thresholdOf? (text : List Char) : Option Threshold :=
  if text.isEmpty then some (.upTo .trace) else Threshold.ofText? (String.ofList text)

/-- What follows the bracket that closes a span. -/
def behindSpan? (target : Option String) : List Char → Option Directive
  | [] => some ⟨target, true, .upTo .trace⟩
  | '=' :: rest => (thresholdOf? rest).map fun threshold => ⟨target, true, threshold⟩
  | _ => none

def spanRest? (text : List Char) : Option (List Char) :=
  let isEnd (char : Char) : Bool := char = ']' || char = '\x7b'
  match text.dropWhile fun char => !isEnd char with
  | ']' :: rest => some rest
  | '\x7b' :: rest =>
      match rest.dropWhile (· ≠ '\x7d') with
      | '\x7d' :: ']' :: rest => some rest
      | _ => none
  | _ => none

def ofText? (text : String) : Option Directive :=
  let all := text.toList
  let trimmed := (Blank.trim text).toList
  match trimmed with
  | [] => none
  | '[' :: rest => (spanRest? rest).bind (behindSpan? none)
  | first :: _ =>
      if !opens first then none
      else
        let word := trimmed.takeWhile fun char => char ≠ '=' && char ≠ '['
        let target := String.ofList (all.take word.length)
        match trimmed.drop word.length with
        | [] => some (ofWord text)
        | '=' :: _ =>
            (thresholdOf? (all.drop (word.length + 1))).map fun threshold =>
              ⟨some target, false, threshold⟩
        | _ :: rest => (spanRest? rest).bind (behindSpan? (some target))

def covers (directive : Directive) (target : String) : Bool :=
  !directive.inSpan && directive.target.all fun wanted => wanted.toList.isPrefixOf target.toList

/-- How specific a directive is: any target goes before none, and long targets before short ones. -/
def rank (directive : Directive) : Nat :=
  match directive.target with
  | some target => target.utf8ByteSize + 1
  | none => 0

end Directive

structure Filter where
  directives : List Directive
  deriving DecidableEq, Repr

namespace Filter

def standard : Filter :=
  ⟨[⟨none, false, .upTo .error⟩]⟩

def ofText? (text : String) : Option Filter := do
  let parts := (Parts.of ',' text.toList).filter fun part => !part.isEmpty
  let directives ← parts.mapM fun part => Directive.ofText? (String.ofList part)
  return if directives.isEmpty then standard else ⟨directives⟩

/-- The directive that decides about a target: of those that cover it the most specific, and of
equally specific ones the last. -/
def deciding? (filter : Filter) (target : String) : Option Directive :=
  (filter.directives.filter fun directive => directive.covers target).foldl
    (fun best directive =>
      match best with
      | some other => if other.rank ≤ directive.rank then some directive else best
      | none => some directive)
    none

def allows (filter : Filter) (target : String) (level : Level) : Bool :=
  (filter.deciding? target).any fun directive => directive.threshold.allows level

/-- The first of the sources that is a filter, or else all events from `info` up. -/
def choose (environment : Option String) (setting : String) : Filter :=
  ((environment.bind ofText?).or (ofText? setting)).getD ⟨[⟨none, false, .upTo .info⟩]⟩

end Filter

inductive Format where
  | text
  | json
  deriving DecidableEq, Repr

namespace Format

/-- The environment goes before the settings; an unknown format stands for text. -/
def choose (environment : Option String) (setting : String) : Format :=
  if environment.getD setting = "json" then json else text

def name : Format → String
  | text => "text"
  | json => "json"

/-- The fields of an event in this format, if it has named ones. -/
def fields : Format → Option (List String)
  | text => none
  | json => some ["fields", "level", "target", "threadId", "timestamp"]

end Format

end DesktopGateway.Logging
