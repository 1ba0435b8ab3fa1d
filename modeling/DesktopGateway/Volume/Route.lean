import DesktopGateway.Text.Parts

/-!
# Routes

A route is the written form of a path, cut at its slashes. Empty parts do not count; a closing
slash counts as a step to the directory itself.
-/

namespace DesktopGateway.Volume

abbrev Name := List UInt8

/-- One step of a route. -/
inductive Segment where
  | here
  | up
  | name (name : Name)
  deriving DecidableEq, Repr

structure Route where
  absolute : Bool
  segments : List Segment
  deriving DecidableEq, Repr

namespace Route

def slash : UInt8 := 47

def dot : UInt8 := 46

def parts (bytes : List UInt8) : List (List UInt8) :=
  Text.Parts.of slash bytes

def segment? (part : List UInt8) : Option Segment :=
  if part.isEmpty then none
  else if part = [dot] then some .here
  else if part = [dot, dot] then some .up
  else some (.name part)

def ofBytes (bytes : List UInt8) : Route :=
  let segments := (parts bytes).filterMap segment?
  let closed := bytes.getLast? = some slash && !segments.isEmpty
  ⟨bytes.head? = some slash, if closed then segments ++ [.here] else segments⟩

/-- The name at the end of the route, when it ends in one. -/
def lastName? (route : Route) : Option Name :=
  match (route.segments.filter (· ≠ .here)).getLast? with
  | some (.name name) => some name
  | _ => none

end Route

end DesktopGateway.Volume
