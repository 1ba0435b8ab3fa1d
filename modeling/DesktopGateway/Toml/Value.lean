import DesktopGateway.Toml.Scalar
import DesktopGateway.Toml.Tree

/-!
# Values

Texts, scalars, lists and tables in braces, nested to a limited depth.
-/

namespace DesktopGateway.Toml.Value

open DesktopGateway.Settings

/-- Nothing is nested deeper than this, and no key has so many parts. -/
def depthLimit : Nat := 80

def items (item : Reader Datum) : (fuel : Nat) → (taken : List Datum) → Reader (List Datum)
  | 0, _, _ => none
  | fuel + 1, taken, input =>
      match skipSpace false input with
      | none => none
      | some (']' :: rest) => some (taken.reverse, rest)
      | some input =>
          match item input with
          | none => none
          | some (datum, rest) =>
              match skipSpace false rest with
              | some (',' :: rest) => items item fuel (datum :: taken) rest
              | some (']' :: rest) => some ((datum :: taken).reverse, rest)
              | _ => none

def pair (item : Reader Datum) : Reader (List String × Datum) := fun input =>
  match keyPath? (depthLimit - 1) input with
  | none => none
  | some (path, rest) =>
      match skipBlanks rest with
      | '=' :: rest => (item (skipBlanks rest)).map fun (datum, behind) => ((path, datum), behind)
      | _ => none

def pairs (item : Reader Datum) : (fuel : Nat) → Tree.Entries → Reader Tree.Entries
  | 0, _, _ => none
  | fuel + 1, entries, input =>
      match pair item input with
      | none => none
      | some ((path, datum), rest) =>
          match Tree.addPair .defined path datum entries with
          | none => none
          | some entries =>
              match skipBlanks rest with
              | ',' :: rest => pairs item fuel entries (skipBlanks rest)
              | '\x7d' :: rest => some (entries, rest)
              | _ => none

/-- Read a value that may contain others to the given depth. -/
def read? : (depth : Nat) → Reader Datum
  | 0, _ => none
  | depth + 1, input =>
      match input with
      | '[' :: rest =>
          if depth = 0 then none
          else (items (read? depth) (rest.length + 1) [] rest).map fun (items, behind) =>
            (.list items, behind)
      | '\x7b' :: rest =>
          if depth = 0 then none
          else
            match skipBlanks rest with
            | '\x7d' :: behind => some (.table [], behind)
            | inner =>
                (pairs (read? depth) (inner.length + 1) [] inner).map fun (entries, behind) =>
                  ((Tree.table .defined entries).toDatum, behind)
      | '"' :: _ => (Text.read? true input).map fun (text, behind) => (.text text, behind)
      | '\'' :: _ => (Text.read? true input).map fun (text, behind) => (.text text, behind)
      | _ => Scalar.read? input

end DesktopGateway.Toml.Value
