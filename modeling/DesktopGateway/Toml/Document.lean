import DesktopGateway.Toml.Value

/-!
# Settings files

A file is a sequence of headers and pairs. Each pair belongs to the table of the last header.
-/

namespace DesktopGateway.Toml.Document

open DesktopGateway.Settings

inductive Statement where
  | pair (path : List String) (datum : Datum)
  | header (path : List String)
  | item (path : List String)

def headerPath? (closing : List Char) : Reader (List String) := fun input =>
  match keyPath? (Value.depthLimit - 1) (skipBlanks input) with
  | none => none
  | some (path, rest) =>
      let rest := skipBlanks rest
      if closing.isPrefixOf rest then some (path, rest.drop closing.length) else none

def statement? (input : List Char) : Option (Statement × List Char) := do
  let (statement, rest) ← match input with
    | '[' :: '[' :: rest => (headerPath? [']', ']'] rest).map fun (path, rest) =>
        (Statement.item path, rest)
    | '[' :: rest => (headerPath? [']'] rest).map fun (path, rest) => (Statement.header path, rest)
    | _ => (Value.pair (Value.read? Value.depthLimit) input).map fun ((path, datum), rest) =>
        (Statement.pair path datum, rest)
  let rest ← lineEnd? rest
  return (statement, rest)

def statements? : (fuel : Nat) → List Char → Option (List Statement)
  | 0, _ => none
  | fuel + 1, input =>
      match skipSpace false input with
      | none => none
      | some [] => some []
      | some input =>
          match statement? input with
          | none => none
          | some (statement, rest) => (statements? fuel rest).map (statement :: ·)

/-- Build up the tables, in the table of the header `current`. -/
def assemble (current : List String) (entries : Tree.Entries) :
    List Statement → Option Tree.Entries
  | [] => some entries
  | .pair path datum :: rest =>
      match Tree.within (Tree.addPair .defined path datum) current entries with
      | some entries => assemble current entries rest
      | none => none
  | .header path :: rest =>
      match Tree.passing Tree.openTable path entries with
      | some entries => assemble path entries rest
      | none => none
  | .item path :: rest =>
      match Tree.passing Tree.openItem path entries with
      | some entries => assemble path entries rest
      | none => none

/-- The entries of a settings file, or nothing when it is not well formed. -/
def entries? (text : String) : Option (List (String × Datum)) := do
  let chars := match text.toList with
    | '\uFEFF' :: rest => rest
    | chars => chars
  let statements ← statements? (chars.length + 1) chars
  let entries ← assemble [] [] statements
  return Tree.toData entries

end DesktopGateway.Toml.Document
