import DesktopGateway.Settings.Datum

/-!
# Trees of tables

How headers and keys build up tables. A table has one place where it is defined: by its header, by
keys with points, or in braces. Tables that a header only passes through may be defined later.
-/

namespace DesktopGateway.Toml

open DesktopGateway.Settings

/-- How a table came about. -/
inductive Origin where
  | passed
  | pointed
  | defined
  deriving DecidableEq, Repr

inductive Tree where
  | value (datum : Datum)
  | table (origin : Origin) (entries : List (String × Tree))
  | tables (items : List (List (String × Tree)))

namespace Tree

abbrev Entries := List (String × Tree)

def replace (entries : Entries) (key : String) (tree : Tree) : Entries :=
  if (entries.lookup key).isSome then
    entries.map fun entry => if entry.1 = key then (key, tree) else entry
  else entries ++ [(key, tree)]

def changeLast (change : Entries → Option Entries) : List Entries → Option (List Entries)
  | [] => none
  | [last] => (change last).map fun changed => [changed]
  | first :: rest => (changeLast change rest).map (first :: ·)

def addPair (owner : Origin) (path : List String) (datum : Datum) (entries : Entries) :
    Option Entries :=
  match path with
  | [] => none
  | [key] =>
      if owner = .passed || (entries.lookup key).isSome then none
      else some (entries ++ [(key, .value datum)])
  | key :: path =>
      match entries.lookup key with
      | none =>
          (addPair .pointed path datum []).map fun inner =>
            entries ++ [(key, .table .pointed inner)]
      | some (.value _) => none
      | some (.table .defined _) => none
      | some (.table origin inner) =>
          (addPair origin path datum inner).map fun inner =>
            replace entries key (.table origin inner)
      | some (.tables items) =>
          (changeLast (addPair .passed path datum) items).map fun items =>
            replace entries key (.tables items)

/-- Go down to the table of a header and change it. -/
def within (change : Entries → Option Entries) : (path : List String) → Entries → Option Entries
  | [], entries => change entries
  | key :: path, entries =>
      match entries.lookup key with
      | none => none
      | some (.value _) => none
      | some (.table origin inner) =>
          (within change path inner).map fun inner => replace entries key (.table origin inner)
      | some (.tables items) =>
          (changeLast (within change path) items).map fun items =>
            replace entries key (.tables items)

/-- Pass through the tables of a header to its last key. -/
def passing (change : String → Entries → Option Entries) :
    (path : List String) → Entries → Option Entries
  | [], _ => none
  | [key], entries => change key entries
  | key :: path, entries =>
      match entries.lookup key with
      | none =>
          (passing change path []).map fun inner => entries ++ [(key, .table .passed inner)]
      | some (.value _) => none
      | some (.table origin inner) =>
          (passing change path inner).map fun inner => replace entries key (.table origin inner)
      | some (.tables items) =>
          (changeLast (passing change path) items).map fun items =>
            replace entries key (.tables items)

/-- The table of a header begins. -/
def openTable (key : String) (entries : Entries) : Option Entries :=
  match entries.lookup key with
  | none => some (entries ++ [(key, .table .defined [])])
  | some (.table .passed inner) => some (replace entries key (.table .defined inner))
  | some _ => none

/-- One more table of a list of tables begins. -/
def openItem (key : String) (entries : Entries) : Option Entries :=
  match entries.lookup key with
  | none => some (entries ++ [(key, .tables [[]])])
  | some (.tables items) => some (replace entries key (.tables (items ++ [[]])))
  | some _ => none

mutual

def toDatum : Tree → Datum
  | value datum => datum
  | table _ entries => .table (toData entries)
  | tables items => .list (toTables items)

def toData : List (String × Tree) → List (String × Datum)
  | [] => []
  | (key, tree) :: rest => (key, toDatum tree) :: toData rest

def toTables : List (List (String × Tree)) → List Datum
  | [] => []
  | entries :: rest => .table (toData entries) :: toTables rest

end

end Tree

end DesktopGateway.Toml
