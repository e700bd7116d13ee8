import Scaffold.Entries
import Scaffold.Toml.Value

/-!
# Tables under construction

While a document is read, its tables are open: headers and dotted keys add to them.  A branch holds
the entries of an open table in the order in which their keys appeared, and every node remembers how
it came about, which decides what may still be added.

* A table that a header names is complete when the next header comes, but headers below it may follow.
* A table that a header only passes through may be named by one later header, and stands where that
  header puts it.
* A table that a dotted key passes through takes further dotted keys and no header.
* Everything written as one value is closed.
-/

namespace Scaffold
namespace Toml

/-- How a table came about. -/
inductive Origin where
  | named
  | passed
  | dotted
  deriving DecidableEq

/-- What stands under a key while the document is read. -/
inductive Node where
  | closed (value : Value)
  | table (origin : Origin) (entries : List (String × Node))
  | series (tables : List (List (String × Node)))

/-- The entries of an open table. -/
abbrev Branch := List (String × Node)

namespace Node

mutual

/-- The value of a node when the document is complete. -/
def value : Node → Value
  | closed value => value
  | table _ entries => .table (entryValues entries)
  | series tables => .array (tableValues tables)

/-- The values of the entries of a table. -/
def entryValues : List (String × Node) → List (String × Value)
  | [] => []
  | (key, node) :: rest => (key, node.value) :: entryValues rest

/-- The values of the tables of a series. -/
def tableValues : List (List (String × Node)) → List Value
  | [] => []
  | entries :: rest => .table (entryValues entries) :: tableValues rest

end

end Node

namespace Branch

/-- An operation on the open table at the end of a path, which is told how that table came about. -/
abbrev Edit := Origin → Branch → Option Branch

/-- Edits the table that a path of keys leads to, and creates the tables on the way. -/
def editAlong
    (edit : Edit) : Origin → List String → Edit
  | _, [], origin, branch => edit origin branch
  | fresh, key :: path, _, branch =>
      match branch.lookup key with
      | none =>
          match editAlong edit fresh path fresh [] with
          | some inner => some (Entries.put key (.table fresh inner) branch)
          | none => none
      | some (.closed _) => none
      | some (.table origin inner) =>
          if fresh = .dotted ∧ origin = .named then none
          else
            match editAlong edit fresh path origin inner with
            | some inner => some (Entries.put key (.table origin inner) branch)
            | none => none
      | some (.series tables) =>
          match tables.getLast? with
          | none => none
          | some last =>
              match editAlong edit fresh path .named last with
              | some inner => some (Entries.put key (.series (tables.dropLast ++ [inner])) branch)
              | none => none

end Branch

/-- A key with dots: the keys on the way and the key at the end. -/
structure DottedKey where
  way : List String
  last : String

namespace Branch

/-- Adds a closed value under a key of a table. -/
def addValue
    (key : DottedKey)
    (value : Value) : Edit :=
  editAlong
    (fun origin branch =>
      if key.way ≠ [] ∧ origin ≠ .dotted then none
      else
        match branch.lookup key.last with
        | some _ => none
        | none => some (Entries.put key.last (.closed value) branch))
    .dotted key.way

/-- Opens the table that a header names; one that headers only passed through moves to the end. -/
def openTable (key : DottedKey) : Edit :=
  editAlong
    (fun _ branch =>
      match branch.lookup key.last with
      | none => some (Entries.put key.last (.table .named []) branch)
      | some (.table .passed inner) => some (Entries.putLast key.last (.table .named inner) branch)
      | some _ => none)
    .passed key.way

/-- Opens one more table of the series that a header names. -/
def openSeries (key : DottedKey) : Edit :=
  editAlong
    (fun _ branch =>
      match branch.lookup key.last with
      | none => some (Entries.put key.last (.series [[]]) branch)
      | some (.series tables) => some (Entries.put key.last (.series (tables ++ [[]])) branch)
      | some _ => none)
    .passed key.way

end Branch

end Toml
end Scaffold
