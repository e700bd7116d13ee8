import Scaffold.Toml.Expression

/-!
# Documents

A document is a list of lines: headers that open a table, headers that open one more table of a
series, and assignments, which go into the table opened last.  Reading a document gives its root
table, or nothing when a line is malformed or defines something a second time.
-/

namespace Scaffold
namespace Toml

/-- A line of a document that says something. -/
inductive Line where
  | table (key : DottedKey)
  | series (key : DottedKey)
  | assign (key : DottedKey) (value : Value)

/-- Reads a line, its end included. -/
def line : Reader Line
  | '[' :: '[' :: cs =>
      match dottedKey cs with
      | some (key, ']' :: ']' :: rest) => (finishLine rest).map fun rest => (.series key, rest)
      | _ => none
  | '[' :: cs =>
      match dottedKey cs with
      | some (key, ']' :: rest) => (finishLine rest).map fun rest => (.table key, rest)
      | _ => none
  | cs =>
      match assignment skipSpaces value cs with
      | some ((key, value), rest) => (finishLine rest).map fun rest => (.assign key value, rest)
      | none => none

/-- Reads the next line, or the end of the document, given the lines so far. -/
def lineStep (lines : List Line) : Reader (List Line ⊕ List Line) := fun cs =>
  match skipGaps false cs with
  | [] => some (.inr lines, [])
  | cs => (line cs).map fun (next, rest) => (.inl (lines ++ [next]), rest)

/-- The lines of a document; a byte-order mark in front of them is skipped. -/
def lines? (cs : List Char) : Option (List Line) :=
  let cs :=
    match cs with
    | c :: rest => if c = Char.ofNat 0xFEFF then rest else cs
    | [] => []
  (loop lineStep [] cs).map Prod.fst

/-- The root table while a document is read, and the keys that lead to the table opened last. -/
structure Draft where
  root : Branch
  current : List String

namespace Draft

/-- The draft after one more line. -/
def add? (draft : Draft) : Line → Option Draft
  | .table key =>
      (Branch.openTable key .named draft.root).map fun root => ⟨root, key.way ++ [key.last]⟩
  | .series key =>
      (Branch.openSeries key .named draft.root).map fun root => ⟨root, key.way ++ [key.last]⟩
  | .assign key value =>
      (Branch.editAlong (Branch.addValue key value) .passed draft.current .named draft.root).map
        fun root => { draft with root := root }

end Draft

/-- The entries of the root table of a document. -/
def read? (text : String) : Option (List (String × Value)) :=
  match lines? text.toList with
  | none => none
  | some lines =>
      (lines.foldlM Draft.add? ⟨[], []⟩).map fun draft => Node.entryValues draft.root

end Toml
end Scaffold
