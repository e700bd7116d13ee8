import Scaffold.Text.Pieces

/-!
# Readers

A reader takes something from the front of a text and hands back the rest, or refuses the text.
`scan` takes a quoted or otherwise bracketed run of characters by a machine that looks at one
character at a time, and `loop` repeats a reader that takes at least one character each time.

Below them stand the parts of a document that mean nothing: blanks, line ends and comments.
-/

namespace Scaffold
namespace Toml

/-- Takes a value from the front of a text and leaves the rest. -/
abbrev Reader (α : Type) := List Char → Option (α × List Char)

section Machines

variable {σ : Type}

/-- What a machine does at a character. -/
inductive Move (σ : Type) where
  | take (output : List Char) (next : σ)
  | close (output : List Char)
  | stopBefore (output : List Char)

/-- Runs a machine from a state to its end; `atEnd` says what is left to write when the text ends. -/
def scan
    (move : σ → Char → Option (Move σ))
    (atEnd : σ → Option (List Char)) :
    σ → Reader (List Char)
  | state, [] => (atEnd state).map fun output => (output, [])
  | state, c :: rest =>
      match move state c with
      | none => none
      | some (.close output) => some (output, rest)
      | some (.stopBefore output) => some (output, c :: rest)
      | some (.take output next) =>
          match scan move atEnd next rest with
          | none => none
          | some (more, rest) => some (output ++ more, rest)

end Machines

section Loops

variable {σ β : Type}

/-- Repeats a step until it has a result; a step that goes on without taking a character is refused. -/
def loop
    (step : σ → Reader (σ ⊕ β))
    (state : σ)
    (cs : List Char) : Option (β × List Char) :=
  match step state cs with
  | none => none
  | some (.inr result, rest) => some (result, rest)
  | some (.inl next, rest) =>
      if rest.length < cs.length then loop step next rest else none
termination_by cs.length

end Loops

/-- A blank inside a line. -/
def isSpace (c : Char) : Bool :=
  c == ' ' || c == '\t'

/-- The characters that a document may hold outside line ends: no controls but the tab. -/
def isPrintable (c : Char) : Bool :=
  c == '\t' || (0x20 ≤ c.toNat && c.toNat ≠ 0x7F)

/-- The text behind the blanks at its front. -/
def skipSpaces (cs : List Char) : List Char :=
  cs.dropWhile isSpace

/-- The text behind a comment at its front, if there is one. -/
def skipComment : List Char → List Char
  | '#' :: rest => rest.dropWhile isPrintable
  | cs => cs

/-- The text behind the line end at its front. -/
def lineEnd? : List Char → Option (List Char)
  | '\n' :: rest => some rest
  | '\r' :: '\n' :: rest => some rest
  | _ => none

/-- The text behind all blanks, line ends and comments at its front. -/
def skipGaps : (inComment : Bool) → List Char → List Char
  | _, [] => []
  | _, '\n' :: rest => skipGaps false rest
  | _, '\r' :: '\n' :: rest => skipGaps false rest
  | true, c :: rest => if isPrintable c then skipGaps true rest else c :: rest
  | false, c :: rest =>
      if isSpace c then skipGaps false rest
      else if c == '#' then skipGaps true rest
      else c :: rest

/-- The text behind the end of a line that holds nothing more than a comment. -/
def finishLine (cs : List Char) : Option (List Char) :=
  match skipComment (skipSpaces cs) with
  | [] => some []
  | rest => lineEnd? rest

end Toml
end Scaffold
