import Scaffold.Text.Pieces

/-!
# Lines of code

A line holds its text and the depth it stands at; indentation is put in only when lines are written
out.  A text with line ends becomes one line for each piece, and an empty line takes no indentation,
so no written line ends in blanks of the writer's making.
-/

namespace Scaffold
namespace Code

open Text

/-- One step of indentation. -/
inductive Indent where
  | spaces (width : UInt8)
  | tab
  deriving DecidableEq

namespace Indent

/-- The indentation used when none is chosen. -/
def standard : Indent := spaces 2

/-- The characters of one step. -/
def step : Indent → List Char
  | spaces width => List.replicate width.toNat ' '
  | tab => ['\t']

/-- The characters of the indentation at a depth. -/
def atDepth
    (indent : Indent)
    (depth : Nat) : List Char :=
  (List.replicate depth indent.step).flatten

end Indent

/-- A line and the depth it stands at. -/
structure Line where
  text : String
  depth : Nat
  deriving DecidableEq

namespace Line

/-- The lines of a text at a depth, one for each piece between line ends. -/
def ofText
    (text : String)
    (depth : Nat) : List Line :=
  (lines text).map fun line => ⟨line, depth⟩

/-- The written form of a line. -/
def render
    (indent : Indent)
    (line : Line) : String :=
  if line.text = "" then "" else String.ofList (indent.atDepth line.depth) ++ line.text

end Line

/-- Lines in the order in which they were emitted. -/
structure LineBuffer where
  lines : List Line
  deriving DecidableEq

namespace LineBuffer

/-- The buffer without lines. -/
def empty : LineBuffer := ⟨[]⟩

/-- The buffer with the lines of a text at its end. -/
def append
    (buffer : LineBuffer)
    (text : String)
    (depth : Nat) : LineBuffer :=
  ⟨buffer.lines ++ Line.ofText text depth⟩

/-- The number of lines. -/
def length (buffer : LineBuffer) : Nat :=
  buffer.lines.length

/-- The buffer after all its lines are dropped. -/
def clear (_ : LineBuffer) : LineBuffer :=
  empty

/-- The written form of the lines. -/
def render
    (buffer : LineBuffer)
    (indent : Indent) : String :=
  String.intercalate "\n" (buffer.lines.map (Line.render indent))

end LineBuffer

end Code
end Scaffold
