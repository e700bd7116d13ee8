import Scaffold.Text.Pieces

/-!
# Paths

A path is a text whose parts are separated by slashes.  Joining, cutting and naming work on the
text alone and normalise nothing; where a path leads is a question for a file tree, which reads it
step by step.
-/

namespace Scaffold

open Text

/-- A path as it is written and printed. -/
structure Path where
  text : String
  deriving DecidableEq

namespace Path

/-- Whether a text can name a file or directory: it is one part of a path and leads downwards. -/
def isName (part : String) : Bool :=
  part ≠ "" && part ≠ "." && part ≠ ".." && !part.toList.contains '/'

/-- The name of a file or directory in the directory that holds it. -/
structure Name where
  text : String
  valid : isName text = true
  deriving DecidableEq

namespace Name

theorem text_injective : Function.Injective text := by
  rintro ⟨text, _⟩ ⟨_, _⟩ rfl
  rfl

/-- The name that a text is, if it is one. -/
def ofText? (text : String) : Option Name :=
  if valid : isName text = true then some ⟨text, valid⟩ else none

end Name

/-- One move along a path. -/
inductive Step where
  | stay
  | up
  | down (name : Name)
  deriving DecidableEq

namespace Step

/-- The move that one part of a path stands for. -/
def ofPart (part : String) : Step :=
  match Name.ofText? part with
  | some name => down name
  | none => if part = ".." then up else stay

end Step

/-- The path that leads nowhere from the working directory. -/
def empty : Path := ⟨""⟩

/-- Whether a path starts at the root. -/
def isAbsolute (p : Path) : Bool :=
  p.text.toList.head? == some '/'

/-- `relative` seen from `base`; an absolute path stands for itself. -/
def join
    (base relative : Path) : Path :=
  if relative.isAbsolute then relative
  else if base.text = "" ∨ base.text.toList.getLast? = some '/' then ⟨base.text ++ relative.text⟩
  else ⟨base.text ++ "/" ++ relative.text⟩

/-- The moves along a path, one for each part between slashes. -/
def steps (p : Path) : List Step :=
  (pieces '/' p.text).map Step.ofPart

/-- The moves along a path that lead somewhere: parts that are empty or a dot are left out. -/
def moves (p : Path) : List Step :=
  p.steps.filter (· ≠ .stay)

/-- The last part that is not empty and not a dot. -/
def lastStep? (p : Path) : Option Step :=
  p.moves.getLast?

/-- The name at the end of a path, unless the path ends by going up. -/
def fileName? (p : Path) : Option String :=
  match p.lastStep? with
  | some (.down name) => some name.text
  | _ => none

/-- Parts that lead nowhere. -/
def isIdlePart (part : String) : Bool :=
  part == "" || part == "."

/-- The parts without idle ones at the end. -/
def trimIdle (parts : List String) : List String :=
  (parts.reverse.dropWhile isIdlePart).reverse

/-- A path made of parts. -/
def ofParts (parts : List String) : Path :=
  ⟨String.intercalate "/" parts⟩

/-- The path without its last part that is not idle; neither the root nor the empty path has one. -/
def parent? (p : Path) : Option Path :=
  match pieces '/' p.text with
  | [] => none
  | head :: rest =>
      if p.isAbsolute then
        match trimIdle rest with
        | [] => none
        | part :: parts => some ⟨"/" ++ (ofParts (trimIdle (part :: parts).dropLast)).text⟩
      else if head = "." then
        match trimIdle rest with
        | [] => some empty
        | part :: parts => some (ofParts (head :: trimIdle (part :: parts).dropLast))
      else
        match trimIdle (head :: rest) with
        | [] => none
        | part :: parts => some (ofParts (trimIdle (part :: parts).dropLast))

/-- The path that follows some names from the working directory. -/
def ofNames (names : List Name) : Path :=
  ofParts (names.map Name.text)

/-- The path that follows some names from the end of another path. -/
def extend
    (p : Path)
    (names : List Name) : Path :=
  names.foldl (fun p name => p.join ⟨name.text⟩) p

/-- A path made of the nonempty parts of a dotted name. -/
def ofDotted (name : String) : Path :=
  ((pieces '.' name).filter (· ≠ "")).foldl (fun p part => p.join ⟨part⟩) empty

end Path

end Scaffold
