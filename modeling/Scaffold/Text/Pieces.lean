import Scaffold.Text.CharClass

/-!
# Cutting, trimming and searching text

Texts are cut at a separator or into lines, trimmed of blank characters, searched for a literal and
changed by replacing one.  Positions and lengths in diagnostics count bytes of the UTF-8 encoding.
-/

namespace Scaffold
namespace Text

/-- The number of bytes that a text takes. -/
def byteLength : List Char → Nat
  | [] => 0
  | c :: rest => c.utf8Size + byteLength rest

/-- The pieces between the separators, one more than there are separators. -/
def pieces
    (separator : Char)
    (s : String) : List String :=
  (s.toList.splitOn separator).map String.ofList

/-- A piece of text without the carriage return at its end. -/
def dropReturn (piece : String) : String :=
  if piece.toList.getLast? = some '\r' then String.ofList piece.toList.dropLast else piece

/-- The lines of a text: the pieces between line ends, a carriage return before one counted to it. -/
def lines (s : String) : List String :=
  (pieces '\n' s).map dropReturn

/-- The text without blank characters at its ends. -/
def trimList (cs : List Char) : List Char :=
  ((cs.dropWhile isBlank).reverse.dropWhile isBlank).reverse

/-- What stands before and after the first occurrence of a character. -/
def cutAt? (separator : Char) : List Char → Option (List Char × List Char)
  | [] => none
  | c :: rest =>
      if c = separator then some ([], rest)
      else (cutAt? separator rest).map fun (front, back) => (c :: front, back)

/-- What stands before and after the last occurrence of a character. -/
def cutAtLast? (separator : Char) : List Char → Option (List Char × List Char)
  | [] => none
  | c :: rest =>
      match cutAtLast? separator rest with
      | some (front, back) => some (c :: front, back)
      | none => if c = separator then some ([], rest) else none

/-- The byte position of the first occurrence of a literal. -/
def offset? (literal : List Char) : List Char → Option Nat
  | [] => if literal.isEmpty then some 0 else none
  | c :: rest =>
      if literal.isPrefixOf (c :: rest) then some 0
      else (offset? literal rest).map (c.utf8Size + ·)

/-- The text with every occurrence of a nonempty literal replaced, from the left and without overlap. -/
def replaceAll
    (literal value : List Char) : (skip : Nat) → List Char → List Char
  | _, [] => []
  | skip + 1, _ :: rest => replaceAll literal value skip rest
  | 0, c :: rest =>
      if literal.isPrefixOf (c :: rest) then
        value ++ replaceAll literal value (literal.length - 1) rest
      else
        c :: replaceAll literal value 0 rest

/-- The text with every occurrence of a nonempty literal replaced, from the left and without overlap. -/
def replace
    (literal value s : String) : String :=
  String.ofList (replaceAll literal.toList value.toList 0 s.toList)

end Text
end Scaffold
