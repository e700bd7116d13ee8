import Scaffold.Toml.Branch
import Scaffold.Toml.Number
import Scaffold.Toml.Quoted

/-!
# Keys and values in the text

Readers for dotted keys and for everything that may stand behind an equals sign: quoted texts, bare
words, arrays and inline tables.  Values nest at most eighty deep, and a dotted key has at most
eighty parts.  Inside brackets and braces lines may end wherever blanks may stand between two signs.
-/

namespace Scaffold
namespace Toml

open Text

/-- The characters of a key without quotes. -/
def isBareKeyChar (c : Char) : Bool :=
  c.isAlphanum || c == '_' || c == '-'

/-- Reads one part of a dotted key. -/
def simpleKey : Reader String
  | '"' :: rest => (basicText rest).map fun (cs, rest) => (String.ofList cs, rest)
  | '\'' :: rest => (literalText rest).map fun (cs, rest) => (String.ofList cs, rest)
  | cs =>
      match cs.takeWhile isBareKeyChar with
      | [] => none
      | key => some (String.ofList key, cs.dropWhile isBareKeyChar)

/-- Reads a key behind the keys on its way. -/
def keyStep (way : List String) : Reader (List String ⊕ DottedKey) := fun cs =>
  match simpleKey cs with
  | none => none
  | some (key, rest) =>
      match skipSpaces rest with
      | '.' :: more => some (.inl (way ++ [key]), skipSpaces more)
      | _ => some (.inr ⟨way, key⟩, skipSpaces rest)

/-- How deep brackets may nest, and how many parts a key may have. -/
def depthLimit : Nat := 80

/-- Reads a key with dots and the blanks behind it. -/
def dottedKey : Reader DottedKey := fun cs =>
  match loop keyStep [] (skipSpaces cs) with
  | some (key, rest) => if key.way.length < depthLimit then some (key, rest) else none
  | none => none

/-- The characters of a value that is neither quoted nor bracketed: all but blanks, line ends and the
signs that end a value. -/
def isWordChar (c : Char) : Bool :=
  ['=', ',', '[', ']', '\x7b', '\x7d', '#', ' ', '\t', '\r', '\n'].all (· ≠ c)

/-- The value that a bare word stands for. -/
def wordValue? (word : List Char) : Option Value :=
  if word = "true".toList then some (.truth true)
  else if word = "false".toList then some (.truth false)
  else
    match Moment.read? word, integer? word with
    | some moment, _ => some (.moment moment)
    | none, some n => some (.integer n)
    | none, none => (real? word).map .real

/-- Takes a word; a date takes the time that follows it after one blank. -/
def bareWord (cs : List Char) : List Char × List Char :=
  let word := cs.takeWhile isWordChar
  let rest := cs.dropWhile isWordChar
  match rest with
  | ' ' :: digit :: more =>
      if (Date.read? word).isSome && digit.isDigit then
        (word ++ ' ' :: (digit :: more).takeWhile isWordChar,
          (digit :: more).dropWhile isWordChar)
      else (word, rest)
  | _ => (word, rest)

/-- Reads a bare word. -/
def wordValue : Reader Value := fun cs =>
  let (word, rest) := bareWord cs
  (wordValue? word).map fun value => (value, rest)

/-- Reads the next item of an array, or the end of the array, given the items so far. -/
def arrayStep
    (item : Reader Value)
    (items : List Value) : Reader (List Value ⊕ Value) := fun cs =>
  match skipGaps false cs with
  | ']' :: rest => some (.inr (.array items), rest)
  | cs =>
      match item cs with
      | none => none
      | some (value, rest) =>
          match skipGaps false rest with
          | ',' :: rest => some (.inl (items ++ [value]), rest)
          | ']' :: rest => some (.inr (.array (items ++ [value])), rest)
          | _ => none

/-- Reads a key, an equals sign and a value; `skip` passes over what may stand around the sign. -/
def assignment
    (skip : List Char → List Char)
    (item : Reader Value) : Reader (DottedKey × Value) := fun cs =>
  match dottedKey cs with
  | none => none
  | some (key, rest) =>
      match skip rest with
      | '=' :: rest =>
          match item (skip rest) with
          | some (value, rest) => some ((key, value), rest)
          | none => none
      | _ => none

/-- Reads the next entry of an inline table, or its end, given the entries so far. -/
def inlineTableStep
    (item : Reader Value)
    (branch : Branch) : Reader (Branch ⊕ Value) := fun cs =>
  match skipGaps false cs with
  | '}' :: rest => some (.inr (Node.table .named branch).value, rest)
  | cs =>
      match assignment (skipGaps false) item cs with
      | none => none
      | some ((key, value), rest) =>
          match Branch.addValue key value .named branch with
          | none => none
          | some branch =>
              match skipGaps false rest with
              | ',' :: rest => some (.inl branch, rest)
              | '}' :: rest => some (.inr (Node.table .named branch).value, rest)
              | _ => none

/-- Reads a value whose brackets nest at most `depth` deep. -/
def valueWithin : (depth : Nat) → Reader Value
  | _, '"' :: '"' :: '"' :: rest =>
      (longBasicText rest).map fun (cs, rest) => (.text (String.ofList cs), rest)
  | _, '"' :: rest => (basicText rest).map fun (cs, rest) => (.text (String.ofList cs), rest)
  | _, '\'' :: '\'' :: '\'' :: rest =>
      (longLiteralText rest).map fun (cs, rest) => (.text (String.ofList cs), rest)
  | _, '\'' :: rest => (literalText rest).map fun (cs, rest) => (.text (String.ofList cs), rest)
  | 0, '[' :: _ => none
  | depth + 1, '[' :: rest => loop (arrayStep (valueWithin depth)) [] rest
  | 0, '\x7b' :: _ => none
  | depth + 1, '\x7b' :: rest => loop (inlineTableStep (valueWithin depth)) [] rest
  | _, cs => wordValue cs

/-- Reads a value. -/
def value : Reader Value :=
  valueWithin depthLimit

end Toml
end Scaffold
