import Scaffold.Text.CharClass

/-!
# Change of case

Upper and lower case of a character, which may take several characters to spell, and the lower case
of a word, where a capital sigma at the end of the word becomes the final small sigma.
-/

namespace Scaffold
namespace Text

/-- The spelling of a character beyond ASCII in the other case, by the two tables of that case. -/
def respell
    (shifts : List CaseRun)
    (spellings : List (Nat × List Nat))
    (c : Char) : List Char :=
  match spellings.lookup c.toNat with
  | some codes => codes.map Char.ofNat
  | none =>
      match shifts.findSome? (·.counterpart? c.toNat) with
      | some code => [Char.ofNat code]
      | none => [c]

/-- The upper case of a character. -/
def upper (c : Char) : List Char :=
  if c.toNat < 0x80 then [c.toUpper] else respell upperShifts upperSpellings c

/-- The lower case of a character that stands alone. -/
def lower (c : Char) : List Char :=
  if c.toNat < 0x80 then [c.toLower] else respell lowerShifts lowerSpellings c

/-- Whether the nearest character that is not case-ignorable is cased. -/
def nextIsCased (cs : List Char) : Bool :=
  match cs.dropWhile isCaseIgnorable with
  | [] => false
  | c :: _ => isCased c

/-- The capital sigma, the one letter whose lower case depends on its place in the word. -/
def capitalSigma : Char := Char.ofNat 0x3A3

/-- The small sigma inside a word. -/
def smallSigma : Char := Char.ofNat 0x3C3

/-- The small sigma at the end of a word. -/
def finalSigma : Char := Char.ofNat 0x3C2

/-- The lower case of a text whose earlier characters, nearest first, are `before`. -/
def lowercaseAfter (before : List Char) : List Char → List Char
  | [] => []
  | c :: rest =>
      (if c = capitalSigma then
        [if nextIsCased before && !nextIsCased rest then finalSigma else smallSigma]
      else
        lower c) ++ lowercaseAfter (c :: before) rest

/-- The lower case of a text. -/
def lowercase (cs : List Char) : List Char :=
  lowercaseAfter [] cs

/-- The text with its first character in upper case. -/
def capitalize : List Char → List Char
  | [] => []
  | c :: rest => upper c ++ rest

/-- The text with its first character in lower case. -/
def uncapitalize : List Char → List Char
  | [] => []
  | c :: rest => lower c ++ rest

end Text
end Scaffold
