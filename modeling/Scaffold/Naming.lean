import Scaffold.Text.Casing
import Scaffold.Text.Pieces

/-!
# Names in the three cases

A name is split into words, and the words are put together again in PascalCase, camelCase or
snake_case.  Words end at separators and before a capital that follows a small letter or a digit.
-/

namespace Scaffold
namespace Naming

open Text

/-- Characters that separate words and belong to none. -/
def isSeparator (c : Char) : Bool :=
  c == '_' || c == '-' || isBlank c

/-- Characters after which a capital starts a new word. -/
def endsHump (c : Char) : Bool :=
  isLowercase c || c.isDigit

/-- Whether two neighbouring characters stay in one word. -/
def together (a b : Char) : Bool :=
  !(endsHump a && isUppercase b)

/-- The words of a name, in order; none of them is empty. -/
def words (cs : List Char) : List (List Char) :=
  (cs.splitOnP isSeparator).flatMap (List.splitBy together)

/-- PascalCase: every word capitalized, nothing in between. -/
def pascalList (cs : List Char) : List Char :=
  (words cs).flatMap capitalize

/-- The name of a type: PascalCase. -/
def pascal (s : String) : String :=
  String.ofList (pascalList s.toList)

/-- The name of a variable or method: camelCase. -/
def camel (s : String) : String :=
  String.ofList (uncapitalize (pascalList s.toList))

/-- The words in lower case with underscores in between: snake_case. -/
def snake (s : String) : String :=
  String.ofList (['_'].intercalate ((words s.toList).map lowercase))

/-- What a dotted reference names: the part after its last dot. -/
def lastPart (reference : String) : String :=
  match cutAtLast? '.' reference.toList with
  | some (_, name) => String.ofList name
  | none => reference

/-- The class that an entity reference stands for. -/
def className (reference : String) : String :=
  pascal (lastPart reference)

end Naming
end Scaffold
