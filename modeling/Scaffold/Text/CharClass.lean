import Scaffold.Text.CaseTable

/-!
# Character classes

Blank, upper-case, lower-case, cased and case-ignorable characters of the whole character set, and
the smaller ASCII classes that identifiers are built from.

Every class answers for an ASCII character without reading a table, so statements about ASCII text
need none of the data.
-/

namespace Scaffold
namespace Text

/-- The blank characters: the white space of every script. -/
def isBlank (c : Char) : Bool :=
  let n := c.toNat
  (0x9 ≤ n && n ≤ 0xD) || n == 0x20 || n == 0x85 || n == 0xA0 || n == 0x1680 ||
    (0x2000 ≤ n && n ≤ 0x200A) || n == 0x2028 || n == 0x2029 || n == 0x202F || n == 0x205F ||
    n == 0x3000

/-- Whether a code point beyond ASCII lies on one of the runs. -/
def onRuns
    (runs : List CodeRun)
    (c : Char) : Bool :=
  0x80 ≤ c.toNat && runs.any (·.holds c.toNat)

/-- An upper-case letter of any script. -/
def isUppercase (c : Char) : Bool :=
  c.isUpper || onRuns upperRuns c

/-- A lower-case letter of any script. -/
def isLowercase (c : Char) : Bool :=
  c.isLower || onRuns lowerRuns c

/-- A letter that belongs to one of the cases. -/
def isCased (c : Char) : Bool :=
  c.isAlpha || onRuns casedRuns c

/-- A character that a search for a cased neighbour passes over. -/
def isCaseIgnorable (c : Char) : Bool :=
  ['\'', '.', ':', '^', Char.ofNat 0x60].contains c || onRuns ignorableRuns c

/-- The value of a hexadecimal digit. -/
def hexDigit? (c : Char) : Option Nat :=
  if '0' ≤ c ∧ c ≤ '9' then some (c.toNat - '0'.toNat)
  else if 'a' ≤ c ∧ c ≤ 'f' then some (c.toNat - 'a'.toNat + 10)
  else if 'A' ≤ c ∧ c ≤ 'F' then some (c.toNat - 'A'.toNat + 10)
  else none

/-- A letter or an underscore: what an identifier starts with. -/
def isIdentifierStart (c : Char) : Bool :=
  c.isAlpha || c == '_'

/-- A letter, a digit or an underscore: what an identifier goes on with. -/
def isIdentifierRest (c : Char) : Bool :=
  c.isAlphanum || c == '_'

end Text
end Scaffold
