import Scaffold.Text.Decimal
import Scaffold.Text.Pieces
import Scaffold.Toml.Value

/-!
# Numbers of a document

Integers in four bases and real numbers.  Single underscores may stand between digits, a decimal
number has no leading zeros, and only decimal numbers have a sign.

Behind its first underscore a decimal integer may go on with anything that cannot belong to a real
number, and digits may be missing altogether behind the mark of another base.  Such an integer is
part of a document like any other and denotes no number.
-/

namespace Scaffold
namespace Toml

open Text

/-- The digits of a run in which single underscores stand between digits only. -/
def plainDigits?
    (isDigit : Char → Bool) : List Char → Option (List Char)
  | [] => none
  | [c] => if isDigit c then some [c] else none
  | c :: '_' :: d :: rest =>
      if isDigit c then (plainDigits? isDigit (d :: rest)).map (c :: ·) else none
  | c :: d :: rest =>
      if isDigit c then (plainDigits? isDigit (d :: rest)).map (c :: ·) else none

/-- Whether every underscore stands between two digits of some base. -/
def underscoresFit (cs : List Char) : Bool :=
  let isDigit := fun c : Char => (hexDigit? c).isSome
  let groups := cs.splitOn '_'
  groups.tail.all (fun group => group.head?.any isDigit) &&
    groups.dropLast.all (fun group => group.getLast?.any isDigit)

/-- Reads what stands behind the mark of a base. -/
def numeralInBase?
    (base : Nat)
    (cs : List Char) : Option Numeral :=
  let digits := cs.filter (· ≠ '_')
  if digits.all (Numeral.isDigitOf base) && underscoresFit cs then
    some { base := base, digits := digits }
  else none

/-- The marks of a real number behind its first digits. -/
def isRealMark (c : Char) : Bool :=
  c == '.' || c == 'e' || c == 'E'

/-- Whether a text goes on as a decimal integer may behind its first digits. -/
def continuesInteger : List Char → Bool
  | [] => true
  | c :: rest => c == '_' && !rest.any isRealMark

/-- Whether a text starts with a zero and does not end there. -/
def hasLeadingZero : List Char → Bool
  | '0' :: _ :: _ => true
  | _ => false

/-- Whether a number carries a minus sign, and the number behind its sign. -/
def splitSign : List Char → Bool × List Char
  | '-' :: rest => (true, rest)
  | '+' :: rest => (false, rest)
  | cs => (false, cs)

/-- Reads a decimal integer. -/
def decimalNumeral? (cs : List Char) : Option Numeral :=
  match splitSign cs with
  | (negative, cs) =>
      if (cs.head?.any Char.isDigit) && continuesInteger (cs.dropWhile Char.isDigit) &&
          !hasLeadingZero cs && underscoresFit cs then
        some { base := 10, negative := negative, digits := cs.filter (· ≠ '_') }
      else none

/-- Reads an integer. -/
def integer? : List Char → Option Numeral
  | '0' :: 'x' :: digits => numeralInBase? 16 digits
  | '0' :: 'o' :: digits => numeralInBase? 8 digits
  | '0' :: 'b' :: digits => numeralInBase? 2 digits
  | cs => decimalNumeral? cs

/-- Reads an exponent. -/
def exponent? (cs : List Char) : Option Int :=
  match splitSign cs with
  | (negative, digits) =>
      (plainDigits? Char.isDigit digits).map fun plain =>
        if negative then -(digitsValue plain : Int) else (digitsValue plain : Int)

/-- Reads the whole part of a real number. -/
def wholePart? (cs : List Char) : Option Nat :=
  match plainDigits? Char.isDigit cs with
  | some digits => if hasLeadingZero digits then none else some (digitsValue digits)
  | none => none

/-- Reads a mantissa: a whole number with or without a fraction. -/
def mantissa? (cs : List Char) : Option Real :=
  match cutAt? '.' cs with
  | none => (wholePart? cs).map fun n => .decimal n 0
  | some (front, back) =>
      match wholePart? front, plainDigits? Char.isDigit back with
      | some whole, some fraction =>
          some (.decimal (whole * Nat.pow 10 fraction.length + digitsValue fraction)
            (-(fraction.length : Int)))
      | _, _ => none

/-- Reads a number with a fraction or an exponent behind its sign. -/
def decimalReal? (cs : List Char) : Option Real :=
  let isMark := fun c : Char => c == 'e' || c == 'E'
  match cs.dropWhile (!isMark ·) with
  | [] => mantissa? cs
  | _ :: digits =>
      match mantissa? (cs.takeWhile (!isMark ·)), exponent? digits with
      | some (.decimal n shift), some exponent => some (.decimal n (shift + exponent))
      | _, _ => none

/-- Reads a real number. -/
def real? (cs : List Char) : Option Real :=
  match splitSign cs with
  | (_, ['i', 'n', 'f']) => some .infinity
  | (_, ['n', 'a', 'n']) => some .notANumber
  | (_, cs) => decimalReal? cs

end Toml
end Scaffold
