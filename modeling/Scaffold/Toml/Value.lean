import Scaffold.Text.CharClass
import Scaffold.Toml.Moment

/-!
# Values of a TOML document

A document is a table; its values are texts, numbers, truth values, moments, arrays and tables.
Tables keep their keys in an order that the document gives them.

Numbers are kept as they were written, since a document may hold more than a machine number does,
and even integers with characters that are no digits of their base; whether there is a number and
whether it fits is asked where one is wanted.
-/

namespace Scaffold
namespace Toml

open Text

/-- An integer as it is written, without underscores: its base, its sign and what stands for digits. -/
structure Numeral where
  base : Nat
  negative : Bool := false
  digits : List Char
  deriving DecidableEq

namespace Numeral

/-- Whether a character is a digit of a base. -/
def isDigitOf
    (base : Nat)
    (c : Char) : Bool :=
  (hexDigit? c).any (· < base)

/-- The number that digits of a base denote. -/
def valueInBase
    (base : Nat)
    (digits : List Char) : Nat :=
  digits.foldl (fun n c => n * base + (hexDigit? c).getD 0) 0

/-- The number that is written, if all of its digits are digits. -/
def value? (n : Numeral) : Option Int :=
  if n.digits ≠ [] ∧ n.digits.all (isDigitOf n.base) then
    let magnitude : Int := valueInBase n.base n.digits
    some (if n.negative then -magnitude else magnitude)
  else none

/-- Whether the widest machine numbers hold the number that is written. -/
def isRepresentable (n : Numeral) : Bool :=
  n.value?.any fun number => -(Int.pow 2 127) ≤ number && number < Int.pow 2 128

end Numeral

/-- A number with a fraction or an exponent, or one of the two special numbers. -/
inductive Real where
  | infinity
  | notANumber
  | decimal (digits : Nat) (exponent : Int)
  deriving DecidableEq

/-- A value of a document. -/
inductive Value where
  | text (content : String)
  | integer (numeral : Numeral)
  | real (number : Real)
  | truth (holds : Bool)
  | moment (moment : Moment)
  | array (items : List Value)
  | table (entries : List (String × Value))

namespace Real

/-- The number of decimal digits of a number, one for zero. -/
def width (n : Nat) : Nat :=
  (Nat.toDigits 10 n).length

/-- The least magnitude that rounds beyond all finite double-precision numbers. -/
def overflowAt : Nat := Nat.pow 2 1024 - Nat.pow 2 970

/-- Whether a real number has a double-precision counterpart. -/
def isRepresentable : Real → Bool
  | infinity => true
  | notANumber => true
  | decimal 0 _ => true
  | decimal digits exponent =>
      let scale := (width digits : Int) + exponent
      if scale < 300 then true
      else if scale > 400 then false
      else if exponent < 0 then digits < overflowAt * Nat.pow 10 exponent.natAbs
      else digits * Nat.pow 10 exponent.natAbs < overflowAt

end Real

namespace Value

mutual

/-- Whether machine numbers hold every number inside a value. -/
def isRepresentable : Value → Bool
  | text _ => true
  | integer numeral => numeral.isRepresentable
  | real number => number.isRepresentable
  | truth _ => true
  | moment _ => true
  | array items => allRepresentable items
  | table entries => allEntriesRepresentable entries

/-- Whether machine numbers hold every number inside some values. -/
def allRepresentable : List Value → Bool
  | [] => true
  | item :: rest => item.isRepresentable && allRepresentable rest

/-- Whether machine numbers hold every number inside the values of some entries. -/
def allEntriesRepresentable : List (String × Value) → Bool
  | [] => true
  | (_, value) :: rest => value.isRepresentable && allEntriesRepresentable rest

end

/-- The key under which a moment that is read as a table stands. -/
def momentKey : String := "$moment"

/-- The entries of a table; a moment counts as a table that holds its written form alone. -/
def entries? : Value → Option (List (String × Value))
  | table entries => some entries
  | moment m => some [(momentKey, text m.render)]
  | _ => none

end Value

end Toml
end Scaffold
