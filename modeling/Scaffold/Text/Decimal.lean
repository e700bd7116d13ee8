/-!
# Decimal numbers

Natural numbers in decimal notation: how they are written, and how a run of digits is read.  Leading
zeros are read and never written, so reading undoes writing.
-/

namespace Scaffold
namespace Text

/-- The decimal notation of a number, without leading zeros. -/
def decimal (n : Nat) : String :=
  String.ofList (Nat.toDigits 10 n)

/-- The number that a list of digits denotes. -/
def digitsValue (cs : List Char) : Nat :=
  Nat.ofDigitChars 10 cs 0

/-- The number written by a nonempty run of digits. -/
def readDecimal? (cs : List Char) : Option Nat :=
  if !cs.isEmpty && cs.all Char.isDigit then some (digitsValue cs) else none

/-- Reading undoes writing. -/
theorem readDecimal?_decimal (n : Nat) :
    readDecimal? (decimal n).toList = some n := by
  have written : (decimal n).toList = Nat.toDigits 10 n := by simp [decimal]
  have nonempty : (Nat.toDigits 10 n).isEmpty = false := by
    simp [Nat.toDigits_ne_nil]
  have digits : (Nat.toDigits 10 n).all Char.isDigit = true :=
    List.all_eq_true.2 fun c member =>
      Nat.isDigit_of_mem_toDigits (by decide) (by decide) member
  have value : digitsValue (Nat.toDigits 10 n) = n :=
    Nat.ofDigitChars_toDigits (by decide) (by decide)
  rw [written]
  simp [readDecimal?, nonempty, digits, value]

end Text
end Scaffold
