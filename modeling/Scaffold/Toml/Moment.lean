import Scaffold.Text.Decimal

/-!
# Moments

Dates, times of day and both together, with or without an offset.  A document must not hold a
moment that the calendar or the clock does not have.

A moment has one written form, which differs from the text it was read from where that text leaves
out the seconds, writes a `T` or `Z` differently, or counts parts of a second too finely.
-/

namespace Scaffold
namespace Toml

open Text

/-- A day of the calendar. -/
structure Date where
  year : Nat
  month : Nat
  day : Nat
  deriving DecidableEq

/-- A time of the day, to the nanosecond. -/
structure ClockTime where
  hour : Nat
  minute : Nat
  second : Nat := 0
  nanosecond : Nat := 0
  deriving DecidableEq

/-- The offset of a local time from universal time: none, or minutes ahead or behind. -/
inductive Offset where
  | universal
  | ahead (minutes : Nat)
  | behind (minutes : Nat)
  deriving DecidableEq

/-- A value that names a point in time or a part of one. -/
inductive Moment where
  | date (day : Date)
  | time (clock : ClockTime)
  | both (day : Date) (clock : ClockTime) (offset : Option Offset)
  deriving DecidableEq

/-- A number with leading zeros up to a width. -/
def padded
    (width n : Nat) : String :=
  let digits := Nat.toDigits 10 n
  String.ofList (List.replicate (width - digits.length) '0' ++ digits)

/-- The number written by exactly two digits. -/
def twoDigits? : List Char → Option Nat
  | [a, b] => readDecimal? [a, b]
  | _ => none

namespace Date

/-- Whether a year has a leap day. -/
def isLeapYear (year : Nat) : Bool :=
  year % 4 == 0 && (year % 100 != 0 || year % 400 == 0)

/-- The number of days of a month. -/
def daysInMonth (year month : Nat) : Nat :=
  if month = 2 then (if isLeapYear year then 29 else 28)
  else if [4, 6, 9, 11].contains month then 30
  else 31

/-- Whether the calendar has a day. -/
def isReal (d : Date) : Bool :=
  1 ≤ d.month && d.month ≤ 12 && 1 ≤ d.day && d.day ≤ daysInMonth d.year d.month

/-- Reads a date. -/
def read? : List Char → Option Date
  | [y₁, y₂, y₃, y₄, '-', m₁, m₂, '-', d₁, d₂] => do
      let year ← readDecimal? [y₁, y₂, y₃, y₄]
      let month ← twoDigits? [m₁, m₂]
      let day ← twoDigits? [d₁, d₂]
      if isReal ⟨year, month, day⟩ then some ⟨year, month, day⟩ else none
  | _ => none

/-- The written form of a date. -/
def render (d : Date) : String :=
  padded 4 d.year ++ "-" ++ padded 2 d.month ++ "-" ++ padded 2 d.day

end Date

namespace ClockTime

/-- Reads the seconds of a time; the clock has a leap second. -/
def second? (s₁ s₂ : Char) : Option Nat :=
  (twoDigits? [s₁, s₂]).filter (· ≤ 60)

/-- Reads a decimal fraction of a second; what is finer than a nanosecond is dropped. -/
def nanosecond? (fraction : List Char) : Option Nat :=
  (readDecimal? fraction).map fun _ =>
    digitsValue ((fraction ++ List.replicate 9 '0').take 9)

/-- Reads an hour and a minute. -/
def hourAndMinute? (h₁ h₂ m₁ m₂ : Char) : Option ClockTime := do
  let hour ← (twoDigits? [h₁, h₂]).filter (· ≤ 23)
  let minute ← (twoDigits? [m₁, m₂]).filter (· ≤ 59)
  return { hour := hour, minute := minute }

/-- Reads a time, with or without seconds. -/
def read? : List Char → Option ClockTime
  | [h₁, h₂, ':', m₁, m₂] => hourAndMinute? h₁ h₂ m₁ m₂
  | [h₁, h₂, ':', m₁, m₂, ':', s₁, s₂] => do
      let time ← hourAndMinute? h₁ h₂ m₁ m₂
      let second ← second? s₁ s₂
      return { time with second := second }
  | h₁ :: h₂ :: ':' :: m₁ :: m₂ :: ':' :: s₁ :: s₂ :: '.' :: fraction => do
      let time ← hourAndMinute? h₁ h₂ m₁ m₂
      let second ← second? s₁ s₂
      let nanosecond ← nanosecond? fraction
      return { time with second := second, nanosecond := nanosecond }
  | _ => none

/-- The written form of the part of a second: nine digits without the zeros at their end. -/
def renderFraction (nanosecond : Nat) : String :=
  if nanosecond = 0 then ""
  else
    "." ++ String.ofList
      ((padded 9 nanosecond).toList.reverse.dropWhile (· == '0')).reverse

/-- The written form of a time. -/
def render (t : ClockTime) : String :=
  padded 2 t.hour ++ ":" ++ padded 2 t.minute ++ ":" ++ padded 2 t.second ++
    renderFraction t.nanosecond

end ClockTime

namespace Offset

/-- Reads an offset. -/
def read? : List Char → Option Offset
  | ['Z'] => some universal
  | ['z'] => some universal
  | [sign, h₁, h₂, ':', m₁, m₂] => do
      let time ← ClockTime.hourAndMinute? h₁ h₂ m₁ m₂
      let minutes := time.hour * 60 + time.minute
      if sign = '+' then some (ahead minutes)
      else if sign = '-' then some (if minutes = 0 then ahead 0 else behind minutes)
      else none
  | _ => none

/-- Hours and minutes of an offset. -/
def renderMinutes (minutes : Nat) : String :=
  padded 2 (minutes / 60) ++ ":" ++ padded 2 (minutes % 60)

/-- The written form of an offset. -/
def render : Offset → String
  | universal => "Z"
  | ahead minutes => "+" ++ renderMinutes minutes
  | behind minutes => "-" ++ renderMinutes minutes

end Offset

namespace Moment

/-- The marks that may stand between a date and a time. -/
def isMark (c : Char) : Bool :=
  c == 'T' || c == 't' || c == ' '

/-- Reads the time and the offset behind a date. -/
def readBehind? (day : Date) : List Char → Option Moment
  | [] => some (date day)
  | mark :: cs => do
      let inClock := fun c : Char => c.isDigit || c == ':' || c == '.'
      let clock ← ClockTime.read? (cs.takeWhile inClock)
      if !isMark mark then none
      else
        match cs.dropWhile inClock with
        | [] => some (both day clock none)
        | rest => (Offset.read? rest).map fun offset => both day clock (some offset)

/-- Reads a moment. -/
def read? (cs : List Char) : Option Moment :=
  match ClockTime.read? cs with
  | some clock => some (time clock)
  | none => (Date.read? (cs.take 10)).bind fun day => readBehind? day (cs.drop 10)

/-- The written form of a moment. -/
def render : Moment → String
  | date day => day.render
  | time clock => clock.render
  | both day clock none => day.render ++ "T" ++ clock.render
  | both day clock (some offset) => day.render ++ "T" ++ clock.render ++ offset.render

end Moment

end Toml
end Scaffold
