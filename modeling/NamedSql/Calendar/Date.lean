import NamedSql.Decimal.Digits

/-!
# `NamedSql.Calendar.Date` — dates

Dates of the Gregorian calendar, carried on before its introduction and over a span of about a quarter of a
million years to either side.

## Contents
- `daysInMonth`, `Date`, `Date.of?`.
- `Date.display`: year, month and day; a year outside 0 to 9999 has a sign.
-/

namespace NamedSql

/-- Whether a year has 366 days. -/
def isLeapYear (year : Int) : Bool := year % 4 == 0 && (year % 100 != 0 || year % 400 == 0)

/-- The number of days of a month, zero for what is no month. -/
def daysInMonth (year : Int) (month : Nat) : Nat :=
  match month with
  | 1 | 3 | 5 | 7 | 8 | 10 | 12 => 31
  | 4 | 6 | 9 | 11 => 30
  | 2 => if isLeapYear year then 29 else 28
  | _ => 0

/-- The first year that has dates. -/
def firstYear : Int := -262143

/-- The last year that has dates. -/
def lastYear : Int := 262142

/-- A day of the calendar. -/
structure Date where
  year  : Int
  month : Nat
  day   : Nat
  year_range : firstYear ≤ year ∧ year ≤ lastYear
  day_range  : 1 ≤ day ∧ day ≤ daysInMonth year month
deriving DecidableEq

namespace Date

/-- The date of a year, month and day, if there is one. -/
def of? (year : Int) (month day : Nat) : Option Date :=
  if hy : firstYear ≤ year ∧ year ≤ lastYear then
    if hd : 1 ≤ day ∧ day ≤ daysInMonth year month then some ⟨year, month, day, hy, hd⟩ else none
  else none

/-- A year: four digits from 0 to 9999, otherwise a sign and at least four digits. -/
def displayYear (year : Int) : List Char :=
  if year < 0 then '-' :: Decimal.padded 4 year.natAbs
  else if year ≤ 9999 then Decimal.padded 4 year.natAbs
  else '+' :: Decimal.padded 4 year.natAbs

/-- A date as year, month and day. -/
def display (d : Date) : String :=
  String.ofList (displayYear d.year ++ '-' :: Decimal.padded 2 d.month ++ '-' :: Decimal.padded 2 d.day)

end Date

end NamedSql
