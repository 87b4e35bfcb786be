import NamedSql.Decimal.Digits

/-!
# `NamedSql.Calendar.Time` — times of day

## Contents
- `Time`, `Time.of?`, `Time.midnight`.
- `Time.display`: the clock, with the fewest of 0, 3, 6 or 9 decimals that are exact.
- `Time.toMicroseconds`: a time cut to whole microseconds.
-/

namespace NamedSql

/-- The nanoseconds of a second. -/
def nanosPerSecond : Nat := 1000000000

/-- A time of day. A second 59 may run on into a leap second: its nanoseconds then go beyond one second. -/
structure Time where
  hour   : Nat
  minute : Nat
  second : Nat
  nanos  : Nat
  clock_range : hour < 24 ∧ minute < 60 ∧ second < 60
  nanos_range : nanos < nanosPerSecond ∨ (second = 59 ∧ nanos < 2 * nanosPerSecond)
deriving DecidableEq

namespace Time

/-- The time with these parts, if there is one. -/
def of? (hour minute second nanos : Nat) : Option Time :=
  if hc : hour < 24 ∧ minute < 60 ∧ second < 60 then
    if hn : nanos < nanosPerSecond ∨ (second = 59 ∧ nanos < 2 * nanosPerSecond) then
      some ⟨hour, minute, second, nanos, hc, hn⟩
    else none
  else none

/-- The first moment of a day. -/
def midnight : Time := ⟨0, 0, 0, 0, by decide, by decide⟩

/-- A fraction of a second, by its nanoseconds: nothing, or a point and 3, 6 or 9 digits. -/
def displayFraction (nanos : Nat) : List Char :=
  if nanos = 0 then []
  else if nanos % 1000000 = 0 then '.' :: Decimal.padded 3 (nanos / 1000000)
  else if nanos % 1000 = 0 then '.' :: Decimal.padded 6 (nanos / 1000)
  else '.' :: Decimal.padded 9 nanos

/-- A time as hours, minutes and seconds; a leap second is second 60. -/
def display (t : Time) : String :=
  let leap := t.nanos / nanosPerSecond
  String.ofList (Decimal.padded 2 t.hour ++ ':' :: Decimal.padded 2 t.minute
    ++ ':' :: Decimal.padded 2 (t.second + leap) ++ displayFraction (t.nanos % nanosPerSecond))

/-- The time without what is finer than a microsecond. -/
def toMicroseconds (t : Time) : Time where
  hour   := t.hour
  minute := t.minute
  second := t.second
  nanos  := t.nanos / 1000 * 1000
  clock_range := t.clock_range
  nanos_range := by
    have h := t.nanos_range
    have := Nat.div_mul_le_self t.nanos 1000
    omega

end Time

end NamedSql
