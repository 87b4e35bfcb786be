import NamedSql.Calendar.Date
import NamedSql.Calendar.Time

/-!
# `NamedSql.Calendar.Timestamp` — dates with times

## Contents
- `Timestamp`, `Timestamp.display`, `Timestamp.toMicroseconds`, `Date.atMidnight`.
-/

namespace NamedSql

/-- A time on a day. -/
structure Timestamp where
  date : Date
  time : Time
deriving DecidableEq

namespace Timestamp

/-- The date, a blank, the time. -/
def display (t : Timestamp) : String := t.date.display ++ " " ++ t.time.display

/-- The timestamp without what is finer than a microsecond. -/
def toMicroseconds (t : Timestamp) : Timestamp := { t with time := t.time.toMicroseconds }

end Timestamp

/-- The first moment of a day. -/
def Date.atMidnight (d : Date) : Timestamp := ⟨d, Time.midnight⟩

end NamedSql
