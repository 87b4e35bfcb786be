import NamedSql.Error
import NamedSql.Text.Blank
import NamedSql.Text.Numeral

/-!
# `NamedSql.Value.Convert` — reading a value as another type

A value is read as one of the SQL types, or taken as it is. Nulls read as nothing. No conversion wraps or
cuts a number: one that does not fit is refused.

## Contents
- `Value.read`: the conversion to the values of an SQL type.
- `Target`: a type to read as, or none.
-/

namespace NamedSql

namespace Value

/-- The least and the greatest number of an integer type, and the numbers in between. -/
def inRange (low high n : Int) : Bool := low ≤ n && n ≤ high

/-- The whole number that a value stands for, if it stands for one of 64 bits. -/
def whole? : Value → Option Int
  | smallInt n => some n.toInt
  | int n      => some n.toInt
  | bigInt n   => some n.toInt
  | bool b     => some (if b then 1 else 0)
  | text s     => (Numeral.integer? (trim s.toList)).filter (inRange Int64.minValue.toInt Int64.maxValue.toInt)
  | _          => none

/-- Reads a value as a whole number between two limits. -/
def readWhole (target : SqlType) (low high : Int) : Value → Except Failure (Option Int)
  | null _ => .ok none
  | v      =>
    match v.whole? with
    | none   => .error (.mismatch v target)
    | some n => if inRange low high n then .ok (some n) else .error (.outOfRange n target)

/-- Reads a value as a 64-bit floating-point number. -/
def readDouble : Value → Except Failure (Option Float)
  | null _     => .ok none
  | smallInt n => .ok (some n.toFloat)
  | int n      => .ok (some n.toFloat)
  | bigInt n   => .ok (some n.toFloat)
  | float x    => .ok (some x.toFloat)
  | double x   => .ok (some x)
  | text s     =>
    match Numeral.double? (trim s.toList) with
    | some x => .ok (some x)
    | none   => .error (.mismatch (text s) .double)
  | v          => .error (.mismatch v .double)

/-- Reads a value as a truth value. -/
def readBool : Value → Except Failure (Option Bool)
  | null _     => .ok none
  | bool b     => .ok (some b)
  | smallInt n => .ok (some (n != 0))
  | int n      => .ok (some (n != 0))
  | bigInt n   => .ok (some (n != 0))
  | v          => .error (.mismatch v .boolean)

/-- Reads a value as the values of an SQL type; a null reads as nothing. -/
def read : (type : SqlType) → Value → Except Failure (Option type.Carrier)
  | .varchar, v =>
    match v with
    | null _ => .ok none
    | v      => .ok (some v.display)
  | .smallInt, v =>
    (readWhole .smallInt Int16.minValue.toInt Int16.maxValue.toInt v).map (·.map Int16.ofInt)
  | .integer, v =>
    (readWhole .integer Int32.minValue.toInt Int32.maxValue.toInt v).map (·.map Int32.ofInt)
  | .bigInt, v =>
    (readWhole .bigInt Int64.minValue.toInt Int64.maxValue.toInt v).map (·.map Int64.ofInt)
  | .float, v =>
    match v with
    | float x => .ok (some x)
    | v       => (readDouble v).map (·.map Float.toFloat32)
  | .double, v => readDouble v
  | .boolean, v => readBool v
  | .date, v =>
    match v with
    | null _      => .ok none
    | date d      => .ok (some d)
    | timestamp t => .ok (some t.date)
    | v           => .error (.mismatch v .date)
  | .time, v =>
    match v with
    | null _      => .ok none
    | time t      => .ok (some t)
    | timestamp t => .ok (some t.time)
    | v           => .error (.mismatch v .time)
  | .timestamp, v =>
    match v with
    | null _      => .ok none
    | timestamp t => .ok (some t)
    | date d      => .ok (some d.atMidnight)
    | v           => .error (.mismatch v .timestamp)

/-- A null reads as nothing, whatever is wanted of it. -/
theorem read_null (type s : SqlType) : read type (null s) = .ok none := by
  cases type <;> rfl

end Value

/-! ## Targets -/

/-- What a column is read as: a value of an SQL type, or the value as it is. -/
inductive Target where
  | typed (type : SqlType)
  | asIs
deriving DecidableEq, Repr

namespace Target

/-- The Lean type of what a target reads. -/
def Carrier : Target → Type
  | typed type => type.Carrier
  | asIs       => Value

/-- Reads a value; as it is, even a null is something. -/
def read : (t : Target) → Value → Except Failure (Option t.Carrier)
  | typed type, v => v.read type
  | asIs,       v => .ok (some v)

/-- The value with a given content. -/
def toValue : (t : Target) → t.Carrier → Value
  | typed type, x => Value.ofCarrier type x
  | asIs,       v => v

end Target

end NamedSql
