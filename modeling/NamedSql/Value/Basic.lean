import NamedSql.Calendar.Timestamp

/-!
# `NamedSql.Value.Basic` — typed values

What is bound to a slot of a statement and read from a column of a row.

## Contents
- `SqlType`, its name, and the Lean type of its values (`SqlType.Carrier`).
- `Value`, `Value.sqlType`, `Value.isNull`, and equality, which compares floating-point values as numbers.
- `Value.ofCarrier`, `Value.ofOption`: values from the carriers; what is absent becomes a typed null.
-/

namespace NamedSql

/-- The SQL types that a value, or an explicitly typed null, can have. -/
inductive SqlType where
  | varchar | smallInt | integer | bigInt | float | double | boolean | date | time | timestamp
deriving DecidableEq, Repr

namespace SqlType

/-- The name of a type in diagnostics. -/
def name : SqlType → String
  | varchar   => "VARCHAR"
  | smallInt  => "SMALLINT"
  | integer   => "INTEGER"
  | bigInt    => "BIGINT"
  | float     => "FLOAT"
  | double    => "DOUBLE"
  | boolean   => "BOOLEAN"
  | date      => "DATE"
  | time      => "TIME"
  | timestamp => "TIMESTAMP"

/-- The Lean type of the values of an SQL type. -/
def Carrier : SqlType → Type
  | varchar   => String
  | smallInt  => Int16
  | integer   => Int32
  | bigInt    => Int64
  | float     => Float32
  | double    => Float
  | boolean   => Bool
  | date      => Date
  | time      => Time
  | timestamp => Timestamp

end SqlType

/-- A parameter or a column value. A null has a type too. -/
inductive Value where
  | null (type : SqlType)
  | text (s : String)
  | smallInt (n : Int16)
  | int (n : Int32)
  | bigInt (n : Int64)
  | float (x : Float32)
  | double (x : Float)
  | bool (b : Bool)
  | date (d : Date)
  | time (t : Time)
  | timestamp (t : Timestamp)

namespace Value

/-- The SQL type of a value. -/
def sqlType : Value → SqlType
  | null type   => type
  | text _      => .varchar
  | smallInt _  => .smallInt
  | int _       => .integer
  | bigInt _    => .bigInt
  | float _     => .float
  | double _    => .double
  | bool _      => .boolean
  | date _      => .date
  | time _      => .time
  | timestamp _ => .timestamp

/-- Whether a value is a null, of whatever type. -/
def isNull : Value → Bool
  | null _ => true
  | _      => false

/-- Values are equal if they have the same shape and content. Floating-point contents compare as numbers:
    a NaN equals nothing, and the two zeros are equal. -/
protected def beq : Value → Value → Bool
  | null s,      null t      => s == t
  | text s,      text t      => s == t
  | smallInt m,  smallInt n  => m == n
  | int m,       int n       => m == n
  | bigInt m,    bigInt n    => m == n
  | float x,     float y     => x == y
  | double x,    double y    => x == y
  | bool a,      bool b      => a == b
  | date c,      date d      => c == d
  | time s,      time t      => s == t
  | timestamp s, timestamp t => s == t
  | _,           _           => false

instance : BEq Value := ⟨Value.beq⟩

/-- The value with a given content. -/
def ofCarrier : (type : SqlType) → type.Carrier → Value
  | .varchar,   s => text s
  | .smallInt,  n => smallInt n
  | .integer,   n => int n
  | .bigInt,    n => bigInt n
  | .float,     x => float x
  | .double,    x => double x
  | .boolean,   b => bool b
  | .date,      d => date d
  | .time,      t => time t
  | .timestamp, t => timestamp t

/-- The value of an optional content: what is absent is the null of the type. -/
def ofOption (type : SqlType) : Option type.Carrier → Value
  | some x => ofCarrier type x
  | none   => null type

end Value

end NamedSql
