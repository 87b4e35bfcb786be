import NamedSql.MySql.Fault
import NamedSql.Value.Convert

/-!
# `NamedSql.MySql.Column` — columns of a MySQL result

The server names the type of every column, and any text may come. The name decides how a cell is asked for its value,
and what a null in the column is.

## Contents
- `Column`, and `sqlTypeOf`: the type of a null.
- `Form`: what a cell can be asked for. `Cell`: a cell with all its answers.
- `Cell.decode`: the value of a cell.
-/

namespace NamedSql.MySql

/-- A column of a result. -/
structure Column where
  label    : String
  typeName : String
deriving DecidableEq, Repr

/-! ## Nulls -/

/-- The SQL type of a null in a column, by the name of the column's type. It has a table of its own. -/
def sqlTypeOf (name : String) : SqlType :=
  match name with
  | "BOOLEAN"                => .boolean
  | "TINYINT" | "SMALLINT"   => .smallInt
  | "MEDIUMINT" | "INT"      => .integer
  | "BIGINT"                 => .bigInt
  | _                        =>
    if "UNSIGNED".toList.isSuffixOf name.toList then .bigInt
    else match name with
      | "FLOAT"                  => .float
      | "DOUBLE"                 => .double
      | "DATE"                   => .date
      | "TIME"                   => .time
      | "DATETIME" | "TIMESTAMP" => .timestamp
      | "YEAR"                   => .smallInt
      | "BIT"                    => .bigInt
      | _                        => .varchar

/-! ## Cells -/

/-- The forms in which the value of a cell can be asked for. -/
inductive Form where
  | bool | int64 | uint64 | float32 | float64 | date | time | timestamp | text
  /-- Sixteen bits without a sign, whatever the type of the column. -/
  | rawUInt16
  /-- A text, whatever the type of the column. -/
  | rawText
deriving DecidableEq, Repr

/-- The Lean type of the values of a form. -/
def Form.Carrier : Form → Type
  | bool           => Bool
  | int64          => Int64
  | uint64         => UInt64
  | float32        => Float32
  | float64        => Float
  | date           => Date
  | time           => Time
  | timestamp      => Timestamp
  | text | rawText => String
  | rawUInt16      => UInt16

/-- A cell of a row, as the client library hands it out. Which forms go with which types of columns, and what is said
    of those that do not, is the library's affair: a cell is whatever it answers. -/
structure Cell where
  column   : Column
  /-- Whether there is a null in the cell. -/
  isNull   : Except Report Bool
  /-- The value in a form, or why it cannot be had in this form. -/
  ask      : (f : Form) → Except Report f.Carrier
  /-- What is said of a number that has no place in the width that it is given. The words are not the driver's, and it
      passes them on as they are. -/
  overflow : Report

namespace Cell

/-- A whole number between two limits; any other is refused. -/
def within (c : Cell) (low high n : Int) : Except Report Int :=
  if Value.inRange low high n then .ok n else .error c.overflow

/-- A number as one of 16 bits. -/
def toInt16 (c : Cell) (n : Int) : Except Report Int16 :=
  (c.within Int16.minValue.toInt Int16.maxValue.toInt n).map Int16.ofInt

/-- A number as one of 32 bits. -/
def toInt32 (c : Cell) (n : Int) : Except Report Int32 :=
  (c.within Int32.minValue.toInt Int32.maxValue.toInt n).map Int32.ofInt

/-- A number as one of 64 bits. -/
def toInt64 (c : Cell) (n : Int) : Except Report Int64 :=
  (c.within Int64.minValue.toInt Int64.maxValue.toInt n).map Int64.ofInt

/-- The value of a cell that holds no null, by the name of the column's type. -/
def content (c : Cell) (name : String) : Except Report Value :=
  match name with
  | "BOOLEAN"                => do return .bool (← c.ask .bool)
  | "TINYINT" | "SMALLINT"   => do return .smallInt (← c.toInt16 (← c.ask .int64).toInt)
  | "MEDIUMINT" | "INT"      => do return .int (← c.toInt32 (← c.ask .int64).toInt)
  | "BIGINT"                 => do return .bigInt (← c.ask .int64)
  | _                        =>
    if "UNSIGNED".toList.isSuffixOf name.toList then do return .bigInt (← c.toInt64 (← c.ask .uint64).toNat)
    else match name with
      | "FLOAT"                  => do return .float (← c.ask .float32)
      | "DOUBLE"                 => do return .double (← c.ask .float64)
      | "DATE"                   => do return .date (← c.ask .date)
      | "TIME"                   => do return .time (← c.ask .time)
      | "DATETIME" | "TIMESTAMP" => do return .timestamp (← c.ask .timestamp)
      -- Sent as two bytes.
      | "YEAR"                   => do return .smallInt (← c.toInt16 (← c.ask .rawUInt16).toNat)
      | "BIT"                    => do return .bigInt (← c.toInt64 (← c.ask .uint64).toNat)
      -- Sent as its digits.
      | "DECIMAL"                => do return .text (← c.ask .rawText)
      | _                        => do return .text (← c.ask .text)

/-- The value of a cell. A null has the type that the table of nulls says. -/
def decode (c : Cell) : Except Report Value := do
  let name := c.column.typeName
  if ← c.isNull then return .null (sqlTypeOf name)
  else c.content name

end Cell

end NamedSql.MySql
