import NamedSql.MySql.Server
import NamedSql.Text.Utf8

/-!
# `NamedSql.Rehearsal.Wire` — what a scripted MySQL server sends and is sent

A scripted server holds its cells in the form in which they are sent. This module says what a client library makes of
them: in which forms a cell can be had and what is said of the others, which of them are nulls, and which parameters
can be sent. The driver is not bound to any of this, and neither is what is proved of it.

## Contents
- `Kind`, `Kind.ofName`: the types of columns that are read alike. `Kind.Content`: what their cells hold.
- `WireDate`, `WireClock`, `WireSpan`, and how they are read; `Unreadable` for what cannot be read.
- `Field`, and `Field.cell`: the cell that it is for the driver. `Reply`, and `Reply.response`.
- `sendable`: the parameters as they are sent.
-/

namespace NamedSql.MySql

/-! ## Types -/

/-- The types of columns, as far as they are read differently. -/
inductive Kind where
  | boolean | tinyInt | smallInt | mediumInt | int | bigInt | unsigned | bit | year
  | float | double | date | dateTime | timestamp | time
  /-- Characters, and numbers that are sent as their digits. -/
  | text
  /-- The column of a null that has no type. -/
  | null
  /-- Everything else. -/
  | other
deriving DecidableEq, Repr

namespace Kind

/-- The types whose cells are texts. -/
def textTypes : List String :=
  ["CHAR", "VARCHAR", "TINYTEXT", "TEXT", "MEDIUMTEXT", "LONGTEXT", "ENUM", "DECIMAL"]

/-- The kind of the type with a name. -/
def ofName (name : String) : Kind :=
  match name with
  | "BOOLEAN"   => boolean
  | "TINYINT"   => tinyInt
  | "SMALLINT"  => smallInt
  | "MEDIUMINT" => mediumInt
  | "INT"       => int
  | "BIGINT"    => bigInt
  | "FLOAT"     => float
  | "DOUBLE"    => double
  | "DATE"      => date
  | "TIME"      => time
  | "DATETIME"  => dateTime
  | "TIMESTAMP" => timestamp
  | "YEAR"      => year
  | "BIT"       => bit
  | "NULL"      => null
  | _           =>
    if "UNSIGNED".toList.isSuffixOf name.toList then unsigned
    else if textTypes.contains name then text
    else other

end Kind

/-- The kind of a column. -/
def Column.kind (c : Column) : Kind := Kind.ofName c.typeName

/-! ## Contents of cells -/

/-- A date as it is sent. -/
structure WireDate where
  year  : Nat
  month : Nat
  day   : Nat

/-- A time on a clock as it is sent. -/
structure WireClock where
  hour   : Nat
  minute : Nat
  second : Nat
  micros : Nat

/-- A span of time as it is sent. -/
structure WireSpan where
  negative : Bool
  days     : Nat
  clock    : WireClock

/-- What a cell holds that is not null. A date, or a date with a time, may be sent as nothing, which is the
    date with all parts zero; a time that is sent as nothing is midnight. -/
def Kind.Content : Kind → Type
  | boolean | tinyInt       => Int8
  | smallInt                => Int16
  | mediumInt | int         => Int32
  | bigInt                  => Int64
  | unsigned | bit          => UInt64
  | year                    => UInt16
  | float                   => Float32
  | double                  => Float
  | date                    => Option WireDate
  | dateTime | timestamp    => Option (WireDate × Option WireClock)
  | time                    => Option WireSpan
  | text | other            => List UInt8
  | null                    => Empty

/-! ## Reading them -/

/-- Why a cell cannot be read. -/
inductive Unreadable where
  /-- The column has the type `column`, and not one that reads as `wanted`, which is `type` in SQL. -/
  | incompatible (wanted type column : String)
  /-- There is no such day. -/
  | noDay (year month day : Nat)
  /-- A clock never shows that. -/
  | noClock (hour minute second micros : Nat)
  /-- A part of a time is beyond its limit. -/
  | partTooLarge (part : String) (limit found : Nat)
  /-- A span of time that is no time of a day. -/
  | noTimeOfDay (negative : Bool) (hours minutes seconds : Nat)
  /-- The bytes are no text. -/
  | noText (defect : Utf8.Defect)
  /-- There is a null. -/
  | null
deriving DecidableEq, Repr

/-- Two digits. -/
def twoDigits (n : Nat) : String := String.ofList (Decimal.padded 2 n)

/-- How it reads that a cell cannot be read. -/
def Unreadable.message : Unreadable → String
  | .incompatible wanted type column =>
    "mismatched types; Rust type `" ++ wanted ++ "` (as SQL type `" ++ type
      ++ "`) is not compatible with SQL type `" ++ column ++ "`"
  | .noDay year month day =>
    "server returned invalid date: " ++ toString year ++ "/" ++ toString month ++ "/" ++ toString day
  | .noClock hour minute second micros =>
    "server returned invalid time: " ++ twoDigits hour ++ ":" ++ twoDigits minute ++ ":" ++ twoDigits second
      ++ "; micros: " ++ toString micros
  | .partTooLarge part limit found =>
    "`MySqlTime` field `" ++ part ++ "` cannot exceed " ++ toString limit ++ ", got " ++ toString found
  | .noTimeOfDay negative hours minutes seconds =>
    "Cannot convert `MySqlTime` value to `NaiveTime`: " ++ (if negative then "-" else "") ++ toString hours
      ++ ":" ++ twoDigits minutes ++ ":" ++ twoDigits seconds
  | .noText defect => defect.message
  | .null => "unexpected null; try decoding as an `Option`"

/-- Reads a date. -/
def WireDate.read (d : WireDate) : Except Unreadable Date :=
  match Date.of? d.year d.month d.day with
  | some date => .ok date
  | none      => .error (.noDay d.year d.month d.day)

/-- Reads a time on a clock; a second 59 may run on into a leap second. -/
def WireClock.read (c : WireClock) : Except Unreadable Time :=
  match Time.of? c.hour c.minute c.second (c.micros * 1000) with
  | some time => .ok time
  | none      => .error (.noClock c.hour c.minute c.second c.micros)

/-- Reads a date with a time; without one it is midnight. -/
def readDateTime (d : WireDate) (c : Option WireClock) : Except Unreadable Timestamp := do
  let date ← d.read
  let time ← match c with
    | some c => c.read
    | none   => .ok Time.midnight
  return ⟨date, time⟩

/-- The hours of a span. -/
def WireSpan.hours (s : WireSpan) : Nat := s.days * 24 + s.clock.hour

/-- The first part of a span that is beyond its limit. -/
def WireSpan.excess? (s : WireSpan) : Option Unreadable :=
  let parts := [("hours", 838, s.hours), ("minutes", 59, s.clock.minute), ("seconds", 59, s.clock.second),
    ("microseconds", 999999, s.clock.micros)]
  (parts.find? fun (_, limit, found) => limit < found).map fun (part, limit, found) =>
    .partTooLarge part limit found

/-- Reads a span as a time of a day. Its sign does not count. -/
def WireSpan.read (s : WireSpan) : Except Unreadable Time :=
  match s.excess? with
  | some why => .error why
  | none     =>
    match Time.of? s.hours s.clock.minute s.clock.second (s.clock.micros * 1000) with
    | some time => .ok time
    | none      => .error (.noTimeOfDay s.negative s.hours s.clock.minute s.clock.second)

/-! ## Cells -/

/-- How the type of a form is called, by the library and in SQL. -/
def Form.names : Form → String × String
  | bool           => ("bool", "BOOLEAN")
  | int64          => ("i64", "BIGINT")
  | uint64         => ("u64", "BIGINT UNSIGNED")
  | rawUInt16      => ("u16", "SMALLINT UNSIGNED")
  | float32        => ("f32", "FLOAT")
  | float64        => ("f64", "DOUBLE")
  | date           => ("chrono::naive::date::NaiveDate", "DATE")
  | time           => ("chrono::naive::time::NaiveTime", "TIME")
  | timestamp      => ("chrono::naive::datetime::NaiveDateTime", "DATETIME")
  | text | rawText => ("alloc::string::String", "VARCHAR")

/-- Reads bytes as a text. -/
def readText (bytes : List UInt8) : Except Unreadable String :=
  ((Utf8.decode bytes).mapError .noText).map String.ofList

/-- What a cell holds, in one of the forms. `name` is the name of the column's type. -/
def Kind.answer (name : String) : (k : Kind) → k.Content → (f : Form) → Except Unreadable f.Carrier
  | boolean,   n,           .bool      => .ok (Int8.toInt n != 0)
  | tinyInt,   n,           .int64     => .ok (Int8.toInt64 n)
  | smallInt,  n,           .int64     => .ok (Int16.toInt64 n)
  | mediumInt, n,           .int64     => .ok (Int32.toInt64 n)
  | int,       n,           .int64     => .ok (Int32.toInt64 n)
  | bigInt,    n,           .int64     => .ok n
  | unsigned,  n,           .uint64    => .ok n
  | bit,       n,           .uint64    => .ok n
  | year,      n,           .rawUInt16 => .ok n
  | float,     x,           .float32   => .ok x
  | double,    x,           .float64   => .ok x
  | date,      some d,      .date      => WireDate.read d
  | dateTime,  some (d, c), .timestamp => readDateTime d c
  | time,      none,        .time      => .ok Time.midnight
  | time,      some s,      .time      => WireSpan.read s
  | text,      bytes,       .text      => readText bytes
  | text,      bytes,       .rawText   => readText bytes
  | _,         _,           f          => .error (.incompatible f.names.1 f.names.2 name)

/-- Whether a date, or a date with a time, is sent as nothing. -/
def Kind.isZeroDate : (k : Kind) → k.Content → Bool
  | date,      d => Option.isNone d
  | dateTime,  d => Option.isNone d
  | timestamp, d => Option.isNone d
  | _,         _ => false

/-- What a column holds in a row. -/
structure Field where
  column  : Column
  content : Option column.kind.Content

namespace Field

/-- Whether a field reads as a null: it is one, or a date with all parts zero. -/
def isNull (f : Field) : Bool := f.content.all f.column.kind.isZeroDate

/-- What a field holds, in one of the forms. -/
def answer (f : Field) (form : Form) : Except Unreadable form.Carrier :=
  match f.content with
  | some x => f.column.kind.answer f.column.typeName x form
  | none   => .error .null

/-- The cell that the library makes of a field, in the column with a number that is counted from 0. -/
def cell (n : Nat) (f : Field) : Cell where
  column   := f.column
  isNull   := .ok f.isNull
  ask form := (f.answer form).mapError fun why =>
    Report.because ("error occurred while decoding column " ++ toString n ++ ": ") why.message
  overflow := ⟨"number too large to fit in target type", []⟩

end Field

/-! ## Statements -/

/-- What a server sends when a statement has run. -/
inductive Reply where
  /-- Rows were affected, and an id may have been generated; zero means none. -/
  | done (affected lastId : UInt64)
  | resultSet (rows : List (List Field))

/-- What a driver is given of it. -/
def Reply.response : Reply → Response
  | done affected lastId => .done affected lastId
  | resultSet rows       => .resultSet (rows.map (·.mapIdx Field.cell))

/-- Whether the year of a date has a place in what is sent. -/
def isSendable (d : Date) : Bool := 0 ≤ d.year && d.year ≤ 65535

/-- A value as it is sent: times have whole microseconds. A date that cannot be sent is told. -/
def sendableValue (v : Value) : Except Date Value :=
  match v with
  | .date d      => if isSendable d then .ok v else .error d
  | .timestamp t => if isSendable t.date then .ok (.timestamp t.toMicroseconds) else .error t.date
  | .time t      => .ok (.time t.toMicroseconds)
  | v            => .ok v

/-- What is said of a date that cannot be sent. -/
def unsendable (slot : Nat) (d : Date) : Report :=
  Report.because "error occurred while encoding a value: "
    ("Encoding argument $" ++ toString slot ++ " failed: NaiveDateTime out of range for Mysql: " ++ d.display)

/-- The parameters as they are sent, or what is said of the first one that cannot be; slots are numbered from `slot`
    on. -/
def sendable (slot : Nat) : List Argument → Except Report (List Value)
  | []      => .ok []
  | a :: as =>
    match sendableValue a.value with
    | .error d => .error (unsendable slot d)
    | .ok sent => (sendable (slot + 1) as).map (sent :: ·)

end NamedSql.MySql
