import NamedSql.Driver.Basic

/-!
# `NamedSql.Statement.Mapper` — from rows to values

A mapper turns the current row of a cursor into a value. It is told how many rows it has been given so far,
it may fail, and it may abandon the whole operation.

## Contents
- `Mapper`, `Mapper.map`.
- `column` and its shorthands for column 1: `string`, `integer`, `long`, `double`.
- `columns`, `labelled`, `labelledRow`: several columns of a row at once.
- `failingAt`, `abandoningAt`: mappers that fail on a given row.
-/

namespace NamedSql

/-- Turns the row with a given number, counted from 1, into a value. -/
def Mapper {σ : Type} (D : Driver σ) (α : Type) := Nat → D.Cursor → Attempt σ (Halt Failure) α

namespace Mapper

variable {σ α β : Type} {D : Driver σ}

/-- A mapper whose results are worked on. -/
def map (f : α → β) (m : Mapper D α) : Mapper D β := fun n c => do return f (← m n c)

/-- A mapper that reads the current row and cannot abandon the operation. -/
def ofRead (f : D.Cursor → Attempt σ Failure α) : Mapper D α := fun _ c => (f c).reword .failed

/-- Reads one column of every row; a null reads as nothing. -/
def column (t : Target) (n : Nat) : Mapper D (Option t.Carrier) := ofRead fun c => D.getAs t c n

/-- Reads the first column as a text. -/
def string : Mapper D (Option String) := column (.typed .varchar) 1

/-- Reads the first column as a 32-bit number. -/
def integer : Mapper D (Option Int32) := column (.typed .integer) 1

/-- Reads the first column as a 64-bit number. -/
def long : Mapper D (Option Int64) := column (.typed .bigInt) 1

/-- Reads the first column as a floating-point number. -/
def double : Mapper D (Option Float) := column (.typed .double) 1

/-- Reads several columns in order, each as its own target, as values. -/
def columns (cs : List (Nat × Target)) : Mapper D (List (Option Value)) :=
  ofRead fun c => cs.mapM fun (n, t) => do return (← D.getAs t c n).map t.toValue

/-- Looks columns up by their labels: for each label the number of its column and the value there, or nothing
    if no column has it. -/
def labelled (labels : List String) : Mapper D (List (Option (Nat × Value))) :=
  ofRead fun c => labels.mapM fun label =>
    match D.columnIndex c label with
    | none   => return none
    | some n => do return some (n, ← D.get c n)

/-- The whole row: label and value of every column. -/
def labelledRow : Mapper D (List (Option String × Value)) :=
  ofRead fun c => (List.range' 1 (D.columnCount c)).mapM fun n => do
    return (D.columnLabel c n, ← D.get c n)

/-- Answers the number of the row, but fails on one row. -/
def failingAt (row : Nat) (message : String) : Mapper D Nat :=
  fun n _ => if n = row then throw (.failed (.saying message)) else return n

/-- Answers the number of the row, but abandons the operation on one row. -/
def abandoningAt (row : Nat) (text : String) : Mapper D Nat :=
  fun n _ => if n = row then throw (.abandoned text) else return n

end Mapper

end NamedSql
