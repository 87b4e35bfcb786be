import NamedSql.Driver.Rows
import NamedSql.MySql.Column

/-!
# `NamedSql.MySql.ResultRows` — cursors over the rows of a server

## Contents
- `ResultRows`, `ResultRows.ofRows`, and the calls of a cursor. A cell is decoded when it is read.
- `ResultRows.left`, `left_next`.
-/

namespace NamedSql.MySql

/-- A cursor over the rows of a result. -/
structure ResultRows where
  rows     : List (List Cell)
  /-- The current row; none before the first move, and one past the end after the last. -/
  position : Option Nat
  closed   : Bool

namespace ResultRows

/-- A cursor before the first of some rows. -/
def ofRows (rows : List (List Cell)) : ResultRows := ⟨rows, none, false⟩

/-- The row that a move goes to. -/
def upcoming (r : ResultRows) : Nat := r.position.elim 0 (· + 1)

/-- Moves to the next row, but never further than one past the end. -/
def next (r : ResultRows) : Except Failure Bool × ResultRows :=
  if r.closed then (.error .cursorClosed, r)
  else (.ok (r.upcoming < r.rows.length), { r with position := some (min r.upcoming r.rows.length) })

/-- The number of columns, as the first row has them. -/
def columnCount (r : ResultRows) : Nat := (r.rows.head?.getD []).length

/-- The label of a column, as the first row has it. -/
def columnLabel (r : ResultRows) (column : Nat) : Option String :=
  if column = 0 then none else (r.rows.head?.getD [])[column - 1]?.map (·.column.label)

/-- The current row. -/
def current (r : ResultRows) : Except Failure (List Cell) :=
  if r.closed then .error .cursorClosed
  else
    match r.position.bind (r.rows[·]?) with
    | some row => .ok row
    | none     => .error .offRow

/-- The value of a column of a row. -/
def column (row : List Cell) (column : Nat) : Except Failure Value :=
  match if column = 0 then none else row[column - 1]? with
  | some c => c.decode.mapError .reported
  | none   => .error (.noColumn column)

/-- The value of a column of the current row. -/
def get (r : ResultRows) (n : Nat) : Except Failure Value := do column (← r.current) n

/-- A closed cursor keeps no rows and has no more answers. -/
def close (r : ResultRows) : ResultRows := { r with rows := [], closed := true }

/-- The number of rows that are still ahead. -/
def left (r : ResultRows) : Nat := r.rows.length - r.upcoming

/-- A move to a row leaves fewer ahead. -/
theorem left_next {r r' : ResultRows} (h : r.next = (.ok true, r')) : r'.left < r.left := by
  unfold next at h
  split at h
  · simp at h
  · simp only [Prod.mk.injEq, Except.ok.injEq, decide_eq_true_eq] at h
    obtain ⟨hlt, rfl⟩ := h
    simp only [left, upcoming, Option.elim_some] at *
    omega

end ResultRows

end NamedSql.MySql
