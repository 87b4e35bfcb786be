import NamedSql.Driver.Basic

/-!
# `NamedSql.Driver.Rows` — cursors over rows in memory

## Contents
- `Rows`, `Rows.ofKeys`.
- The calls of a cursor: `next`, `columnCount`, `columnLabel`, `get`, `close`.
- `Rows.left`, the rows still ahead, and `left_next`: each move to a row uses one up.
- `Rows.driver`: cursors in memory as a driver of their own.
-/

namespace NamedSql

/-- A cursor over a list of rows. A row may be longer or shorter than the list of labels. -/
structure Rows where
  labels   : List String
  rows     : List (List Value)
  /-- The current row; none before the first move, and one past the end after the last. -/
  position : Option Nat
  closed   : Bool

namespace Rows

/-- A cursor before the first of some rows. -/
def ofRows (labels : List String) (rows : List (List Value)) : Rows where
  labels   := labels
  rows     := rows
  position := none
  closed   := false

/-- A cursor over keys, one a row. -/
def ofKeys (keys : List Int64) : Rows :=
  ofRows ["GENERATED_KEY"] (keys.map fun key => [.bigInt key])

/-- The row that a move goes to: the first one at the start, then always the one after. -/
def upcoming (r : Rows) : Nat := r.position.elim 0 (· + 1)

/-- Moves to the next row, but never further than one past the end. -/
def next (r : Rows) : Except Failure Bool × Rows :=
  if r.closed then (.error .cursorClosed, r)
  else (.ok (r.upcoming < r.rows.length), { r with position := some (min r.upcoming r.rows.length) })

/-- The number of labels. -/
def columnCount (r : Rows) : Nat := r.labels.length

/-- The label of a column. -/
def columnLabel (r : Rows) (column : Nat) : Option String :=
  if column = 0 then none else r.labels[column - 1]?

/-- The current row. -/
def current (r : Rows) : Except Failure (List Value) :=
  if r.closed then .error .cursorClosed
  else
    match r.position.bind (r.rows[·]?) with
    | some row => .ok row
    | none     => .error .offRow

/-- A column of a row. -/
def column (row : List Value) (column : Nat) : Except Failure Value :=
  match if column = 0 then none else row[column - 1]? with
  | some v => .ok v
  | none   => .error (.noColumn column)

/-- A column of the current row. -/
def get (r : Rows) (n : Nat) : Except Failure Value := do column (← r.current) n

/-- A closed cursor has no more answers. -/
def close (r : Rows) : Rows := { r with closed := true }

/-- The number of rows that are still ahead. -/
def left (r : Rows) : Nat := r.rows.length - r.upcoming

/-- A move to a row leaves fewer ahead. -/
theorem left_next {r r' : Rows} (h : r.next = (.ok true, r')) : r'.left < r.left := by
  unfold next at h
  split at h
  · simp at h
  · simp only [Prod.mk.injEq, Except.ok.injEq, decide_eq_true_eq] at h
    obtain ⟨hlt, rfl⟩ := h
    simp only [left, upcoming, Option.elim_some] at *
    omega

/-- A call on an object that there is none of. -/
def never {α : Type} : Attempt (Empty × Unit) Failure α := .of fun (e, _) => e.elim

/-- Cursors in memory, and no database: there are neither connections nor statements. -/
def driver : Driver Unit where
  Connection      := Empty
  Statement       := Empty
  Cursor          := Rows
  prepare _ _     := never
  closeConnection := never
  discard e _     := e.elim
  bind _ _        := never
  addBatch        := never
  setMaxRows _    := never
  executeQuery    := never
  executeUpdate   := never
  executeBatch    := never
  generatedKeys   := never
  closeStatement  := never
  next            := .of fun (r, _) => let (b, r') := r.next; (b, r', ())
  columnCount     := columnCount
  columnLabel     := columnLabel
  get r n         := .of fun _ => (r.get n, ())
  closeCursor     := .of fun (r, _) => (.ok (), r.close, ())
  rowsLeft        := left
  rowsLeft_next {c c' w w'} h := by
    simp only [Attempt.of, Attempt.apply, Prod.mk.injEq] at h
    exact left_next (Prod.ext h.1 h.2.1)

end Rows

end NamedSql
