import NamedSql.Attempt
import NamedSql.Error
import NamedSql.Value.Convert

/-!
# `NamedSql.Driver.Basic` — what a database driver offers

A driver has connections, statements and cursors. A connection prepares statements, a statement runs and
opens cursors, a cursor moves forward over rows. Slots of statements and columns of rows count from 1.
Each of these objects is a value that its owner holds; every call takes the object and the rest of the world
`σ`, and hands both back.

## Contents
- `KeyCapture`, `Driver`.
- `Driver.getAs`, `Driver.columnIndex`: typed reading, and columns by their label.
- `Driver.collect`: one step per remaining row. Cursors are finite (`Driver.rowsLeft`), so it ends.
-/

namespace NamedSql

/-- Whether a statement is prepared to report the keys that the database generates. -/
inductive KeyCapture where
  | none | generated
deriving DecidableEq, Repr

/-- A database driver over a world `σ`. -/
structure Driver (σ : Type) where
  Connection : Type
  Statement  : Type
  Cursor     : Type
  /-- Prepares a statement with positional markers. -/
  prepare : String → KeyCapture → Attempt (Connection × σ) Failure Statement
  closeConnection : Attempt (Connection × σ) Failure Unit
  /-- What happens to the world when a connection is let go without being closed. -/
  discard : Connection → σ → σ
  /-- Binds a value to a slot. -/
  bind : Nat → Value → Attempt (Statement × σ) Failure Unit
  /-- Queues the values bound now as one entry of a batch. -/
  addBatch : Attempt (Statement × σ) Failure Unit
  /-- Limits the rows of the next query, or lifts the limit. A driver may ignore it. -/
  setMaxRows : Option Nat → Attempt (Statement × σ) Failure Unit
  executeQuery : Attempt (Statement × σ) Failure Cursor
  /-- Runs the statement and answers the number of rows it affected. -/
  executeUpdate : Attempt (Statement × σ) Failure Int64
  /-- Runs every queued entry and answers their numbers of affected rows, in order. -/
  executeBatch : Attempt (Statement × σ) Failure (List Int64)
  /-- Opens a cursor over the keys that the last execution generated, in column 1. -/
  generatedKeys : Attempt (Statement × σ) Failure Cursor
  closeStatement : Attempt (Statement × σ) Failure Unit
  /-- Moves to the next row; the answer is `false` when there is none. -/
  next : Attempt (Cursor × σ) Failure Bool
  columnCount : Cursor → Nat
  columnLabel : Cursor → Nat → Option String
  /-- Reads a column of the current row. -/
  get : Cursor → Nat → Attempt σ Failure Value
  closeCursor : Attempt (Cursor × σ) Failure Unit
  /-- A bound on how often a cursor can still move to a row. A cursor that only the world brings to an end carries the
      number of the rows that it still has to give. -/
  rowsLeft : Cursor → Nat
  /-- Every move to a row uses up some of the bound. -/
  rowsLeft_next : ∀ {c c' : Cursor} {w w' : σ},
    next.apply (c, w) = (.ok true, (c', w')) → rowsLeft c' < rowsLeft c

namespace Driver

variable {σ ε α : Type} (D : Driver σ)

/-- Reads a column of the current row as a target says; a null reads as nothing. -/
def getAs (t : Target) (c : D.Cursor) (column : Nat) : Attempt σ Failure (Option t.Carrier) := do
  let v ← D.get c column
  match t.read v with
  | .ok x    => return x
  | .error f => throw f

/-- Whether two labels differ in nothing but the case of ASCII letters. -/
def sameLabel (a b : String) : Bool := a.toList.map Char.toLower == b.toList.map Char.toLower

/-- The first column with a label, whatever its case. -/
def columnIndex (c : D.Cursor) (label : String) : Option Nat :=
  (List.range' 1 (D.columnCount c)).find? fun column => (D.columnLabel c column).any (sameLabel · label)

/-- Takes a step on each remaining row, in order, until something fails. The step is told the number of the
    row; `wrap` rewords what a move of the cursor reports. -/
def collect (wrap : Failure → ε) (step : Nat → D.Cursor → Attempt σ ε α) (number : Nat) (s : D.Cursor × σ) :
    Except ε (List α) × (D.Cursor × σ) :=
  match _h : D.next.apply s with
  | (.error f, s')       => (.error (wrap f), s')
  | (.ok false, s')      => (.ok [], s')
  | (.ok true, (c, w))   =>
    match (step number c).apply w with
    | (.error e, w') => (.error e, (c, w'))
    | (.ok a, w')    =>
      match collect wrap step (number + 1) (c, w') with
      | (.ok as, s')   => (.ok (a :: as), s')
      | (.error e, s') => (.error e, s')
termination_by D.rowsLeft s.1
decreasing_by exact D.rowsLeft_next _h

end Driver

end NamedSql
