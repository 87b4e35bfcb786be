import NamedSql.MySql.Prepared
import NamedSql.Registry

/-!
# `NamedSql.MySql.Driver` — the MySQL driver

## Contents
- `Cursor`: the rows of a query, or generated keys.
- `driver`, over a pool of connections.
- `connector`: a connector whose connections are borrowed from the pool.
-/

namespace NamedSql.MySql

variable {τ : Type}

/-- What a statement opens. -/
inductive Cursor where
  | result (rows : ResultRows)
  | keys (rows : Rows)

namespace Cursor

/-- Moves to the next row. -/
def next : Cursor → Except Failure Bool × Cursor
  | result rows => let (r, rows') := rows.next; (r, result rows')
  | keys rows   => let (r, rows') := rows.next; (r, keys rows')

/-- The number of columns. -/
def columnCount : Cursor → Nat
  | result rows => rows.columnCount
  | keys rows   => rows.columnCount

/-- The label of a column. -/
def columnLabel : Cursor → Nat → Option String
  | result rows => rows.columnLabel
  | keys rows   => rows.columnLabel

/-- The value of a column of the current row. -/
def get : Cursor → Nat → Except Failure Value
  | result rows => rows.get
  | keys rows   => rows.get

/-- Closes the cursor. -/
def close : Cursor → Cursor
  | result rows => result rows.close
  | keys rows   => keys rows.close

/-- The number of rows that are still ahead. -/
def left : Cursor → Nat
  | result rows => rows.left
  | keys rows   => rows.left

theorem left_next {c c' : Cursor} (h : c.next = (.ok true, c')) : c'.left < c.left := by
  cases c with
  | result rows =>
    simp only [next, Prod.mk.injEq] at h
    obtain ⟨hb, rfl⟩ := h
    exact ResultRows.left_next (Prod.ext hb rfl)
  | keys rows =>
    simp only [next, Prod.mk.injEq] at h
    obtain ⟨hb, rfl⟩ := h
    exact Rows.left_next (Prod.ext hb rfl)

end Cursor

/-- A call that leaves the world alone. -/
def locally {ο α : Type} (f : ο → Except Failure α × ο) : Attempt (ο × Pooled τ) Failure α :=
  .of fun (o, p) => let (r, o') := f o; (r, o', p)

/-- A call that opens a cursor. -/
def opening {ο α : Type} (wrap : α → Cursor) (x : Attempt (ο × Pooled τ) Failure α) :
    Attempt (ο × Pooled τ) Failure Cursor := do
  return wrap (← x)

/-- The driver of MySQL servers. A connection that is let go is given back like one that is closed. -/
def driver (τ : Type) : NamedSql.Driver (Pooled τ) where
  Connection      := Session τ
  Statement       := Prepared τ
  Cursor          := Cursor
  prepare         := Session.prepare
  closeConnection := .of fun (s, p) => (.ok (), s, s.giveBack p)
  discard         := Session.giveBack
  bind slot value := locally (Prepared.bind slot value)
  addBatch        := locally Prepared.addBatch
  setMaxRows n    := locally fun s => (.ok (), { s with limit := n })
  executeQuery    := opening .result Prepared.executeQuery
  executeUpdate   := Prepared.executeUpdate
  executeBatch    := Prepared.executeBatch
  generatedKeys   := opening .keys (locally Prepared.generatedKeys)
  closeStatement  := locally Prepared.close
  next            := locally Cursor.next
  columnCount     := Cursor.columnCount
  columnLabel     := Cursor.columnLabel
  get c n         := .of fun p => (c.get n, p)
  closeCursor     := locally fun c => (.ok (), c.close)
  rowsLeft        := Cursor.left
  rowsLeft_next {c c' w w'} h := by
    simp only [locally, Attempt.of, Attempt.apply, Prod.mk.injEq] at h
    exact Cursor.left_next (Prod.ext h.1 h.2.1)

/-- The connector of a server. -/
def connector (name : String) (server : Server τ) : Connector (driver τ) where
  name    := name
  connect := (Pooled.borrow server).reword Fault.failure |>.map (Session.mk server)

end NamedSql.MySql
