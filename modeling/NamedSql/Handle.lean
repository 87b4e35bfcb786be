import NamedSql.Driver.Basic

/-!
# `NamedSql.Handle` — the owner of a connection

A handle owns one connection, at most one prepared statement and at most one open cursor. It closes each of
them at most once: a slot is emptied by the close, whether or not the close succeeds.

## Contents
- `Handle`, `Handle.ofConnection`, `Handle.isReleased`, `Handle.display`.
- The three closes and `cleanup`, which attempts all of them and answers the first failure; `discard` for a
  handle that is let go.
- `prepare`, `onStatement`, `call`, `withCursor`, `withQuery`, `withKeys`, and the parts of those that replace
  something: `prepareNext`, `keepCursor`, `openCursor`.
- `settle`: the outcome of an operation together with that of the release after it.
-/

namespace NamedSql

variable {σ ε α : Type} {D : Driver σ}

/-- What a handle owns at the moment. -/
structure Handle (D : Driver σ) where
  connection : Option D.Connection
  statement  : Option D.Statement
  cursor     : Option D.Cursor

namespace Handle

/-- A handle that owns a connection and nothing else. -/
def ofConnection (c : D.Connection) : Handle D := ⟨some c, none, none⟩

/-- Whether nothing is owned any more. -/
def isReleased (h : Handle D) : Bool := h.connection.isNone && h.statement.isNone && h.cursor.isNone

/-- Which slots are taken, for diagnostics. -/
def display (h : Handle D) : String :=
  "ConnectionHandle \x7b connection_open: " ++ toString h.connection.isSome
    ++ ", statement_open: " ++ toString h.statement.isSome
    ++ ", cursor_open: " ++ toString h.cursor.isSome ++ " \x7d"

/-! ## Closing -/

/-- Closes the cursor, if there is one, and gives it up. -/
def closeCursor : Attempt (Handle D × σ) Error Unit :=
  .of fun (h, w) =>
    match h.cursor with
    | none   => (.ok (), h, w)
    | some c =>
      let (r, _, w') := D.closeCursor.apply (c, w)
      (r.mapError (.release .cursor), { h with cursor := none }, w')

/-- Closes the statement, if there is one, and gives it up. -/
def closeStatement : Attempt (Handle D × σ) Error Unit :=
  .of fun (h, w) =>
    match h.statement with
    | none   => (.ok (), h, w)
    | some s =>
      let (r, _, w') := D.closeStatement.apply (s, w)
      (r.mapError (.release .statement), { h with statement := none }, w')

/-- Closes the connection, if there is one, and gives it up. -/
def closeConnection : Attempt (Handle D × σ) Error Unit :=
  .of fun (h, w) =>
    match h.connection with
    | none   => (.ok (), h, w)
    | some c =>
      let (r, _, w') := D.closeConnection.apply (c, w)
      (r.mapError (.release .connection), { h with connection := none }, w')

/-- The first of three failures, if there is one. -/
def firstFailure (a b c : Except ε Unit) : Except ε Unit :=
  match a, b with
  | .error e, _ => .error e
  | _, .error e => .error e
  | _, _        => c

/-- Closes cursor, statement and connection, in this order. All are attempted, also when an earlier one
    fails; the answer is the first failure. -/
def cleanup : Attempt (Handle D × σ) Error Unit :=
  .of fun s =>
    let (cursor, s₁)     := closeCursor.apply s
    let (statement, s₂)  := closeStatement.apply s₁
    let (connection, s₃) := closeConnection.apply s₂
    (firstFailure cursor statement connection, s₃)

/-- What happens when a handle is let go: what it still owns is closed, and nobody hears of failures. -/
def discard (h : Handle D) (w : σ) : σ := (cleanup.apply (h, w)).2.2

/-! ## Preparing and running -/

/-- Prepares a statement on the connection and keeps it. -/
def prepareNext (sql : String) (keys : KeyCapture) : Attempt (Handle D × σ) Error Unit :=
  .of fun (h, w) =>
    match h.connection with
    | none   => (.error .statementClosed, h, w)
    | some c =>
      match (D.prepare sql keys).apply (c, w) with
      | (.error f, c', w') => (.error (.prepare sql f), { h with connection := some c' }, w')
      | (.ok s, c', w')    => (.ok (), { h with connection := some c', statement := some s }, w')

/-- Replaces the statement: closes the cursor and the statement of before, then prepares the new one. -/
def prepare (sql : String) (keys : KeyCapture) : Attempt (Handle D × σ) Error Unit := do
  closeCursor
  closeStatement
  prepareNext sql keys

/-- Makes a call on the prepared statement and tells how it went; fails if there is no statement. -/
def onStatement (call : Attempt (D.Statement × σ) Failure α) :
    Attempt (Handle D × σ) Error (Except Failure α) :=
  .of fun (h, w) =>
    match h.statement with
    | none   => (.error .statementClosed, h, w)
    | some s =>
      let (r, s', w') := call.apply (s, w)
      (.ok r, { h with statement := some s' }, w')

/-- Makes a call on the prepared statement, as a part of an operation. -/
def call (c : Attempt (D.Statement × σ) Failure α) : Attempt (Handle D × σ) Failure α := do
  match ← (onStatement c).reword .error with
  | .ok a    => return a
  | .error f => throw f

/-- Works with a cursor, which stays open in the handle. -/
def keepCursor (work : Attempt (D.Cursor × σ) ε α) (c : D.Cursor) : Attempt (Handle D × σ) ε α :=
  .of fun (h, w) =>
    let (r, c', w') := work.apply (c, w)
    (r, { h with cursor := some c' }, w')

/-- Opens a cursor and works with it. -/
def openCursor (wrap : Failure → ε) (opening : Attempt (D.Statement × σ) Failure D.Cursor)
    (work : Attempt (D.Cursor × σ) ε α) : Attempt (Handle D × σ) ε α := do
  keepCursor work (← (call opening).reword wrap)

/-- Replaces the cursor: closes the one of before, opens the new one, and works with it. -/
def withCursor (wrap : Failure → ε) (opening : Attempt (D.Statement × σ) Failure D.Cursor)
    (work : Attempt (D.Cursor × σ) ε α) : Attempt (Handle D × σ) ε α := do
  closeCursor.reword (wrap ∘ .error)
  openCursor wrap opening work

/-- Runs the prepared query and works with its rows. -/
def withQuery (wrap : Failure → ε) (work : Attempt (D.Cursor × σ) ε α) : Attempt (Handle D × σ) ε α :=
  withCursor wrap D.executeQuery work

/-- Opens the keys that the last execution generated and works with them. -/
def withKeys (wrap : Failure → ε) (work : Attempt (D.Cursor × σ) ε α) : Attempt (Handle D × σ) ε α :=
  withCursor wrap D.generatedKeys work

end Handle

/-! ## Outcomes -/

/-- The outcome of an operation and of the release after it: a failure of the operation wins, a failure of
    the release counts only if the operation succeeded. -/
def settle (ofRelease : Error → ε) (outcome : Except ε α) (released : Except Error Unit) : Except ε α :=
  match outcome, released with
  | .ok a,    .ok ()   => .ok a
  | .ok _,    .error e => .error (ofRelease e)
  | .error e, _        => .error e

end NamedSql
