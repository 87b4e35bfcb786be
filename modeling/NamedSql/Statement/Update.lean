import NamedSql.Statement.Core

/-!
# `NamedSql.Statement.Update` — inserts, updates and deletes

An update is prepared to report the keys that the database generates. Like a query it is used up by running
it, and everything is released before the answer is given.

## Contents
- `Update`, `Update.named`, `Update.onConnection`, `Update.display`.
- `Update.execute`: the first generated key, or the number of affected rows; `Update.executeReturningKey`
  requires a key.
- `Update.executeBatch`: all generated keys, or the number of affected rows of each entry.
-/

namespace NamedSql

variable {σ α : Type} {D : Driver σ}

/-- A statement that changes data. -/
structure Update (D : Driver σ) where
  core : Core D

namespace Update

/-- Prepares an update on a connection from the registry: from the connector of a name, or the first one. -/
def named (registry : Registry D) (name : Option String) (sql : String) : Attempt σ Error (Update D) := do
  return ⟨← Core.connect registry name sql .generated⟩

/-- Prepares an update on a connection that is already open, and closes it in the end. -/
def onConnection (connection : D.Connection) (sql : String) : Attempt σ Error (Update D) := do
  return ⟨← Core.prepare connection sql .generated⟩

/-- Runs an operation of an update and releases everything. -/
def run (u : Update D) (operation : Attempt (Handle D × σ) Failure α) : Attempt σ Error α :=
  .of fun w =>
    let (r, _, w') := (Core.finish .execute id operation).apply (u.core, w)
    (r, w')

/-- Reads the key in the current row; a null is no key. -/
def key (c : D.Cursor) : Attempt σ Failure (Option Int64) := D.getAs (.typed .bigInt) c 1

/-- The key in the row that a cursor moves to, if there are a row and a key. -/
def firstKey : Attempt (D.Cursor × σ) Failure (Option Int64) := do
  if ← D.next then .of fun (c, w) => let (r, w') := (key c).apply w; (r, c, w')
  else return none

/-- The keys in all remaining rows. -/
def allKeys : Attempt (D.Cursor × σ) Failure (List Int64) := do
  let keys ← .of (D.collect id (fun _ c => key c) 1)
  return keys.reduceOption

/-- Runs the statement: the first generated key, or else the number of affected rows. -/
def execute (u : Update D) : Attempt σ Error Int64 :=
  u.run do
    let count ← Handle.call D.executeUpdate
    let key ← Handle.withKeys id firstKey
    return key.getD count

/-- Runs the statement: the first generated key. That there is none is noticed after the release. -/
def executeReturningKey (u : Update D) : Attempt σ Error Int64 := do
  let key ← u.run do
    let _ ← Handle.call D.executeUpdate
    Handle.withKeys id firstKey
  match key with
  | some k => return k
  | none   => throw (.noGeneratedKey u.core.text)

/-- Runs every queued entry: the generated keys in their order, or else the numbers of affected rows. -/
def executeBatch (u : Update D) : Attempt σ Error (List Int64) :=
  u.run do
    let counts ← Handle.call D.executeBatch
    let keys ← Handle.withKeys id allKeys
    return if keys.isEmpty then counts else keys

/-- The text, the names and the state of the handle. -/
def display (u : Update D) : String := "Update [" ++ u.core.display ++ "]"

end Update

end NamedSql
