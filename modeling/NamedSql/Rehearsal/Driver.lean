import NamedSql.Registry
import NamedSql.Rehearsal.World

/-!
# `NamedSql.Rehearsal.Driver` — the driver of scripted databases

## Contents
- `PreparedScript`, `ScriptedCursor`: statements and cursors. A connection is its script.
- `perform`: a call is reached first, and then acts on its object.
- `driver`, and `connector` for a script.
-/

namespace NamedSql.Rehearsal

/-- A prepared statement of a script. -/
structure PreparedScript where
  script : Script
  keys   : KeyCapture
  /-- The values bound, in the order of their slots. -/
  binds  : List (Nat × Value)
  batch  : List (List (Nat × Value))
  limit  : Option Nat

/-- An open cursor of a script. -/
structure ScriptedCursor where
  script : Script
  rows   : Rows

/-- Puts a value at a slot, among those in the order of their slots. -/
def putBind (slot : Nat) (value : Value) : List (Nat × Value) → List (Nat × Value)
  | []             => [(slot, value)]
  | (k, v) :: rest =>
    if k < slot then (k, v) :: putBind slot value rest
    else if k = slot then (slot, value) :: rest
    else (slot, value) :: (k, v) :: rest

/-- Reaches a call on an object and, unless it fails there, acts on the object. -/
def perform {ο α : Type} (script : ο → Script) (p : Point) (entry : ο → Option Entry)
    (effect : ο → Except Failure α × ο) : Attempt (ο × World) Failure α :=
  .of fun (o, w) =>
    match (reach (script o) p (entry o)).apply w with
    | (.ok (), w')   => let (r, o') := effect o; (r, o', w')
    | (.error f, w') => (.error f, o, w')

/-- A call on a prepared statement. -/
def onPrepared {α : Type} (p : Point) (entry : String → PreparedScript → Entry)
    (effect : PreparedScript → Except Failure α × PreparedScript) : Attempt (PreparedScript × World) Failure α :=
  perform PreparedScript.script p (fun s => some (entry s.script.tag s)) effect

/-- The limit is put aside, or not even noticed. -/
def setMaxRows (limit : Option Nat) : Attempt (PreparedScript × World) Failure Unit :=
  .of fun (s, w) =>
    if s.script.uncapped then (.ok (), s, w)
    else
      (onPrepared .setMaxRows (fun tag _ => .setMaxRows tag limit)
        fun s => (.ok (), { s with limit := limit })).apply (s, w)

/-- The numbers of affected rows of a batch. -/
def batchAnswer (s : PreparedScript) : List Int64 :=
  s.script.batchCounts.getD (s.batch.map fun _ => s.script.updateCount)

/-- A batch is run once: afterwards the queue is empty, also when the run fails. -/
def executeBatch : Attempt (PreparedScript × World) Failure (List Int64) :=
  .of fun s =>
    let (r, s', w') := (onPrepared .executeBatch (fun tag s => .executeBatch tag s.batch)
      fun s => (.ok (batchAnswer s), s)).apply s
    (r, { s' with batch := [] }, w')

/-- The rows of a query, no more than the limit. -/
def queryRows (s : PreparedScript) : Rows :=
  .ofRows s.script.labels (s.limit.elim s.script.rows fun n => s.script.rows.take n)

/-- The keys of the last execution, if they were asked for. -/
def keyRows (s : PreparedScript) : Rows :=
  .ofRows ["GENERATED_KEY"] (match s.keys with
    | .generated => s.script.keys
    | .none      => [])

/-- A cursor is closed even if the call fails. -/
def closeCursor : Attempt (ScriptedCursor × World) Failure Unit :=
  .of fun (c, w) =>
    (perform ScriptedCursor.script .closeCursor (fun c => some (.close c.script.tag .cursor))
      fun c => (.ok (), c)).apply ({ c with rows := c.rows.close }, w)

/-- Moves a cursor, unless the call fails. -/
def next : Attempt (ScriptedCursor × World) Failure Bool :=
  perform ScriptedCursor.script .next (fun c => some (.next c.script.tag))
    fun c => let (r, rows) := c.rows.next; (r, { c with rows := rows })

/-- Reads a column, unless the call fails; reading leaves no entry. -/
def get (c : ScriptedCursor) (column : Nat) : Attempt World Failure Value := do
  reach c.script .get none
  .of fun w => (c.rows.get column, w)

theorem left_next {c c' : ScriptedCursor} {w w' : World} (h : next.apply (c, w) = (.ok true, (c', w'))) :
    c'.rows.left < c.rows.left := by
  simp only [next, perform, Attempt.of] at h
  match hr : (reach c.script .next (some (.next c.script.tag))).apply w with
  | (.ok (), v) =>
    simp only [Attempt.apply] at h hr
    simp only [hr, Prod.mk.injEq] at h
    obtain ⟨hb, hc, _⟩ := h
    exact Rows.left_next (Prod.ext hb (by rw [← hc]))
  | (.error f, v) =>
    simp only [Attempt.apply] at h hr
    simp [hr] at h

/-- The driver of scripted databases. -/
def driver : Driver World where
  Connection := Script
  Statement  := PreparedScript
  Cursor     := ScriptedCursor
  prepare sql keys :=
    perform id .prepare (fun s => some (.prepare s.tag sql keys))
      fun s => (.ok ⟨s, keys, [], [], none⟩, s)
  closeConnection :=
    perform id .closeConnection (fun s => some (.close s.tag .connection)) fun s => (.ok (), s)
  discard _ w := w
  bind slot value :=
    onPrepared .bind (fun tag _ => .bind tag slot value)
      fun s => (.ok (), { s with binds := putBind slot value s.binds })
  addBatch :=
    onPrepared .addBatch (fun tag _ => .addBatch tag)
      fun s => (.ok (), { s with batch := s.batch ++ [s.binds] })
  setMaxRows := setMaxRows
  executeQuery :=
    onPrepared .executeQuery (fun tag _ => .executeQuery tag) fun s => (.ok ⟨s.script, queryRows s⟩, s)
  executeUpdate :=
    onPrepared .executeUpdate (fun tag _ => .executeUpdate tag) fun s => (.ok s.script.updateCount, s)
  executeBatch := executeBatch
  generatedKeys :=
    onPrepared .generatedKeys (fun tag _ => .generatedKeys tag) fun s => (.ok ⟨s.script, keyRows s⟩, s)
  closeStatement :=
    onPrepared .closeStatement (fun tag _ => .close tag .statement) fun s => (.ok (), s)
  next := next
  columnCount c := c.rows.columnCount
  columnLabel c := c.rows.columnLabel
  get := get
  closeCursor := closeCursor
  rowsLeft c := c.rows.left
  rowsLeft_next := left_next

/-- Connects to a scripted database. -/
def connect (s : Script) : Attempt World Failure driver.Connection := do
  reach s .connect (some (.connect s.tag))
  return s

/-- The connector of a script. -/
def connector (s : Script) : Connector driver := ⟨s.name, connect s⟩

end NamedSql.Rehearsal
