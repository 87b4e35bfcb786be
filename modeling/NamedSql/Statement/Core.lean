import NamedSql.Handle
import NamedSql.Placeholder.Positional
import NamedSql.Registry

/-!
# `NamedSql.Statement.Core` — what all statements have in common

A statement keeps its text as it was written, the form with markers, and the handle that owns the prepared
statement. Every failure on the way to the result releases the handle before it is reported.

## Contents
- `Core`, `Core.prepare`, `Core.connect`.
- `Core.bind`, `Core.bindAt`, `Core.addBatch`.
- `Core.conclude`: the release of everything after an operation. `Core.finish`: an operation, then that.
-/

namespace NamedSql

variable {σ ε ε' α : Type} {D : Driver σ}

/-- A prepared statement with names. -/
structure Core (D : Driver σ) where
  /-- The statement as it was written. -/
  text       : String
  positional : Positional
  handle     : Handle D

namespace Core

/-- A step on the handle of a statement. -/
def onHandle (x : Attempt (Handle D × σ) ε α) : Attempt (Core D × σ) ε α :=
  .of fun (c, w) => let (r, h, w') := x.apply (c.handle, w); (r, { c with handle := h }, w')

/-- Releases everything and then reports an error; a failure of the release is not heard of. -/
def giveUp (e : Error) : Attempt (Core D × σ) Error α :=
  .of fun s => let (_, s') := (onHandle Handle.cleanup).apply s; (.error e, s')

/-- A refusal to prepare, told with the text as it was written. -/
def withWrittenText (text : String) : Error → Error
  | .prepare _ source => .prepare text source
  | e                 => e

/-- Prepares a statement on a connection. If that fails the connection is closed. -/
def prepare (connection : D.Connection) (text : String) (keys : KeyCapture) : Attempt σ Error (Core D) :=
  .of fun w =>
    let positional := Positional.ofNamed text
    match (Handle.prepare positional.text keys).apply (.ofConnection connection, w) with
    | (.ok (), h, w')   => (.ok ⟨text, positional, h⟩, w')
    | (.error e, h, w') => (.error (withWrittenText text e), h.discard w')

/-- Prepares a statement on a connection from the registry. -/
def connect (registry : Registry D) (name : Option String) (text : String) (keys : KeyCapture) :
    Attempt σ Error (Core D) := do
  prepare (← registry.connect name) text keys

/-- Binds a value to a slot; `name` is what a failure calls the slot. -/
def bindSlot (name : String) (slot : Nat) (value : Value) : Attempt (Core D × σ) Error Unit := do
  match ← onHandle (Handle.onStatement (D.bind slot value)) with
  | .ok ()   => return ()
  | .error f => giveUp (.bind name value.display f)

/-- Binds a value to every slot of a name, in ascending order. A name that does not occur is ignored. -/
def bind (name : String) (value : Value) : Attempt (Core D × σ) Error Unit := do
  let (c, _) ← get
  (c.positional.slots name).forM fun slot => bindSlot name slot value

/-- Binds a value to a slot by its number. -/
def bindAt (slot : Nat) (value : Value) : Attempt (Core D × σ) Error Unit := do
  let (c, _) ← get
  let count := c.positional.names.length
  let name := "#" ++ toString slot
  if 1 ≤ slot ∧ slot ≤ count then bindSlot name slot value
  else giveUp (.bind name value.display (.noSlot slot count))

/-- Queues the values bound now as one entry of a batch. -/
def addBatch : Attempt (Core D × σ) Error Unit := do
  let (c, _) ← get
  match ← onHandle (Handle.onStatement D.addBatch) with
  | .ok ()   => return ()
  | .error f => giveUp (.execute c.text f)

/-- Releases everything after an operation, whose outcome this is. `wrap` tells a failure of the operation,
    given the text of the statement, and `ofRelease` one of the release. -/
def conclude (wrap : String → ε → ε') (ofRelease : Error → ε') (outcome : Except ε α) :
    Attempt (Core D × σ) ε' α :=
  .of fun s =>
    let (released, s') := (onHandle Handle.cleanup).apply s
    (settle ofRelease (outcome.mapError (wrap s.1.text)) released, s')

/-- Performs an operation and then releases everything. -/
def finish (wrap : String → ε → ε') (ofRelease : Error → ε') (operation : Attempt (Handle D × σ) ε α) :
    Attempt (Core D × σ) ε' α :=
  .of fun s =>
    let (outcome, s') := (onHandle operation).apply s
    (conclude wrap ofRelease outcome).apply s'

/-- The text, the names and the state of the handle, for diagnostics. -/
def display (c : Core D) : String :=
  "statement=" ++ c.text ++ ", parameters=" ++ Quoted.list c.positional.names
    ++ ", handle=" ++ c.handle.display

end Core

end NamedSql
