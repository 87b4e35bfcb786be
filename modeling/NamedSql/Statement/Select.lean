import NamedSql.Statement.Core
import NamedSql.Statement.Mapper

/-!
# `NamedSql.Statement.Select` — queries

A query maps its rows to values. Running it uses it up: cursor, statement and connection are released before
the answer is given, however the run ends.

## Contents
- `Select`, `Select.named`, `Select.onConnection`, `Select.withDefault`, `Select.map`,
  `Select.display`.
- `Select.run`: an operation and the release of everything, also when a mapper gives up (`run_apply`).
- `Select.execute`: the first row, or the default. `Select.executeScalar`: the same for a nullable column.
- `Select.executeForAll`: every row.
-/

namespace NamedSql

variable {σ α : Type} {D : Driver σ}

/-- A query whose rows are mapped to `α`. -/
structure Select (D : Driver σ) (α : Type) where
  core    : Core D
  mapper  : Mapper D α
  /-- The answer when there is no row. -/
  default : Option α

namespace Select

/-- Prepares a query on a connection from the registry: from the connector of a name, or the first one. -/
def named (registry : Registry D) (name : Option String) (sql : String) (mapper : Mapper D α) :
    Attempt σ Error (Select D α) := do
  return ⟨← Core.connect registry name sql .none, mapper, none⟩

/-- Prepares a query on a connection that is already open, and closes it in the end. -/
def onConnection (connection : D.Connection) (sql : String) (mapper : Mapper D α) :
    Attempt σ Error (Select D α) := do
  return ⟨← Core.prepare connection sql .none, mapper, none⟩

/-- Sets the answer for the case that there is no row. -/
def withDefault (s : Select D α) (x : α) : Select D α := { s with default := some x }

/-- A query whose results are worked on, the default too. -/
def map {β : Type} (f : α → β) (s : Select D α) : Select D β := ⟨s.core, s.mapper.map f, s.default.map f⟩

/-- A failure inside a query, told with its text. -/
def whileExecuting (text : String) : Halt Failure → Halt Error := Halt.map (.execute text)

/-- Runs an operation of a query and releases everything. A mapper that gives up takes the rest of the run
    with it: nothing is settled any more, and the handle is let go. -/
def run (s : Select D α) {β : Type} (operation : Attempt (Handle D × σ) (Halt Failure) β) :
    Attempt σ (Halt Error) β :=
  .of fun w =>
    match (Core.onHandle operation).apply (s.core, w) with
    | (.error (.abandoned text), c, w') => (.error (.abandoned text), c.handle.discard w')
    | (outcome, s') =>
      let (r, _, w') := (Core.conclude whileExecuting .failed outcome).apply s'
      (r, w')

/-- Being let go and being released do the same to what the handle owns, so a run is an operation with the
    release after it, however the operation ended. -/
theorem run_apply (s : Select D α) {β : Type} (operation : Attempt (Handle D × σ) (Halt Failure) β) (w : σ) :
    (s.run operation).apply w
      = (((Core.finish whileExecuting .failed operation).apply (s.core, w)).1,
          ((Core.finish whileExecuting .failed operation).apply (s.core, w)).2.2) := by
  simp only [run, Core.finish, Attempt.of_apply]
  match (Core.onHandle operation).apply (s.core, w) with
  | (.error (.abandoned _), _, _) => rfl
  | (.error (.failed _), _, _)    => rfl
  | (.ok _, _, _)                 => rfl

/-- Maps the row a cursor moves to, if there is one. -/
def firstRow (mapper : Mapper D α) : Attempt (D.Cursor × σ) (Halt Failure) (Option α) := do
  if ← D.next.reword .failed then
    .of fun (c, w) => let (r, w') := (mapper 1 c).apply w; (r.map some, c, w')
  else return none

/-- Maps the first row, asking the driver for no more than one; the default stands in for a missing row. -/
def execute (s : Select D α) : Attempt σ (Halt Error) (Option α) := do
  let row ← s.run do
    (Handle.call (D.setMaxRows (some 1))).reword .failed
    Handle.withQuery .failed (firstRow s.mapper)
  return row.or s.default

/-- Maps every row, in the order of the cursor. -/
def executeForAll (s : Select D α) : Attempt σ (Halt Error) (List α) :=
  s.run (Handle.withQuery .failed (.of (D.collect .failed s.mapper 1)))

/-- The content of the first row; the default stands in for a missing row and for a null. -/
def executeScalar (s : Select D (Option α)) : Attempt σ (Halt Error) (Option α) := do
  let row ← { s with default := none }.execute
  return row.join.or s.default.join

/-- The text, the names, the state of the handle, and whether there is a default. -/
def display (s : Select D α) : String :=
  "Select [" ++ s.core.display ++ ", default configured=" ++ toString s.default.isSome ++ "]"

end Select

end NamedSql
