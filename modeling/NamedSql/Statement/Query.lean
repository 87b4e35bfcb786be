import NamedSql.Statement.Basic

/-!
# `NamedSql.Statement.Query` — where statements start

A query entry point knows the registry, and the connector to use if it has been narrowed to one.

## Contents
- `Query`, `Query.ofRegistry`, `Query.on`, `Query.display`.
- `Query.update`, `Query.forObject`, and shorthands for the first column.
-/

namespace NamedSql

variable {σ α : Type} {D : Driver σ}

/-- An entry point for statements. -/
structure Query (D : Driver σ) where
  registry       : Registry D
  connectionName : Option String

namespace Query

/-- An entry point that uses the first connector. -/
def ofRegistry (registry : Registry D) : Query D := ⟨registry, none⟩

/-- The same entry point, narrowed to the connector of a name. -/
def on (q : Query D) (name : String) : Query D := { q with connectionName := some name }

/-- Prepares an update. -/
def update (q : Query D) (sql : String) : Attempt σ Error (Update D) :=
  Update.named q.registry q.connectionName sql

/-- Prepares a query whose rows are mapped. -/
def forObject (q : Query D) (sql : String) (mapper : Mapper D α) : Attempt σ Error (Select D α) :=
  Select.named q.registry q.connectionName sql mapper

/-- Prepares a query for the text in the first column. -/
def forString (q : Query D) (sql : String) : Attempt σ Error (Select D (Option String)) :=
  q.forObject sql .string

/-- Prepares a query for the 32-bit number in the first column. -/
def forInteger (q : Query D) (sql : String) : Attempt σ Error (Select D (Option Int32)) :=
  q.forObject sql .integer

/-- Prepares a query for the 64-bit number in the first column. -/
def forLong (q : Query D) (sql : String) : Attempt σ Error (Select D (Option Int64)) :=
  q.forObject sql .long

/-- Prepares a query for the floating-point number in the first column. -/
def forDouble (q : Query D) (sql : String) : Attempt σ Error (Select D (Option Float)) :=
  q.forObject sql .double

/-- The connectors and the name it is narrowed to, for diagnostics. -/
def display (q : Query D) : String :=
  let name := match q.connectionName with
    | none   => "None"
    | some n => "Some(" ++ Quoted.string n ++ ")"
  "Query \x7b registry: " ++ q.registry.display ++ ", connection_name: " ++ name ++ " \x7d"

end Query

end NamedSql
