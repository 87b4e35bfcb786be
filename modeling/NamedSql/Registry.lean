import NamedSql.Driver.Basic
import NamedSql.Text.Quoted

/-!
# `NamedSql.Registry` — connectors by name

## Contents
- `Connector`: a named source of connections.
- `Registry`, `Registry.register`, `Registry.lookup`, `Registry.connect`. Without a name the first connector
  is meant, and of two with the same name the earlier one.
-/

namespace NamedSql

variable {σ : Type} {D : Driver σ}

/-- A named source of connections. -/
structure Connector (D : Driver σ) where
  name    : String
  connect : Attempt σ Failure D.Connection

/-- The connectors that statements can use, in the order of their registration. -/
structure Registry (D : Driver σ) where
  connectors : List (Connector D)

namespace Registry

/-- A registry without connectors. -/
def empty : Registry D := ⟨[]⟩

/-- Adds a connector behind those that are there. -/
def register (r : Registry D) (c : Connector D) : Registry D := ⟨r.connectors ++ [c]⟩

/-- Whether there are no connectors. -/
def isEmpty (r : Registry D) : Bool := r.connectors.isEmpty

/-- The first connector of a name, or the first of all. -/
def lookup (r : Registry D) (name : Option String) : Except Error (Connector D) :=
  match r.connectors.find? fun c => name.all (c.name == ·) with
  | some c => .ok c
  | none   => .error (.noConnector name)

/-- Opens a connection from the connector that a name means. -/
def connect (r : Registry D) (name : Option String) : Attempt σ Error D.Connection :=
  match r.lookup name with
  | .ok c    => c.connect.reword .connect
  | .error e => throw e

/-- The names of the connectors, for diagnostics. -/
def display (r : Registry D) : String := Quoted.list (r.connectors.map Connector.name)

end Registry

end NamedSql
