import NamedSql.Attempt
import NamedSql.MySql.Column

/-!
# `NamedSql.MySql.Server` — servers and pooled connections

Connections to a server are lent from a pool and given back to it. Each loan has a number, and the world
remembers which loans have ended.

## Contents
- `Argument`: a parameter in the form in which it is handed over; `Argument.ofValue` and `Argument.value`.
- `Response`, and what a query (`Response.rows`) and an update (`Response.effect`) make of it.
- `Server`: what a driver asks of the far side.
- `Pooled`: the far side together with the loans. `Pooled.borrow`, `Pooled.giveBack`, `Pooled.onLoan`.
-/

namespace NamedSql.MySql

/-! ## Parameters -/

/-- A parameter of a statement: its type, and its content unless it is a null. -/
structure Argument where
  type    : SqlType
  content : Option type.Carrier

namespace Argument

/-- How a value is handed over. A null keeps its type. -/
def ofValue : Value → Argument
  | .null type   => ⟨type, none⟩
  | .text s      => ⟨.varchar, some s⟩
  | .smallInt n  => ⟨.smallInt, some n⟩
  | .int n       => ⟨.integer, some n⟩
  | .bigInt n    => ⟨.bigInt, some n⟩
  | .float x     => ⟨.float, some x⟩
  | .double x    => ⟨.double, some x⟩
  | .bool b      => ⟨.boolean, some b⟩
  | .date d      => ⟨.date, some d⟩
  | .time t      => ⟨.time, some t⟩
  | .timestamp t => ⟨.timestamp, some t⟩

/-- The value that a parameter stands for. -/
def value (a : Argument) : Value := Value.ofOption a.type a.content

/-- Nothing about a value is lost when it is handed over. -/
@[simp] theorem value_ofValue (v : Value) : (ofValue v).value = v := by
  cases v <;> rfl

@[simp] theorem map_value_ofValue (vs : List Value) : (vs.map ofValue).map value = vs := by
  rw [List.map_map]
  exact (List.map_congr_left fun v _ => value_ofValue v).trans (List.map_id vs)

end Argument

/-! ## Servers -/

/-- What a server answers to a statement. -/
inductive Response where
  /-- Rows were affected, and an id may have been generated; zero means none. -/
  | done (affected lastId : UInt64)
  | resultSet (rows : List (List Cell))

/-- The rows of a response. -/
def Response.rows : Response → List (List Cell)
  | done _ _       => []
  | resultSet rows => rows

/-- The number of affected rows and the generated id. -/
def Response.effect : Response → UInt64 × UInt64
  | done affected lastId => (affected, lastId)
  | resultSet _          => (0, 0)

/-- The far side of a pool of connections, with a state `τ` of its own. -/
structure Server (τ : Type) where
  /-- Checks a connection out. -/
  acquire : Attempt τ Fault Unit
  /-- Has a statement prepared, and answers how many parameters it has. -/
  prepare : String → Attempt τ Fault Nat
  /-- Has a statement run with its parameters. -/
  run : String → List Argument → Attempt τ Fault Response

/-! ## Loans -/

/-- The far side, and the loans of its connections. -/
structure Pooled (τ : Type) where
  far      : τ
  /-- How many connections have been lent; loans are numbered from 0. -/
  lent     : Nat
  /-- The loans that have ended, the latest first. -/
  returned : List Nat

namespace Pooled

variable {τ ε α : Type}

/-- Nothing lent. -/
def ofFar (far : τ) : Pooled τ := ⟨far, 0, []⟩

/-- A step on the far side. -/
def onFar (x : Attempt τ ε α) : Attempt (Pooled τ) ε α :=
  x.within far fun far p => { p with far := far }

/-- Borrows a connection and answers the number of the loan. -/
def borrow (server : Server τ) : Attempt (Pooled τ) Fault Nat := do
  onFar server.acquire
  .of fun p => (.ok p.lent, { p with lent := p.lent + 1 })

/-- Ends a loan. A loan that has ended stays as it is. -/
def giveBack (loan : Nat) (p : Pooled τ) : Pooled τ :=
  if loan ∈ p.returned then p else { p with returned := loan :: p.returned }

/-- A step on the far side over a connection, as long as its loan lasts. -/
def onLoan (loan : Nat) (x : Attempt τ Fault α) : Attempt (Pooled τ) Fault α :=
  .of fun p => if loan ∈ p.returned then (.error .connectionClosed, p) else (onFar x).apply p

/-- After a loan has ended no step reaches the far side over its connection. -/
theorem onLoan_returned {loan : Nat} {p : Pooled τ} (h : loan ∈ p.returned) (x : Attempt τ Fault α) :
    (onLoan loan x).apply p = (.error .connectionClosed, p) := by
  simp [onLoan, Attempt.of, Attempt.apply, h]

end Pooled

end NamedSql.MySql
