import NamedSql.Driver.Rows
import NamedSql.MySql.ResultRows
import NamedSql.MySql.Server

/-!
# `NamedSql.MySql.Prepared` — sessions and prepared statements

A session is a loan of a connection. Its statements use the same loan, and when the loan ends none of them
reaches the server any more. The values of a statement stay on this side until it runs.

## Contents
- `Session`, `Session.prepare`, `Session.run`, `Session.giveBack`.
- `Prepared`: `bind`, `arguments`, `addBatch`.
- `Prepared.executeQuery`, `executeUpdate`, `executeBatch`, `generatedKeys`, `close`.
-/

namespace NamedSql.MySql

variable {τ : Type}

/-- A connection on loan. -/
structure Session (τ : Type) where
  server : Server τ
  loan   : Nat

/-- A statement that the server has prepared. -/
structure Prepared (τ : Type) where
  session   : Session τ
  sql       : String
  keys      : KeyCapture
  /-- The value of each parameter. -/
  slots     : List (Option Value)
  /-- The limit on the rows of a query. -/
  limit     : Option Nat
  /-- The queued entries, the first one first. -/
  batch     : List (List Value)
  /-- The keys that are still to be handed out. An update or a batch that succeeds puts its own in their place; one that
      fails leaves those of before. -/
  generated : List Int64

/-- Has the server prepare a statement; it says how many parameters there are. -/
def Session.prepare (sql : String) (keys : KeyCapture) :
    Attempt (Session τ × Pooled τ) Failure (Prepared τ) :=
  .of fun (s, p) =>
    let (r, p') := (Pooled.onLoan s.loan (s.server.prepare sql)).apply p
    let prepared (count : Nat) : Prepared τ := ⟨s, sql, keys, List.replicate count none, none, [], []⟩
    ((r.map prepared).mapError Fault.failure, s, p')

/-- Ends the loan of a session. -/
def Session.giveBack (s : Session τ) (p : Pooled τ) : Pooled τ := p.giveBack s.loan

/-- Has a statement run with some values, if the connection is not closed. -/
def Session.run (s : Session τ) (sql : String) (values : List Value) : Attempt (Pooled τ) Fault Response :=
  Pooled.onLoan s.loan (s.server.run sql (values.map Argument.ofValue))

/-! ## Numbers -/

/-- The key of an insert, if keys were asked for: zero is no key, and neither is what does not fit. -/
def insertedKey (keys : KeyCapture) (lastId : UInt64) : Option Int64 :=
  if keys = .none ∨ lastId = 0 then none
  else if lastId.toNat < 0x8000000000000000 then some (Int64.ofInt lastId.toNat) else none

/-- The number of affected rows, as far as it can be told. -/
def affectedRows (n : UInt64) : Int64 := Int64.ofInt (min (n.toNat : Int) 0x7fffffffffffffff)

namespace Prepared

/-- Gives a parameter a value. -/
def bind (slot : Nat) (value : Value) (s : Prepared τ) : Except Failure Unit × Prepared τ :=
  if 1 ≤ slot ∧ slot ≤ s.slots.length then (.ok (), { s with slots := s.slots.set (slot - 1) (some value) })
  else (.error (Fault.noParameter slot s.slots.length).failure, s)

/-- The values of some parameters, or the first one that has none; they are numbered from `slot` on. -/
def values (slot : Nat) : List (Option Value) → Except Failure (List Value)
  | []             => .ok []
  | none :: _      => .error (Fault.unbound slot).failure
  | some v :: rest => (values (slot + 1) rest).map (v :: ·)

/-- The values of all parameters. -/
def arguments (s : Prepared τ) : Except Failure (List Value) := values 1 s.slots

/-- Queues the values of all parameters. -/
def addBatch (s : Prepared τ) : Except Failure Unit × Prepared τ :=
  match s.arguments with
  | .ok vs   => (.ok (), { s with batch := s.batch ++ [vs] })
  | .error f => (.error f, s)

/-- Has the server run the statement with some values. -/
def run (s : Prepared τ) (vs : List Value) : Attempt (Pooled τ) Failure Response :=
  (s.session.run s.sql vs).reword Fault.failure

/-- Fetches rows up to the limit. A limit of none sends nothing, but the connection must be open. -/
def fetch (s : Prepared τ) (vs : List Value) : Attempt (Pooled τ) Failure (List (List Cell)) :=
  match s.limit with
  | some 0     => (Pooled.onLoan s.session.loan (pure [])).reword Fault.failure
  | some 1     => do return (← s.run vs).rows.head?.toList
  | some limit => do return (← s.run vs).rows.take limit
  | none       => do return (← s.run vs).rows

/-- Runs a query. -/
def executeQuery : Attempt (Prepared τ × Pooled τ) Failure ResultRows :=
  .of fun (s, p) =>
    match s.arguments with
    | .error f => (.error f, s, p)
    | .ok vs   => let (r, p') := (s.fetch vs).apply p; (r.map ResultRows.ofRows, s, p')

/-- Runs an update. -/
def executeUpdate : Attempt (Prepared τ × Pooled τ) Failure Int64 :=
  .of fun (s, p) =>
    match s.arguments with
    | .error f => (.error f, s, p)
    | .ok vs   =>
      match (s.run vs).apply p with
      | (.error f, p')  => (.error f, s, p')
      | (.ok reply, p') =>
        let (affected, lastId) := reply.effect
        (.ok (affectedRows affected), { s with generated := (insertedKey s.keys lastId).toList }, p')

/-- Runs queued entries in order, up to the first that fails: their numbers of affected rows and their
    ids. -/
def runEntries (s : Prepared τ) : List (List Value) → Attempt (Pooled τ) Failure (List (UInt64 × UInt64))
  | []      => return []
  | e :: es => do
    let reply ← s.run e
    return reply.effect :: (← runEntries s es)

/-- Runs the batch. The queue is empty afterwards, also when an entry fails. -/
def executeBatch : Attempt (Prepared τ × Pooled τ) Failure (List Int64) :=
  .of fun (s, p) =>
    match (s.runEntries s.batch).apply p with
    | (.error f, p')    => (.error f, { s with batch := [] }, p')
    | (.ok effects, p') =>
      let generated := effects.filterMap fun (_, lastId) => insertedKey s.keys lastId
      (.ok (effects.map fun (affected, _) => affectedRows affected),
        { s with batch := [], generated := generated }, p')

/-- Hands out the keys of the last update or batch that succeeded, unless they were handed out before. -/
def generatedKeys (s : Prepared τ) : Except Failure Rows × Prepared τ :=
  (.ok (Rows.ofKeys s.generated), { s with generated := [] })

/-- Forgets values, queue and keys. -/
def close (s : Prepared τ) : Except Failure Unit × Prepared τ :=
  (.ok (), { s with slots := s.slots.map fun _ => none, batch := [], generated := [] })

end Prepared

end NamedSql.MySql
