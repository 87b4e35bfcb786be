import NamedSql.Driver.Rows

/-!
# `NamedSql.Rehearsal.Script` — scripted databases

A script says in advance what a database answers and which of its calls fail.

## Contents
- `Point`: the kinds of call. `Fault`: when a call fails, and with which words.
- `Script`, `Script.fault?`.
-/

namespace NamedSql.Rehearsal

/-- The kinds of call that can be made to fail. -/
inductive Point where
  | connect | prepare | bind | addBatch | setMaxRows | executeQuery | executeUpdate | executeBatch
  | generatedKeys | next | get | closeCursor | closeStatement | closeConnection
deriving DecidableEq, Repr

/-- All kinds of call. -/
def Point.all : List Point :=
  [.connect, .prepare, .bind, .addBatch, .setMaxRows, .executeQuery, .executeUpdate, .executeBatch,
    .generatedKeys, .next, .get, .closeCursor, .closeStatement, .closeConnection]

/-- How a kind of call is written. -/
def Point.name : Point → String
  | .connect         => "connect"
  | .prepare         => "prepare"
  | .bind            => "bind"
  | .addBatch        => "add_batch"
  | .setMaxRows      => "set_max_rows"
  | .executeQuery    => "execute_query"
  | .executeUpdate   => "execute_update"
  | .executeBatch    => "execute_batch"
  | .generatedKeys   => "generated_keys"
  | .next            => "next"
  | .get             => "get"
  | .closeCursor     => "close_cursor"
  | .closeStatement  => "close_statement"
  | .closeConnection => "close_connection"

/-- A call that fails: one of a kind, or all of it. -/
structure Fault where
  point   : Point
  /-- Which call of its kind fails, counted from 1; without a number all do. -/
  nth     : Option Nat
  message : Option String

/-- The words of a fault. -/
def Fault.text (f : Fault) : String := f.message.getD ("scripted failure: " ++ f.point.name)

/-- What a scripted connector answers. -/
structure Script where
  /-- Tells connectors apart that have the same name. -/
  number      : Nat
  name        : String
  /-- What the journal calls the connector. -/
  tag         : String
  labels      : List String
  rows        : List (List Value)
  /-- The rows of generated keys. -/
  keys        : List (List Value)
  updateCount : Int64
  /-- The counts of a batch; without them every entry has the count of an update. -/
  batchCounts : Option (List Int64)
  /-- Whether statements ignore limits on their rows. -/
  uncapped    : Bool
  faults      : List Fault

/-- The first fault that fires on the `n`-th call of a kind. -/
def Script.fault? (s : Script) (p : Point) (n : Nat) : Option Fault :=
  s.faults.find? fun f => f.point == p && f.nth.all (· == n)

end NamedSql.Rehearsal
